/-
  Muffle.Yaml.Timestamp

  Days and moments in time, in the forms that YAML knows. They are values of other kinds, known
  by their two texts.
-/

import Muffle.Value
import Muffle.Yaml.Text

namespace Muffle.Yaml

/-- A time zone: none, the universal one, or an offset in minutes. -/
inductive Zone where
  | absent
  | universal
  | offset (negative : Bool) (hours minutes : Nat)
deriving DecidableEq, Repr

/-- A time of day; the fraction is in millionths of a second. -/
structure ClockTime where
  hour : Nat
  minute : Nat
  second : Nat
  fraction : Nat
  zone : Zone
deriving DecidableEq, Repr

/-- A day, and perhaps a time on it. -/
structure Timestamp where
  year : Nat
  month : Nat
  day : Nat
  time : Option ClockTime
deriving DecidableEq, Repr

namespace Timestamp

/-! ## Reading -/

/-- The number that digits write. -/
def number (ds : List Char) : Nat :=
  ds.foldl (fun n c => 10 * n + (c.toNat - '0'.toNat)) 0

/-- Takes `least` to `most` digits, as many as there are. -/
def digits? (least most : Nat) (cs : List Char) : Option (Nat × List Char) :=
  let ds := (cs.take most).takeWhile Char.isDigit
  if least ≤ ds.length then some (number ds, cs.drop ds.length) else none

/-- Takes one given character. -/
def mark? (c : Char) : List Char → Option (List Char)
  | d :: rest => if c = d then some rest else none
  | [] => none

/-- The fraction of a second, cut after six digits. -/
def fractionValue (ds : List Char) : Nat :=
  number ((ds ++ List.replicate 6 '0').take 6)

/-- Reads a time zone to the end of the text. -/
def zone? (cs : List Char) : Option Zone :=
  match cs.dropWhile isGap with
  | [] => if cs.isEmpty then some .absent else none
  | ['Z'] => some .universal
  | sign :: rest =>
    if sign = '-' ∨ sign = '+' then
      match digits? 1 2 rest with
      | some (h, []) => some (.offset (sign == '-') h 0)
      | some (h, ':' :: rest) =>
        match digits? 2 2 rest with
        | some (m, []) => some (.offset (sign == '-') h m)
        | _ => none
      | _ => none
    else none

/-- Reads a time of day to the end of the text. -/
def clock? (cs : List Char) : Option ClockTime := do
  let (hour, rest) ← digits? 1 2 cs
  let (minute, rest) ← digits? 2 2 (← mark? ':' rest)
  let (second, rest) ← digits? 2 2 (← mark? ':' rest)
  let (fraction, rest) := match rest with
    | '.' :: rest => (fractionValue (rest.takeWhile Char.isDigit), rest.dropWhile Char.isDigit)
    | rest => (0, rest)
  return ⟨hour, minute, second, fraction, ← zone? rest⟩

/-- The rest after what separates a day from a time. -/
def afterDay? : List Char → Option (List Char)
  | 'T' :: rest => some rest
  | 't' :: rest => some rest
  | c :: rest => if isGap c then some (rest.dropWhile isGap) else none
  | [] => none

/-- Reads a timestamp. A day alone has two digits for month and day; before a time one is
    enough. -/
def read? (cs : List Char) : Option Timestamp := do
  let (year, rest) ← digits? 4 4 cs
  let rest ← mark? '-' rest
  let alone : Option Timestamp := do
    let (month, rest) ← digits? 2 2 rest
    let (day, rest) ← digits? 2 2 (← mark? '-' rest)
    if rest.isEmpty then some ⟨year, month, day, none⟩ else none
  let timed : Option Timestamp := do
    let (month, rest) ← digits? 1 2 rest
    let (day, rest) ← digits? 1 2 (← mark? '-' rest)
    some ⟨year, month, day, ← clock? (← afterDay? rest)⟩
  alone <|> timed

/-! ## The calendar -/

/-- Whether a year has 366 days. -/
def isLeap (year : Nat) : Bool := year % 4 == 0 && (year % 100 != 0 || year % 400 == 0)

/-- How many days a month has. -/
def daysIn (year month : Nat) : Nat :=
  if month = 2 then (if isLeap year then 29 else 28)
  else if month = 4 ∨ month = 6 ∨ month = 9 ∨ month = 11 then 30
  else 31

/-- What is wrong with a time of day, if anything. -/
def clockComplaint? (t : ClockTime) : Option String :=
  if 23 < t.hour then some "hour must be in 0..23"
  else if 59 < t.minute then some "minute must be in 0..59"
  else if 59 < t.second then some "second must be in 0..59"
  else none

/-- The offset of a zone in minutes. -/
def zoneMinutes : Zone → Int
  | .offset true h m => -(60 * h + m : Nat)
  | .offset false h m => (60 * h + m : Nat)
  | _ => 0

/-- An offset as a span of time: whole days, and the seconds that are left. -/
def spanText (minutes : Int) : String :=
  let days := Int.fdiv minutes 1440
  let seconds := Int.fmod minutes 1440 * 60
  let parts :=
    (if days = 0 then [] else ["days=" ++ toString days]) ++
      (if seconds = 0 then [] else ["seconds=" ++ toString seconds])
  "datetime.timedelta(" ++ (if parts = [] then "0" else ", ".intercalate parts) ++ ")"

/-- What is wrong with a zone, if anything. -/
def zoneComplaint? (z : Zone) : Option String :=
  if (zoneMinutes z).natAbs < 1440 then none
  else
    some ("offset must be a timedelta strictly between -timedelta(hours=24) and " ++
      "timedelta(hours=24), not " ++ spanText (zoneMinutes z))

/-- What is wrong with a timestamp, if anything. -/
def complaint? (t : Timestamp) : Option String :=
  ((t.time.bind fun c => zoneComplaint? c.zone).orElse fun _ =>
    if t.year = 0 then some "year 0 is out of range"
    else if t.month = 0 ∨ 12 < t.month then some "month must be in 1..12"
    else if t.day = 0 ∨ daysIn t.year t.month < t.day then some "day is out of range for month"
    else t.time.bind clockComplaint?)

/-! ## Text -/

/-- A number with zeros in front, in at least `width` digits. -/
def padded (width n : Nat) : String :=
  let ds := Nat.toDigits 10 n
  String.ofList (List.replicate (width - ds.length) '0' ++ ds)

/-- A zone after a time. -/
def zoneText (z : Zone) : String :=
  let offset (negative : Bool) (minutes : Nat) : String :=
    (if negative then "-" else "+") ++ padded 2 (minutes / 60) ++ ":" ++ padded 2 (minutes % 60)
  match z with
  | .absent => ""
  | z => offset (zoneMinutes z < 0) (zoneMinutes z).natAbs

/-- A time of day. -/
def clockText (t : ClockTime) : String :=
  padded 2 t.hour ++ ":" ++ padded 2 t.minute ++ ":" ++ padded 2 t.second ++
    (if t.fraction = 0 then "" else "." ++ padded 6 t.fraction) ++ zoneText t.zone

/-- A timestamp by itself. -/
def text (t : Timestamp) : String :=
  padded 4 t.year ++ "-" ++ padded 2 t.month ++ "-" ++ padded 2 t.day ++
    (match t.time with
     | none => ""
     | some c => " " ++ clockText c)

/-- The parts of a time of day inside parentheses: seconds and fraction only if they are not
    zero, and the zone. -/
def clockParts (t : ClockTime) : List String :=
  [toString t.hour, toString t.minute] ++
    (if t.second = 0 ∧ t.fraction = 0 then [] else [toString t.second]) ++
    (if t.fraction = 0 then [] else [toString t.fraction]) ++
    (match t.zone with
     | .absent => []
     | .universal => ["tzinfo=datetime.timezone.utc"]
     | z =>
       if zoneMinutes z = 0 then ["tzinfo=datetime.timezone.utc"]
       else ["tzinfo=datetime.timezone(" ++ spanText (zoneMinutes z) ++ ")"])

/-- A timestamp inside another value. -/
def quoted (t : Timestamp) : String :=
  let day := [toString t.year, toString t.month, toString t.day]
  match t.time with
  | none => "datetime.date(" ++ ", ".intercalate day ++ ")"
  | some c => "datetime.datetime(" ++ ", ".intercalate (day ++ clockParts c) ++ ")"

/-- The value that a timestamp is. -/
def toValue (t : Timestamp) : Value :=
  .leaf (if t.time.isSome then "datetime.datetime" else "datetime.date") t.text t.quoted

end Timestamp

end Muffle.Yaml
