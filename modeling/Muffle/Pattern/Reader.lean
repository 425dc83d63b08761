/-
  Muffle.Pattern.Reader

  Reading the text of a pattern. The text is a sequence of tokens, each a character or a
  backslash with the character after it. A repetition applies to the part just before it; a group
  is numbered by its opening parenthesis and can be referred to once it is closed. Flags that are
  not bound to a group may stand at the very start only and hold for the whole pattern.
-/

import Muffle.Pattern.Refusal
import Muffle.Pattern.Width
import Muffle.Text.CharName.Lookup
import Muffle.Text.Identifier
import Muffle.Text.Integer

namespace Muffle.Pattern

/-! ## Tokens -/

/-- Where a reader stands and what it has seen. The next token is empty at the end. -/
structure ReadState where
  total : Nat
  next : List Char
  rest : List Char
  flags : Flags
  /-- Names of groups with their numbers. -/
  names : List (String × Nat)
  /-- The widths of the groups opened so far, from the first on; none while a group is open. -/
  widths : List (Option Width)
  /-- The number of groups, itself included, when the outermost lookbehind was entered. -/
  lookbehind : Option Nat
  /-- Numbers of groups that conditions name, with the places where they are named. -/
  pending : List (Nat × Int)

/-- A reader of a part of a pattern. -/
abbrev Read := StateT ReadState (Except Refusal)

namespace Read

/-- The position of the next token. -/
def position : Read Int := do
  let s ← get
  return (s.total : Int) - s.rest.length - s.next.length

/-- Refuses the pattern, `back` characters before the next token. -/
def refuse {α : Type} (c : Complaint) (back : Int := 0) : Read α := do
  let p ← position
  throw (.malformed c (some (p - back)))

/-- Moves to the token after the next one. -/
def advance : Read Unit := do
  let s ← get
  match s.rest with
  | [] => set { s with next := [] }
  | ['\\'] => throw (.malformed .escapeAtEnd (some ((s.total : Int) - 1)))
  | '\\' :: c :: rest => set { s with next := ['\\', c], rest := rest }
  | c :: rest => set { s with next := [c], rest := rest }

/-- The next token. -/
def peek : Read (List Char) := return (← get).next

/-- The next token, moving behind it. -/
def take : Read (List Char) := do
  let t ← peek
  advance
  return t

/-- Moves behind the next token if it is this character. -/
def accept (c : Char) : Read Bool := do
  if (← peek) = [c] then
    advance
    return true
  else return false

/-- Up to `count` characters of a class. -/
def takeWhile (p : Char → Bool) : Nat → Read (List Char)
  | 0 => return []
  | count + 1 => do
    match ← peek with
    | [c] =>
      if p c then
        advance
        return c :: (← takeWhile p count)
      else return []
    | _ => return []

/-- A number of steps that no loop over the rest of the text exceeds. -/
def steps : Read Nat := return (← get).rest.length + 2

/-- The tokens up to a terminator, which is left behind; those read so far are in `acc`. -/
def untilChar (terminator : Char) (what : String) (acc : List Char) : Nat → Read (List Char)
  | 0 => refuse (.missingName what)
  | fuel + 1 => do
    let t ← take
    if t = [] then
      if acc.isEmpty then refuse (.missingName what)
      else refuse (.unterminatedName terminator) acc.length
    else if t = [terminator] then
      if acc.isEmpty then refuse (.missingName what) 1
      else return acc
    else untilChar terminator what (acc ++ t) fuel

/-- A name up to its terminator. -/
def name (terminator : Char) (what : String) : Read (List Char) := do
  untilChar terminator what [] (← steps)

/-- The number of groups opened so far, with the whole pattern as group zero. -/
def groupCount : Read Nat := return (← get).widths.length + 1

/-- Whether a group is closed. -/
def isClosed (group : Nat) : Read Bool := do
  return ((← get).widths[group - 1]?).any Option.isSome && 0 < group

/-- Refuses a reference inside a lookbehind to a group that is open or stands in it too. -/
def checkLookbehind (group : Nat) : Read Unit := do
  match (← get).lookbehind with
  | none => return
  | some outside =>
    if !(← isClosed group) then refuse .openGroup
    if outside ≤ group then refuse .lookbehindGroup

end Read

open Read

/-! ## Escapes -/

/-- An octal digit. -/
def isOctal (c : Char) : Bool := '0' ≤ c && c ≤ '7'

/-- A hexadecimal digit. -/
def isHex (c : Char) : Bool := (Text.hexValue? c).isSome

/-- The number that digits write in a base up to ten. -/
def digitsNumber (base : Nat) (ds : List Char) : Nat :=
  ds.foldl (fun n c => base * n + (c.toNat - '0'.toNat)) 0

/-- The code of a one-letter escape of a control character. -/
def controlEscape? : Char → Option Nat
  | 'a' => some 7
  | 'b' => some 8
  | 'f' => some 12
  | 'n' => some 10
  | 'r' => some 13
  | 't' => some 9
  | 'v' => some 11
  | '\\' => some 92
  | _ => none

/-- The class that an escape stands for, and whether it is the complement. -/
def categoryEscape? : Char → Option (Category × Bool)
  | 'd' => some (.digit, false)
  | 'D' => some (.digit, true)
  | 's' => some (.space, false)
  | 'S' => some (.space, true)
  | 'w' => some (.word, false)
  | 'W' => some (.word, true)
  | _ => none

/-- The place that an escape stands for. -/
def placeEscape? : Char → Option Place
  | 'A' => some .textStart
  | 'Z' => some .textStop
  | 'b' => some .wordEdge
  | 'B' => some .notWordEdge
  | _ => none

/-- The code of an escape with exactly `count` hexadecimal digits. -/
def hexEscape (letter : Char) (count : Nat) : Read Nat := do
  let ds ← takeWhile isHex count
  if ds.length ≠ count then
    let text := '\\' :: letter :: ds
    refuse (.incompleteEscape (String.ofList text)) text.length
  let n := Text.hexNumber ds
  if 0x10ffff < n then
    let text := '\\' :: letter :: ds
    refuse (.badEscape (String.ofList text)) text.length
  return n

/-- The code of an escape by a character's name. -/
def namedEscape : Read Nat := do
  if !(← accept '\x7b') then refuse .missingBrace
  let n ← name '\x7d' "character name"
  match Text.charNamed? n with
  | some code => return code
  | none => refuse (.undefinedCharacter (String.ofList n)) (n.length + 4)

/-- The code of an octal escape. -/
def octalCode (text ds : List Char) : Read Nat := do
  let n := digitsNumber 8 ds
  if 255 < n then refuse (.octalTooLarge (String.ofList text)) text.length
  return n

/-- An escape that stands for one character, inside a set or outside: by number or by name, or a
    sign that is no letter. -/
def characterEscape (c : Char) : Read Nat :=
  if c = 'x' then hexEscape c 2
  else if c = 'u' then hexEscape c 4
  else if c = 'U' then hexEscape c 8
  else if c = 'N' then namedEscape
  else if c.isAlphanum then refuse (.badEscape (String.ofList ['\\', c])) 2
  else return c.toNat

/-- An escape inside a set. -/
def setEscape (c : Char) : Read SetItem := do
  match controlEscape? c, categoryEscape? c with
  | some n, _ => return .one n
  | none, some (category, complement) => return .category category complement
  | none, none =>
    if isOctal c then
      let ds := c :: (← takeWhile isOctal 2)
      return .one (← octalCode ('\\' :: ds) ds)
    else return .one (← characterEscape c)

/-- A reference to a group by the digits of its number. -/
def numberedReference (ds : List Char) : Read Node := do
  let g := digitsNumber 10 ds
  let length : Int := ds.length + 1
  if g < (← groupCount) then
    if !(← isClosed g) then refuse .openGroup length
    checkLookbehind g
    return .reference g
  else refuse (.noSuchGroup g) (length - 1)

/-- An escape of a digit other than zero: three octal digits are a character, all else is the
    number of a group, of two digits at most. -/
def digitEscape (c : Char) : Read Node := do
  match ← peek with
  | [d] =>
    if d.isDigit then
      advance
      match ← peek with
      | [e] =>
        if isOctal c && isOctal d && isOctal e then
          advance
          return .literal (← octalCode ['\\', c, d, e] [c, d, e])
        else numberedReference [c, d]
      | _ => numberedReference [c, d]
    else numberedReference [c]
  | _ => numberedReference [c]

/-- An escape outside a set. -/
def escape (c : Char) : Read Node := do
  match placeEscape? c, categoryEscape? c, controlEscape? c with
  | some place, _, _ => return .at place
  | none, some (category, complement), _ => return .set false [.category category complement]
  | none, none, some n => return .literal n
  | none, none, none =>
    if c = '0' then
      let ds := c :: (← takeWhile isOctal 2)
      return .literal (digitsNumber 8 ds)
    else if c.isDigit then digitEscape c
    else return .literal (← characterEscape c)

/-! ## Sets -/

/-- The member that a token of a set stands for. -/
def setItem (token : List Char) : Read SetItem :=
  match token with
  | ['\\', c] => setEscape c
  | c :: _ => return .one c.toNat
  | [] => refuse .unterminatedSet

/-- The members of a set up to its closing bracket; those read so far are in `acc`, last first.
    A closing bracket in first place is a member. `here` is the position of the opening one. -/
def setItems (here : Int) (acc : List SetItem) : Nat → Read (List SetItem)
  | 0 => refuse .unterminatedSet
  | fuel + 1 => do
    let this ← take
    if this = [] then refuse .unterminatedSet ((← position) - here)
    if this = [']'] && !acc.isEmpty then return acc.reverse
    let first ← setItem this
    if ← accept '-' then
      let that ← take
      if that = [] then refuse .unterminatedSet ((← position) - here)
      if that = [']'] then return (SetItem.one '-'.toNat :: first :: acc).reverse
      let last ← setItem that
      let complaint := Complaint.badRange (String.ofList this) (String.ofList that)
      let back : Int := this.length + 1 + that.length
      match first, last with
      | .one a, .one b =>
        if b < a then refuse complaint back
        setItems here (.range a b :: acc) fuel
      | _, _ => refuse complaint back
    else setItems here (first :: acc) fuel

/-- Items without those that stand before. -/
def distinct (items : List SetItem) : List SetItem :=
  items.foldl (fun acc i => if acc.contains i then acc else acc ++ [i]) []

/-- A set after its opening bracket. A set of a single character is that character. -/
def setNode : Read Node := do
  let here := (← position) - 1
  let complement ← accept '^'
  let items := distinct (← setItems here [] (← steps))
  match complement, items with
  | false, [.one c] => return .literal c
  | true, [.one c] => return .notLiteral c
  | _, _ => return .set complement items

/-! ## Repetitions -/

/-- Repetition counts have to stay below this one. -/
def countLimit : Nat := 4294967295

/-- A repetition count. -/
def count (ds : List Char) : Read Nat := do
  if Text.digitLimit < ds.length then throw (.tooManyDigits ds.length)
  let n := digitsNumber 10 ds
  if countLimit ≤ n then throw .repetitionTooLarge
  return n

/-- Counts in braces, after the opening one; none if what follows is no repetition, and then
    the reader stands behind the brace again. -/
def braces : Read (Option (Nat × Option Nat)) := do
  let start ← get
  if (← peek) = ['\x7d'] then return none
  let here ← position
  let low ← takeWhile Char.isDigit (← steps)
  let high ← if ← accept ',' then takeWhile Char.isDigit (← steps) else pure low
  if !(← accept '\x7d') then
    set start
    return none
  let least ← if low.isEmpty then pure 0 else count low
  if high.isEmpty then return some (least, none)
  let most ← count high
  if most < least then refuse .leastAboveMost ((← position) - here)
  return some (least, some most)

/-- The counts of a repetition sign; none if it is no repetition. -/
def counts (sign : Char) : Read (Option (Nat × Option Nat)) :=
  match sign with
  | '?' => return some (0, some 1)
  | '*' => return some (0, none)
  | '+' => return some (1, none)
  | _ => braces

/-- The parts that a repetition of `n` repeats: a group without number and flags is its parts. -/
def repeated : Node → List Node
  | .group none add remove body =>
    if add = {} ∧ remove = {} then body else [.group none add remove body]
  | n => [n]

/-- The sign after a repetition that tells how it is taken. -/
def greed : Read Greed := do
  if ← accept '?' then return .lazy
  if ← accept '+' then return .possessive
  return .greedy

/-- Repeats the last part read. `here` is the position behind the sign. -/
def repetition (acc : List Node) (here : Int) (least : Nat) (most : Option Nat) :
    Read (List Node) := do
  let back : Int := (← position) - here + 1
  match acc with
  | [] => refuse .nothingToRepeat back
  | .at _ :: _ => refuse .nothingToRepeat back
  | .repetition .. :: _ => refuse .multipleRepeat back
  | item :: rest =>
    return .repetition (← greed) least most (repeated item) :: rest

/-! ## Flags -/

/-- The flag of a letter. -/
def flag? : Char → Option Flags
  | 'i' => some { ignoreCase := true }
  | 'm' => some { multiLine := true }
  | 's' => some { dotAll := true }
  | 'x' => some { verbose := true }
  | 'a' => some { ascii := true }
  | 'u' => some { unicode := true }
  | 't' => some { template := true }
  | _ => none

/-- Whether a token starts flags: a letter of a flag, or the one that only byte patterns have. -/
def isFlagLetter (c : Char) : Bool := c == 'L' || (flag? c).isSome

/-- Refuses a token among flags: a letter is an unknown flag, all else is something missing. -/
def refuseFlag {α : Type} (token : List Char) (missing : Complaint) : Read α :=
  match token with
  | [c] => refuse (if Text.isAlphabetic c then .unknownFlag else missing) 1
  | t => refuse missing t.length

/-- The flags to add, from the letter `c` on, and the token that ends them. -/
def addedFlags (c : Char) (acc : Flags) : Nat → Read (Flags × Char)
  | 0 => refuse .missingFlagEnd
  | fuel + 1 => do
    match flag? c with
    | none => refuse .localeFlag
    | some f =>
      let acc := acc.union f
      if f.meets .alphabet && acc.ascii && acc.unicode then refuse .exclusiveFlags
      match ← take with
      | [] => refuse .missingFlagEnd
      | [d] =>
        if d = ')' || d = '-' || d = ':' then return (acc, d)
        else if isFlagLetter d then addedFlags d acc fuel
        else refuseFlag [d] .missingFlagEnd
      | t => refuseFlag t .missingFlagEnd

/-- The flags to remove, from the letter `c` on, up to the colon. -/
def removedFlags (c : Char) (acc : Flags) : Nat → Read Flags
  | 0 => refuse .missingColon
  | fuel + 1 => do
    match flag? c with
    | none => refuse .alphabetFlagOff
    | some f =>
      if f.meets .alphabet then refuse .alphabetFlagOff
      let acc := acc.union f
      match ← take with
      | [] => refuse .missingColon
      | [d] =>
        if d = ':' then return acc
        else if isFlagLetter d then removedFlags d acc fuel
        else refuseFlag [d] .missingColon
      | t => refuseFlag t .missingColon

/-- The flags of a group, from their first letter or the minus sign on: what it adds and removes.
    None if they end with the parenthesis and so hold for the whole pattern. -/
def groupFlags (c : Char) : Read (Option (Flags × Flags)) := do
  let (add, ending) ← if c = '-' then pure ({}, '-') else addedFlags c {} (← steps)
  if ending = ')' then
    modify fun s => { s with flags := s.flags.union add }
    return none
  if add.template then refuse .globalFlagOn 1
  let remove ←
    if ending = '-' then
      match ← take with
      | [] => refuse .missingFlag
      | [d] => if isFlagLetter d then removedFlags d {} (← steps) else refuseFlag [d] .missingFlag
      | t => refuseFlag t .missingFlag
    else pure {}
  if remove.template then refuse .globalFlagOff 1
  if add.meets remove then refuse .flagOnAndOff 1
  return some (add, remove)

/-! ## Groups -/

/-- Checks that a name is an identifier. -/
def checkName (n : List Char) : Read Unit := do
  if !Text.isIdentifier n then refuse (.badGroupName (String.ofList n)) (n.length + 1)

/-- The number of a group that was named before. -/
def groupNamed (n : List Char) : Read Nat := do
  match (← get).names.lookup (String.ofList n) with
  | some g => return g
  | none => refuse (.unknownGroupName (String.ofList n)) (n.length + 1)

/-- Opens the next group, with a name if it has one. -/
def openGroup (name : Option (List Char)) : Read Nat := do
  let g ← groupCount
  modify fun s => { s with widths := s.widths ++ [none] }
  match name with
  | none => return g
  | some n =>
    let key := String.ofList n
    match (← get).names.lookup key with
    | some earlier => refuse (.redefinedGroup key g earlier) (n.length + 1)
    | none =>
      modify fun s => { s with names := (key, g) :: s.names }
      return g

/-- The width of a closed group. -/
def groupWidth (widths : List (Option Width)) (group : Nat) : Width :=
  ((widths[group - 1]?).bind id).getD .zero

/-- Closes a group. -/
def closeGroup (group : Nat) (body : List Node) : Read Unit :=
  modify fun s =>
    { s with
      widths := s.widths.set (group - 1) (some (sequenceWidth (groupWidth s.widths) body).cut) }

/-- The number that the text of a condition writes, if it is not too long to be read. -/
def conditionNumber? (n : List Char) : Option Int :=
  if Text.digitLimit < (n.filter fun c => (Text.decimalValue? c).isSome).length then none
  else Text.readInteger? n

/-- The group that a condition names or counts. -/
def conditionGroup : Read Nat := do
  let n ← name ')' "group name"
  let g ←
    if Text.isIdentifier n then groupNamed n
    else
      match conditionNumber? n with
      | none => refuse (.badGroupName (String.ofList n)) (n.length + 1)
      | some i =>
        if i < 0 then refuse (.badGroupName (String.ofList n)) (n.length + 1)
        if i = 0 then refuse .badGroupNumber (n.length + 1)
        if 1073741823 ≤ i then refuse (.noSuchGroup i.toNat) (n.length + 1)
        let place := (← position) - n.length - 1
        modify fun s =>
          if s.pending.any (·.1 = i.toNat) then s
          else { s with pending := s.pending ++ [(i.toNat, place)] }
        pure i.toNat
  checkLookbehind g
  return g

/-- Skips a comment up to its parenthesis. `start` is the position of the group. -/
def skipComment (start : Int) : Nat → Read Unit
  | 0 => refuse .unterminatedComment
  | fuel + 1 => do
    if (← peek) = [] then refuse .unterminatedComment ((← position) - start)
    if (← take) = [')'] then return
    skipComment start fuel

/-- Skips a comment up to the end of its line. -/
def skipLine : Nat → Read Unit
  | 0 => return
  | fuel + 1 => do
    let t ← take
    if t = [] ∨ t = ['\n'] then return
    skipLine fuel

/-- Parts with the contents of groups without number and flags in place of the groups. -/
def unwrap (nodes : List Node) : List Node :=
  nodes.flatMap repeated

/-- The members of a set that could replace an alternative. -/
def setOf? : List Node → Option (List SetItem)
  | [.literal c] => some [.one c]
  | [.set false items] => some items
  | _ => none

/-- The parts for alternatives: alternatives of one character each are a set. -/
def alternatives (items : List (List Node)) : List Node :=
  match items with
  | [one] => one
  | items =>
    match items.mapM setOf? with
    | some sets => [.set false (distinct sets.flatten)]
    | none => [.branch items]

/-- The closing parenthesis of a group that starts at `start`. -/
def closing (start : Int) : Read Unit := do
  if !(← accept ')') then refuse .unterminatedGroup ((← position) - start)

mutual

/-- Alternatives up to a closing parenthesis or the end. -/
def readAlternatives : Nat → (verbose top first : Bool) → List (List Node) → Read (List Node)
  | 0, _, _, _, _ => refuse .unterminatedGroup
  | fuel + 1, verbose, top, first, acc => do
    let item ← readSequence fuel verbose (top && first) []
    if ← accept '|' then
      let s ← get
      let verbose := if top then s.flags.verbose else verbose
      readAlternatives fuel verbose top false (item :: acc)
    else return alternatives (item :: acc).reverse

/-- One part after the other up to a bar, a closing parenthesis or the end; those read so far
    are in `acc`, last first. Flags for the whole pattern may stand here if `first` holds. -/
def readSequence : Nat → (verbose first : Bool) → List Node → Read (List Node)
  | 0, _, _, _ => refuse .unterminatedGroup
  | fuel + 1, verbose, first, acc => do
    let this ← peek
    if this = [] ∨ this = ['|'] ∨ this = [')'] then return unwrap acc.reverse
    advance
    match this with
    | ['\\', c] =>
      let node ← escape c
      readSequence fuel verbose first (node :: acc)
    | ['('] =>
      let start := (← position) - 1
      if ← accept '?' then readExtension fuel verbose first acc start
      else
        let g ← openGroup none
        let body ← readAlternatives fuel verbose false false []
        closing start
        closeGroup g body
        readSequence fuel verbose first (.group (some g) {} {} body :: acc)
    | [c] =>
      if verbose && Text.isAsciiBlank c then readSequence fuel verbose first acc
      else if verbose && c = '#' then
        skipLine (← steps)
        readSequence fuel verbose first acc
      else if c = '[' then
        let node ← setNode
        readSequence fuel verbose first (node :: acc)
      else if c = '.' then readSequence fuel verbose first (.any :: acc)
      else if c = '^' then readSequence fuel verbose first (.at .start :: acc)
      else if c = '$' then readSequence fuel verbose first (.at .stop :: acc)
      else if c = '*' ∨ c = '+' ∨ c = '?' ∨ c = '\x7b' then
        let here ← position
        match ← counts c with
        | none => readSequence fuel verbose first (.literal c.toNat :: acc)
        | some (least, most) =>
          let acc ← repetition acc here least most
          readSequence fuel verbose first acc
      else readSequence fuel verbose first (.literal c.toNat :: acc)
    | _ => readSequence fuel verbose first acc

/-- A group that goes on after `(?`, and what follows it. `start` is the position of the group. -/
def readExtension : Nat → (verbose first : Bool) → List Node → Int → Read (List Node)
  | 0, _, _, _, _ => refuse .unterminatedGroup
  | fuel + 1, verbose, first, acc, start => do
    match ← take with
    | [] => refuse .unexpectedEnd
    | ['P'] =>
      if ← accept '<' then
        let n ← name '>' "group name"
        checkName n
        let g ← openGroup (some n)
        let body ← readAlternatives fuel verbose false false []
        closing start
        closeGroup g body
        readSequence fuel verbose first (.group (some g) {} {} body :: acc)
      else
        if ← accept '=' then
          let n ← name ')' "group name"
          checkName n
          let g ← groupNamed n
          if !(← isClosed g) then refuse .openGroup (n.length + 1)
          checkLookbehind g
          readSequence fuel verbose first (.reference g :: acc)
        else
          let t ← take
          if t = [] then refuse .unexpectedEnd
          refuse (.unknownExtension (String.ofList ('P' :: t))) (t.length + 2)
    | [':'] =>
      let body ← readAlternatives fuel verbose false false []
      closing start
      readSequence fuel verbose first (.group none {} {} body :: acc)
    | ['>'] =>
      let body ← readAlternatives fuel verbose false false []
      closing start
      readSequence fuel verbose first (.atomic body :: acc)
    | ['#'] =>
      skipComment start (← steps)
      readSequence fuel verbose first acc
    | ['='] =>
      let body ← readAlternatives fuel verbose false false []
      closing start
      readSequence fuel verbose first (.look false false body :: acc)
    | ['!'] =>
      let body ← readAlternatives fuel verbose false false []
      closing start
      readSequence fuel verbose first (.look false true body :: acc)
    | ['<'] =>
      let t ← take
      if t = [] then refuse .unexpectedEnd
      if t ≠ ['='] ∧ t ≠ ['!'] then
        refuse (.unknownExtension (String.ofList ('<' :: t))) (t.length + 2)
      let outer := (← get).lookbehind
      let here ← groupCount
      modify fun s => { s with lookbehind := s.lookbehind.or (some here) }
      let body ← readAlternatives fuel verbose false false []
      modify fun s => { s with lookbehind := outer }
      closing start
      readSequence fuel verbose first (.look true (t = ['!']) body :: acc)
    | ['('] =>
      let g ← conditionGroup
      let yes ← readSequence fuel verbose false []
      let no ←
        if ← accept '|' then
          let no ← readSequence fuel verbose false []
          if (← peek) = ['|'] then refuse .tooManyBranches
          pure no
        else pure []
      closing start
      readSequence fuel verbose first (.conditional g yes no :: acc)
    | [c] =>
      if isFlagLetter c || c = '-' then
        match ← groupFlags c with
        | none => do
          if !first || !acc.isEmpty then refuse .misplacedFlags ((← position) - start)
          let verbose := (← get).flags.verbose
          readSequence fuel verbose first acc
        | some (add, remove) =>
          let inner := (verbose || add.verbose) && !remove.verbose
          let body ← readAlternatives fuel inner false false []
          closing start
          readSequence fuel verbose first (.group none add remove body :: acc)
      else refuse (.unknownExtension (String.ofList [c])) 2
    | t => refuse (.unknownExtension (String.ofList t)) (t.length + 1)

end

/-! ## Whole patterns -/

/-- A pattern as it was read: its parts, the flags for the whole of it and its groups' widths. -/
structure Reading where
  nodes : List Node
  flags : Flags
  widths : List (Option Width)

/-- The flags of a whole pattern: texts are taken as Unicode unless it says ASCII. -/
def finalFlags (f : Flags) : Except Refusal Flags :=
  if !f.ascii then .ok { f with unicode := true }
  else if f.unicode then .error .conflictingFlags
  else .ok f

/-- Reads a pattern to its end. -/
def readPattern (fuel : Nat) : Read Reading := do
  advance
  let nodes ← readAlternatives fuel false true true []
  let s ← get
  let flags ← finalFlags s.flags
  if (← peek) ≠ [] then refuse .unbalancedParenthesis
  match s.pending.find? (fun p => s.widths.length < p.1) with
  | some (g, place) => throw (.malformed (.noSuchGroup g) (some place))
  | none => return { nodes := nodes, flags := flags, widths := s.widths }

/-- Reads the text of a pattern. -/
def read (cs : List Char) : Except Refusal Reading :=
  let start : ReadState :=
    { total := cs.length, next := [], rest := cs, flags := {}, names := [], widths := []
      lookbehind := none, pending := [] }
  (·.1) <$> (readPattern (2 * cs.length + 4)).run start

end Muffle.Pattern
