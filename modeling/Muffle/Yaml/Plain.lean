/-
  Muffle.Yaml.Plain

  Plain scalars: text without quotes, over one line or several. A colon ends it if a word ends
  after the colon, a comment ends it if a space comes before; inside brackets so do the
  characters of the brackets. Lines are joined by a space, blank lines between them stay as line
  feeds.
-/

import Muffle.Yaml.Text

namespace Muffle.Yaml

/-- A character that means brackets or what stands between entries in them. -/
def isBracket (c : Char) : Bool := [',', '[', ']', '\x7b', '\x7d'].contains c

/-- Whether a colon before this text stands between a key and its value. -/
def endsKey (inFlow : Bool) (rest : List Char) : Bool :=
  endsWord rest || (inFlow && (rest.head?.any isBracket))

/-- Whether a plain scalar ends at a character before this text. -/
def stopsPlain (inFlow : Bool) (c : Char) (rest : List Char) : Bool :=
  c == '\t' || (c == ':' && endsKey inFlow rest) || (inFlow && (isBracket c || c == '?'))

/-- Whether a plain scalar starts where this text begins. -/
def startsPlain (inFlow : Bool) : List Char → Bool
  | [] => false
  | c :: rest =>
    if isGap c || isBreak c then false
    else if "-?:,[]\x7b\x7d#&*!|>'\"%@\x60".toList.contains c then
      !endsWord rest && (c == '-' || (!inFlow && (c == '?' || c == ':')))
    else true

/-- Where the reader of a plain scalar is: in a word, after spaces, or after line breaks and as
    many spaces as `column` says. -/
inductive PlainMode where
  | word
  | spaces (count : Nat)
  | lines (first : Char) (more : List Char) (column : Nat)

/-- What stands between the last word and the next one. -/
def PlainMode.glue : PlainMode → List Char
  | .word => []
  | .spaces n => List.replicate n ' '
  | .lines first more _ => foldBreaks first more

/-- Whether the scalar ends at a character that is neither a space nor a line break. -/
def PlainMode.stops (mode : PlainMode) (inFlow : Bool) (indent : Nat) (c : Char)
    (rest : List Char) : Bool :=
  match mode with
  | .word => stopsPlain inFlow c rest
  | .spaces _ => c == '#' || stopsPlain inFlow c rest
  | .lines _ _ column =>
    c == '#' || stopsPlain inFlow c rest || (!inFlow && column < indent) ||
      (column == 0 && atSeparator (c :: rest))

/-- The place after a space. -/
def PlainMode.afterSpace : PlainMode → PlainMode
  | .word => .spaces 1
  | .spaces n => .spaces (n + 1)
  | .lines first more column => .lines first more (column + 1)

/-- The place after a line break. -/
def PlainMode.afterBreak (mode : PlainMode) (c : Char) : PlainMode :=
  match mode with
  | .lines first more _ => .lines first (more ++ [breakMeaning c]) 0
  | _ => .lines (breakMeaning c) [] 0

/-- Reads on; `acc` is the text so far in reverse, `left` the rest after the last word. -/
def plainFrom (inFlow : Bool) (indent : Nat) (mode : PlainMode) (acc left : List Char) :
    List Char → List Char × List Char
  | [] => (acc.reverse, left)
  | c :: rest =>
    if c = ' ' then plainFrom inFlow indent mode.afterSpace acc left rest
    else if isBreak c then plainFrom inFlow indent (mode.afterBreak c) acc left rest
    else if mode.stops inFlow indent c rest then (acc.reverse, left)
    else plainFrom inFlow indent .word (c :: (mode.glue.reverse ++ acc)) rest rest

/-- Reads a plain scalar whose further lines are indented by at least `indent`; gives its text
    and the rest. -/
def readPlain (inFlow : Bool) (indent : Nat) (cs : List Char) : List Char × List Char :=
  plainFrom inFlow indent .word [] cs cs

end Muffle.Yaml
