/-
  Muffle.Text.Case

  Upper, lower and title case of characters and texts, with the full Unicode maps: a character
  may become several, and a capital sigma at the end of a word becomes the final small one.
  Title case starts a word wherever a cased character follows one that is not cased.
-/

import Muffle.Text.CaseTable

namespace Muffle.Text

/-! ## Classes -/

/-- An upper case character. -/
def isUpper (c : Char) : Bool :=
  if c.toNat < 128 then c.isUpper else upperTable.contains c

/-- A lower case character. -/
def isLower (c : Char) : Bool :=
  if c.toNat < 128 then c.isLower else lowerTable.contains c

/-- A character that has a case. -/
def isCased (c : Char) : Bool :=
  isUpper c || isLower c || titleTable.contains c

/-- A character that does not end a word. -/
def isCaseIgnorable (c : Char) : Bool :=
  caseIgnorableTable.contains c

/-! ## Single characters -/

/-- The small dotted i that a capital dotted I becomes, with its dot as a mark of its own. -/
def dottedI : List Char := ['i', '\u0307']

/-- The lower case of a character out of its context. -/
def lowerChars (c : Char) : List Char :=
  if c.toNat < 128 then [c.toLower]
  else if c = '\u0130' then dottedI
  else [(lowerRuns.image? c).getD c]

/-- The upper case of a character. -/
def upperChars (c : Char) : List Char :=
  if c.toNat < 128 then [c.toUpper]
  else match upperExpansions.images? c with
    | some cs => cs
    | none => [(upperRuns.image? c).getD c]

/-- The title case of a character: its upper case, unless the title case tables name another. -/
def titleChars (c : Char) : List Char :=
  if c.toNat < 128 then [c.toUpper]
  else match titleExpansions.images? c with
    | some cs => cs
    | none => match titleRuns.image? c with
      | some d => [d]
      | none => upperChars c

/-- The first character of the lower case. -/
def lowerFirst (c : Char) : Char :=
  (lowerChars c).headD c

/-- The first character of the upper case. -/
def upperFirst (c : Char) : Char :=
  (upperChars c).headD c

/-! ## Texts -/

/-- Whether the next character that can end a word, if there is one, is cased. -/
def casedNext (cs : List Char) : Bool :=
  match cs.dropWhile isCaseIgnorable with
  | [] => false
  | c :: _ => isCased c

/-- The lower case of `c` between the reversed text `before` and the text `after`. A capital
    sigma is final when a cased character comes before it and none after it. -/
def lowerWithin (before : List Char) (c : Char) (after : List Char) : List Char :=
  if c = 'Σ' then
    if casedNext before && !casedNext after then ['ς'] else ['σ']
  else lowerChars c

/-- The lower case of a text, given the reversed text before it. -/
def lowerFrom (before : List Char) : List Char → List Char
  | [] => []
  | c :: rest => lowerWithin before c rest ++ lowerFrom (c :: before) rest

/-- The lower case of a text. -/
def lower (cs : List Char) : List Char :=
  lowerFrom [] cs

/-- The upper case of a text. -/
def upper (cs : List Char) : List Char :=
  cs.flatMap upperChars

/-- The title case of a text, given the reversed text before it. -/
def titleFrom (before : List Char) : List Char → List Char
  | [] => []
  | c :: rest =>
    let first := match before with
      | [] => true
      | p :: _ => !isCased p
    (if first then titleChars c else lowerWithin before c rest) ++ titleFrom (c :: before) rest

/-- The title case of a text: each word starts in title case and goes on in lower case. -/
def title (cs : List Char) : List Char :=
  titleFrom [] cs

end Muffle.Text
