/-
  Muffle.Text.KeyCase

  The two spellings of a key: words joined by underscores in snake case, words that start with a
  capital in camel case. Both spellings name the same key.
-/

import Muffle.Text.Case

namespace Muffle.Text

/-- The camel case of a key: the first word as it is, each later word in title case. -/
def camelCase (cs : List Char) : List Char :=
  match splitAtChar '_' cs with
  | [] => []
  | word :: words => word ++ words.flatMap title

/-- A character of a camel case key after the first: a capital starts a new word. -/
def snakeChar (c : Char) : List Char :=
  if isUpper c then '_' :: lowerWithin [] c [] else [c]

/-- The snake case of a key. -/
def snakeCase : List Char → List Char
  | [] => []
  | c :: rest => lowerWithin [] c [] ++ rest.flatMap snakeChar

end Muffle.Text
