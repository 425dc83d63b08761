/-
  Muffle.Command.Arguments

  Reading the arguments of a command. A long option has its value after an equals sign or in the
  next argument; short options can stand together after one dash, and the rest of such a group is
  the value of the first one that takes a value. Two dashes end the options.
-/

namespace Muffle.Command

/-- How a command can be called in a wrong way. -/
inductive Misuse where
  | unknownOption (name : String)
  | valueMissing (name : String)
  | valueUnexpected (name : String)
  | operandMissing (name : String)
  | operandUnexpected (text : String)
  | commandMissing
  | unknownCommand (name : String)
deriving DecidableEq, Repr

/-- The words for a misuse. -/
def Misuse.message : Misuse → String
  | .unknownOption n => "No such option: " ++ n
  | .valueMissing n => "Option '" ++ n ++ "' requires an argument."
  | .valueUnexpected n => "Option '" ++ n ++ "' does not take a value."
  | .operandMissing n => "Missing argument '" ++ n ++ "'."
  | .operandUnexpected t => "Got unexpected extra argument (" ++ t ++ ")"
  | .commandMissing => "Missing command."
  | .unknownCommand n => "No such command '" ++ n ++ "'."

/-- An option: its long name, its short name if it has one, and whether it takes a value. -/
structure OptionForm where
  long : List Char
  short : Option Char := none
  takesValue : Bool := false

/-- Options that were given, each by its long name and with its value if it takes one. -/
abbrev GivenOptions := List (List Char × List Char)

/-- What the arguments of a command say. -/
structure Given where
  options : GivenOptions := []
  operands : List String := []

namespace Given

/-- Whether an option was given. -/
def hasOption (g : Given) (long : String) : Bool := g.options.any fun o => o.1 == long.toList

/-- The last value given for an option. -/
def value? (g : Given) (long : String) : Option String :=
  (g.options.reverse.lookup long.toList).map String.ofList

/-- Adds options before the others. -/
def withOptions (options : GivenOptions) (g : Given) : Given :=
  { g with options := options ++ g.options }

/-- Adds an operand before the others. -/
def withOperand (operand : String) (g : Given) : Given :=
  { g with operands := operand :: g.operands }

end Given

/-- The options of one argument, and the option whose value is the next argument, if any. -/
abbrev Group := GivenOptions × Option OptionForm

/-- Reads a group of short options. -/
def readShort (forms : List OptionForm) : List Char → Except Misuse Group
  | [] => .ok ([], none)
  | c :: rest =>
    match forms.find? fun f => f.short = some c with
    | none => .error (.unknownOption (String.ofList ['-', c]))
    | some f =>
      if f.takesValue then
        if rest.isEmpty then .ok ([], some f) else .ok ([(f.long, rest)], none)
      else do
        let (options, pending) ← readShort forms rest
        return ((f.long, []) :: options, pending)

/-- Reads an argument that starts with a dash. -/
def readOption (forms : List OptionForm) (arg : List Char) : Except Misuse Group :=
  let name := arg.takeWhile (· != '=')
  let value := arg.drop name.length
  match forms.find? fun f => '-' :: '-' :: f.long = name with
  | some f =>
    match f.takesValue, value with
    | true, [] => .ok ([], some f)
    | true, _ :: value => .ok ([(f.long, value)], none)
    | false, [] => .ok ([(f.long, [])], none)
    | false, _ => .error (.valueUnexpected (String.ofList name))
  | none =>
    if "--".toList.isPrefixOf arg then .error (.unknownOption (String.ofList name))
    else readShort forms arg.tail

/-- Whether an argument is an option. -/
def isOption (arg : List Char) : Bool := arg.head? == some '-' && arg.length != 1

/-- Reads arguments. If `mixed`, options can follow operands; otherwise all that follows the first
    operand is an operand. -/
def readArguments (forms : List OptionForm) (mixed : Bool) : List String → Except Misuse Given
  | [] => .ok {}
  | arg :: rest =>
    if arg = "--" then .ok { operands := rest }
    else if isOption arg.toList then
      match readOption forms arg.toList with
      | .error m => .error m
      | .ok (options, none) => do
        return (← readArguments forms mixed rest).withOptions options
      | .ok (options, some f) =>
        match rest with
        | [] => .error (.valueMissing (String.ofList ('-' :: '-' :: f.long)))
        | value :: rest => do
          return (← readArguments forms mixed rest).withOptions
            (options ++ [(f.long, value.toList)])
    else if mixed then do
      return (← readArguments forms mixed rest).withOperand arg
    else .ok { operands := arg :: rest }

end Muffle.Command
