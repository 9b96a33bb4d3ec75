import SourceAtlas.Number.Numeral
import SourceAtlas.Text.Cut

/-! The arguments of the command line. -/

namespace SourceAtlas

/-- An option of a command. -/
structure CommandOption where
  /-- The long name, with its dashes. -/
  name : String
  /-- A letter that stands for it. -/
  letter : Option Char := none
  /-- The word for its value, if it takes one. -/
  value : Option String := none
  help : String := ""

/-- Why arguments cannot be used. -/
inductive UsageFault where
  | noSuchOption (name : String)
  | needsValue (name : String)
  | takesNoValue (name : String)
  | missingCommand
  | noSuchCommand (name : String)
  | missingArgument (name : String)
  | extraArguments (arguments : List String)
  | notInteger (name value : String)
  | noFolder (name value : String)
  deriving DecidableEq

namespace UsageFault

/-- The wording of a fault. -/
def message : UsageFault → String
  | noSuchOption name => "No such option: " ++ name
  | needsValue name => "Option '" ++ name ++ "' requires an argument."
  | takesNoValue name => "Option '" ++ name ++ "' does not take a value."
  | missingCommand => "Missing command."
  | noSuchCommand name => "No such command '" ++ name ++ "'."
  | missingArgument name => "Missing argument '" ++ name ++ "'."
  | extraArguments [argument] => "Got unexpected extra argument (" ++ argument ++ ")"
  | extraArguments arguments => "Got unexpected extra arguments (" ++ joinWith " " arguments ++ ")"
  | notInteger name value =>
    "Invalid value for '" ++ name ++ "': '" ++ value ++ "' is not a valid integer."
  | noFolder name value =>
    "Invalid value for '" ++ name ++ "': Directory '" ++ value ++ "' does not exist."

end UsageFault

/-- Arguments told apart: options by long name with their values, and the rest in order. -/
structure Arguments where
  options : List (String × String) := []
  rest : List String := []

namespace Arguments

/-- Whether an option is given. -/
def has (arguments : Arguments) (name : String) : Bool :=
  arguments.options.any (·.1 == name)

/-- The values that an option is given, in order. -/
def valuesOf (arguments : Arguments) (name : String) : List String :=
  (arguments.options.filter (·.1 == name)).map Prod.snd

/-- The last value of an option, or a default. -/
def valueOr (arguments : Arguments) (name default : String) : String :=
  -- An option that is given again counts with its last value.
  (arguments.valuesOf name).getLast?.getD default

/-- The arguments with an option in front. -/
def withOption (arguments : Arguments) (name value : String) : Arguments :=
  -- Reading goes from the left, so what is found first goes to the front.
  { arguments with options := (name, value) :: arguments.options }

/-- Whether an argument names options. -/
def isOption (argument : String) : Bool :=
  match argument.toList with
  -- A dash alone is no option.
  | '-' :: _ :: _ => true
  | _ => false

/-- The options that the letters after one dash stand for. -/
def lettered (options : List CommandOption) : List Char → Except UsageFault (List (String × String))
  | [] => .ok []
  | c :: letters => do
    -- Options with letters take no values.
    match options.find? (·.letter == some c) with
    | none => throw (.noSuchOption (String.ofList ['-', c]))
    | some option => return (option.name, "") :: (← lettered options letters)

/-- The name and the value of an argument with an equals sign. -/
def splitValue (argument : String) : String × Option String :=
  -- The first equals sign ends the name.
  match cutAt? (· == '=') argument.toList with
  | some (name, value) => (String.ofList name, some (String.ofList value))
  | none => (argument, none)

/-- Tells options from the rest; where they do not mix, the first other
argument ends the options. -/
def read (options : List CommandOption) (mixed : Bool) : List String → Except UsageFault Arguments
  | [] => .ok {}
  | argument :: rest =>
    -- Two dashes end the options, and are no argument themselves.
    if argument == "--" then .ok { rest }
    else if isOption argument then
      -- The value may stand in the argument itself.
      let (name, given) := splitValue argument
      match options.find? (·.name == name) with
      | some option =>
        match option.value, given with
        | none, none => return (← read options mixed rest).withOption name ""
        | none, some _ => throw (.takesNoValue name)
        | some _, some value => return (← read options mixed rest).withOption name value
        -- The value is the next argument, whatever it looks like.
        | some _, none =>
          match rest with
          | [] => throw (.needsValue name)
          | value :: rest => return (← read options mixed rest).withOption name value
      -- One dash may stand in front of several letters.
      | none =>
        if startsWith ['-', '-'] argument.toList then throw (.noSuchOption name)
        else do
          let named ← lettered options (argument.toList.drop 1)
          let others ← read options mixed rest
          return { others with options := named ++ others.options }
    -- Where options do not mix, what follows belongs to the command.
    else if mixed then do
      let others ← read options mixed rest
      return { others with rest := argument :: others.rest }
    else .ok { rest := argument :: rest }

/-- The integer that a text writes, with margins, a sign, underscores between digits,
digits of every script. -/
def integer? (text : List Char) : Option Int := do
  -- Digits of all scripts count by their value.
  let written := (trimBy isNumeralMargin text).map asciiDigit
  let (negative, unsigned) := splitSign written
  let digits ← dropUnderscores? none unsigned
  -- Longer numbers are refused.
  if digits.isEmpty || !digits.all Char.isDigit || digits.length > digitLimit then none
  let value : Int := digitsValue digits
  return if negative then -value else value

end Arguments

end SourceAtlas
