import CrossRef.Entries

/-!
The words of a command line: options with hyphens, their values, and arguments.
-/

namespace CrossRef.CommandLine

/-- An option has a name, perhaps a letter, and perhaps a value. -/
structure OptionRule where
  name : String
  letter : Option Char := none
  takesValue : Bool := true

/-- Why the words of a command line are refused. -/
inductive UsageFault
  | noSuchOption (word : String)
  | missingValue (name : String)
  | unexpectedValue (name : String)
  | missingArgument (name : String)
  | unexpectedArgument (word : String)
  | noSuchCommand (word : String)
  | notANumber (text : String)
  deriving DecidableEq, Repr

/-- The text of a fault. It stands for the page that a library draws about the fault; the wording is
not the program's. -/
def UsageFault.message : UsageFault → String
  | noSuchOption word => "No such option: " ++ word
  | missingValue name => "Option --" ++ name ++ " requires an argument."
  | unexpectedValue name => "Option --" ++ name ++ " does not take a value."
  | missingArgument name => "Missing argument " ++ name ++ "."
  | unexpectedArgument word => "Got unexpected extra argument (" ++ word ++ ")"
  | noSuchCommand word => "No such command " ++ word ++ "."
  | notANumber text => text ++ " is not a valid float."

/-- The words of a command line after reading: options with their last values, a switch having an
empty value, and the arguments. -/
structure Words where
  options : Entries String := []
  arguments : List String := []
  deriving DecidableEq, Repr

namespace Words

/-- The last value of an option. -/
def value? (words : Words) (name : String) : Option String :=
  words.options.get? name

/-- Whether an option was given. -/
def has (words : Words) (name : String) : Bool :=
  (words.value? name).isSome

/-- The words with one more option in front of what follows it. -/
def give (name value : String) (words : Words) : Words :=
  { words with options := words.options.set name value }

/-- The words with one more argument. -/
def argue (argument : String) (words : Words) : Words :=
  { words with arguments := words.arguments ++ [argument] }

end Words

/-- What a word with hyphens says: the options that it gives in full, and the option whose value is
the next word. -/
structure Flagged where
  given : List (String × String) := []
  awaiting : Option String := none
  deriving DecidableEq, Repr

/-- A word of two hyphens names one option; its value may follow an equals sign. -/
def readLong (rules : List OptionRule) (word : List Char) : Except UsageFault Flagged :=
  let name := String.ofList (word.takeWhile (· ≠ '='))
  let attached := match word.dropWhile (· ≠ '=') with
    | _ :: value => some (String.ofList value)
    | [] => none
  match rules.find? (·.name = name) with
  | none => .error (.noSuchOption (String.ofList ('-' :: '-' :: word)))
  | some rule =>
    match attached with
    | some value =>
      if rule.takesValue then .ok { given := [(name, value)] } else .error (.unexpectedValue name)
    | none =>
      if rule.takesValue then .ok { awaiting := some name } else .ok { given := [(name, "")] }

/-- A word of one hyphen gives options by letters. The first one with a value takes the rest of the
word, or else the next word. -/
def readLetters (rules : List OptionRule) : List Char → Except UsageFault Flagged
  | [] => .ok {}
  | letter :: rest =>
    match rules.find? (·.letter = some letter) with
    | none => .error (.noSuchOption (String.ofList ['-', letter]))
    | some rule =>
      if rule.takesValue then
        if rest.isEmpty then .ok { awaiting := some rule.name }
        else .ok { given := [(rule.name, String.ofList rest)] }
      else
        (readLetters rules rest).map fun flagged =>
          { flagged with given := (rule.name, "") :: flagged.given }

/-- A word gives options when it starts with a hyphen and is no hyphen alone. -/
def readFlagged? (rules : List OptionRule) (word : String) : Option (Except UsageFault Flagged) :=
  match word.toList with
  | '-' :: '-' :: long => some (readLong rules long)
  | '-' :: letter :: rest => some (readLetters rules (letter :: rest))
  | _ => none

/-- The words are read from the left. Two hyphens end the options. Where options may not be mixed
with arguments, the first argument ends them too. -/
def readWords (rules : List OptionRule) (mixed : Bool) :
    Option String → Words → List String → Except UsageFault Words
  | none, words, [] => .ok words
  | some name, _, [] => .error (.missingValue name)
  | some name, words, value :: rest => readWords rules mixed none (words.give name value) rest
  | none, words, word :: rest =>
    if word = "--" then .ok { words with arguments := words.arguments ++ rest }
    else
      match readFlagged? rules word with
      | some (.error fault) => .error fault
      | some (.ok flagged) =>
        readWords rules mixed flagged.awaiting
          (flagged.given.foldl (fun words option => words.give option.1 option.2) words) rest
      | none =>
        if mixed then readWords rules mixed none (words.argue word) rest
        else .ok { words with arguments := words.arguments ++ word :: rest }

end CrossRef.CommandLine
