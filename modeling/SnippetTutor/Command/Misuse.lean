/-!
# Misuse of the command line

Why a command line was not understood, and how the user is told.
-/

namespace SnippetTutor.Command

/-- Why a command line was not understood. -/
inductive Misuse where
  | noCommand
  | unknownCommand (name : String)
  | unknownOption (name : String)
  | missingValue (option : String)
  | unwantedValue (option : String)
  | invalidChoice (option value : String) (choices : List String)
  | extraWords (words : List String)
  | cannotOpen (path : String)
  deriving DecidableEq, Repr

/-- What the user is told. -/
def Misuse.message : Misuse → String
  | noCommand => "Missing command."
  | unknownCommand name => "No such command '" ++ name ++ "'."
  | unknownOption name => "No such option: " ++ name
  | missingValue option => "Option '" ++ option ++ "' requires an argument."
  | unwantedValue option => "Option '" ++ option ++ "' does not take a value."
  | invalidChoice option value choices =>
    "Invalid value for '" ++ option ++ "': '" ++ value ++ "' is not one of " ++
      ", ".intercalate (choices.map fun choice => "'" ++ choice ++ "'") ++ "."
  | extraWords words => "Got unexpected extra arguments (" ++ " ".intercalate words ++ ")"
  | cannotOpen path => "Invalid value for 'SOURCE': '" ++ path ++ "': cannot be opened"

end SnippetTutor.Command
