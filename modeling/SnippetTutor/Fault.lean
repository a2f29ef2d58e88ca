import SnippetTutor.Number.Power

/-!
# Faults

What can go wrong inside a detector or an adapter. A fault never ends an analysis: the part that
failed contributes nothing, and the fault is reported under the name of its class with a text that
says more.
-/

namespace SnippetTutor

/-- The class of a fault. -/
inductive FaultClass where
  | overflow
  | mismatch
  | noAttribute
  | noKey
  | badValue
  | unreadable
  | runtime
  | fileNotFound
  | system
  deriving DecidableEq, Repr

/-- The name under which a class of faults is reported. -/
def FaultClass.name : FaultClass → String
  | overflow => "OverflowError"
  | mismatch => "TypeError"
  | noAttribute => "AttributeError"
  | noKey => "KeyError"
  | badValue => "ValueError"
  | unreadable => "JSONDecodeError"
  | runtime => "RuntimeError"
  | fileNotFound => "FileNotFoundError"
  | system => "OSError"

/-- A failure and its explanation. -/
structure Fault where
  cls : FaultClass
  text : String := ""
  deriving DecidableEq, Repr

namespace Fault

/-- A whole number too large for a double. -/
def tooLarge : Fault := ⟨.overflow, "int too large to convert to float"⟩

/-- A whole number too long to be written. -/
def tooLong : Fault :=
  ⟨.badValue, "Exceeds the limit (" ++ toString Number.mostDigits ++ " digits) for integer " ++
    "string conversion; use sys.set_int_max_str_digits() to increase the limit"⟩

/-- The class and the explanation of a fault. -/
def describe (fault : Fault) : String := fault.cls.name ++ ": " ++ fault.text

end Fault

end SnippetTutor
