import SnippetTutor.Fault
import SnippetTutor.Json.Basic
import SnippetTutor.Number.Printer
import SnippetTutor.Tree.Walk

/-!
# Bounds from settings

A limit as it stands in the settings, where anything may stand. Numbers and truth values can be
compared with a count, the absent value means no depth limit, and everything else is a fault as
soon as a comparison is made. A message shows a limit unless it is a number too long for that, which
is a fault as well (`Bound.printed`).
-/

namespace SnippetTutor

/-- A setting that is used as a limit. -/
inductive Bound where
  | absent
  | int (value : Int)
  | flag (value : Bool)
  | real (value : Float)
  /-- A value that cannot be compared with a number, by the name of its type. -/
  | incomparable (type : String)

namespace Bound

/-- A setting read as a limit. -/
def ofJson : Json → Bound
  | .null => absent
  | .bool value => flag value
  | .int value => int value
  | .real value => real value
  | other => incomparable other.typeName

/-- Whether a limit can be shown. -/
def isPrintable : Bound → Bool
  | int value => Number.isWritable value
  | _ => true

/-- A limit as messages show it, if it can be shown. -/
def shown : Bound → String
  | absent => "None"
  | int value => toString value
  | flag value => if value then "True" else "False"
  | real value => Number.scientificOrPlain value
  | incomparable type => type

/-- What a message shows of a limit. -/
def printed (bound : Bound) : Except Fault String :=
  if bound.isPrintable then .ok bound.shown else .error .tooLong

/-- A comparison that makes no sense. -/
def mismatch (relation type : String) : Fault :=
  ⟨.mismatch, "'" ++ relation ++ "' not supported between instances of 'int' and '" ++ type ++ "'"⟩

/-- The whole number that a truth value counts as. -/
def flagValue (value : Bool) : Int := if value then 1 else 0

/-- The whole numbers next to a finite double: the greatest one that is not above it, and the least
one that is not below it. -/
def neighbours (x : Float) : Option (Int × Int) :=
  match Number.decompose x with
  | (negative, .finite mantissa exponent) =>
    let scaled := mantissa * Number.twoTo exponent.toNat
    let unit := Number.twoTo (-exponent).toNat
    let below := Int.ofNat (scaled / unit)
    let above := Int.ofNat ((scaled + unit - 1) / unit)
    some (if negative then (-above, -below) else (below, above))
  | _ => none

/-- Whether a count is above a limit. -/
def exceededBy (bound : Bound) (count : Nat) : Except Fault Bool :=
  match bound with
  | int value => .ok (value < count)
  | flag value => .ok (flagValue value < count)
  | real value =>
    match neighbours value with
    | some (below, _) => .ok (below < count)
    | none => .ok (value < 0)
  | absent => .error (mismatch ">" "NoneType")
  | incomparable type => .error (mismatch ">" type)

/-- A limit on depth. -/
def depthLimit : Bound → Except Fault DepthLimit
  | absent => .ok .unlimited
  | int value => .ok (.atMost value)
  | flag value => .ok (.atMost (flagValue value))
  | real value =>
    match neighbours value with
    | some (_, above) => .ok (.atMost above)
    | none => .ok (if value < 0 then .atMost 0 else .unlimited)
  | incomparable type => .error (mismatch ">=" type)

/-- The first items of a list: a given number of them, or all but that many of the last when the
number is negative. -/
def firstItems {α : Type} (count : Int) (items : List α) : List α :=
  if 0 ≤ count then items.take count.toNat else items.take (items.length - count.natAbs)

/-- The part of a list up to a limit. -/
def cut {α : Type} (bound : Bound) (items : List α) : Except Fault (List α) :=
  match bound with
  | absent => .ok items
  | int value => .ok (firstItems value items)
  | flag value => .ok (firstItems (flagValue value) items)
  | real _ | incomparable _ => .error ⟨.mismatch, "slice indices must be integers"⟩

end Bound

end SnippetTutor
