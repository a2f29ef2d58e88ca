import SnippetTutor.Json.Basic
import SnippetTutor.Number.Printer

/-!
# Equality of values

Values are compared by their parts. Besides that there is a looser comparison, for which numbers
count by their size alone: two values are alike when they have the same normal form.
-/

namespace SnippetTutor.Json

mutual

/-- Decides equality of values. -/
def decideEq : (first second : Json) → Decidable (first = second)
  | null, second =>
    match second with
    | null => isTrue rfl
    | bool _ | int _ | real _ | text _ | list _ | object _ => isFalse nofun
  | bool x, second =>
    match second with
    | bool y => decidable_of_iff (x = y) (by simp)
    | null | int _ | real _ | text _ | list _ | object _ => isFalse nofun
  | int x, second =>
    match second with
    | int y => decidable_of_iff (x = y) (by simp)
    | null | bool _ | real _ | text _ | list _ | object _ => isFalse nofun
  | real x, second =>
    match second with
    | real y => decidable_of_iff (x = y) (by simp)
    | null | bool _ | int _ | text _ | list _ | object _ => isFalse nofun
  | text x, second =>
    match second with
    | text y => decidable_of_iff (x = y) (by simp)
    | null | bool _ | int _ | real _ | list _ | object _ => isFalse nofun
  | list xs, second =>
    match second with
    | list ys =>
      match decideEqItems xs ys with
      | isTrue equal => isTrue (by rw [equal])
      | isFalse apart => isFalse fun equal => apart (list.inj equal)
    | null | bool _ | int _ | real _ | text _ | object _ => isFalse nofun
  | object xs, second =>
    match second with
    | object ys =>
      match decideEqMembers xs ys with
      | isTrue equal => isTrue (by rw [equal])
      | isFalse apart => isFalse fun equal => apart (object.inj equal)
    | null | bool _ | int _ | real _ | text _ | list _ => isFalse nofun

/-- Decides equality of lists of values. -/
def decideEqItems : (first second : List Json) → Decidable (first = second)
  | [], [] => isTrue rfl
  | [], _ :: _ => isFalse nofun
  | _ :: _, [] => isFalse nofun
  | x :: xs, y :: ys =>
    match decideEq x y, decideEqItems xs ys with
    | isTrue head, isTrue tail => isTrue (by rw [head, tail])
    | isFalse apart, _ => isFalse fun equal => apart (List.cons.inj equal).1
    | _, isFalse apart => isFalse fun equal => apart (List.cons.inj equal).2

/-- Decides equality of lists of members. -/
def decideEqMembers : (first second : List (String × Json)) → Decidable (first = second)
  | [], [] => isTrue rfl
  | [], _ :: _ => isFalse nofun
  | _ :: _, [] => isFalse nofun
  | (key, x) :: xs, (other, y) :: ys =>
    match decEq key other, decideEq x y, decideEqMembers xs ys with
    | isTrue name, isTrue head, isTrue tail => isTrue (by rw [name, head, tail])
    | isFalse apart, _, _ => isFalse fun equal => apart (Prod.mk.inj (List.cons.inj equal).1).1
    | _, isFalse apart, _ => isFalse fun equal => apart (Prod.mk.inj (List.cons.inj equal).1).2
    | _, _, isFalse apart => isFalse fun equal => apart (List.cons.inj equal).2

end

instance : DecidableEq Json := decideEq

/-- A double in normal form: a whole one is a whole number. -/
def normalReal (x : Float) : Json :=
  match Number.whole? x with
  | some n => int n
  | none => real x

mutual

/-- The normal form of a value: truth values and whole doubles as whole numbers. -/
def normal : Json → Json
  | bool value => int (if value then 1 else 0)
  | real value => normalReal value
  | list items => list (normalItems items)
  | object members => object (normalMembers members)
  | other => other

/-- The normal forms of items. -/
def normalItems : List Json → List Json
  | [] => []
  | item :: rest => normal item :: normalItems rest

/-- The normal forms of members. -/
def normalMembers : List (String × Json) → List (String × Json)
  | [] => []
  | (key, value) :: rest => (key, normal value) :: normalMembers rest

end

/-- Whether two values are the same when numbers count by their size alone. -/
def alike (first second : Json) : Bool := first.normal = second.normal

theorem alike_iff {first second : Json} :
    first.alike second = true ↔ first.normal = second.normal := by
  simp [alike]

@[simp] theorem alike_self (value : Json) : value.alike value = true := alike_iff.2 rfl

theorem alike_comm (first second : Json) : first.alike second = second.alike first := by
  simp [alike, eq_comm]

end SnippetTutor.Json
