import SnippetTutor.Detectors.Hazards.Complexity
import SnippetTutor.Tree.Index

/-!
# Walks that are not held back

A depth limit is felt only by a walk that has further to go. A place with something below it is at
least one level above the lowest level of its tree, so a limit that allows as many levels as the
tree has stops a walk only where nothing is left to visit.

* `DepthLimit.Allows`: a limit that does not stop a walk before the given number of levels;
* `Bound.NotBelow`: a setting that leaves room for a count, as a limit on length
  (`Bound.exceededBy_of_notBelow`) and as a limit on depth (`Bound.exists_depthLimit`);
* `Node.walk_eq_unlimited` and `Detectors.Hazards.Nested.drain_eq_unlimited` for the two ways of
  going down a tree, each by an invariant of its agenda (`Visit.Fits`, `Nested.Fits`): depth and
  height of what stands on it stay within the levels that are allowed;
* `Index.build_eq_unlimited`: the index of a tree holds everything and is not truncated.
-/

namespace SnippetTutor

@[simp] theorem DepthLimit.stops_unlimited (depth : Nat) : unlimited.stops depth = false := rfl

/-- A limit that stops no walk before the given number of levels. -/
def DepthLimit.Allows (limit : DepthLimit) (levels : Nat) : Prop :=
  ∀ depth, limit.stops depth = true → levels ≤ depth

theorem DepthLimit.Allows.mono {limit : DepthLimit} {levels fewer : Nat}
    (room : limit.Allows levels) (le : fewer ≤ levels) : limit.Allows fewer :=
  fun depth stopped => Nat.le_trans le (room depth stopped)

/-! ### Limits from settings -/

namespace Bound

/-- A limit is a number, and not below a count. -/
def NotBelow (bound : Bound) (count : Nat) : Prop :=
  match bound with
  | int value => count ≤ value
  | flag value => count ≤ flagValue value
  | real value =>
    match neighbours value with
    | some (below, _) => count ≤ below
    | none => ¬value < 0
  | absent | incomparable _ => False

theorem exceededBy_of_notBelow {bound : Bound} {count : Nat} (room : bound.NotBelow count) :
    bound.exceededBy count = .ok false := by
  cases bound with
  | int value => exact congrArg Except.ok (decide_eq_false (Int.not_lt.2 room))
  | flag value => exact congrArg Except.ok (decide_eq_false (Int.not_lt.2 room))
  | real value =>
    unfold NotBelow at room
    unfold exceededBy
    cases found : neighbours value with
    | some sides =>
      simp only [found] at room ⊢
      exact congrArg Except.ok (decide_eq_false (Int.not_lt.2 room))
    | none =>
      simp only [found] at room ⊢
      exact congrArg Except.ok (decide_eq_false room)
  | absent => exact room.elim
  | incomparable type => exact room.elim

/-- The whole number below a double is not above the one above it. -/
theorem le_of_neighbours {value : Float} {below above : Int}
    (found : neighbours value = some (below, above)) : below ≤ above := by
  unfold neighbours at found
  split at found
  · rename_i negative mantissa exponent _
    have positive : 0 < Number.twoTo (-exponent).toNat := Nat.two_pow_pos _
    have ordered : mantissa * Number.twoTo exponent.toNat / Number.twoTo (-exponent).toNat ≤
        (mantissa * Number.twoTo exponent.toNat + Number.twoTo (-exponent).toNat - 1) /
          Number.twoTo (-exponent).toNat :=
      Nat.div_le_div_right (by omega)
    cases negative <;> cases found <;> simp only [Int.ofNat_eq_natCast] <;> omega
  · cases found

/-- A limit that is not below a number of levels lets a walk go down all of them. -/
theorem exists_depthLimit {bound : Bound} {levels : Nat} (room : bound.NotBelow levels) :
    ∃ limit, bound.depthLimit = .ok limit ∧ limit.Allows levels := by
  have whole : ∀ value : Int, levels ≤ value → (DepthLimit.atMost value).Allows levels := by
    intro value le depth stopped
    have reached : value ≤ depth := of_decide_eq_true stopped
    omega
  cases bound with
  | int value => exact ⟨_, rfl, whole value room⟩
  | flag value => exact ⟨_, rfl, whole _ room⟩
  | real value =>
    unfold NotBelow at room
    unfold depthLimit
    cases found : neighbours value with
    | some sides =>
      simp only [found] at room ⊢
      exact ⟨_, rfl, whole sides.2 (Int.le_trans room (le_of_neighbours found))⟩
    | none =>
      simp only [found] at room ⊢
      rw [if_neg room]
      exact ⟨_, rfl, fun depth stopped => absurd stopped Bool.false_ne_true⟩
  | absent => exact room.elim
  | incomparable type => exact room.elim

end Bound

/-! ### Heights of places -/

theorem Reaches.height_le {root tree : Tree} {above : List Tree} {path : List Nat}
    (reached : Reaches root tree above path) : tree.height ≤ root.height := by
  induction reached with
  | top => exact Nat.le_refl _
  | down _ i bound ih =>
    have lower := Tree.height_lt_of_mem (List.getElem_mem bound)
    omega

namespace Node

variable {root : Tree} {limit : DepthLimit} {levels depth : Nat} {node : Node root}

theorem height_le (node : Node root) : node.tree.height ≤ root.height := node.reached.height_le

/-- A walk is stopped only at places with nothing below them. -/
theorem offspring_eq_nil_of_stops (room : limit.Allows levels)
    (fits : depth + node.tree.height ≤ levels) (stopped : limit.stops depth = true) :
    node.offspring = [] := by
  apply List.eq_nil_iff_forall_not_mem.2
  intro below member
  have lower := height_lt_of_mem_offspring member
  have reached := room depth stopped
  omega

theorem children_eq_nil_of_stops (room : limit.Allows levels)
    (fits : depth + node.tree.height ≤ levels) (stopped : limit.stops depth = true) :
    node.children = [] := by
  rw [children, offspring_eq_nil_of_stops room fits stopped, List.filter_nil]

theorem fits_of_mem_children {below : Node root} (fits : depth + node.tree.height ≤ levels)
    (member : below ∈ node.children) : depth + 1 + below.tree.height ≤ levels := by
  have lower := height_lt_of_mem_children member
  omega

end Node

/-! ### Walks -/

namespace Visit

variable {root : Tree} {prune : Node root → Bool} {limit : DepthLimit} {levels : Nat}
  {visit : Visit root} {agenda : List (Visit root)}

/-- Everything below a visit is within the given number of levels. -/
def Fits (levels : Nat) (visit : Visit root) : Prop :=
  visit.depth + visit.node.tree.height ≤ levels

theorem next_eq_unlimited (room : limit.Allows levels) (fits : visit.Fits levels) :
    visit.next prune limit = visit.next prune .unlimited := by
  cases stopped : limit.stops visit.depth with
  | false => simp [next, stopped]
  | true => simp [next, Node.children_eq_nil_of_stops room fits stopped]

theorem fits_of_mem_next (fits : visit.Fits levels) {later : Visit root}
    (member : later ∈ visit.next prune limit) : later.Fits levels := by
  unfold next at member
  split at member
  · exact absurd member List.not_mem_nil
  · obtain ⟨below, child, rfl⟩ := List.mem_map.1 member
    exact Node.fits_of_mem_children fits child

/-- The agenda of the next round fits if the agenda of this one does. -/
theorem fits_of_mem_step (fits : ∀ entry ∈ visit :: agenda, entry.Fits levels) :
    ∀ entry ∈ visit.next prune limit ++ agenda, entry.Fits levels := by
  intro entry member
  rcases List.mem_append.1 member with new | old
  · exact fits_of_mem_next (fits visit List.mem_cons_self) new
  · exact fits entry (List.mem_cons_of_mem _ old)

theorem drain_eq_unlimited (room : limit.Allows levels)
    (fits : ∀ entry ∈ agenda, entry.Fits levels) :
    drain prune limit agenda = drain prune .unlimited agenda := by
  fun_induction drain prune limit agenda with
  | case1 => rw [drain]
  | case2 visit agenda ih =>
    rw [ih (fits_of_mem_step fits), next_eq_unlimited room (fits visit List.mem_cons_self),
      drain.eq_2]

theorem fits_of_mem_drain (fits : ∀ entry ∈ agenda, entry.Fits levels)
    (member : visit ∈ drain prune limit agenda) : visit.Fits levels := by
  fun_induction drain prune limit agenda with
  | case1 => exact absurd member List.not_mem_nil
  | case2 first agenda ih =>
    rcases List.mem_cons.1 member with rfl | later
    · exact fits visit List.mem_cons_self
    · exact ih (fits_of_mem_step fits) later

end Visit

namespace Node

variable {root : Tree} {limit : DepthLimit}

theorem fits_start (node : Node root) :
    ∀ entry ∈ [(⟨node, 0⟩ : Visit root)], entry.Fits node.tree.height := by
  intro entry member
  rw [List.mem_singleton.1 member]
  exact Nat.le_of_eq (Nat.zero_add _)

theorem visits_eq_unlimited (prune : Node root → Bool) (node : Node root)
    (room : limit.Allows node.tree.height) :
    node.visits prune limit = node.visits prune .unlimited :=
  Visit.drain_eq_unlimited room node.fits_start

/-- A walk from any place is not held back by a limit that allows the levels of the whole tree. -/
theorem walk_eq_unlimited (prune : Node root → Bool) (node : Node root)
    (room : limit.Allows root.height) : node.walk prune limit = node.walk prune .unlimited := by
  rw [walk, visits_eq_unlimited prune node (room.mono node.height_le), walk]

end Node

/-- The index of a tree within its limit is the index of the whole tree. -/
theorem Index.build_eq_unlimited {root : Tree} {limit : DepthLimit}
    (room : limit.Allows root.height) : build root limit = build root .unlimited := by
  have untruncated : ((Node.top root).visits Node.whole .unlimited).any (fun visit =>
      limit.stops visit.depth && !visit.node.namedOffspring.isEmpty) = false := by
    rw [List.any_eq_false]
    intro visit member
    have fits : visit.Fits root.height := Visit.fits_of_mem_drain (Node.top root).fits_start member
    cases stopped : limit.stops visit.depth with
    | false => simp
    | true => simp [Node.namedOffspring, Node.offspring_eq_nil_of_stops room fits stopped]
  simp [build, Node.visits_eq_unlimited Node.whole (Node.top root) room, untruncated]

theorem Index.truncated_build_unlimited (root : Tree) :
    (build root .unlimited).truncated = false := by
  simp [build]

/-! ### Nested statements -/

namespace Detectors.Hazards.Nested

variable {root : Tree} {limit : DepthLimit} {levels : Nat} {visit : Nested root}
  {agenda : List (Nested root)}

/-- Everything inside a construct is within the given number of levels. -/
def Fits (levels : Nat) (visit : Nested root) : Prop :=
  visit.depth + visit.node.tree.height ≤ levels

theorem next_eq_unlimited (room : limit.Allows levels) (fits : visit.Fits levels) :
    visit.next limit = visit.next .unlimited := by
  cases stopped : limit.stops visit.depth with
  | false => simp [next, stopped]
  | true => simp [next, Node.children_eq_nil_of_stops room fits stopped]

theorem fits_of_mem_step (fits : ∀ entry ∈ visit :: agenda, entry.Fits levels) :
    ∀ entry ∈ visit.next limit ++ agenda, entry.Fits levels := by
  intro entry member
  rcases List.mem_append.1 member with new | old
  · unfold next at new
    split at new
    · exact absurd new List.not_mem_nil
    · obtain ⟨below, child, rfl⟩ := List.mem_map.1 new
      exact Node.fits_of_mem_children (fits visit List.mem_cons_self) child
  · exact fits entry (List.mem_cons_of_mem _ old)

theorem drain_eq_unlimited (room : limit.Allows levels)
    (fits : ∀ entry ∈ agenda, entry.Fits levels) :
    drain limit agenda = drain .unlimited agenda := by
  fun_induction drain limit agenda with
  | case1 => rw [drain]
  | case2 visit agenda ih =>
    rw [ih (fits_of_mem_step fits), next_eq_unlimited room (fits visit List.mem_cons_self),
      drain.eq_2]

end Detectors.Hazards.Nested

end SnippetTutor
