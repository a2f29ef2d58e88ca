/-!
# Computations that end well

A computation that ends well went well at every step, and its steps can be named one by one.

* `bind_eq_ok` and `map_eq_ok` take apart two steps in a row;
* `exists_ok_of_any` reads off the end of a computation that was carried out;
* `exists_of_mem_mapM` takes apart a loop, and `exists_mapM_eq_ok` puts one together.
-/

namespace SnippetTutor

variable {α β ε : Type}

theorem bind_eq_ok {first : Except ε α} {second : α → Except ε β} {result : β} :
    (first >>= second) = .ok result ↔ ∃ value, first = .ok value ∧ second value = .ok result := by
  constructor
  · intro ended
    cases first with
    | error fault => cases ended
    | ok value => exact ⟨value, rfl, ended⟩
  · rintro ⟨value, rfl, ended⟩
    exact ended

theorem map_eq_ok {first : Except ε α} {f : α → β} {result : β} :
    first.map f = .ok result ↔ ∃ value, first = .ok value ∧ f value = result := by
  constructor
  · intro ended
    cases first with
    | error fault => cases ended
    | ok value => exact ⟨value, rfl, Except.ok.inj ended⟩
  · rintro ⟨value, rfl, rfl⟩
    rfl

/-- A computation whose result passes a test has a result. -/
theorem exists_ok_of_any {whole : Except ε α} {test : α → Bool}
    (passed : whole.toOption.any test = true) :
    ∃ result, whole = .ok result ∧ test result = true := by
  cases whole with
  | error fault => cases passed
  | ok result => exact ⟨result, rfl, passed⟩

/-- A loop that ended well has its results from its inputs. -/
theorem exists_of_mem_mapM {f : α → Except ε β} {inputs : List α} {results : List β}
    (ended : inputs.mapM f = .ok results) {result : β} (member : result ∈ results) :
    ∃ input ∈ inputs, f input = .ok result := by
  induction inputs generalizing results with
  | nil =>
    rw [List.mapM_nil] at ended
    cases ended
    cases member
  | cons input rest ih =>
    rw [List.mapM_cons] at ended
    obtain ⟨value, first, ended⟩ := bind_eq_ok.1 ended
    obtain ⟨values, others, ended⟩ := bind_eq_ok.1 ended
    cases ended
    rcases List.mem_cons.1 member with rfl | later
    · exact ⟨input, List.mem_cons_self, first⟩
    · obtain ⟨source, listed, made⟩ := ih others later
      exact ⟨source, List.mem_cons_of_mem _ listed, made⟩

/-- A loop ends well if it does so at each of its inputs, and then has all their results. -/
theorem exists_mapM_eq_ok {f : α → Except ε β} {inputs : List α}
    (each : ∀ input ∈ inputs, ∃ result, f input = .ok result) :
    ∃ results, inputs.mapM f = .ok results ∧
      ∀ input ∈ inputs, ∀ result, f input = .ok result → result ∈ results := by
  induction inputs with
  | nil => exact ⟨[], List.mapM_nil, fun _ listed => absurd listed List.not_mem_nil⟩
  | cons input rest ih =>
    obtain ⟨value, first⟩ := each input List.mem_cons_self
    obtain ⟨values, others, all⟩ := ih fun later listed => each later (List.mem_cons_of_mem _ listed)
    refine ⟨value :: values, ?_, fun source listed result made => ?_⟩
    · rw [List.mapM_cons, first, others]
      rfl
    · rcases List.mem_cons.1 listed with rfl | later
      · cases first.symm.trans made
        exact List.mem_cons_self
      · exact List.mem_cons_of_mem _ (all source later result made)

end SnippetTutor
