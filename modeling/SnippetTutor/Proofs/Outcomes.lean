import Mathlib.Data.List.TakeWhile
import SnippetTutor.Proofs.Reading

/-!
# What comes of reading a snippet

With limits that are whole numbers a snippet can be read, if only as nothing, unless a limit is in
the way that would have to be shown and is too long for that.

* `Reading.Needs` are the grammars that reading asks for a tree, and `Reading.Chooses` says which
  dialect and which tree it takes. One of them applies (`Reading.exists_chooses_or_needs`), and
  parsing succeeds or fails accordingly (`Reading.parse_of_chooses`, `Reading.parse_of_needs`);
* `Reading.Coherent` is what holds of every reading, `Reading.Unreadable` lists the reasons for
  which nothing is read, and `Reading.Fails` those for which there is no reading.
  `Reading.read_outcome` puts them together;
* `Reading.read_detected` says that the dialect that was found could have been given as a hint.
  Typed snippets without markup are an exception: found out, they are read from the tree of the
  most permissive grammar; hinted at, from the tree of their own.
-/

namespace SnippetTutor

/-- A source is a text unless a surrogate stands in it. -/
theorem Source.exists_eq_text_iff (points : List Nat) :
    (∃ content, ofCodePoints points = .text content) ↔
      ¬∃ point ∈ points, Text.isSurrogate point = true := by
  unfold ofCodePoints
  split
  · rename_i none
    simpa using List.dropWhile_eq_nil_iff.1 none
  · rename_i point rest found
    have member : point ∈ points :=
      (List.dropWhile_sublist _).subset (found ▸ List.mem_cons_self)
    have surrogate : Text.isSurrogate point = true := by
      have first := List.head?_dropWhile_not (fun point => !Text.isSurrogate point) points
      simpa [found] using first
    have present : ∃ point ∈ points, Text.isSurrogate point = true := ⟨point, member, surrogate⟩
    simp [present]

theorem Dialect.grammar_of_not_isTyped {dialect : Dialect} (untyped : dialect.isTyped = false) :
    dialect.grammar = .javascript := by
  cases dialect with
  | javascript => rfl
  | jsx => rfl
  | typescript => cases untyped
  | tsx => cases untyped

namespace Reading

/-! ### The tree that is read -/

section

variable (parses : Parses) (limit : DepthLimit)

/-- The dialect that shows in a tree down to a limit. -/
def dialectOf (tree : Tree) : Dialect := Dialect.classify (Index.build tree limit)

/-- The grammars that reading asks for a tree. -/
inductive Needs : Option Dialect → Grammar → Prop where
  | hinted (dialect : Dialect) : Needs (some dialect) dialect.grammar
  /-- Without a hint the most permissive grammar comes first. -/
  | first : Needs none .tsx
  /-- A tree without typed constructs is parsed again. -/
  | again {tree : Tree} (yielded : parses .tsx = some tree)
      (untyped : (dialectOf limit tree).isTyped = false) :
      Needs none (dialectOf limit tree).grammar

/-- The dialect and the tree that reading takes. -/
inductive Chooses : Option Dialect → Dialect → Tree → Prop where
  | hinted {dialect : Dialect} {tree : Tree} (yielded : parses dialect.grammar = some tree) :
      Chooses (some dialect) dialect tree
  | typed {tree : Tree} (yielded : parses .tsx = some tree)
      (typed : (dialectOf limit tree).isTyped = true) :
      Chooses none (dialectOf limit tree) tree
  /-- Of the first tree only the dialect is kept. -/
  | again {first tree : Tree} (seen : parses .tsx = some first)
      (untyped : (dialectOf limit first).isTyped = false)
      (yielded : parses (dialectOf limit first).grammar = some tree) :
      Chooses none (dialectOf limit first) tree

end

section

variable {parses : Parses} {limit : DepthLimit} {depth : Bound} {hint : Option Dialect}
  (limited : depth.depthLimit = .ok limit)

include limited

theorem parse_hinted {dialect : Dialect} {tree : Tree}
    (yielded : parses dialect.grammar = some tree) :
    parse parses depth (some dialect) = .ok (dialect, ⟨tree, Index.build tree limit⟩) := by
  simp [parse, parseWith, yielded, limited, Except.map]

/-- Without a hint, typed snippets are read from the first tree, others as if their dialect had been
given. -/
theorem parse_detected {tree : Tree} (yielded : parses .tsx = some tree) :
    parse parses depth none =
      if (dialectOf limit tree).isTyped then
        .ok (dialectOf limit tree, ⟨tree, Index.build tree limit⟩)
      else parse parses depth (some (dialectOf limit tree)) := by
  have first : parseWith parses depth .tsx = .ok ⟨tree, Index.build tree limit⟩ := by
    simp [parseWith, yielded, limited]
  show (parseWith parses depth .tsx >>= _) = _
  rw [first]
  rfl

/-- The tree that is chosen is read. -/
theorem parse_of_chooses {dialect : Dialect} {tree : Tree}
    (chosen : Chooses parses limit hint dialect tree) :
    parse parses depth hint = .ok (dialect, ⟨tree, Index.build tree limit⟩) := by
  cases chosen with
  | hinted yielded => exact parse_hinted limited yielded
  | typed yielded typed => rw [parse_detected limited yielded, if_pos typed]
  | again seen untyped yielded =>
    rw [parse_detected limited seen, if_neg (Bool.eq_false_iff.1 untyped)]
    exact parse_hinted limited yielded

omit limited in
theorem parse_hinted_of_absent {dialect : Dialect} (absent : parses dialect.grammar = none) :
    parse parses depth (some dialect) = .error ("no " ++ dialect.grammar.name ++ " tree") := by
  simp [parse, parseWith, absent, Except.map]

/-- A grammar that is needed and yields no tree is in the way of reading. -/
theorem parse_of_needs {grammar : Grammar} (needed : Needs parses limit hint grammar)
    (absent : parses grammar = none) :
    parse parses depth hint = .error ("no " ++ grammar.name ++ " tree") := by
  cases needed with
  | hinted dialect => exact parse_hinted_of_absent absent
  | first => simp [parse, parseWith, absent, bind, Except.bind]
  | again yielded untyped =>
    rw [parse_detected limited yielded, if_neg (Bool.eq_false_iff.1 untyped)]
    exact parse_hinted_of_absent absent

end

/-- There is a tree to choose, or a grammar that is needed yields none. -/
theorem exists_chooses_or_needs (parses : Parses) (limit : DepthLimit) (hint : Option Dialect) :
    (∃ dialect tree, Chooses parses limit hint dialect tree) ∨
      ∃ grammar, Needs parses limit hint grammar ∧ parses grammar = none := by
  cases hint with
  | some dialect =>
    cases yielded : parses dialect.grammar with
    | none => exact .inr ⟨_, .hinted dialect, yielded⟩
    | some tree => exact .inl ⟨dialect, tree, .hinted yielded⟩
  | none =>
    cases yielded : parses .tsx with
    | none => exact .inr ⟨_, .first, yielded⟩
    | some first =>
      cases typed : (dialectOf limit first).isTyped with
      | true => exact .inl ⟨_, first, .typed yielded typed⟩
      | false =>
        cases again : parses (dialectOf limit first).grammar with
        | none => exact .inr ⟨_, .again yielded typed, again⟩
        | some tree => exact .inl ⟨_, tree, .again yielded typed again⟩

/-! ### Readings as a whole -/

/-- The number of constructs that were read. -/
def nodeCount (reading : Reading) : Nat :=
  match reading.parsed with
  | some parsed => parsed.index.nodes.length
  | none => 0

/-- What the parts of a reading have to do with each other and with the hint. -/
structure Coherent (hint : Option Dialect) (reading : Reading) : Prop where
  typed : reading.profile.hasTypeScript = reading.profile.dialect.isTyped
  hinted : ∀ dialect, hint = some dialect → reading.profile.dialect = dialect
  kind_eq : ∀ diagnostic ∈ reading.diagnostics, diagnostic.kind = .parse
  nothing : reading.parsed = none →
    reading.nodeCount = 0 ∧ reading.statementCount = 0 ∧ reading.profile.isReact = false ∧
      reading.diagnostics ≠ []

theorem isHopeless_iff (tree : Tree) :
    isHopeless tree = true ↔
      tree.label.name = "ERROR" ∨
        statementsOf tree ≠ [] ∧ ∀ statement ∈ statementsOf tree, recovered statement = false := by
  simp [isHopeless]

section

variable {hint : Option Dialect} {dialect : Dialect}
  (fits : ∀ hinted, hint = some hinted → dialect = hinted)

include fits

theorem coherent_failure {message : String} {diagnostics : List Diagnostic}
    (kinds : ∀ other ∈ diagnostics, other.kind = .parse) :
    (failure dialect message diagnostics).Coherent hint where
  typed := rfl
  hinted := fits
  kind_eq := fun _ member => kind_of_mem_failure kinds member
  nothing := fun _ => ⟨rfl, rfl, rfl, List.cons_ne_nil _ _⟩

theorem coherent_ofParsed {depth : Bound} {parsed : Parsed} {reading : Reading}
    (ended : ofParsed dialect depth parsed = .ok reading) : reading.Coherent hint := by
  have kinds := @kind_of_mem_ofParsed dialect depth parsed reading ended
  rcases cases_of_ofParsed ended with ⟨-, rfl⟩ | ⟨-, rfl⟩
  · exact coherent_failure fits fun _ member => Diagnostic.kind_of_mem_syntaxErrors member
  · exact ⟨rfl, fits, fun _ member => kinds member, fun absent => nomatch absent⟩

end

section

variable {dialect : Dialect} {depth : Bound} {parsed : Parsed} {reading : Reading}
  (ended : ofParsed dialect depth parsed = .ok reading)

include ended

theorem parsed_ofParsed_eq_none_iff : reading.parsed = none ↔ isHopeless parsed.root = true := by
  rcases cases_of_ofParsed ended with ⟨hopeless, rfl⟩ | ⟨usable, rfl⟩
  · exact iff_of_true rfl hopeless
  · simp [ofUsable, usable]

theorem dialect_ofParsed : reading.profile.dialect = dialect := by
  rcases cases_of_ofParsed ended with ⟨-, rfl⟩ | ⟨-, rfl⟩ <;> rfl

end

/-- A tree is read unless the limit that cut it cannot be shown. -/
theorem ofParsed_ok_or_error (dialect : Dialect) (depth : Bound) (parsed : Parsed) :
    (∃ reading, ofParsed dialect depth parsed = .ok reading) ∨
      isHopeless parsed.root = false ∧ parsed.index.truncated = true ∧ depth.isPrintable = false ∧
        ofParsed dialect depth parsed = .error .tooLong := by
  rcases ofParsed_cases dialect depth parsed with ⟨-, made⟩ | ⟨-, made⟩ | failing
  · exact .inl ⟨_, made⟩
  · exact .inl ⟨_, made⟩
  · exact .inr failing

/-! ### Sources within and beyond the limits -/

section

variable {bytes : Int} {depth : Bound} {parses : Parses} {hint : Option Dialect} {content : String}

/-- The reading of a source that is too long. -/
def ofTooLong (hint : Option Dialect) (content limit : String) : Reading :=
  failure (hint.getD .javascript)
    ("Source is " ++ toString content.utf8ByteSize ++ " bytes, limit is " ++ limit) []

theorem read_of_lt (long : bytes < content.utf8ByteSize) :
    read ⟨.int bytes, depth⟩ parses hint (.text content) =
      (Bound.int bytes).printed.map (ofTooLong hint content) := by
  simp only [read, Bound.exceededBy, long, decide_true, bind, Except.bind, if_true]
  rfl

theorem read_of_parse_error (short : content.utf8ByteSize ≤ bytes) {message : String}
    (failed : parse parses depth hint = .error message) :
    read ⟨.int bytes, depth⟩ parses hint (.text content) =
      .ok (failure (hint.getD .javascript) ("Parser unavailable: " ++ message) []) := by
  simp [read, Bound.exceededBy, Int.not_lt.2 short, bind, Except.bind, failed]

theorem read_of_parse_ok (short : content.utf8ByteSize ≤ bytes) {dialect : Dialect}
    {parsed : Parsed} (ended : parse parses depth hint = .ok (dialect, parsed)) :
    read ⟨.int bytes, depth⟩ parses hint (.text content) = ofParsed dialect depth parsed := by
  simp [read, Bound.exceededBy, Int.not_lt.2 short, bind, Except.bind, ended]

end

/-- Why nothing is read of a source, which is given by its code points. -/
inductive Unreadable (bytes depth : Int) (parses : Parses) (hint : Option Dialect)
    (points : List Nat) : Prop where
  | surrogate {point : Nat} (member : point ∈ points) (isSurrogate : Text.isSurrogate point = true)
  | tooLong {content : String} (encoded : Source.ofCodePoints points = .text content)
      (long : bytes < content.utf8ByteSize)
  | noTree {grammar : Grammar} (needed : Needs parses (.atMost depth) hint grammar)
      (absent : parses grammar = none)
  | error {dialect : Dialect} {tree : Tree}
      (chosen : Chooses parses (.atMost depth) hint dialect tree) (isError : tree.label.name = "ERROR")
  | noneRecovered {dialect : Dialect} {tree : Tree}
      (chosen : Chooses parses (.atMost depth) hint dialect tree)
      (nonempty : statementsOf tree ≠ [])
      (lost : ∀ statement ∈ statementsOf tree, recovered statement = false)

section

variable {bytes depth : Int} {parses : Parses} {hint : Option Dialect} {points : List Nat}
  {dialect : Dialect} {tree : Tree}

theorem Chooses.eq_of_hint {limit : DepthLimit} (chosen : Chooses parses limit hint dialect tree)
    (hinted : Dialect) (given : hint = some hinted) : dialect = hinted := by
  cases chosen with
  | hinted yielded => exact Option.some.inj given
  | typed yielded typed => cases given
  | again seen untyped yielded => cases given

/-- No two trees can be chosen. -/
theorem Chooses.unique (chosen : Chooses parses (.atMost depth) hint dialect tree)
    {dialect' : Dialect} {tree' : Tree}
    (chosen' : Chooses parses (.atMost depth) hint dialect' tree') : tree = tree' := by
  have limited : (Bound.int depth).depthLimit = .ok (.atMost depth) := rfl
  have same := (parse_of_chooses limited chosen).symm.trans (parse_of_chooses limited chosen')
  exact congrArg (fun choice => choice.2.root) (Except.ok.inj same)

/-- A text within its limit, from which a tree is chosen, is unreadable if the tree is hopeless. -/
theorem unreadable_iff_of_chooses {content : String}
    (encoded : Source.ofCodePoints points = .text content) (short : content.utf8ByteSize ≤ bytes)
    (chosen : Chooses parses (.atMost depth) hint dialect tree) :
    Unreadable bytes depth parses hint points ↔ isHopeless tree = true := by
  rw [isHopeless_iff]
  constructor
  · intro unreadable
    cases unreadable with
    | surrogate member isSurrogate =>
      have absent := (Source.exists_eq_text_iff points).1 ⟨content, encoded⟩
      exact absurd ⟨_, member, isSurrogate⟩ absent
    | tooLong encoded' long =>
      rw [encoded] at encoded'
      cases encoded'
      omega
    | noTree needed absent =>
      have limited : (Bound.int depth).depthLimit = .ok (.atMost depth) := rfl
      have failed := parse_of_needs limited needed absent
      rw [parse_of_chooses limited chosen] at failed
      cases failed
    | error chosen' isError =>
      cases chosen.unique chosen'
      exact .inl isError
    | noneRecovered chosen' nonempty lost =>
      cases chosen.unique chosen'
      exact .inr ⟨nonempty, lost⟩
  · rintro (isError | ⟨nonempty, lost⟩)
    · exact .error chosen isError
    · exact .noneRecovered chosen nonempty lost

end

/-- Why there is no reading of a source: it exceeds a limit that the message about it would show,
and the limit is too long to be shown. -/
inductive Fails (bytes depth : Int) (parses : Parses) (hint : Option Dialect) (source : Source) :
    Prop where
  | bytes {content : String} (encoded : source = .text content)
      (long : bytes < content.utf8ByteSize) (unwritable : Number.isWritable bytes = false)
  /-- Only a tree that is not hopeless is said to be cut. -/
  | depth {content : String} (encoded : source = .text content)
      (short : content.utf8ByteSize ≤ bytes) {dialect : Dialect} {tree : Tree}
      (chosen : Chooses parses (.atMost depth) hint dialect tree)
      (usable : isHopeless tree = false)
      (cut : (Index.build tree (.atMost depth)).truncated = true)
      (unwritable : Number.isWritable depth = false)

section

variable {bytes depth : Int} {parses : Parses} {hint : Option Dialect} {source : Source}

theorem Fails.unwritable (fails : Fails bytes depth parses hint source) :
    Number.isWritable bytes = false ∨ Number.isWritable depth = false := by
  cases fails with
  | bytes _ _ unwritable => exact .inl unwritable
  | depth _ _ _ _ _ unwritable => exact .inr unwritable

theorem read_of_fails (fails : Fails bytes depth parses hint source) :
    read ⟨.int bytes, .int depth⟩ parses hint source = .error .tooLong := by
  cases fails with
  | bytes encoded long unwritable =>
    rw [encoded, read_of_lt long, Bound.printed_int_of_unwritable unwritable]
    rfl
  | depth encoded short chosen usable cut unwritable =>
    rw [encoded, read_of_parse_ok short (parse_of_chooses rfl chosen), ofParsed]
    simp only [usable, cut, Bound.printed_int_of_unwritable unwritable]
    rfl

theorem exists_read_or_fails (bytes depth : Int) (parses : Parses) (hint : Option Dialect)
    (source : Source) :
    (∃ reading, read ⟨.int bytes, .int depth⟩ parses hint source = .ok reading) ∨
      Fails bytes depth parses hint source := by
  cases source with
  | surrogates value first last => exact .inl ⟨_, rfl⟩
  | text content =>
    by_cases long : bytes < content.utf8ByteSize
    · cases writable : Number.isWritable bytes with
      | false => exact .inr (.bytes rfl long writable)
      | true =>
        rw [read_of_lt long, Bound.printed_int_of_writable writable]
        exact .inl ⟨_, rfl⟩
    · have short := Int.not_lt.1 long
      rcases exists_chooses_or_needs parses (.atMost depth) hint with
        ⟨dialect, tree, chosen⟩ | ⟨grammar, needed, absent⟩
      · rw [read_of_parse_ok short (parse_of_chooses rfl chosen)]
        refine (ofParsed_ok_or_error dialect _ _).imp_right ?_
        rintro ⟨usable, cut, unwritable, -⟩
        exact .depth rfl short chosen usable cut unwritable
      · exact .inl ⟨_, read_of_parse_error short (parse_of_needs rfl needed absent)⟩

/-- With limits that can be shown every source is read. -/
theorem exists_read_of_writable (short : Number.isWritable bytes = true)
    (shallow : Number.isWritable depth = true) (parses : Parses) (hint : Option Dialect)
    (source : Source) :
    ∃ reading, read ⟨.int bytes, .int depth⟩ parses hint source = .ok reading := by
  refine (exists_read_or_fails bytes depth parses hint source).resolve_right fun fails => ?_
  rcases fails.unwritable with unwritable | unwritable
  · cases short.symm.trans unwritable
  · cases shallow.symm.trans unwritable

end

/-- What is read is coherent, and it is nothing for one of five reasons. -/
theorem outcome_of_read {bytes depth : Int} {parses : Parses} {hint : Option Dialect}
    {points : List Nat} {reading : Reading}
    (ended : read ⟨.int bytes, .int depth⟩ parses hint (.ofCodePoints points) = .ok reading) :
    reading.Coherent hint ∧
      (reading.parsed = none ↔ Unreadable bytes depth parses hint points) := by
  have fits : ∀ hinted, hint = some hinted → hint.getD .javascript = hinted := by
    rintro hinted rfl
    rfl
  have alone : ∀ other ∈ ([] : List Diagnostic), other.kind = .parse := by simp
  cases encoded : Source.ofCodePoints points with
  | surrogates value first last =>
    have present : ∃ point ∈ points, Text.isSurrogate point = true := by
      by_contra absent
      obtain ⟨content, text⟩ := (Source.exists_eq_text_iff points).2 absent
      rw [encoded] at text
      cases text
    obtain ⟨point, member, isSurrogate⟩ := present
    rw [encoded] at ended
    cases ended
    exact ⟨coherent_failure fits alone, iff_of_true rfl (.surrogate member isSurrogate)⟩
  | text content =>
    rw [encoded] at ended
    by_cases long : bytes < content.utf8ByteSize
    · rw [read_of_lt long] at ended
      obtain ⟨limit, -, rfl⟩ := map_eq_ok.1 ended
      exact ⟨coherent_failure fits alone, iff_of_true rfl (.tooLong encoded long)⟩
    · have short := Int.not_lt.1 long
      rcases exists_chooses_or_needs parses (.atMost depth) hint with
        ⟨dialect, tree, chosen⟩ | ⟨grammar, needed, absent⟩
      · rw [read_of_parse_ok short (parse_of_chooses rfl chosen)] at ended
        refine ⟨coherent_ofParsed chosen.eq_of_hint ended, ?_⟩
        rw [parsed_ofParsed_eq_none_iff ended, unreadable_iff_of_chooses encoded short chosen]
      · rw [read_of_parse_error short (parse_of_needs rfl needed absent)] at ended
        cases ended
        exact ⟨coherent_failure fits alone, iff_of_true rfl (.noTree needed absent)⟩

/-- Whatever the source, the hint and the trees are, a snippet is read unless it exceeds a limit
that is too long to be shown, which happens only to limits of more digits than a number is written
with. What is read is coherent, and nothing is read exactly when one of five things is in the way. -/
theorem read_outcome (bytes depth : Int) (parses : Parses) (hint : Option Dialect)
    (points : List Nat) :
    ((∃ reading, read ⟨.int bytes, .int depth⟩ parses hint (.ofCodePoints points) = .ok reading) ↔
      ¬Fails bytes depth parses hint (.ofCodePoints points)) ∧
    (∀ fault, read ⟨.int bytes, .int depth⟩ parses hint (.ofCodePoints points) = .error fault ↔
      fault = .tooLong ∧ Fails bytes depth parses hint (.ofCodePoints points)) ∧
    (Fails bytes depth parses hint (.ofCodePoints points) →
      Number.isWritable bytes = false ∨ Number.isWritable depth = false) ∧
    ∀ reading, read ⟨.int bytes, .int depth⟩ parses hint (.ofCodePoints points) = .ok reading →
      reading.Coherent hint ∧
      (reading.parsed = none ↔ Unreadable bytes depth parses hint points) := by
  refine ⟨?_, fun fault => ?_, Fails.unwritable, fun reading ended => outcome_of_read ended⟩
  · constructor
    · rintro ⟨reading, ended⟩ fails
      rw [read_of_fails fails] at ended
      cases ended
    · exact (exists_read_or_fails bytes depth parses hint _).resolve_right
  · constructor
    · intro failed
      rcases exists_read_or_fails bytes depth parses hint (.ofCodePoints points) with
        ⟨reading, ended⟩ | fails
      · cases ended.symm.trans failed
      · cases (read_of_fails fails).symm.trans failed
        exact ⟨rfl, fails⟩
    · rintro ⟨rfl, fails⟩
      exact read_of_fails fails

/-- The limit that has one digit too many, and is below the length of any source. -/
theorem read_fails_at_long_limit :
    read ⟨.int (-Number.tenTo Number.mostDigits), .int 0⟩ (fun _ => none) (some .javascript)
        (.ofCodePoints [0x78]) = .error .tooLong := by
  have encoded : Source.ofCodePoints [0x78] = .text "x" := by decide +kernel
  have unwritable : Number.isWritable (-Number.tenTo Number.mostDigits) = false :=
    (Number.isWritable_neg _).trans Number.isWritable_tenTo
  have long : (-Number.tenTo Number.mostDigits : Int) < "x".utf8ByteSize := by
    have positive : 0 < "x".utf8ByteSize := by decide
    omega
  exact read_of_fails (.bytes encoded long unwritable)

/-! ### Dialects that are found out -/

section

variable {parses : Parses} {limit : DepthLimit}

/-- The tree that is chosen without a hint is the one of the dialect that is found. -/
theorem Chooses.hint {dialect : Dialect} {tree : Tree}
    (chosen : Chooses parses limit none dialect tree)
    (own : dialect ≠ .typescript ∨ parses .typescript = parses .tsx) :
    Chooses parses limit (some dialect) dialect tree := by
  cases chosen with
  | typed yielded typed =>
    apply Chooses.hinted
    -- Both typed dialects are found in one tree, but only one of them has its grammar.
    generalize dialectOf limit tree = dialect at typed own
    cases dialect with
    | javascript => cases typed
    | jsx => cases typed
    | tsx => exact yielded
    | typescript => exact (own.resolve_left (absurd rfl)).trans yielded
  | again seen untyped yielded => exact .hinted yielded

/-- What is missing without a hint, after a first tree, is missing for plain snippets. -/
theorem Needs.hint {grammar : Grammar} (needed : Needs parses limit none grammar)
    (absent : parses grammar = none) (yielded : (parses .tsx).isSome = true) :
    Needs parses limit (some .javascript) grammar := by
  cases needed with
  | first => simp [absent] at yielded
  | again seen untyped =>
    rw [Dialect.grammar_of_not_isTyped untyped]
    exact .hinted .javascript

end

/-- A dialect that was found out could as well have been given, also where nothing is read and where
a limit is in the way. If it is found from typed constructs alone, its own grammar has to yield the
tree that it was found in. -/
theorem read_detected (bytes depth : Int) (parses : Parses) (source : Source)
    (yielded : (parses .tsx).isSome = true) :
    ∃ dialect,
      (∀ reading, read ⟨.int bytes, .int depth⟩ parses none source = .ok reading →
        reading.profile.dialect = dialect) ∧
      (dialect ≠ .typescript ∨ parses .typescript = parses .tsx →
        read ⟨.int bytes, .int depth⟩ parses (some dialect) source =
          read ⟨.int bytes, .int depth⟩ parses none source) ∧
      (Number.isWritable bytes = true → Number.isWritable depth = true →
        ∃ reading, read ⟨.int bytes, .int depth⟩ parses none source = .ok reading) := by
  have readable (first : Number.isWritable bytes = true)
      (second : Number.isWritable depth = true) :=
    exists_read_of_writable first second parses none source
  cases source with
  | surrogates value first last =>
    refine ⟨.javascript, fun reading ended => ?_, fun _ => rfl, readable⟩
    cases ended
    rfl
  | text content =>
    by_cases long : bytes < content.utf8ByteSize
    · rw [read_of_lt long] at readable ⊢
      refine ⟨.javascript, fun reading ended => ?_, fun _ => read_of_lt long, readable⟩
      obtain ⟨limit, -, rfl⟩ := map_eq_ok.1 ended
      rfl
    · have short := Int.not_lt.1 long
      rcases exists_chooses_or_needs parses (.atMost depth) none with
        ⟨dialect, tree, chosen⟩ | ⟨grammar, needed, absent⟩
      · rw [read_of_parse_ok short (parse_of_chooses rfl chosen)] at readable ⊢
        refine ⟨dialect, fun reading made => dialect_ofParsed made, fun own => ?_, readable⟩
        exact read_of_parse_ok short (parse_of_chooses rfl (chosen.hint own))
      -- Where the second tree is missing, the dialect is the plain one and not the one found.
      · rw [read_of_parse_error short (parse_of_needs rfl needed absent)] at readable ⊢
        refine ⟨.javascript, fun reading ended => ?_, fun _ => ?_, readable⟩
        · cases ended
          rfl
        · exact read_of_parse_error short (parse_of_needs rfl (needed.hint absent yielded) absent)

/-- Markup below the limit on depth, with another tree for the plain grammar than for the first. -/
theorem read_detected_markup :
    let element : Tree := .node { name := "jsx_self_closing_element", text := "<a/>" }
      [.node { name := "identifier", role := some .name, text := "a" } []]
    let statement : Tree := .node { name := "expression_statement", text := "<a/>" } [element]
    let parses : Parses
      | .tsx => some (.node { name := "program" } [statement])
      | .typescript => none
      | .javascript =>
        some (.node { name := "program" } [statement, .node { name := "comment" } []])
    ∃ reading, read ⟨.int 4, .int 2⟩ parses none (.text "<a/>") = .ok reading ∧
      reading.profile = { dialect := .jsx, isReact := true } ∧
      reading.diagnostics = [{ message := "Tree deeper than 2 levels; truncated" }] ∧
      read ⟨.int 4, .int 2⟩ parses (some .jsx) (.text "<a/>") = .ok reading := by
  intro element statement parses
  obtain ⟨dialect, found, same, -⟩ := read_detected 4 2 parses (.text "<a/>") rfl
  have computed : (read ⟨.int 4, .int 2⟩ parses none (.text "<a/>")).toOption.any (fun reading =>
      reading.profile = { dialect := .jsx, isReact := true } ∧
        reading.diagnostics = [{ message := "Tree deeper than 2 levels; truncated" }]) = true := by
    decide +kernel
  obtain ⟨reading, ended, facts⟩ := exists_ok_of_any computed
  obtain ⟨profile, diagnostics⟩ := of_decide_eq_true facts
  have detected := found reading ended
  rw [profile] at detected
  subst detected
  exact ⟨reading, ended, profile, diagnostics, (same (.inl (by decide))).trans ended⟩

end Reading

end SnippetTutor
