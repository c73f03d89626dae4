import TableTalk.Plan.Build
import TableTalk.Proofs.Failing

/-!
# What is built of answers

The answers to the rounds of a kind are the parameters of a transformation.  `Built` says
which transformation they make up, one case for each form; everything else about building is
read off it: the kind and the number of rounds of what is built, the columns it works on,
and that no failure is final.

## Main definitions

* `Transformation.rounds` — how many rounds it takes to acquire a transformation.
* `Transformation.Built` — the transformation that parameters make up.

## Main results

* `Transformation.ofArguments_eq_ok_iff` — building yields exactly what is built.
* `Transformation.isRecoverable_of_ofArguments` — other answers can mend every failure.
* `Kind.length_le_rounds` — an answer to an open round is never one too many.
-/

namespace TableTalk

/-! ### Words -/

theorem Direction.read?_label (d : Direction) :
    Vocabulary.read? (Vocabulary.label d) = some d := by cases d <;> rfl

theorem Relation.read?_label (r : Relation) :
    Vocabulary.read? (Vocabulary.label r) = some r := by cases r <;> rfl

theorem Aggregate.read?_label (a : Aggregate) :
    Vocabulary.read? (Vocabulary.label a) = some a := by cases a <;> rfl

namespace Kind

theorem resolve?_name (k : Kind) : resolve? k.name = some k := by cases k <;> rfl

@[simp] theorem read_name (k : Kind) : read k.name = .ok k := by
  unfold read
  rw [resolve?_name]

theorem exists_name_of_mem {label : String} (h : label ∈ names) : ∃ k : Kind, label = k.name := by
  obtain ⟨k, -, rfl⟩ := List.mem_map.1 h
  exact ⟨k, rfl⟩

/-- Every kind but the one that ends a query works on any column. -/
theorem targets_of_ne_empty {k : Kind} (h : k ≠ .empty) (schema : Schema) :
    k.targets schema = schema.names := by
  cases k with
  | empty => exact absurd rfl h
  | dropColumn | sortBy | groupBy | filterBy => rfl

/-! ### Rounds -/

theorem rounds_of_ne_groupBy {k : Kind} (h : k ≠ .groupBy) (a b : Option String) :
    k.rounds a = k.rounds b := by
  cases k <;> first | rfl | exact absurd rfl h

theorem two_le_rounds_groupBy (a : Option String) : 2 ≤ Kind.groupBy.rounds a := by
  simp only [rounds]
  split
  · split <;> omega
  · omega

theorem rounds_pos {k : Kind} (h : k ≠ .empty) (a : Option String) : 0 < k.rounds a := by
  cases k with
  | empty => exact absurd rfl h
  | dropColumn | sortBy | filterBy => simp [rounds]
  | groupBy =>
    have := two_le_rounds_groupBy a
    omega

theorem rounds_le_three (k : Kind) (a : Option String) : k.rounds a ≤ 3 := by
  cases k with
  | empty | dropColumn | sortBy | filterBy => simp [rounds]
  | groupBy =>
    simp only [rounds]
    split
    · split <;> omega
    · omega

/-- The answer to an open round is never one too many, although the answer to the second
round of a grouping may do away with the third. -/
theorem length_le_rounds {k : Kind} {answers : List String}
    (h : answers.length < k.rounds answers[1]?) (a : String) :
    (answers ++ [a]).length ≤ k.rounds (answers ++ [a])[1]? := by
  rw [List.length_append, List.length_singleton]
  by_cases hk : k = .groupBy
  · subst hk
    rcases Nat.lt_or_ge answers.length 2 with hlt | hge
    · have := two_le_rounds_groupBy (answers ++ [a])[1]?
      omega
    · rw [List.getElem?_append_left (by omega)]
      exact h
  · rw [rounds_of_ne_groupBy hk _ answers[1]?]
    exact h

/-- While a round is open, the next one is open or awaits its answer. -/
theorem round?_eq_none_iff {k : Kind} {n : Nat} {a : Option String} :
    k.round? n a = none ↔ k.rounds a ≤ n := by
  unfold round?
  split
  · next h => simp [h]
  · next h => split <;> simp [h]

end Kind

/-- How many rounds are in front of a round. -/
def Round.position : Round → Nat
  | .target => 0
  | .argument => 1
  | .freeform => 2

/-- The round that comes next is the one with as many rounds in front of it as are answered. -/
theorem Kind.eq_position_of_round? {k : Kind} {n : Nat} {a : Option String} {round : Round}
    (h : k.round? n a = some round) : n = round.position := by
  have hle := k.rounds_le_three a
  unfold round? at h
  split at h
  · cases h
  · next hlt =>
    split at h
    · cases h
      rfl
    · cases h
      rfl
    · next h₀ h₁ =>
      cases h
      have : n ≠ 0 := h₀
      have : n ≠ 1 := h₁
      show n = 2
      omega

/-! ### Transformations -/

namespace Transformation

/-- How many rounds it takes to acquire a transformation. -/
def rounds (t : Transformation) : Nat := t.kind.rounds t.arguments[1]?

/-- The transformation that parameters of a kind make up. -/
inductive Built : Kind → List String → Transformation → Prop
  /-- No parameter counts. -/
  | empty (arguments : List String) : Built .empty arguments .empty
  /-- Every parameter is a column. -/
  | dropColumn (column : String) (columns : List String) :
    Built .dropColumn (column :: columns) (.dropColumn (column :: columns).eraseDups)
  /-- A column and a direction. -/
  | sortBy {word : String} {direction : Direction} (column : String) (rest : List String)
    (hword : Vocabulary.read? word = some direction) :
    Built .sortBy (column :: word :: rest) (.sortBy column direction)
  /-- A column and an aggregate that asks for no keys. -/
  | groupAll {word : String} {aggregate : Aggregate} (column : String) (lists : List String)
    (hword : Vocabulary.read? word = some aggregate) (hkeys : aggregate.needsKeys = false) :
    Built .groupBy (column :: word :: lists) (.groupBy column aggregate .empty)
  /-- A column, an aggregate and at least one key. -/
  | groupKeys {word : String} {aggregate : Aggregate} (column : String) {lists : List String}
    (hword : Vocabulary.read? word = some aggregate) (hkeys : aggregate.needsKeys = true)
    (hlists : lists ≠ []) (hsome : (KeySet.ofTokens lists).isEmpty = false) :
    Built .groupBy (column :: word :: lists) (.groupBy column aggregate (.ofTokens lists))
  /-- A column, a relation and a literal. -/
  | filterBy {word : String} {relation : Relation} (column literal : String) (rest : List String)
    (hword : Vocabulary.read? word = some relation) :
    Built .filterBy (column :: word :: literal :: rest) (.filterBy ⟨column, relation, literal⟩)

theorem readToken_eq_ok_iff {α : Type} [Vocabulary α] {role : TokenRole} {token : String} {a : α} :
    readToken role token = .ok a ↔ Vocabulary.read? token = some a := by
  unfold readToken
  cases (Vocabulary.read? token : Option α) <;> simp

theorem readKeys_eq_ok_iff {lists : List String} {keys : KeySet} :
    readKeys lists = .ok keys ↔
      (KeySet.ofTokens lists).isEmpty = false ∧ keys = .ofTokens lists := by
  unfold readKeys
  cases h : (KeySet.ofTokens lists).isEmpty <;> simp [h, eq_comm]

theorem built_of_ofArguments {k : Kind} {arguments : List String} {t : Transformation}
    (h : ofArguments k arguments = .ok t) : Built k arguments t := by
  unfold ofArguments at h
  split at h
  · cases h
    exact .empty _
  · cases h
    exact .dropColumn _ _
  · next column word rest =>
    obtain ⟨direction, hword, h⟩ := Except.bind_eq_ok_iff.1 h
    cases h
    exact .sortBy column rest (readToken_eq_ok_iff.1 hword)
  · next column word lists =>
    obtain ⟨aggregate, hword, h⟩ := Except.bind_eq_ok_iff.1 h
    have hword := readToken_eq_ok_iff.1 hword
    cases hkeys : aggregate.needsKeys with
    | false =>
      simp only [hkeys, Bool.not_false, if_true] at h
      cases h
      exact .groupAll column lists hword hkeys
    | true =>
      simp only [hkeys, Bool.not_true, Bool.false_eq_true, if_false] at h
      split at h
      · cases h
      · next hlists =>
        obtain ⟨keys, hread, h⟩ := Except.bind_eq_ok_iff.1 h
        obtain ⟨hsome, rfl⟩ := readKeys_eq_ok_iff.1 hread
        cases h
        exact .groupKeys column hword hkeys (by simpa using hlists) hsome
  · next column word literal rest =>
    obtain ⟨relation, hword, h⟩ := Except.bind_eq_ok_iff.1 h
    cases h
    exact .filterBy column literal rest (readToken_eq_ok_iff.1 hword)
  · cases h

theorem Built.ofArguments_eq {k : Kind} {arguments : List String} {t : Transformation}
    (h : Built k arguments t) : ofArguments k arguments = .ok t := by
  cases h with
  | empty => rfl
  | dropColumn => rfl
  | sortBy column rest hword =>
    simp only [ofArguments, readToken_eq_ok_iff.2 hword]
    rfl
  | groupAll column lists hword hkeys =>
    simp only [ofArguments, readToken_eq_ok_iff.2 hword, Except.ok_bind, hkeys]
    rfl
  | groupKeys column hword hkeys hlists hsome =>
    simp only [ofArguments, readToken_eq_ok_iff.2 hword, Except.ok_bind, hkeys,
      readKeys_eq_ok_iff.2 ⟨hsome, rfl⟩, List.isEmpty_eq_false_iff.2 hlists]
    rfl
  | filterBy column literal rest hword =>
    simp only [ofArguments, readToken_eq_ok_iff.2 hword]
    rfl

/-- Building yields exactly what is built. -/
theorem ofArguments_eq_ok_iff {k : Kind} {arguments : List String} {t : Transformation} :
    ofArguments k arguments = .ok t ↔ Built k arguments t :=
  ⟨built_of_ofArguments, Built.ofArguments_eq⟩

@[simp] theorem build_name (k : Kind) (arguments : List String) :
    build k.name arguments = ofArguments k arguments := by
  unfold build
  rw [Kind.read_name, Except.ok_bind]

/-! ### What can be told of what is built -/

theorem Built.kind_eq {k : Kind} {arguments : List String} {t : Transformation}
    (h : Built k arguments t) : t.kind = k := by
  cases h <;> rfl

theorem built_of_build {kind : String} {arguments : List String} {t : Transformation}
    (h : build kind arguments = .ok t) : Built t.kind arguments t := by
  obtain ⟨k, -, h⟩ := Except.bind_eq_ok_iff.1 h
  have hbuilt := built_of_ofArguments h
  exact hbuilt.kind_eq.symm ▸ hbuilt

/-- What is built takes as many rounds as its parameters ask for. -/
theorem Built.rounds_eq {k : Kind} {arguments : List String} {t : Transformation}
    (h : Built k arguments t) : t.rounds = k.rounds arguments[1]? := by
  cases h with
  | empty | dropColumn | sortBy | filterBy => rfl
  | groupAll column lists hword hkeys =>
    simp [rounds, kind, Transformation.arguments, Kind.rounds, Aggregate.read?_label, hword]
  | groupKeys column hword hkeys hlists hsome =>
    simp [rounds, kind, Transformation.arguments, Kind.rounds, Aggregate.read?_label, hword]

theorem isRecoverable_of_readToken {α : Type} [Vocabulary α] {role : TokenRole} {token : String}
    {e : TransformError} (h : (readToken role token : Except TransformError α) = .error e) :
    e.isRecoverable = true := by
  unfold readToken at h
  split at h <;> cases h
  rfl

theorem isRecoverable_of_readKeys {lists : List String} {e : TransformError}
    (h : readKeys lists = .error e) : e.isRecoverable = true := by
  simp only [readKeys] at h
  split at h <;> cases h
  rfl

/-- Other answers can mend every failure to build. -/
theorem isRecoverable_of_ofArguments {k : Kind} {arguments : List String} {e : TransformError}
    (h : ofArguments k arguments = .error e) : e.isRecoverable = true := by
  unfold ofArguments at h
  split at h
  · cases h
  · cases h
  · rcases Except.bind_eq_error_iff.1 h with h | ⟨_, -, h⟩
    · exact isRecoverable_of_readToken h
    · cases h
  · rcases Except.bind_eq_error_iff.1 h with h | ⟨aggregate, -, h⟩
    · exact isRecoverable_of_readToken h
    · split at h
      · cases h
      · split at h
        · cases h
          rfl
        · rcases Except.bind_eq_error_iff.1 h with h | ⟨_, -, h⟩
          · exact isRecoverable_of_readKeys h
          · cases h
  · rcases Except.bind_eq_error_iff.1 h with h | ⟨_, -, h⟩
    · exact isRecoverable_of_readToken h
    · cases h
  · cases h
    rfl

end Transformation
end TableTalk
