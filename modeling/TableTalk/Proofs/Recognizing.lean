import TableTalk.Proofs.Wording

/-!
# Which parameters build a transformation

A kind takes a column, a word of its vocabulary and, as the third parameter, a literal or lists of
keys.  `Accepts` has one case for each line of parameters that a kind takes, `Refuses` one for each
reason why it does not take another one.  Both are about the spellings of words and never about
what is built.

How many parameters are needed hangs on the second one, which may be no word at all.  So the count
is taken before that word is read, and only a grouping reports a wrong word in spite of it.  The
count suffices for every parameter to be found in its place, although it is looked up there
without another check.

## Main definitions

* `Kind.Accepts`, `Kind.Refuses` — the parameters that a kind takes, and why it takes no others.
* `Transformation.buildByPosition` — building with each parameter looked up at its position.

## Main results

* `Transformation.accepts_iff`, `Transformation.refuses_iff` — what parameters come to.
* `Transformation.run_ofPositions` — no parameter is looked up behind the last one.
* `Transformation.recognized` — **what a token and parameters come to.**
-/

namespace TableTalk
namespace Kind

/-! ### Parameters of a kind -/

/-- A piece between commas is not blank. -/
def ListsKey (lists : List String) : Prop :=
  ∃ list ∈ lists, ∃ piece ∈ Text.commaPieces list, Text.isBlank piece = false

/-- The parameters that a kind takes. -/
inductive Accepts : Kind → List String → Prop
  /-- Any parameters. -/
  | empty (arguments : List String) : Accepts .empty arguments
  /-- At least one column. -/
  | dropColumn (column : String) (columns : List String) : Accepts .dropColumn (column :: columns)
  /-- A column and a direction. -/
  | sortBy {word : String} (column : String) (rest : List String)
    (hword : word ∈ Vocabulary.spellings Direction) : Accepts .sortBy (column :: word :: rest)
  /-- A column and the aggregate that asks for no keys. -/
  | groupAll (column : String) (rest : List String) :
    Accepts .groupBy (column :: "GroupKey" :: rest)
  /-- A column, another aggregate and at least one key. -/
  | groupKeys {word : String} {lists : List String} (column : String)
    (hword : word ∈ Vocabulary.spellings Aggregate) (hne : word ≠ "GroupKey")
    (hkey : ListsKey lists) : Accepts .groupBy (column :: word :: lists)
  /-- A column, a relation and a literal. -/
  | filterBy {word : String} (column literal : String) (rest : List String)
    (hword : word ∈ Vocabulary.spellings Relation) :
    Accepts .filterBy (column :: word :: literal :: rest)

/-- Why a kind does not take parameters. -/
inductive Refuses : Kind → List String → TransformError → Prop
  /-- There are too few of them, and a grouping has no second one or one that is a word. -/
  | missing {k : Kind} {arguments : List String} (hfew : arguments.length < k.rounds arguments[1]?)
    (hword : k = .groupBy → ∀ word, arguments[1]? = some word →
      word ∈ Vocabulary.spellings Aggregate) :
    Refuses k arguments (.missing (some k) (k.rounds arguments[1]?) arguments.length)
  /-- The second one is no direction. -/
  | direction {word : String} (column : String) (rest : List String)
    (hword : word ∉ Vocabulary.spellings Direction) :
    Refuses .sortBy (column :: word :: rest) (.unrecognized .direction word)
  /-- The second one is no aggregate, whether there is a third one or not. -/
  | aggregate {word : String} (column : String) (rest : List String)
    (hword : word ∉ Vocabulary.spellings Aggregate) :
    Refuses .groupBy (column :: word :: rest) (.unrecognized .aggregate word)
  /-- There are lists of keys, and no key in them. -/
  | keys {word : String} {lists : List String} (column : String)
    (hword : word ∈ Vocabulary.spellings Aggregate) (hne : word ≠ "GroupKey")
    (hlists : lists ≠ []) (hkey : ¬ListsKey lists) :
    Refuses .groupBy (column :: word :: lists) (.unrecognized .keys (" ".intercalate lists))
  /-- The second one of three is no relation. -/
  | relation {word : String} (column literal : String) (rest : List String)
    (hword : word ∉ Vocabulary.spellings Relation) :
    Refuses .filterBy (column :: word :: literal :: rest) (.unrecognized .relation word)

end Kind

namespace Transformation

open Vocabulary

theorem listsKey_iff {lists : List String} :
    (KeySet.ofTokens lists).isEmpty = false ↔ Kind.ListsKey lists :=
  KeySet.isEmpty_ofTokens_eq_false_iff_piece

/-- Something is built of exactly the parameters that the kind takes. -/
theorem accepts_iff {k : Kind} {arguments : List String} :
    (∃ t, ofArguments k arguments = .ok t) ↔ k.Accepts arguments := by
  simp only [ofArguments_eq_ok_iff]
  constructor
  · rintro ⟨t, hbuilt⟩
    cases hbuilt with
    | empty => exact .empty _
    | dropColumn column columns => exact .dropColumn column columns
    | sortBy column rest hword => exact .sortBy column rest (exists_read?_iff.1 ⟨_, hword⟩)
    | groupAll column lists hword hkeys =>
      rw [Aggregate.needsKeys_eq_false_iff hword] at hkeys
      exact hkeys ▸ .groupAll column lists
    | groupKeys column hword hkeys hlists hsome =>
      refine .groupKeys column (exists_read?_iff.1 ⟨_, hword⟩) ?_ (listsKey_iff.1 hsome)
      rw [ne_eq, ← Aggregate.needsKeys_eq_false_iff hword, hkeys]
      exact Bool.true_eq_false.mp
    | filterBy column literal rest hword =>
      exact .filterBy column literal rest (exists_read?_iff.1 ⟨_, hword⟩)
  · intro haccepts
    cases haccepts with
    | empty => exact ⟨_, .empty _⟩
    | dropColumn column columns => exact ⟨_, .dropColumn column columns⟩
    | sortBy column rest hword =>
      obtain ⟨direction, hread⟩ := exists_read?_iff.2 hword
      exact ⟨_, .sortBy column rest hread⟩
    | groupAll column rest =>
      have hread : Vocabulary.read? "GroupKey" = some Aggregate.groupKey := rfl
      exact ⟨_, .groupAll column rest hread rfl⟩
    | @groupKeys word lists column hword hne hkey =>
      obtain ⟨aggregate, hread⟩ := exists_read?_iff.2 hword
      have hkeys := Aggregate.needsKeys_of_ne hread hne
      have hlists : lists ≠ [] := by
        rintro rfl
        obtain ⟨list, hlist, -⟩ := hkey
        cases hlist
      exact ⟨_, .groupKeys column hread hkeys hlists (listsKey_iff.2 hkey)⟩
    | filterBy column literal rest hword =>
      obtain ⟨relation, hread⟩ := exists_read?_iff.2 hword
      exact ⟨_, .filterBy column literal rest hread⟩

theorem readToken_eq_error_iff {α : Type} [Vocabulary α] {role : TokenRole} {token : String}
    {e : TransformError} : (readToken role token : Except TransformError α) = .error e ↔
      token ∉ spellings α ∧ e = .unrecognized role token := by
  rw [← read?_eq_none_iff]
  unfold readToken
  cases (read? token : Option α) <;> simp [eq_comm]

theorem readKeys_eq_error_iff {lists : List String} {e : TransformError} :
    readKeys lists = .error e ↔
      ¬Kind.ListsKey lists ∧ e = .unrecognized .keys (" ".intercalate lists) := by
  rw [← listsKey_iff]
  unfold readKeys
  cases h : (KeySet.ofTokens lists).isEmpty <;> simp [h, eq_comm]

/-- With an aggregate as the second parameter, a grouping lacks lists of keys or needs none. -/
theorem rounds_groupBy {word : String} (hword : word ∈ spellings Aggregate) :
    Kind.groupBy.rounds (some word) = if word = "GroupKey" then 2 else 3 := by
  obtain ⟨aggregate, hread⟩ := exists_read?_iff.2 hword
  simp only [Kind.rounds, Option.bind_some, hread]
  by_cases hne : word = "GroupKey"
  · simp [(Aggregate.needsKeys_eq_false_iff hread).2 hne, hne]
  · simp [Aggregate.needsKeys_of_ne hread hne, hne]

theorem refuses_of_groupBy {column word : String} {lists : List String} {e : TransformError}
    (h : ofArguments .groupBy (column :: word :: lists) = .error e) :
    Kind.groupBy.Refuses (column :: word :: lists) e := by
  obtain herror | ⟨aggregate, hread, hrest⟩ := Except.bind_eq_error_iff.1 h
  · obtain ⟨hword, rfl⟩ := readToken_eq_error_iff.1 herror
    exact .aggregate column lists hword
  · have hread := readToken_eq_ok_iff.1 hread
    have hword := exists_read?_iff.1 ⟨_, hread⟩
    have hkeys := Aggregate.needsKeys_eq_false_iff hread
    split at hrest
    · cases hrest
    · next hneeds =>
      have hne : word ≠ "GroupKey" := fun heq => hneeds (by simp [hkeys.2 heq])
      split at hrest
      · next hlists =>
        cases List.isEmpty_iff.1 hlists
        cases hrest
        have hrounds : Kind.groupBy.rounds [column, word][1]? = 3 := by
          rw [List.getElem?_cons_succ, List.getElem?_cons_zero, rounds_groupBy hword, if_neg hne]
        have hfew : [column, word].length < Kind.groupBy.rounds [column, word][1]? := by
          rw [hrounds]
          exact Nat.lt_succ_self 2
        have hmissing := Kind.Refuses.missing hfew fun _ w hw => by cases hw; exact hword
        rwa [hrounds] at hmissing
      · next hlists =>
        obtain herror | ⟨_, -, hok⟩ := Except.bind_eq_error_iff.1 hrest
        · obtain ⟨hkey, rfl⟩ := readKeys_eq_error_iff.1 herror
          exact .keys column hword hne (by simpa using hlists) hkey
        · cases hok

/-- Without a second parameter no word is at fault, and only the count is. -/
theorem refuses_of_missing {k : Kind} {arguments : List String} {e : TransformError}
    (hfew : arguments.length < k.rounds arguments[1]?)
    (hnone : k = .groupBy → arguments[1]? = none)
    (h : .error (.missing (some k) (k.rounds arguments[1]?) arguments.length) =
      (.error e : Except TransformError Transformation)) : k.Refuses arguments e := by
  cases h
  refine .missing hfew ?_
  intro hk word hword
  rw [hnone hk] at hword
  cases hword

theorem refuses_of_ofArguments {k : Kind} {arguments : List String} {e : TransformError}
    (h : ofArguments k arguments = .error e) : k.Refuses arguments e := by
  cases k with
  | empty => cases h
  | dropColumn =>
    cases arguments with
    | nil => exact refuses_of_missing (by decide) (by simp) h
    | cons column columns => cases h
  | sortBy =>
    rcases arguments with _ | ⟨column, _ | ⟨word, rest⟩⟩
    · exact refuses_of_missing (by decide) (by simp) h
    · exact refuses_of_missing (by simp [Kind.rounds]) (by simp) h
    · obtain herror | ⟨_, -, hok⟩ := Except.bind_eq_error_iff.1 h
      · obtain ⟨hword, rfl⟩ := readToken_eq_error_iff.1 herror
        exact .direction column rest hword
      · cases hok
  | groupBy =>
    rcases arguments with _ | ⟨column, _ | ⟨word, lists⟩⟩
    · exact refuses_of_missing (by decide) (by simp) h
    · exact refuses_of_missing (by simp [Kind.rounds]) (by simp) h
    · exact refuses_of_groupBy h
  | filterBy =>
    rcases arguments with _ | ⟨column, _ | ⟨word, _ | ⟨literal, rest⟩⟩⟩
    · exact refuses_of_missing (by decide) (by simp) h
    · exact refuses_of_missing (by simp [Kind.rounds]) (by simp) h
    · exact refuses_of_missing (by simp [Kind.rounds]) (by simp) h
    · obtain herror | ⟨_, -, hok⟩ := Except.bind_eq_error_iff.1 h
      · obtain ⟨hword, rfl⟩ := readToken_eq_error_iff.1 herror
        exact .relation column literal rest hword
      · cases hok

theorem ofArguments_of_missing {k : Kind} {arguments : List String}
    (hfew : arguments.length < k.rounds arguments[1]?)
    (hword : k = .groupBy → ∀ word, arguments[1]? = some word → word ∈ spellings Aggregate) :
    ofArguments k arguments =
      .error (.missing (some k) (k.rounds arguments[1]?) arguments.length) := by
  have hthree := k.rounds_le_three arguments[1]?
  match k, arguments, hfew with
  | .empty, _, hfew => exact absurd hfew (Nat.not_lt_zero _)
  | .dropColumn, [], _ => rfl
  | .dropColumn, _ :: _, hfew => simp [Kind.rounds] at hfew
  | .sortBy, [], _ => rfl
  | .sortBy, [_], _ => rfl
  | .sortBy, _ :: _ :: _, hfew =>
    simp only [Kind.rounds, List.length_cons] at hfew
    omega
  | .groupBy, [], _ => rfl
  | .groupBy, [_], _ => rfl
  | .groupBy, [column, word], hfew =>
    have hmem := hword rfl word rfl
    have hrounds : Kind.groupBy.rounds [column, word][1]? = if word = "GroupKey" then 2 else 3 :=
      rounds_groupBy hmem
    have hne : word ≠ "GroupKey" := by
      rintro rfl
      rw [hrounds] at hfew
      exact absurd hfew (Nat.lt_irrefl 2)
    obtain ⟨aggregate, hread⟩ := exists_read?_iff.2 hmem
    have hneeds := Aggregate.needsKeys_of_ne hread hne
    rw [hrounds, if_neg hne]
    simp only [ofArguments, readToken_eq_ok_iff.2 hread, Except.ok_bind, hneeds]
    rfl
  | .groupBy, _ :: _ :: _ :: _, hfew =>
    simp only [List.length_cons] at hfew
    omega
  | .filterBy, [], _ => rfl
  | .filterBy, [_], _ => rfl
  | .filterBy, [_, _], _ => rfl
  | .filterBy, _ :: _ :: _ :: _, hfew =>
    simp only [List.length_cons] at hfew
    omega

theorem ofArguments_of_refuses {k : Kind} {arguments : List String} {e : TransformError}
    (h : k.Refuses arguments e) : ofArguments k arguments = .error e := by
  cases h with
  | missing hfew hword => exact ofArguments_of_missing hfew hword
  | direction column rest hword =>
    simp only [ofArguments, readToken_eq_error_iff.2 ⟨hword, rfl⟩]
    rfl
  | aggregate column rest hword =>
    simp only [ofArguments, readToken_eq_error_iff.2 ⟨hword, rfl⟩]
    rfl
  | keys column hword hne hlists hkey =>
    obtain ⟨aggregate, hread⟩ := exists_read?_iff.2 hword
    have hneeds := Aggregate.needsKeys_of_ne hread hne
    simp only [ofArguments, readToken_eq_ok_iff.2 hread, Except.ok_bind, hneeds,
      readKeys_eq_error_iff.2 ⟨hkey, rfl⟩, List.isEmpty_eq_false_iff.2 hlists]
    rfl
  | relation column literal rest hword =>
    simp only [ofArguments, readToken_eq_error_iff.2 ⟨hword, rfl⟩]
    rfl

/-- Nothing is built of parameters exactly for the reasons for which the kind does not take
them. -/
theorem refuses_iff {k : Kind} {arguments : List String} {e : TransformError} :
    ofArguments k arguments = .error e ↔ k.Refuses arguments e :=
  ⟨refuses_of_ofArguments, ofArguments_of_refuses⟩

/-! ### Parameters looked up at their positions -/

/-- What comes of look-ups in a list: nothing if one of them is behind the end of the list, and
otherwise a value or a failure. -/
abbrev LookUp := ExceptT TransformError Option

/-- The parameter at a position. -/
def parameter (arguments : List String) (i : Nat) : LookUp String :=
  ExceptT.mk (arguments[i]?.map .ok)

/-- The parameters from a position on. -/
def parametersFrom (arguments : List String) (i : Nat) : LookUp (List String) :=
  ExceptT.mk (if i ≤ arguments.length then some (.ok (arguments.drop i)) else none)

/-- The transformation of a kind with each parameter looked up at its position.  The number of
parameters is checked once, in front of all look-ups. -/
def ofPositions (k : Kind) (arguments : List String) : LookUp Transformation :=
  let expected := k.rounds arguments[1]?
  if arguments.length < expected then do
    if k = .groupBy then
      if let some word := arguments[1]? then
        let _ : Aggregate ← readToken .aggregate word
    throw (.missing (some k) expected arguments.length)
  else match k with
    | .empty => return .empty
    | .dropColumn => return .dropColumn arguments.eraseDups
    | .sortBy => do
      let column ← parameter arguments 0
      return .sortBy column (← readToken .direction (← parameter arguments 1))
    | .groupBy => do
      let aggregate : Aggregate ← readToken .aggregate (← parameter arguments 1)
      let keys ← if aggregate.needsKeys then do readKeys (← parametersFrom arguments 2)
        else pure .empty
      return .groupBy (← parameter arguments 0) aggregate keys
    | .filterBy => do
      let column ← parameter arguments 0
      let relation : Relation ← readToken .relation (← parameter arguments 1)
      return .filterBy ⟨column, relation, ← parameter arguments 2⟩

/-- The transformation whose kind a token names, with each parameter looked up at its position. -/
def buildByPosition (token : String) (arguments : List String) : LookUp Transformation := do
  let k : Kind ← Kind.read token
  ofPositions k arguments

theorem parameter_eq {arguments : List String} {i : Nat} {s : String}
    (h : arguments[i]? = some s) : parameter arguments i = pure s := by
  rw [parameter, h]
  rfl

theorem parametersFrom_eq {arguments : List String} {i : Nat} (h : i ≤ arguments.length) :
    parametersFrom arguments i = pure (arguments.drop i) := by
  rw [parametersFrom, if_pos h]
  rfl

theorem liftM_ok {α : Type} (a : α) :
    (liftM (Except.ok a : Except TransformError α) : LookUp α) = pure a := rfl

/-- A list with as many parameters as are needed holds all that are looked up. -/
theorem run_ofPositions_of_le {k : Kind} {arguments : List String}
    (hle : k.rounds arguments[1]? ≤ arguments.length) :
    (ofPositions k arguments).run = some (ofArguments k arguments) := by
  unfold ofPositions
  simp only [Nat.not_lt.2 hle, if_false]
  match k, arguments, hle with
  | .empty, _, _ => rfl
  | .dropColumn, _ :: _, _ => rfl
  | .sortBy, [], hle => exact absurd hle (by decide)
  | .sortBy, [_], hle => exact absurd hle (by simp [Kind.rounds])
  | .sortBy, column :: word :: rest, _ =>
    have hword : (column :: word :: rest)[1]? = some word := rfl
    simp only [parameter_eq List.getElem?_cons_zero, parameter_eq hword, pure_bind, ofArguments]
    cases (readToken .direction word : Except TransformError Direction) <;> rfl
  | .groupBy, [], hle => exact absurd hle (by decide)
  | .groupBy, [_], hle => exact absurd hle (by simp [Kind.rounds])
  | .groupBy, column :: word :: lists, hle =>
    have hword : (column :: word :: lists)[1]? = some word := rfl
    simp only [parameter_eq List.getElem?_cons_zero, parameter_eq hword, pure_bind, ofArguments]
    cases hread : (readToken .aggregate word : Except TransformError Aggregate) with
    | error e => rfl
    | ok aggregate =>
      rw [liftM_ok, pure_bind, Except.ok_bind]
      cases hneeds : aggregate.needsKeys with
      | false => rfl
      | true =>
        -- Where keys are needed, three parameters are.
        have hlists : lists ≠ [] := by
          rintro rfl
          rw [hword] at hle
          simp [Kind.rounds, readToken_eq_ok_iff.1 hread, hneeds] at hle
        have hfrom : 2 ≤ (column :: word :: lists).length := by simp
        simp only [parametersFrom_eq hfrom, List.drop_succ_cons, List.drop_zero, pure_bind, if_true,
          List.isEmpty_eq_false_iff.2 hlists]
        cases readKeys lists <;> rfl
  | .filterBy, [], hle => exact absurd hle (by decide)
  | .filterBy, [_], hle => exact absurd hle (by simp [Kind.rounds])
  | .filterBy, [_, _], hle => exact absurd hle (by simp [Kind.rounds])
  | .filterBy, column :: word :: literal :: rest, _ =>
    have hword : (column :: word :: literal :: rest)[1]? = some word := rfl
    have hliteral : (column :: word :: literal :: rest)[2]? = some literal := rfl
    simp only [parameter_eq List.getElem?_cons_zero, parameter_eq hword, parameter_eq hliteral,
      pure_bind, ofArguments]
    cases (readToken .relation word : Except TransformError Relation) <;> rfl

/-- Of too few parameters only the word of a grouping is read. -/
theorem run_ofPositions_of_lt {k : Kind} {arguments : List String}
    (hlt : arguments.length < k.rounds arguments[1]?) :
    (ofPositions k arguments).run = some (ofArguments k arguments) := by
  by_cases hword : k = .groupBy → ∀ word, arguments[1]? = some word →
      word ∈ spellings Aggregate
  · rw [ofArguments_of_missing hlt hword]
    unfold ofPositions
    simp only [hlt, if_true]
    by_cases hk : k = .groupBy
    · cases hsecond : arguments[1]? with
      | none =>
        simp only [hk]
        rfl
      | some word =>
        obtain ⟨aggregate, hread⟩ := exists_read?_iff.2 (hword hk word hsecond)
        simp only [hk, readToken_eq_ok_iff.2 hread]
        rfl
    · simp only [hk]
      rfl
  · simp only [not_forall] at hword
    obtain ⟨rfl, word, hsecond, hnot⟩ := hword
    match arguments, hsecond with
    | column :: _ :: rest, rfl =>
      have hsecond : (column :: word :: rest)[1]? = some word := rfl
      rw [hsecond] at hlt
      rw [refuses_iff.2 (.aggregate column rest hnot)]
      unfold ofPositions
      simp only [hlt, if_true, hsecond, readToken_eq_error_iff.2 ⟨hnot, rfl⟩]
      rfl

/-- No parameter is looked up behind the last one, and what comes of the look-ups is what is built
of the parameters. -/
theorem run_ofPositions (k : Kind) (arguments : List String) :
    (ofPositions k arguments).run = some (ofArguments k arguments) :=
  (Nat.lt_or_ge arguments.length (k.rounds arguments[1]?)).elim run_ofPositions_of_lt
    run_ofPositions_of_le

theorem run_buildByPosition (token : String) (arguments : List String) :
    (buildByPosition token arguments).run = some (build token arguments) := by
  unfold buildByPosition build
  cases Kind.read token with
  | error e => rfl
  | ok k =>
    rw [liftM_ok, pure_bind, Except.ok_bind]
    exact run_ofPositions k arguments

/-! ### Tokens and parameters -/

theorem read_eq_ok_iff_named {token : String} {k : Kind} :
    Kind.read token = .ok k ↔ k.Named (Text.trim token) := by
  rw [← Kind.resolve?_eq_some_iff]
  unfold Kind.read
  cases Kind.resolve? token <;> simp

theorem read_eq_error_iff_named {token : String} {e : TransformError} :
    Kind.read token = .error e ↔
      (∀ k : Kind, ¬k.Named (Text.trim token)) ∧ e = .unrecognized .kind token := by
  simp only [← Kind.resolve?_eq_some_iff]
  unfold Kind.read
  cases Kind.resolve? token <;> simp [eq_comm]

/-- **What a token and parameters come to.**  No parameter is looked up behind the last one.
Something is built exactly if the token names a kind that takes the parameters.  Otherwise the
token is reported if it names no kind, and else the one thing for which its kind does not take
them: that there are too few, or the token that is at fault. -/
theorem recognized (token : String) (arguments : List String) :
    (buildByPosition token arguments).run = some (build token arguments) ∧
      ((∃ t, build token arguments = .ok t) ↔
        ∃ k : Kind, k.Named (Text.trim token) ∧ k.Accepts arguments) ∧
      ∀ e, build token arguments = .error e ↔
        ((∀ k : Kind, ¬k.Named (Text.trim token)) ∧ e = .unrecognized .kind token) ∨
          ∃ k : Kind, k.Named (Text.trim token) ∧ k.Refuses arguments e := by
  refine ⟨run_buildByPosition token arguments, ?_, ?_⟩
  · simp only [build, Except.bind_eq_ok_iff, read_eq_ok_iff_named, ← accepts_iff]
    constructor
    · rintro ⟨t, k, hk, ht⟩
      exact ⟨k, hk, t, ht⟩
    · rintro ⟨k, hk, t, ht⟩
      exact ⟨t, k, hk, ht⟩
  · intro e
    simp only [build, Except.bind_eq_error_iff, read_eq_ok_iff_named, read_eq_error_iff_named,
      refuses_iff]

end Transformation
end TableTalk
