import TableTalk.Proofs.WaysOut

/-!
# Completing a transformation

What a query offers and what transformations are built of are settled in different places: the
kinds and the columns, the words of the second round and how many rounds there are on the one
side, and the readers of tokens on the other.  They fit together.  Whatever the answers were, the
answer to the last round completes the transformation in progress if it is one of the options, or
a text; only where keys are asked for, a text of commas and white space lists none, and then the
round is repeated.  So a query never comes to an end because its accepted answers make up nothing.

## Main definitions

* `ListsNothing` — the texts that list no key.
* `FailsToBuild` — the replies that tell that the answers make up no transformation.
* `Answers` — the answers that give a question what it asks for.

## Main results

* `Query.submit_ne_build` — no failure to build ends a query.
* `Query.Feasible.failsToBuild_iff` — which answers make up no transformation.
* `Query.Feasible.committed_of_answers` — any other answer to the last round completes it.
* `Query.built_of_answers` — **no failure to build ends a query, and what completes the answers to
  a transformation is committed, unless it lists no key where keys are asked for.**
-/

namespace TableTalk

/-- The text holds nothing but commas and white space. -/
def ListsNothing (text : String) : Prop :=
  ∀ c ∈ text.toList, c = ',' ∨ Text.isBlankChar c = true

instance (text : String) : Decidable (ListsNothing text) :=
  List.decidableBAll (fun c => c = ',' ∨ Text.isBlankChar c = true) text.toList

theorem listsNothing_iff {text : String} :
    ListsNothing text ↔ (KeySet.ofTokens [Text.trim text]).isEmpty = true := by
  rw [← Bool.not_eq_false, KeySet.isEmpty_ofTokens_trim]
  simp only [ListsNothing, not_exists, not_and, Bool.not_eq_false, ← or_iff_not_imp_left]

/-- Such a text is blank unless a comma is in it. -/
theorem ListsNothing.isBlank_eq_false_iff {text : String} (h : ListsNothing text) :
    Text.isBlank text = false ↔ ',' ∈ text.toList := by
  rw [Text.isBlank_eq_false_iff]
  constructor
  · rintro ⟨c, hc, hkept⟩
    rcases h c hc with rfl | hblank
    · exact hc
    · rw [hblank] at hkept
      cases hkept
  · exact fun hcomma => ⟨',', hcomma, by decide⟩

/-- The reply tells that the answers make up no transformation, and maybe that one answer too many
was refused. -/
inductive FailsToBuild : Except QueryError Outcome → Prop
  /-- The round is repeated. -/
  | repeated (cause : TransformError) : FailsToBuild (.ok (.unbuildable cause))
  /-- The transformation is given up. -/
  | exhausted (stage : Stage) (attempts : Nat) (cause : TransformError) :
    FailsToBuild (.error (.exhausted stage attempts (.unbuildable cause)))

/-- The answer gives the question what it asks for, and stands for the given text. -/
inductive Answers (matching : Matching) (question : Question) (answer : String) : String → Prop
  /-- It chooses an option. -/
  | option {offered : List String} {i : Nat} {label : String}
    (hoptions : question.options = some offered)
    (hchoose : choose answer offered matching (question.stage == .kind) = .ok (.option i label)) :
    Answers matching question answer label
  /-- It is a text, which lists a key where keys are asked for. -/
  | text (hoptions : question.options = none) (hblank : Text.isBlank answer = false)
    (hkeys : question.kind = some .groupBy → ¬ListsNothing answer) :
    Answers matching question answer (Text.trim answer)

namespace Query

variable {initial : Schema} {q : Query} {answer : String}

/-- No failure to build ends a query. -/
theorem submit_ne_build (q : Query) (answer : String) (source : Source) (cause : TransformError) :
    (q.submit answer source).2 ≠ .error (.build cause) := by
  have hstep := submit_step q answer source
  generalize q.submit answer source = result at hstep
  cases hstep with
  | ended | refused | exhausted | stopped | chosen | answered | committed => exact nofun

/-! ### Answers that make up nothing -/

/-- A reply tells of a failure to build if the answer is refused for it. -/
theorem failsToBuild_submit_iff {source : Source} :
    FailsToBuild (q.submit answer source).2 ↔ ∃ cause, Refused q answer (.unbuildable cause) := by
  constructor
  · intro hfails
    rcases refused_or_accepted q answer source with ⟨outcome, hrefused⟩ | hended | ⟨_, hok, hnone⟩
    · rw [hrefused.submit_eq] at hfails
      cases hlimit : q.options.maxAttempts with
      | none =>
        rw [refuse_of_unlimited hlimit] at hfails
        cases hfails
        exact ⟨_, hrefused⟩
      | some limit =>
        rw [refuse_of_limit hlimit] at hfails
        split at hfails <;> cases hfails <;> exact ⟨_, hrefused⟩
    · rw [hended] at hfails
      cases hfails
    · rw [hok] at hfails
      cases hfails
      cases hnone
  · rintro ⟨cause, hrefused⟩
    rw [hrefused.submit_eq]
    cases hlimit : q.options.maxAttempts with
    | none =>
      rw [refuse_of_unlimited hlimit]
      exact .repeated cause
    | some limit =>
      rw [refuse_of_limit hlimit]
      split
      · exact .repeated cause
      · exact .exhausted _ _ cause

/-- A question for free text takes what is left of an answer once it is trimmed. -/
theorem resolve_eq_some_iff {question : Question} (hoptions : question.options = none)
    {resolved : String} : q.resolve question answer = .ok (some resolved) ↔
      Text.isBlank answer = false ∧ resolved = Text.trim answer := by
  cases hblank : Text.isBlank answer with
  | true => simp [resolve, hoptions, freeText, Text.isEmpty_trim, hblank, Except.map]
  | false => simp [resolve_freeform hoptions hblank, eq_comm]

/-- The answers make up no transformation exactly where keys are asked for and none is listed. -/
theorem Feasible.exists_unbuildable_iff (h : Feasible initial q) :
    (∃ cause, Refused q answer (.unbuildable cause)) ↔
      q.pending? = some .groupBy ∧ q.stage = .freeform ∧ ListsNothing answer ∧
        Text.isBlank answer = false := by
  constructor
  · rintro ⟨cause, hrefused⟩
    cases hrefused with
    | @unbuildable p question resolved cause hphase hquestion hresolve hlast hbuild =>
      have hstage := stage_of_question? hquestion
      rw [question?_of_asking hphase] at hquestion
      obtain ⟨round, hround, rfl⟩ := Option.map_eq_some_iff.1 hquestion
      rcases resolve_cases hresolve with ⟨hnone, -⟩ | ⟨_, hsome, hoffered, -⟩
      · cases hnone
      · cases hsome
        -- Only a list of keys makes up nothing, and such a list is free text.
        obtain ⟨hkind, rfl, hkeys⟩ := h.exists_keys hphase hround hoffered hlast hbuild
        obtain ⟨hblank, rfl⟩ := (resolve_eq_some_iff rfl).1 hresolve
        exact ⟨hkind ▸ pending?_of_asking hphase, hstage, listsNothing_iff.2 hkeys, hblank⟩
  · rintro ⟨hpending, hstage, hnothing, hblank⟩
    obtain ⟨p, hphase, hkind⟩ := pending?_eq_some hpending
    obtain ⟨round, hround, hstands⟩ := h.coherent.exists_round hphase
    have hfreeform : round = .freeform := by
      rw [hstage] at hstands
      cases round with
      | target | argument => cases hstands
      | freeform => rfl
    subst hfreeform
    obtain ⟨hlast, cause, hbuild⟩ :=
      h.coherent.build_eq_error hphase hround hkind (listsNothing_iff.1 hnothing)
    have hquestion : q.question? = some (roundQuestion q.schema p.kind .freeform) := by
      rw [question?_of_asking hphase, hround]
      rfl
    exact ⟨cause, .unbuildable hphase hquestion ((resolve_eq_some_iff rfl).2 ⟨hblank, rfl⟩) hlast
      hbuild⟩

/-- Which answers make up no transformation. -/
theorem Feasible.failsToBuild_iff (h : Feasible initial q) (source : Source) :
    FailsToBuild (q.submit answer source).2 ↔
      q.pending? = some .groupBy ∧ q.stage = .freeform ∧ ListsNothing answer ∧
        Text.isBlank answer = false :=
  failsToBuild_submit_iff.trans h.exists_unbuildable_iff

/-! ### Answers that complete a transformation -/

theorem resolve_of_answers {question : Question} {resolved : String}
    (h : Answers q.options.matching question answer resolved) :
    q.resolve question answer = .ok (some resolved) := by
  cases h with
  | option hoptions hchoose =>
    simp only [resolve, hoptions, hchoose]
    rfl
  | text hoptions hblank => exact resolve_freeform hoptions hblank

/-- The answer to the last round completes the transformation in progress. -/
theorem Feasible.committed_of_answers (h : Feasible initial q) {p : Pending}
    (hphase : q.phase = .asking p) {question : Question} (hquestion : q.question? = some question)
    {resolved : String} (hanswers : Answers q.options.matching question answer resolved)
    (hlast : p.kind.rounds (p.answers ++ [resolved])[1]? ≤ p.answers.length + 1)
    (source : Source) :
    ∃ t, Transformation.build p.kind.name (p.answers ++ [resolved]) = .ok t ∧
      q.submit answer source =
        (q.commit (q.record question.stage resolved source) t, .ok (.committed t)) := by
  have hresolve := resolve_of_answers hanswers
  have hdone : ¬(p.answers ++ [resolved]).length < p.kind.rounds (p.answers ++ [resolved])[1]? := by
    rw [List.length_append, List.length_singleton]
    exact Nat.not_lt.2 hlast
  cases hbuild : Transformation.build p.kind.name (p.answers ++ [resolved]) with
  | ok t =>
    refine ⟨t, rfl, ?_⟩
    simp only [Query.submit, hquestion, hresolve, hphase, answerRound, if_neg hdone, hbuild]
  | error cause =>
    -- Then keys were asked for and none was listed.
    have hrefused : Refused q answer (.unbuildable cause) :=
      .unbuildable hphase hquestion hresolve hdone hbuild
    obtain ⟨hpending, hstage, hnothing, -⟩ := h.exists_unbuildable_iff.1 ⟨cause, hrefused⟩
    rw [stage_of_question? hquestion] at hstage
    rw [pending?_of_asking hphase] at hpending
    rw [question?_of_asking hphase] at hquestion
    obtain ⟨round, hround, rfl⟩ := Option.map_eq_some_iff.1 hquestion
    cases hanswers with
    | option hoptions =>
      -- There are options in the other rounds only.
      cases round with
      | target | argument => cases hstage
      | freeform => cases hoptions
    | text hoptions hblank hkeys => exact absurd hnothing (hkeys hpending)

/-- **No failure to build ends a query, and what completes the answers to a transformation is
committed, unless it lists no key where keys are asked for.**  Whatever the schema and the answers
before, a reply tells that the answers make up no transformation exactly if the text that lists the
keys of a grouping holds commas and white space only, a comma among them.  Any option that is
chosen in the last round and any other text that is given there completes the transformation: it
is built of the answers to all rounds, and it is committed. -/
theorem built_of_answers (schema : Schema) (options : QueryOptions)
    (given : List (String × Source)) (answer : String) (source : Source) :
    let q := (start schema options).submitAll given
    let q' := (q.submit answer source).1
    let reply := (q.submit answer source).2
    (∀ cause, reply ≠ .error (.build cause)) ∧
    (FailsToBuild reply ↔ q.pending? = some .groupBy ∧ q.stage = .freeform ∧
      ListsNothing answer ∧ ',' ∈ answer.toList) ∧
    (∀ kind question resolved, q.pending? = some kind → q.question? = some question →
      Answers options.matching question answer resolved →
      kind.rounds (q.answers ++ [resolved])[1]? ≤ q.answers.length + 1 →
      ∃ t, Transformation.build kind.name (q.answers ++ [resolved]) = .ok t ∧
        reply = .ok (.committed t) ∧ q'.committed = q.committed ++ [t] ∧
        q'.schema = t.preview q.schema ∧ q'.pending? = none) := by
  intro q q' reply
  have h : Feasible schema q := (feasible_start schema options).submitAll given
  refine ⟨submit_ne_build q answer source, ?_, ?_⟩
  · rw [h.failsToBuild_iff source]
    refine and_congr_right fun _ => and_congr_right fun _ => and_congr_right fun hnothing => ?_
    exact hnothing.isBlank_eq_false_iff
  · intro kind question resolved hpending hquestion hanswers hlast
    obtain ⟨p, hphase, rfl⟩ := pending?_eq_some hpending
    rw [answers_of_asking hphase] at hlast ⊢
    have hoptions : q.options = options := submitAll_options _ given
    rw [← hoptions] at hanswers
    obtain ⟨t, hbuild, hsubmit⟩ := h.committed_of_answers hphase hquestion hanswers hlast source
    refine ⟨t, hbuild, congrArg Prod.snd hsubmit, ?_⟩
    simp only [q', hsubmit]
    exact ⟨rfl, rfl, rfl⟩

/-- The kind, the column and the word of a grouping. -/
def sumAnswers : List (String × Source) := ["GroupBy", "Rank", "Sum"].map (·, .live)

/-- Commas list no key, and with no refusal allowed they give the grouping up; a text that lists two
keys completes it. -/
theorem built_of_answers_people :
    let q := (start Table.people.schema { maxAttempts := some 0 }).submitAll sumAnswers
    FailsToBuild (q.submit " , ,\u3000" .live).2 ∧
    ∃ t, Transformation.build "GroupBy" ["Rank", "Sum", "4, 2"] = .ok t ∧
      (q.submit " 4, 2 " .live).2 = .ok (.committed t) ∧
      (q.submit " 4, 2 " .live).1.committed = [t] := by
  intro q
  obtain ⟨-, hfails, -⟩ :=
    built_of_answers Table.people.schema { maxAttempts := some 0 } sumAnswers " , ,\u3000" .live
  obtain ⟨-, -, hcommitted⟩ :=
    built_of_answers Table.people.schema { maxAttempts := some 0 } sumAnswers " 4, 2 " .live
  have hnothing : ListsNothing " , ,\u3000" := by decide
  have hkeys : ¬ListsNothing " 4, 2 " := by decide
  refine ⟨hfails.2 ⟨rfl, rfl, hnothing, by decide⟩, ?_⟩
  obtain ⟨t, hbuild, hreply, hplan, -⟩ := hcommitted .groupBy _ "4, 2" rfl rfl
    (.text rfl rfl fun _ => hkeys) (Nat.le_refl 3)
  exact ⟨t, hbuild, hreply, hplan⟩

end Query
end TableTalk
