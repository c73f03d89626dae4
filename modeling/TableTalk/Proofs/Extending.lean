import TableTalk.Proofs.Accounting

/-!
# Reports on more answers

A dialogue is taken up again with the answers so far and further ones behind them.  The answers so
far are taken as they were, so what has been committed and refused stays, whatever the further
answers do: an answer adds to both lists at the end or leaves them alone, also the answer that goes
over the limit, since it gives up a transformation that is not committed.  What it gives up are
accepted answers, so their number may fall, as may the last one of them be another.

Once the query has ended, nothing is read any more, and all that changes is the number of answers
that are not read.

## Main definitions

* `PrefixReport.Progress.Grows` — what was noted down is in front of what is noted down later.

## Main results

* `Query.committed_prefix_submit` — no answer takes a transformation back.
* `PrefixReport.Progress.grows_take`, `PrefixReport.Progress.grows_takeAll` — one answer, and a
  list of them, only add to what was noted down.
* `extended_of_append` — **more answers leave what was reported.**
-/

namespace TableTalk

/-- No answer takes a transformation back, not even one that goes over the limit. -/
theorem Query.committed_prefix_submit (q : Query) (answer : String) (source : Source) :
    q.committed <+: (q.submit answer source).1.committed := by
  have hstep := submit_step q answer source
  generalize q.submit answer source = result at hstep
  cases hstep with
  | ended | refused | stopped | chosen | answered => exact List.prefix_rfl
  | exhausted =>
    rw [discard_committed]
    exact List.prefix_rfl
  | committed => exact List.prefix_append _ _

namespace PrefixReport.Progress

/-- What was noted down in front of a position is in front of what is noted down later. -/
structure Grows (p : Progress) (position : Nat) (p' : Progress) : Prop where
  /-- Transformations are committed behind the others. -/
  committed_prefix : p.query.committed <+: p'.query.committed
  /-- Refused answers are listed behind the others. -/
  rejected_prefix : p.rejected <+: p'.rejected
  /-- An answer that was not listed was given at the position or behind it. -/
  position_le : ∀ r ∈ p'.rejected, r ∉ p.rejected → position ≤ r.position

variable {p p₁ p' : Progress} {position position' : Nat}

theorem grows_refl (p : Progress) (position : Nat) : p.Grows position p :=
  ⟨List.prefix_rfl, List.prefix_rfl, fun _ hr hnew => absurd hr hnew⟩

theorem Grows.trans (h : p.Grows position p₁) (h' : p₁.Grows position' p')
    (hle : position ≤ position') : p.Grows position p' := by
  refine ⟨h.committed_prefix.trans h'.committed_prefix,
    h.rejected_prefix.trans h'.rejected_prefix, fun r hr hnew => ?_⟩
  by_cases hbetween : r ∈ p₁.rejected
  · exact h.position_le r hbetween hnew
  · exact hle.trans (h'.position_le r hr hbetween)

/-- Only an answer to a question is taken. -/
theorem exists_question_of_take {answer : String} (h : p.take position answer = .ok p') :
    ∃ question, p.query.question? = some question := by
  refine Option.ne_none_iff_exists'.1 fun hnone => ?_
  simp only [take, Query.submit, hnone] at h
  cases h

/-- One more answer adds to what was noted down. -/
theorem grows_take {answer : String} (h : p.take position answer = .ok p') :
    p.Grows position p' := by
  obtain ⟨question, hquestion⟩ := exists_question_of_take h
  obtain ⟨taken, htake, hquery, hcases⟩ := exists_take hquestion position answer
  cases Except.ok.inj (htake.symm.trans h)
  have hcommitted : p.query.committed <+: p'.query.committed := by
    rw [hquery]
    exact p.query.committed_prefix_submit answer .replayed
  rcases hcases with ⟨hsame, -⟩ | ⟨r, hposition, -, hmore, -⟩
  · exact ⟨hcommitted, hsame ▸ List.prefix_rfl, fun r hr hnew => absurd (hsame ▸ hr) hnew⟩
  · refine ⟨hcommitted, hmore ▸ List.prefix_append _ _, fun r' hr' hnew => ?_⟩
    rw [hmore] at hr'
    rcases List.mem_append.1 hr' with hold | hlast
    · exact absurd hold hnew
    · exact (List.mem_singleton.1 hlast ▸ hposition).ge

/-- So do all answers of a list. -/
theorem grows_takeAll {answers : List String} {ignored : Nat}
    (h : p.takeAll position answers = .ok (p', ignored)) : p.Grows position p' := by
  -- Each answer is taken at the position behind the last one, so `Grows.trans` applies.
  induction answers generalizing p position with
  | nil =>
    cases h
    exact grows_refl _ position
  | cons answer answers ih =>
    rw [takeAll] at h
    split at h
    · cases h
      exact grows_refl _ position
    · obtain ⟨p₁, htake, hrest⟩ := Except.bind_eq_ok_iff.1 h
      exact (grows_take htake).trans (ih hrest) (Nat.le_succ position)

end PrefixReport.Progress

/-- **More answers leave what was reported**: there is a report on every list of answers and on
every list that goes on from it, and what the first one lists as committed and as refused the
second one lists first; the refused answers that it lists behind are further answers.  If the query
has ended, the second report is the first one, but for the further answers, all of which are not
read either. -/
theorem extended_of_append (schema : Schema) (options : QueryOptions)
    (answers more : List String) :
    ∃ report report', resolveAnswers schema answers options = .ok report ∧
      resolveAnswers schema (answers ++ more) options = .ok report' ∧
      report.committed <+: report'.committed ∧ report.rejected <+: report'.rejected ∧
      (∀ r ∈ report'.rejected, r ∉ report.rejected → answers.length ≤ r.position) ∧
      (report.finished = true →
        report' = { report with ignored := report.ignored + more.length }) := by
  have hcoherent := Query.coherent_start schema options
  have hlisted := PrefixReport.Progress.listed_start schema options
  obtain ⟨p, ignored, hfront, -⟩ := PrefixReport.Progress.exists_takeAll hcoherent hlisted answers
  obtain ⟨p', ignored', hall, -⟩ :=
    PrefixReport.Progress.exists_takeAll hcoherent hlisted (answers ++ more)
  rw [List.length_nil] at hfront hall
  refine ⟨_, _, resolveAnswers_of_takeAll hfront, resolveAnswers_of_takeAll hall, ?_⟩
  simp only [PrefixReport.Progress.takeAll_append, hfront] at hall
  -- The further answers are read only if the query has not ended by then.
  cases hfinished : p.query.isFinished with
  | true =>
    rw [hfinished, if_pos rfl] at hall
    cases hall
    exact ⟨List.prefix_rfl, List.prefix_rfl, fun r hr hnew => absurd hr hnew, fun _ => rfl⟩
  | false =>
    rw [hfinished, if_neg Bool.false_ne_true, Nat.zero_add] at hall
    have hgrows := PrefixReport.Progress.grows_takeAll hall
    refine ⟨hgrows.committed_prefix.map _, hgrows.rejected_prefix, hgrows.position_le,
      fun hended => ?_⟩
    exact absurd (hfinished.symm.trans hended) Bool.false_ne_true

end TableTalk
