import Mathlib.Data.List.DropRight
import TableTalk.Proofs.Building

/-!
# What is written can be read back

Three things are written and read again in a dialogue: a text, which loses the white space
around it; a set of keys, which is one list with commas; and a transformation, which is a line
of tokens.  A text without white space at its ends is read as it is; a set of keys is read
back from its list if no key holds a comma; and the tokens of whatever was built build it
again.

## Main definitions

* `Text.Proper` — a text that is not blank and has no white space at its ends.

## Main results

* `List.eraseDups_induction` — induction along the removal of repetitions.
* `Text.trim_trim`, `Text.proper_trim` — what trimming leaves is proper, or nothing.
* `KeySet.ofTokens_intercalate` — a set of keys is read back from its list.
* `Transformation.Built.arguments` — what is built is built again of its own tokens.
* `Transformation.ofTokens_tokens` — **what a line of tokens spells is spelt by its own tokens.**
-/

namespace List

/-- Induction along `eraseDups`: the rest of a list is met without the copies of its first
element. -/
theorem eraseDups_induction {α : Type} [BEq α] {motive : List α → Prop} (nil : motive [])
    (cons : ∀ a l, motive (l.filter fun b => !b == a) → motive (a :: l)) (l : List α) :
    motive l := by
  induction hn : l.length using Nat.strong_induction_on generalizing l with
  | _ n ih =>
    cases l with
    | nil => exact nil
    | cons a l =>
      refine cons a l (ih _ ?_ _ rfl)
      have := length_filter_le (fun b => !b == a) l
      rw [length_cons] at hn
      omega

/-- What remains has no repetition. -/
theorem nodup_eraseDups {α : Type} [BEq α] [LawfulBEq α] (l : List α) : l.eraseDups.Nodup := by
  induction l using eraseDups_induction with
  | nil => exact nodup_nil
  | cons a l ih =>
    rw [eraseDups_cons]
    refine nodup_cons.2 ⟨fun ha => ?_, ih⟩
    simpa using (mem_filter.1 (mem_eraseDups.1 ha)).2

/-- A list without repetition keeps all of its elements. -/
theorem eraseDups_eraseDups {α : Type} [BEq α] [LawfulBEq α] (l : List α) :
    l.eraseDups.eraseDups = l.eraseDups := by
  induction l using eraseDups_induction with
  | nil => rfl
  | cons a l ih =>
    have hkeep : (l.filter fun b => !b == a).eraseDups.filter (fun b => !b == a) =
        (l.filter fun b => !b == a).eraseDups :=
      filter_eq_self.2 fun b hb => (mem_filter.1 (mem_eraseDups.1 hb)).2
    rw [eraseDups_cons, eraseDups_cons, hkeep, ih]

end List

namespace TableTalk

namespace Text

/-! ### The ends of a list -/

section

variable {α : Type} {p : α → Bool} {as : List α}

theorem stripWhile_eq (p : α → Bool) (as : List α) :
    stripWhile p as = (as.dropWhile p).rdropWhile p := rfl

theorem head_stripWhile (h : stripWhile p as ≠ []) : p ((stripWhile p as).head h) = false := by
  have hfront : stripWhile p as <+: as.dropWhile p := List.rdropWhile_prefix p _
  rw [hfront.head h]
  exact List.head_dropWhile_not p (hfront.ne_nil h)

theorem getLast_stripWhile (h : stripWhile p as ≠ []) :
    p ((stripWhile p as).getLast h) = false := by
  exact Bool.eq_false_iff.2 (List.rdropWhile_last_not p (as.dropWhile p) h)

/-- A list with nothing unwanted at its ends stays as it is. -/
theorem stripWhile_eq_self (hhead : ∀ h : as ≠ [], p (as.head h) = false)
    (hlast : ∀ h : as ≠ [], p (as.getLast h) = false) : stripWhile p as = as := by
  have hdrop : as.dropWhile p = as := by
    refine List.dropWhile_eq_self_iff.2 fun hlt => ?_
    have hne : as ≠ [] := List.length_pos_iff.1 hlt
    rw [← List.head_eq_getElem hne, hhead hne]
    exact Bool.false_ne_true
  rw [stripWhile_eq, hdrop]
  refine List.rdropWhile_eq_self_iff.2 fun hne => ?_
  rw [hlast hne]
  exact Bool.false_ne_true

/-- What is unwanted at the end makes no difference. -/
theorem stripWhile_append (as : List α) {bs : List α} (h : ∀ b ∈ bs, p b = true) :
    stripWhile p (as ++ bs) = stripWhile p as := by
  rw [stripWhile, stripWhile, List.dropWhile_append]
  split
  · next hempty =>
    rw [List.isEmpty_iff.1 hempty, List.dropWhile_eq_nil_iff.2 h]
  · rw [dropEndWhile, dropEndWhile, List.reverse_append, List.dropWhile_append_of_pos]
    intro b hb
    exact h b (List.mem_reverse.1 hb)

theorem stripWhile_sublist (p : α → Bool) (as : List α) : (stripWhile p as).Sublist as :=
  (List.rdropWhile_prefix p _).sublist.trans (List.dropWhile_sublist p)

end

/-! ### Texts without white space at the ends -/

/-- A text that is not blank and has no white space at its ends. -/
structure Proper (s : String) : Prop where
  /-- Trimming leaves it as it is. -/
  trim_eq : trim s = s
  /-- It is not blank. -/
  isBlank_eq : isBlank s = false

theorem proper_iff {s : String} : Proper s ↔ trim s = s ∧ isBlank s = false :=
  ⟨fun h => ⟨h.trim_eq, h.isBlank_eq⟩, fun h => ⟨h.1, h.2⟩⟩

instance (s : String) : Decidable (Proper s) := decidable_of_iff _ proper_iff.symm

theorem trim_eq_self {s : String}
    (hhead : ∀ h : s.toList ≠ [], isBlankChar (s.toList.head h) = false)
    (hlast : ∀ h : s.toList ≠ [], isBlankChar (s.toList.getLast h) = false) : trim s = s := by
  rw [← String.toList_inj, toList_trim]
  exact stripWhile_eq_self hhead hlast

/-- Trimming twice is trimming once. -/
theorem trim_trim (s : String) : trim (trim s) = trim s := by
  rw [← String.toList_inj, toList_trim (trim s), toList_trim s]
  exact stripWhile_eq_self head_stripWhile getLast_stripWhile

theorem isBlank_eq_false_of_head {s : String} (h : s.toList ≠ [])
    (hhead : isBlankChar (s.toList.head h) = false) : isBlank s = false := by
  refine List.all_eq_false.2 ⟨_, List.head_mem h, ?_⟩
  rw [hhead]
  exact Bool.false_ne_true

/-- What trimming leaves is proper, unless it leaves nothing. -/
theorem proper_trim {s : String} (h : (trim s).isEmpty = false) : Proper (trim s) := by
  have hne : (trim s).toList ≠ [] := fun hnil =>
    String.isEmpty_eq_false_iff.1 h (String.toList_eq_nil_iff.1 hnil)
  refine ⟨trim_trim s, isBlank_eq_false_of_head hne ?_⟩
  simp only [toList_trim] at hne ⊢
  exact head_stripWhile hne

namespace Proper

variable {s : String} (h : Proper s)

include h

theorem ne_empty : s ≠ "" := by
  rintro rfl
  cases h.isBlank_eq

theorem isEmpty_eq : s.isEmpty = false := String.isEmpty_eq_false_iff.2 h.ne_empty

theorem toList_ne_nil : s.toList ≠ [] := fun hnil => h.ne_empty (String.toList_eq_nil_iff.1 hnil)

theorem stripWhile_toList : stripWhile isBlankChar s.toList = s.toList := by
  rw [← toList_trim, h.trim_eq]

theorem head_eq (hne : s.toList ≠ []) : isBlankChar (s.toList.head hne) = false := by
  have hstrip := @head_stripWhile _ isBlankChar s.toList
  simp only [h.stripWhile_toList] at hstrip
  exact hstrip hne

theorem getLast_eq (hne : s.toList ≠ []) : isBlankChar (s.toList.getLast hne) = false := by
  have hstrip := @getLast_stripWhile _ isBlankChar s.toList
  simp only [h.stripWhile_toList] at hstrip
  exact hstrip hne

/-- A proper text in front and another one behind make a proper text, whatever stands between
them. -/
theorem append {t : String} (ht : Proper t) (middle : String) : Proper (s ++ middle ++ t) := by
  have hs := h.toList_ne_nil
  have htail := ht.toList_ne_nil
  have hhead : ∀ hne : (s ++ middle ++ t).toList ≠ [],
      isBlankChar ((s ++ middle ++ t).toList.head hne) = false := by
    intro hne
    simp only [String.toList_append, List.append_assoc, List.head_append_of_ne_nil hs]
    exact h.head_eq hs
  refine ⟨trim_eq_self hhead fun hne => ?_, ?_⟩
  · simp only [String.toList_append, List.getLast_append_of_ne_nil _ htail]
    exact ht.getLast_eq htail
  · refine isBlank_eq_false_of_head (fun hnil => hs ?_) (hhead _)
    simp only [String.toList_append, List.append_eq_nil_iff] at hnil
    exact hnil.1.1

end Proper

/-- Proper texts with something between them make a proper text. -/
theorem proper_intercalate {texts : List String} (hne : texts ≠ [])
    (h : ∀ text ∈ texts, Proper text) (middle : String) :
    Proper (middle.intercalate texts) := by
  induction texts with
  | nil => exact absurd rfl hne
  | cons text texts ih =>
    have htext := h text List.mem_cons_self
    cases texts with
    | nil =>
      rw [String.intercalate_singleton]
      exact htext
    | cons next texts =>
      rw [String.intercalate_cons_cons]
      have hrest := ih (List.cons_ne_nil _ _) fun t ht => h t (List.mem_cons_of_mem _ ht)
      exact htext.append hrest middle

/-! ### Pieces between commas -/

theorem cutAt_eq_splitOnP {α : Type} (p : α → Bool) (as : List α) :
    cutAt p as = as.splitOnP p := by
  induction as with
  | nil => rfl
  | cons a as ih => rw [cutAt, List.splitOnP_cons_eq_if_modifyHead, ih]

/-- The pieces of a list hold nothing of what it was cut at. -/
theorem eq_false_of_mem_cutAt {α : Type} {p : α → Bool} {as piece : List α}
    (h : piece ∈ cutAt p as) : ∀ a ∈ piece, p a = false := by
  induction as generalizing piece with
  | nil =>
    rw [cutAt, List.mem_singleton] at h
    subst h
    exact fun a ha => absurd ha List.not_mem_nil
  | cons b as ih =>
    obtain ⟨first, rest, hcut⟩ := List.exists_cons_of_ne_nil (cutAt_ne_nil p as)
    rw [cutAt, hcut] at h
    rw [hcut] at ih
    split at h
    · rcases List.mem_cons.1 h with rfl | h
      · exact fun a ha => absurd ha List.not_mem_nil
      · exact ih h
    · next hb =>
      rw [List.modifyHead_cons] at h
      rcases List.mem_cons.1 h with rfl | h
      · intro a ha
        rcases List.mem_cons.1 ha with rfl | ha
        · exact Bool.eq_false_iff.2 hb
        · exact ih List.mem_cons_self a ha
      · exact ih (List.mem_cons_of_mem _ h)

/-- Texts without commas are the pieces of their list. -/
theorem commaPieces_intercalate {texts : List String} (hne : texts ≠ [])
    (h : ∀ text ∈ texts, ',' ∉ text.toList) : commaPieces (",".intercalate texts) = texts := by
  have hcut : cutAt (· == ',') (",".intercalate texts).toList = texts.map String.toList := by
    rw [cutAt_eq_splitOnP, String.toList_intercalate]
    refine List.splitOn_intercalate ',' (fun l hl => ?_) (by simpa using hne)
    obtain ⟨text, htext, rfl⟩ := List.mem_map.1 hl
    exact h text htext
  rw [commaPieces, hcut, List.map_map]
  simp

end Text

/-! ### Sets of keys -/

namespace KeySet

theorem insertKey_of_lt {key : String} {ks : List String} (h : ∀ k ∈ ks, key < k) :
    insertKey key ks = key :: ks := by
  cases ks with
  | nil => rfl
  | cons k ks => rw [insertKey, if_pos (h k List.mem_cons_self)]

/-- A set is the one that is made from its keys. -/
theorem ofList_keys (s : KeySet) : ofList s.keys = s := by
  obtain ⟨keys, hincreasing⟩ := s
  have hkeys : (ofList keys).keys = keys := by
    induction keys with
    | nil => rfl
    | cons k ks ih =>
      obtain ⟨hk, hks⟩ := List.pairwise_cons.1 hincreasing
      show insertKey k (ofList ks).keys = k :: ks
      rw [ih hks, insertKey_of_lt hk]
  show ofList keys = _
  cases hset : ofList keys with
  | mk keys' hincreasing' =>
    rw [hset] at hkeys
    subst hkeys
    rfl

/-- The keys that lists spell are proper and hold no comma. -/
theorem proper_of_mem_ofTokens {lists : List String} {key : String}
    (h : key ∈ (ofTokens lists).keys) : Text.Proper key ∧ ',' ∉ key.toList := by
  rw [ofTokens, mem_ofList] at h
  obtain ⟨hmem, hne⟩ := List.mem_filter.1 h
  obtain ⟨piece, hpiece, rfl⟩ := List.mem_map.1 hmem
  refine ⟨Text.proper_trim (by simpa using hne), fun hcomma => ?_⟩
  obtain ⟨list, -, hpiece⟩ := List.mem_flatMap.1 hpiece
  obtain ⟨cs, hcs, rfl⟩ := List.mem_map.1 hpiece
  rw [Text.toList_trim, String.toList_ofList] at hcomma
  have hmem := (Text.stripWhile_sublist _ _).subset hcomma
  have := Text.eq_false_of_mem_cutAt hcs ',' hmem
  simp at this

/-- A set of keys is read back from its list. -/
theorem ofTokens_intercalate {s : KeySet} (hne : s.keys ≠ [])
    (h : ∀ key ∈ s.keys, Text.Proper key ∧ ',' ∉ key.toList) :
    ofTokens [",".intercalate s.keys] = s := by
  have htrim : s.keys.map Text.trim = s.keys :=
    (List.map_congr_left fun key hkey => (h key hkey).1.trim_eq).trans (List.map_id _)
  have hkeep : (s.keys.filter fun key => !key.isEmpty) = s.keys := by
    refine List.filter_eq_self.2 fun key hkey => ?_
    rw [(h key hkey).1.isEmpty_eq]
    rfl
  rw [ofTokens, List.flatMap_singleton, Text.commaPieces_intercalate hne fun key hkey =>
    (h key hkey).2, htrim, hkeep, ofList_keys]

end KeySet

/-! ### Lines of tokens -/

namespace Transformation

/-- What is built is built again of its own tokens. -/
theorem Built.arguments {k : Kind} {arguments : List String} {t : Transformation}
    (h : Built k arguments t) : Built k t.arguments t := by
  cases h with
  | empty => exact .empty _
  | dropColumn column columns =>
    have hcons : (column :: columns).eraseDups =
        column :: (columns.filter fun b => !b == column).eraseDups := List.eraseDups_cons
    have hagain := Built.dropColumn column (columns.filter fun b => !b == column).eraseDups
    rw [← hcons, List.eraseDups_eraseDups] at hagain
    exact hagain
  | @sortBy word direction column rest hword =>
    exact .sortBy column [] (Direction.read?_label direction)
  | @groupAll word aggregate column lists hword hkeys =>
    simp only [Transformation.arguments, hkeys]
    exact .groupAll column [] (Aggregate.read?_label aggregate) hkeys
  | @groupKeys word aggregate column lists hword hkeys hlists hsome =>
    have hlist : KeySet.ofTokens [",".intercalate (KeySet.ofTokens lists).keys] = .ofTokens lists :=
      KeySet.ofTokens_intercalate (by simpa [KeySet.isEmpty] using hsome)
        fun key hkey => KeySet.proper_of_mem_ofTokens hkey
    have hagain := Built.groupKeys column (Aggregate.read?_label aggregate) hkeys
      (List.cons_ne_nil _ _) (hlist.symm ▸ hsome)
    rw [hlist] at hagain
    simp only [Transformation.arguments, hkeys]
    exact hagain
  | @filterBy word relation column literal rest hword =>
    exact .filterBy column literal [] (Relation.read?_label relation)

theorem Built.ofTokens_eq {k : Kind} {arguments : List String} {t : Transformation}
    (h : Built k arguments t) : ofTokens t.tokens = .ok t := by
  have hname : ofTokens t.tokens = build t.kind.name t.arguments := rfl
  rw [hname, build_name, h.kind_eq]
  exact h.arguments.ofArguments_eq

theorem exists_built_of_ofTokens {line : List String} {t : Transformation}
    (h : ofTokens line = .ok t) : ∃ arguments, Built t.kind arguments t := by
  cases line with
  | nil => cases h
  | cons kind arguments => exact ⟨arguments, built_of_build h⟩

/-- **What a line of tokens spells is spelt by its own tokens**, and nothing else that can be
spelt has these tokens.  The line may name the kind by its number, use short forms, list keys
in several places and hold more tokens than are needed. -/
theorem ofTokens_tokens {line : List String} {t : Transformation} (h : ofTokens line = .ok t) :
    ofTokens t.tokens = .ok t ∧
      ∀ line' t', ofTokens line' = .ok t' → t'.tokens = t.tokens → t' = t := by
  obtain ⟨arguments, hbuilt⟩ := exists_built_of_ofTokens h
  have hself := hbuilt.ofTokens_eq
  refine ⟨hself, fun line' t' h' htokens => ?_⟩
  obtain ⟨arguments', hbuilt'⟩ := exists_built_of_ofTokens h'
  have hself' := hbuilt'.ofTokens_eq
  rw [htokens, hself, Except.ok.injEq] at hself'
  exact hself'.symm

/-- A grouping by number and in short form, with its keys in three lists, one of which holds
none. -/
def scattered : List String := [" +3 ", "größe, \"m²\"", "Avg", "ñ , a", " ,", "b,a "]

/-- The keys are put in order and written in one list. -/
theorem ofTokens_tokens_scattered :
    ∃ t, ofTokens scattered = .ok t ∧
      t.tokens = ["GroupBy", "größe, \"m²\"", "Mean", "a,b,ñ"] ∧ ofTokens t.tokens = .ok t := by
  have h : ofTokens scattered =
      .ok (.groupBy "größe, \"m²\"" .mean (.ofList ["a", "b", "ñ"])) := by decide
  exact ⟨_, h, by decide, (ofTokens_tokens h).1⟩

end Transformation
end TableTalk
