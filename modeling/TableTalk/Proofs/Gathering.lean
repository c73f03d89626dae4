import TableTalk.Proofs.Orders
import TableTalk.Proofs.Positions
import TableTalk.Proofs.Spelling

/-!
# Groups that are found in one pass

A grouping goes through the texts of a column once.  It keeps a list of groups and, for each key
that it has met, the place of the group of the key in the list; a text is put at the end of the
group of its key, or opens one.

After any number of texts the list holds one group for each key that was met, in the order in
which they were met first, and each group holds all rows so far that have its key.  So the groups
that there are in the end are the groups of the keys that have a row, and sorting leaves but one
order of them, since no two keys are level.

## Main definitions

* `Grouping.metKeys` — the keys of a set that some texts have, the ones met first in front.
* `Grouping.Gathered` — what is known of the groups after some texts.

## Main results

* `Grouping.Gathered.add` — what one more text does.
* `Grouping.gathered_ofTexts` — the groups after all texts.
* `Grouping.sorted_ofTexts` — **the pass comes to the groups that are found key by key.**
-/

namespace List

/-- What comes last is left out if it is a repetition. -/
theorem eraseDups_append_singleton {α : Type} [BEq α] [LawfulBEq α] [DecidableEq α] (l : List α)
    (a : α) : (l ++ [a]).eraseDups = if a ∈ l then l.eraseDups else l.eraseDups ++ [a] := by
  rw [eraseDups_append]
  split
  · next h => simp [removeAll, h]
  · next h => simp [removeAll, h, eraseDups_cons]

/-- Places of elements stay true if one element more is put at the end. -/
theorem lookup_cons_length_iff {α : Type} [DecidableEq α] {l : List α} {places : List (α × Nat)}
    (h : ∀ b i, places.lookup b = some i ↔ l[i]? = some b) {a : α} (ha : a ∉ l) (b : α) (i : Nat) :
    ((a, l.length) :: places).lookup b = some i ↔ (l ++ [a])[i]? = some b := by
  rw [lookup_cons]
  grind

end List

namespace TableTalk

variable {keys : KeySet} {done : List String}

/-! ### One text more -/

theorem KeySet.contains_eq (keys : KeySet) (key : String) :
    keys.contains key = decide (key ∈ keys.keys) := by
  rw [contains, List.contains_eq_mem]

theorem positionsOf_append_singleton (p : String → Bool) (done : List String) (content : String) :
    positionsOf p (done ++ [content]) =
      positionsOf p done ++ if p content then [done.length] else [] := by
  rw [positionsOf, List.zipIdx_append, List.filterMap_append]
  cases hp : p content <;> simp [positionsOf, hp]

/-- A text makes the group of its key longer. -/
theorem Group.ofKey_append_trim (done : List String) (content : String) :
    Group.ofKey (done ++ [content]) (Text.trim content) =
      (Group.ofKey done (Text.trim content)).push done.length := by
  simp [Group.ofKey, Group.push, positionsOf_append_singleton]

/-- It leaves the groups of all other keys as they are. -/
theorem Group.ofKey_append_of_ne {content key : String} (h : Text.trim content ≠ key) :
    Group.ofKey (done ++ [content]) key = Group.ofKey done key := by
  simp [Group.ofKey, positionsOf_append_singleton, h]

namespace Grouping

/-! ### The keys that were met -/

/-- The keys of a set that some texts have, the ones that are met first in front. -/
def metKeys (keys : KeySet) (done : List String) : List String :=
  ((done.map Text.trim).filter keys.contains).eraseDups

theorem mem_metKeys {key : String} :
    key ∈ metKeys keys done ↔ key ∈ keys.keys ∧ ∃ content ∈ done, Text.trim content = key := by
  rw [metKeys, List.mem_eraseDups, List.mem_filter, List.mem_map, KeySet.contains_eq,
    decide_eq_true_iff, and_comm]

theorem nodup_metKeys (keys : KeySet) (done : List String) : (metKeys keys done).Nodup :=
  List.nodup_eraseDups _

/-- A text that is none of the keys is passed over. -/
theorem metKeys_append_of_notMem (done : List String) {content : String}
    (h : Text.trim content ∉ keys.keys) :
    metKeys keys (done ++ [content]) = metKeys keys done := by
  simp [metKeys, KeySet.contains_eq, h]

/-- A key is met once. -/
theorem metKeys_append_of_mem (done : List String) {content : String}
    (h : Text.trim content ∈ keys.keys) :
    metKeys keys (done ++ [content]) =
      if Text.trim content ∈ metKeys keys done then metKeys keys done
      else metKeys keys done ++ [Text.trim content] := by
  have hfilter : ((done ++ [content]).map Text.trim).filter keys.contains =
      (done.map Text.trim).filter keys.contains ++ [Text.trim content] := by
    simp [KeySet.contains_eq, h]
  rw [metKeys, hfilter, List.eraseDups_append_singleton]
  simp only [metKeys, List.mem_eraseDups]

/-- A text whose key was not met is in none of the groups. -/
theorem map_ofKey_append {content : String} (h : Text.trim content ∉ metKeys keys done) :
    (metKeys keys done).map (Group.ofKey (done ++ [content])) =
      (metKeys keys done).map (Group.ofKey done) :=
  List.map_congr_left fun _ hmem => Group.ofKey_append_of_ne fun heq => h (heq ▸ hmem)

/-! ### The pass -/

/-- What is known of the groups after some texts. -/
structure Gathered (keys : KeySet) (done : List String) (s : Grouping) : Prop where
  /-- There is one group for each key that was met, and it holds all rows so far with the key. -/
  groups_eq : s.groups = (metKeys keys done).map (Group.ofKey done)
  /-- The place that is known for a key is the place of its group. -/
  lookup_iff : ∀ key slot, s.slots.lookup key = some slot ↔ (metKeys keys done)[slot]? = some key

namespace Gathered

variable {s : Grouping} {content : String}

/-- A text that is none of the keys: nothing happens. -/
theorem skip (h : Gathered keys done s) (hkey : Text.trim content ∉ keys.keys) :
    Gathered keys (done ++ [content]) s := by
  have hmet := metKeys_append_of_notMem done hkey
  refine ⟨?_, hmet ▸ h.lookup_iff⟩
  rw [hmet, map_ofKey_append fun hmem => hkey (mem_metKeys.1 hmem).1]
  exact h.groups_eq

/-- A key that was met: its group grows. -/
theorem push (h : Gathered keys done s) (hkey : Text.trim content ∈ keys.keys) {slot : Nat}
    (hslot : s.slots.lookup (Text.trim content) = some slot) :
    Gathered keys (done ++ [content])
      { s with groups := s.groups.modify slot (·.push done.length) } := by
  have hat := (h.lookup_iff _ _).1 hslot
  have hmet := metKeys_append_of_mem done hkey
  rw [if_pos (List.mem_of_getElem? hat)] at hmet
  refine ⟨List.ext_getElem? fun i => ?_, hmet ▸ h.lookup_iff⟩
  rw [hmet, List.getElem?_modify, h.groups_eq, List.getElem?_map, List.getElem?_map]
  cases hi : (metKeys keys done)[i]? with
  | none => rfl
  | some key =>
    by_cases heq : slot = i
    · subst heq
      cases hat.symm.trans hi
      simp [Group.ofKey_append_trim]
    · have hne : Text.trim content ≠ key := by
        rintro rfl
        have hagain := (h.lookup_iff _ _).2 hi
        rw [hslot] at hagain
        exact heq (Option.some.inj hagain)
      simp [heq, Group.ofKey_append_of_ne hne]

/-- A key that is met for the first time: it opens a group. -/
theorem start (h : Gathered keys done s) (hkey : Text.trim content ∈ keys.keys)
    (hslot : s.slots.lookup (Text.trim content) = none) :
    Gathered keys (done ++ [content])
      ⟨s.groups ++ [⟨Text.trim content, [done.length]⟩],
        (Text.trim content, s.groups.length) :: s.slots⟩ := by
  have hnew : Text.trim content ∉ metKeys keys done := fun hmem => by
    obtain ⟨slot, hat⟩ := List.mem_iff_getElem?.1 hmem
    rw [(h.lookup_iff _ _).2 hat] at hslot
    cases hslot
  have hmet := metKeys_append_of_mem done hkey
  rw [if_neg hnew] at hmet
  refine ⟨?_, ?_⟩
  · have hnone : (Group.ofKey done (Text.trim content)).members = [] := by
      refine Group.members_ofKey_eq_nil_iff.2 fun other hother heq => hnew ?_
      exact mem_metKeys.2 ⟨hkey, other, hother, heq⟩
    rw [hmet, List.map_append, map_ofKey_append hnew, List.map_singleton,
      Group.ofKey_append_trim, Group.push, hnone, h.groups_eq]
    rfl
  · have hlength : s.groups.length = (metKeys keys done).length := by
      rw [h.groups_eq, List.length_map]
    rw [hmet, hlength]
    exact List.lookup_cons_length_iff h.lookup_iff hnew

end Gathered

/-- One text more keeps what is known of the groups. -/
theorem Gathered.add {s : Grouping} (h : Gathered keys done s) (content : String) :
    Gathered keys (done ++ [content]) (s.add keys content done.length) := by
  unfold Grouping.add
  simp only [KeySet.contains_eq]
  by_cases hkey : Text.trim content ∈ keys.keys
  · rw [decide_eq_true hkey]
    cases hslot : s.slots.lookup (Text.trim content) with
    | some slot => exact h.push hkey hslot
    | none => exact h.start hkey hslot
  · rw [decide_eq_false hkey]
    exact h.skip hkey

/-- After all texts what is known is known of all of them. -/
theorem Gathered.foldl {s : Grouping} (h : Gathered keys done s) (rest : List String) :
    Gathered keys (done ++ rest) ((rest.zipIdx done.length).foldl
      (fun s (content, position) => s.add keys content position) s) := by
  induction rest generalizing done s with
  | nil =>
    rw [List.append_nil]
    exact h
  | cons content rest ih =>
    have hnext := ih (h.add content)
    rw [List.length_append, List.length_singleton, List.append_assoc] at hnext
    exact hnext

/-- The groups after all texts. -/
theorem gathered_ofTexts (keys : KeySet) (contents : List String) :
    Gathered keys contents (ofTexts keys contents) := by
  have hnone : Gathered keys [] ⟨[], []⟩ := ⟨rfl, by simp [metKeys]⟩
  exact hnone.foldl contents

/-! ### The groups in their order -/

/-- A sort of groups puts none in front of one that comes before it. -/
theorem pairwise_sorted (type : ColumnType) (s : Grouping) :
    (s.sorted type).Pairwise fun g g' => (Group.order type g g').isLE = true := by
  refine List.pairwise_mergeSort (fun a b c h h' => ?_) (fun a b => ?_) _
  · exact @Std.TransCmp.isLE_trans _ (compareKeys type) _ a.key b.key c.key h h'
  · show ((compareKeys type a.key b.key).isLE || (compareKeys type b.key a.key).isLE) = true
    rw [compareKeys_swap type b.key a.key]
    cases compareKeys type a.key b.key <;> rfl

/-- The pass comes to the groups of the keys that have a row. -/
theorem groups_ofTexts_perm (keys : KeySet) (contents : List String) :
    (ofTexts keys contents).groups.Perm
      ((keys.keys.map (Group.ofKey contents)).filter fun g => !g.members.isEmpty) := by
  rw [(gathered_ofTexts keys contents).groups_eq, List.filter_map]
  refine List.Perm.map _ ?_
  rw [List.perm_ext_iff_of_nodup (nodup_metKeys keys contents) (keys.nodup_keys.filter _)]
  intro key
  have hmembers := @Group.members_ofKey_eq_nil_iff contents key
  simp [mem_metKeys, hmembers]

/-- **The pass comes to the groups that are found key by key**, and in the same order. -/
theorem sorted_ofTexts (type : ColumnType) (keys : KeySet) (contents : List String) :
    (ofTexts keys contents).sorted type = groupsOf type keys contents := by
  have hperm : ((ofTexts keys contents).sorted type).Perm (groupsOf type keys contents) :=
    (List.mergeSort_perm _ _).trans
      ((groups_ofTexts_perm keys contents).trans (groupsOf_perm type keys contents).symm)
  refine List.Perm.eq_of_pairwise (fun g g' hg hg' h h' => ?_) (pairwise_sorted type _)
    (pairwise_sorted type ⟨_, []⟩) hperm
  -- Groups that are level have one key, and the key determines the group.
  have hkey : g.key = g'.key := eq_of_isLE_compareKeys h h'
  rw [(eq_ofKey_of_mem_groupsOf (hperm.subset hg)).1, (eq_ofKey_of_mem_groupsOf hg').1, hkey]

end Grouping
end TableTalk
