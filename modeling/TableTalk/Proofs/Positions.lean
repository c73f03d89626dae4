import Mathlib.Data.List.Nodup
import TableTalk.Plan.Apply

/-!
# Row positions

Sorting, filtering and grouping come to a list of row positions.  No position stands in it
twice, and each is the position of a row; a sort leaves none out.

## Main definitions

* `Group.ofKey`, `groupsOf` — the groups, said key by key.
* `firstsOf` — the position of the first row of each group.

## Main results

* `Direction.positions_perm` — a sort puts all positions in another order.
* `mem_positionsOf`, `nodup_positionsOf` — the positions of the texts that satisfy a test.
* `nodup_firstsOf`, `lt_of_mem_firstsOf`, `length_firstsOf` — the positions that stand for
  the groups.
-/

namespace TableTalk

/-! ### Sorting -/

/-- A sort puts all positions in another order. -/
theorem Direction.positions_perm (direction : Direction) (type : ColumnType)
    (contents : List String) :
    (direction.positions type contents).Perm (List.range contents.length) := by
  unfold Direction.positions
  refine ((List.mergeSort_perm _ _).map _).trans ?_
  rw [List.zipIdx_map_snd, List.length_map, List.range_eq_range']

/-! ### Filtering -/

theorem positionsOf_eq (p : String → Bool) (contents : List String) :
    positionsOf p contents = (contents.zipIdx.filter fun x => p x.1).map (·.2) := by
  unfold positionsOf
  induction contents.zipIdx with
  | nil => rfl
  | cons x xs ih =>
    obtain ⟨content, i⟩ := x
    by_cases h : p content <;> simp [h, ih]

theorem mem_positionsOf {p : String → Bool} {contents : List String} {i : Nat} :
    i ∈ positionsOf p contents ↔ ∃ content, contents[i]? = some content ∧ p content = true := by
  rw [positionsOf_eq, List.mem_map]
  constructor
  · rintro ⟨⟨content, j⟩, hx, rfl⟩
    obtain ⟨hmem, hp⟩ := List.mem_filter.1 hx
    exact ⟨content, List.mk_mem_zipIdx_iff_getElem?.1 hmem, hp⟩
  · rintro ⟨content, hi, hp⟩
    exact ⟨(content, i), List.mem_filter.2 ⟨List.mk_mem_zipIdx_iff_getElem?.2 hi, hp⟩, rfl⟩

theorem sublist_positionsOf (p : String → Bool) (contents : List String) :
    (positionsOf p contents).Sublist (List.range contents.length) := by
  rw [positionsOf_eq, List.range_eq_range', ← List.zipIdx_map_snd]
  exact List.filter_sublist.map _

theorem nodup_positionsOf (p : String → Bool) (contents : List String) :
    (positionsOf p contents).Nodup :=
  (sublist_positionsOf p contents).nodup List.nodup_range

theorem lt_of_mem_positionsOf {p : String → Bool} {contents : List String} {i : Nat}
    (h : i ∈ positionsOf p contents) : i < contents.length :=
  List.mem_range.1 ((sublist_positionsOf p contents).subset h)

/-! ### Grouping -/

/-- No key is in a set twice. -/
theorem KeySet.nodup_keys (keys : KeySet) : keys.keys.Nodup :=
  keys.increasing.imp fun h => String.ne_of_lt h

/-- The group of a key: the rows whose text is the key, white space around it aside. -/
def Group.ofKey (contents : List String) (key : String) : Group :=
  ⟨key, positionsOf (Text.trim · == key) contents⟩

theorem mem_members_ofKey {contents : List String} {key : String} {i : Nat} :
    i ∈ (Group.ofKey contents key).members ↔
      ∃ content, contents[i]? = some content ∧ Text.trim content = key := by
  rw [Group.ofKey, mem_positionsOf]
  simp only [beq_iff_eq]

/-- There is no row of a key that no text has. -/
theorem Group.members_ofKey_eq_nil_iff {contents : List String} {key : String} :
    (Group.ofKey contents key).members = [] ↔ ∀ s ∈ contents, Text.trim s ≠ key := by
  rw [List.eq_nil_iff_forall_not_mem]
  constructor
  · intro h s hs htrim
    obtain ⟨i, hi⟩ := List.mem_iff_getElem?.1 hs
    exact h i (mem_members_ofKey.2 ⟨s, hi, htrim⟩)
  · intro h i hi
    obtain ⟨s, hs, htrim⟩ := mem_members_ofKey.1 hi
    exact h s (List.mem_of_getElem? hs) htrim

/-- The groups of the texts that are among the keys, white space around a text aside, found key by
key. -/
def groupsOf (type : ColumnType) (keys : KeySet) (contents : List String) : List Group :=
  let groups := keys.keys.map fun key => Group.mk key (positionsOf (Text.trim · == key) contents)
  (groups.filter fun g => !g.members.isEmpty).mergeSort fun a b => (Group.order type a b).isLE

/-- The groups are those of the keys that have a row, in their order. -/
theorem groupsOf_perm (type : ColumnType) (keys : KeySet) (contents : List String) :
    (groupsOf type keys contents).Perm
      ((keys.keys.map (Group.ofKey contents)).filter fun g => !g.members.isEmpty) :=
  List.mergeSort_perm _ _

theorem eq_ofKey_of_mem_groupsOf {type : ColumnType} {keys : KeySet} {contents : List String}
    {g : Group} (h : g ∈ groupsOf type keys contents) :
    g = Group.ofKey contents g.key ∧ g.members ≠ [] := by
  have hmem := (groupsOf_perm type keys contents).subset h
  obtain ⟨hmap, hne⟩ := List.mem_filter.1 hmem
  obtain ⟨key, -, rfl⟩ := List.mem_map.1 hmap
  exact ⟨rfl, by simpa using hne⟩

theorem nodup_groupsOf (type : ColumnType) (keys : KeySet) (contents : List String) :
    (groupsOf type keys contents).Nodup := by
  refine (groupsOf_perm type keys contents).nodup_iff.2 (List.Nodup.filter _ ?_)
  refine List.Nodup.map_on (fun k _ k' _ h => ?_) keys.nodup_keys
  exact congrArg Group.key h

/-- The position of the first row of each group. -/
def firstsOf (groups : List Group) : List Nat := groups.filterMap fun g => g.members.head?

theorem exists_of_mem_firstsOf {groups : List Group} {i : Nat} (h : i ∈ firstsOf groups) :
    ∃ g ∈ groups, i ∈ g.members := by
  obtain ⟨g, hg, hhead⟩ := List.mem_filterMap.1 h
  exact ⟨g, hg, List.mem_of_head? hhead⟩

/-- Two groups have no row in common. -/
theorem key_eq_of_mem_members {contents : List String} {k k' : String} {i : Nat}
    (h : i ∈ (Group.ofKey contents k).members) (h' : i ∈ (Group.ofKey contents k').members) :
    k = k' := by
  obtain ⟨content, hi, rfl⟩ := mem_members_ofKey.1 h
  obtain ⟨content', hi', rfl⟩ := mem_members_ofKey.1 h'
  rw [hi] at hi'
  cases hi'
  rfl

theorem nodup_firstsOf (type : ColumnType) (keys : KeySet) (contents : List String) :
    (firstsOf (groupsOf type keys contents)).Nodup := by
  -- The head of a group determines the group only among the groups of one column.
  rw [firstsOf, List.nodup_iff_pairwise_ne, List.pairwise_filterMap]
  refine (nodup_groupsOf type keys contents).imp_of_mem ?_
  intro g g' hg hg' hne i hi j hj hij
  subst hij
  obtain ⟨heq, -⟩ := eq_ofKey_of_mem_groupsOf hg
  obtain ⟨heq', -⟩ := eq_ofKey_of_mem_groupsOf hg'
  have hi : i ∈ (Group.ofKey contents g.key).members := heq ▸ List.mem_of_head? hi
  have hj : i ∈ (Group.ofKey contents g'.key).members := heq' ▸ List.mem_of_head? hj
  rw [heq, heq', key_eq_of_mem_members hi hj] at hne
  exact hne rfl

theorem lt_of_mem_firstsOf {type : ColumnType} {keys : KeySet} {contents : List String} {i : Nat}
    (h : i ∈ firstsOf (groupsOf type keys contents)) : i < contents.length := by
  obtain ⟨g, hg, hi⟩ := exists_of_mem_firstsOf h
  rw [(eq_ofKey_of_mem_groupsOf hg).1] at hi
  obtain ⟨content, hi, -⟩ := mem_members_ofKey.1 hi
  exact (List.getElem?_eq_some_iff.1 hi).1

/-- Every group has a first row. -/
theorem length_firstsOf (type : ColumnType) (keys : KeySet) (contents : List String) :
    (firstsOf (groupsOf type keys contents)).length = (groupsOf type keys contents).length := by
  rw [firstsOf, List.length_filterMap_eq_countP, List.countP_eq_length]
  intro g hg
  obtain ⟨i, is, hmembers⟩ := List.exists_cons_of_ne_nil (eq_ofKey_of_mem_groupsOf hg).2
  rw [hmembers]
  rfl

end TableTalk
