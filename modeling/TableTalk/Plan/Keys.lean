import TableTalk.Text.Blank

/-!
# Sets of group keys

The keys of a grouping are a set of texts, kept in increasing order and without repetition,
so that two groupings are equal as soon as they keep the same groups.

## Main definitions

* `KeySet` — the sets; `KeySet.ofList` — the set of the members of a list.
* `KeySet.ofTokens` — the set that comma-separated lists spell out.

## Main results

* `KeySet.mem_ofList` — a set holds exactly the members of the list it was made from.
-/

namespace TableTalk

/-- A set of keys in increasing order. -/
structure KeySet where
  /-- The keys. -/
  keys : List String
  /-- They increase strictly. -/
  increasing : keys.Pairwise (· < ·)
  deriving Repr, DecidableEq

namespace KeySet

/-- The set without keys. -/
def empty : KeySet := ⟨[], .nil⟩

/-- The keys with one more in its place. -/
def insertKey (key : String) : List String → List String
  | [] => [key]
  | k :: ks =>
    if key < k then key :: k :: ks
    else if k < key then k :: insertKey key ks
    else k :: ks

theorem mem_insertKey {key x : String} {ks : List String} :
    x ∈ insertKey key ks ↔ x = key ∨ x ∈ ks := by
  induction ks with
  | nil => simp [insertKey]
  | cons k ks ih =>
    unfold insertKey
    split
    · simp
    · split
      · simp only [List.mem_cons, ih]
        exact or_left_comm
      · next h₁ h₂ =>
        have : key = k := String.le_antisymm (String.not_lt.1 h₂) (String.not_lt.1 h₁)
        subst this
        simp

theorem pairwise_insertKey {key : String} {ks : List String} (h : ks.Pairwise (· < ·)) :
    (insertKey key ks).Pairwise (· < ·) := by
  induction ks with
  | nil => simp [insertKey]
  | cons k ks ih =>
    obtain ⟨hk, hks⟩ := List.pairwise_cons.1 h
    unfold insertKey
    split
    · next hlt =>
      refine List.pairwise_cons.2 ⟨fun x hx => ?_, h⟩
      rcases List.mem_cons.1 hx with rfl | hx
      · exact hlt
      · exact String.lt_trans hlt (hk x hx)
    · split
      · next hlt =>
        refine List.pairwise_cons.2 ⟨fun x hx => ?_, ih hks⟩
        rcases mem_insertKey.1 hx with rfl | hx
        · exact hlt
        · exact hk x hx
      · exact h

/-- The set with one more key. -/
def insert (key : String) (s : KeySet) : KeySet :=
  ⟨insertKey key s.keys, pairwise_insertKey s.increasing⟩

/-- The set of the members of a list. -/
def ofList (ks : List String) : KeySet := ks.foldr insert empty

theorem mem_ofList {x : String} {ks : List String} : x ∈ (ofList ks).keys ↔ x ∈ ks := by
  induction ks with
  | nil => simp [ofList, empty]
  | cons k ks ih =>
    have : (ofList (k :: ks)).keys = insertKey k (ofList ks).keys := rfl
    rw [this, mem_insertKey, ih, List.mem_cons]

/-- Whether the set holds a key. -/
def contains (s : KeySet) (key : String) : Bool := s.keys.contains key

/-- Whether the set holds no key. -/
def isEmpty (s : KeySet) : Bool := s.keys.isEmpty

/-- The keys in comma-separated lists, white space around a key and blank keys aside. -/
def ofTokens (tokens : List String) : KeySet :=
  ofList (((tokens.flatMap Text.commaPieces).map Text.trim).filter fun key => !key.isEmpty)

end KeySet
end TableTalk
