/-!
# Sorted sets of texts

Ids are listed sorted by code point and without repetition.

- `insertSorted`, `sortedSet`: one id, and a list of ids, put in order.
- `mem_sortedSet`: nothing is lost and nothing added.
- `pairwise_sortedSet`: the order is strict.
-/

namespace LayeredLint.Text

/-- Put a text in its place, unless it is there already. -/
def insertSorted (s : String) : List String → List String
  | [] => [s]
  | t :: rest =>
    if s < t then s :: t :: rest else if s = t then t :: rest else t :: insertSorted s rest

/-- The texts of a list, sorted and each once. -/
def sortedSet (texts : List String) : List String :=
  texts.foldr insertSorted []

theorem mem_insertSorted {s x : String} {texts : List String} :
    x ∈ insertSorted s texts ↔ x = s ∨ x ∈ texts := by
  induction texts with
  | nil => simp [insertSorted]
  | cons t rest ih =>
    rw [insertSorted]
    split
    · simp
    · split
      · next h => simp [h]
      · simp only [List.mem_cons, ih]
        exact ⟨fun h => by rcases h with h | h | h <;> simp [h],
          fun h => by rcases h with h | h | h <;> simp [h]⟩

/-- Sorting keeps every text and adds none. -/
theorem mem_sortedSet {x : String} {texts : List String} : x ∈ sortedSet texts ↔ x ∈ texts := by
  induction texts with
  | nil => simp [sortedSet]
  | cons t rest ih =>
    rw [sortedSet, List.foldr_cons, mem_insertSorted, List.mem_cons]
    exact or_congr_right ih

theorem pairwise_insertSorted {s : String} {texts : List String}
    (h : texts.Pairwise (· < ·)) : (insertSorted s texts).Pairwise (· < ·) := by
  induction texts with
  | nil => simp [insertSorted]
  | cons t rest ih =>
    rw [List.pairwise_cons] at h
    rw [insertSorted]
    split
    · next hs =>
      refine List.pairwise_cons.2 ⟨fun x hx => ?_, List.pairwise_cons.2 h⟩
      rcases List.mem_cons.1 hx with rfl | hx
      · exact hs
      · exact String.lt_trans hs (h.1 x hx)
    · split
      · exact List.pairwise_cons.2 h
      · next hs hne =>
        refine List.pairwise_cons.2 ⟨fun x hx => ?_, ih h.2⟩
        rcases mem_insertSorted.1 hx with rfl | hx
        · rcases String.le_total x t with hle | hle
          · exact absurd (String.le_antisymm hle (String.not_lt.1 hs)) hne
          · exact Classical.byContradiction fun hlt =>
              hne (String.le_antisymm (String.not_lt.1 hlt) hle)
        · exact h.1 x hx

/-- A sorted set is in strict order. -/
theorem pairwise_sortedSet (texts : List String) : (sortedSet texts).Pairwise (· < ·) := by
  induction texts with
  | nil => simp [sortedSet]
  | cons t rest ih => exact pairwise_insertSorted ih

end LayeredLint.Text
