import LayeredLint.Value

/-!
# Identical values

- `Value.identical`: whether two values are built alike, part for part.
- `Value.identical_iff`: that is equality, so values have decidable equality.
-/

namespace LayeredLint.Value

mutual

/-- Whether two values are built alike. -/
def identical : Value → Value → Bool
  | .null, .null => true
  | .bool a, .bool b => a = b
  | .int a, .int b => a = b
  | .float a, .float b => a = b
  | .str a, .str b => a = b
  | .brokenText a, .brokenText b => a = b
  | .bytes a, .bytes b => a = b
  | .list a, .list b => identicalItems a b
  | .tuple a, .tuple b => identicalItems a b
  | .dict a, .dict b => identicalEntries a b
  | .severity a, .severity b => a = b
  | .setting s a, .setting t b => s = t && identicalItems a b
  | .module a, .module b => a = b
  | .handle a, .handle b => a = b
  | .language g v s p o, .language g' v' s' p' o' =>
    identicalGlobals g g' && identical v v' && s = s' && identical p p' && identicalEntries o o'
  | .moment a, .moment b => a = b
  | _, _ => false
  termination_by structural a => a

/-- `identical`, item by item. -/
def identicalItems : List Value → List Value → Bool
  | [], [] => true
  | a :: as, b :: bs => identical a b && identicalItems as bs
  | _, _ => false
  termination_by structural a => a

/-- `identical`, entry by entry. -/
def identicalEntries : List (Value × Value) → List (Value × Value) → Bool
  | [], [] => true
  | (k, v) :: as, (k', v') :: bs => identical k k' && identical v v' && identicalEntries as bs
  | _, _ => false
  termination_by structural a => a

/-- `identical`, global by global. -/
def identicalGlobals : List (Value × GlobalAccess) → List (Value × GlobalAccess) → Bool
  | [], [] => true
  | (k, v) :: as, (k', v') :: bs => identical k k' && v = v' && identicalGlobals as bs
  | _, _ => false
  termination_by structural a => a

end

mutual

theorem identical_refl : ∀ a : Value, identical a a = true
  | .null => rfl
  | .bool _ | .int _ | .float _ | .str _ | .brokenText _ | .bytes _ | .severity _ | .module _
  | .handle _ | .moment _ => by simp [identical]
  | .list a => by simp [identical, identicalItems_refl a]
  | .tuple a => by simp [identical, identicalItems_refl a]
  | .dict a => by simp [identical, identicalEntries_refl a]
  | .setting _ a => by simp [identical, identicalItems_refl a]
  | .language g v _ p o => by
    simp [identical, identicalGlobals_refl g, identical_refl v, identical_refl p,
      identicalEntries_refl o]

theorem identicalItems_refl : ∀ a : List Value, identicalItems a a = true
  | [] => rfl
  | v :: rest => by simp [identicalItems, identical_refl v, identicalItems_refl rest]

theorem identicalEntries_refl : ∀ a : List (Value × Value), identicalEntries a a = true
  | [] => rfl
  | (k, v) :: rest => by
    simp [identicalEntries, identical_refl k, identical_refl v, identicalEntries_refl rest]

theorem identicalGlobals_refl : ∀ a : List (Value × GlobalAccess), identicalGlobals a a = true
  | [] => rfl
  | (k, _) :: rest => by simp [identicalGlobals, identical_refl k, identicalGlobals_refl rest]

end

mutual

theorem eq_of_identical : ∀ {a b : Value}, identical a b = true → a = b
  | .null, b, h => by cases b <;> simp [identical] at h ⊢
  | .bool _, b, h => by cases b <;> simp_all [identical]
  | .int _, b, h => by cases b <;> simp_all [identical]
  | .float _, b, h => by cases b <;> simp_all [identical]
  | .str _, b, h => by cases b <;> simp_all [identical]
  | .brokenText _, b, h => by cases b <;> simp_all [identical]
  | .bytes _, b, h => by cases b <;> simp_all [identical]
  | .severity _, b, h => by cases b <;> simp_all [identical]
  | .module _, b, h => by cases b <;> simp_all [identical]
  | .handle _, b, h => by cases b <;> simp_all [identical]
  | .moment _, b, h => by cases b <;> simp_all [identical]
  | .list a, b, h => by
    cases b <;> simp only [identical, reduceCtorEq] at h
    rw [eqItems_of_identical h]
  | .tuple a, b, h => by
    cases b <;> simp only [identical, reduceCtorEq] at h
    rw [eqItems_of_identical h]
  | .dict a, b, h => by
    cases b <;> simp only [identical, reduceCtorEq] at h
    rw [eqEntries_of_identical h]
  | .setting _ a, b, h => by
    cases b <;> simp only [identical, reduceCtorEq, Bool.and_eq_true, decide_eq_true_eq] at h
    rw [h.1, eqItems_of_identical h.2]
  | .language g v _ p o, b, h => by
    cases b <;> simp only [identical, reduceCtorEq, Bool.and_eq_true, decide_eq_true_eq] at h
    obtain ⟨⟨⟨⟨hg, hv⟩, hs⟩, hp⟩, ho⟩ := h
    rw [eqGlobals_of_identical hg, eq_of_identical hv, hs, eq_of_identical hp,
      eqEntries_of_identical ho]

theorem eqItems_of_identical : ∀ {a b : List Value}, identicalItems a b = true → a = b
  | [], [], _ => rfl
  | v :: rest, w :: rest', h => by
    simp only [identicalItems, Bool.and_eq_true] at h
    rw [eq_of_identical h.1, eqItems_of_identical h.2]

theorem eqEntries_of_identical : ∀ {a b : List (Value × Value)},
    identicalEntries a b = true → a = b
  | [], [], _ => rfl
  | (k, v) :: rest, (k', v') :: rest', h => by
    simp only [identicalEntries, Bool.and_eq_true] at h
    rw [eq_of_identical h.1.1, eq_of_identical h.1.2, eqEntries_of_identical h.2]

theorem eqGlobals_of_identical : ∀ {a b : List (Value × GlobalAccess)},
    identicalGlobals a b = true → a = b
  | [], [], _ => rfl
  | (k, v) :: rest, (k', v') :: rest', h => by
    simp only [identicalGlobals, Bool.and_eq_true, decide_eq_true_eq] at h
    rw [eq_of_identical h.1.1, h.1.2, eqGlobals_of_identical h.2]

end

/-- **Values are identical when they are equal.** -/
theorem identical_iff {a b : Value} : identical a b = true ↔ a = b :=
  ⟨eq_of_identical, fun h => h ▸ identical_refl a⟩

instance : DecidableEq Value := fun a b =>
  decidable_of_iff (identical a b = true) identical_iff

end LayeredLint.Value
