import Mathlib.Algebra.BigOperators.Group.List.Lemmas

/-!
# Sums by key

The elements of a list, grouped by a key: what is summed over distinct keys, and
for each over the elements with that key, is summed over the elements whose key is
among them.
-/

namespace Lists

variable {α β M : Type*} [DecidableEq β] [AddCommMonoid M] (f : α → β) (g : α → M)

/-- The sum over the elements with one key. -/
def fiberSum (xs : List α) (key : β) : M := ((xs.filter fun x => decide (f x = key)).map g).sum

@[simp] theorem fiberSum_nil (key : β) : fiberSum f g [] key = 0 := rfl

theorem fiberSum_cons (x : α) (xs : List α) (key : β) :
    fiberSum f g (x :: xs) key = (if f x = key then g x else 0) + fiberSum f g xs key := by
  by_cases here : f x = key
  · simp [fiberSum, here]
  · simp [fiberSum, here]

theorem fiberSum_append (xs ys : List α) (key : β) :
    fiberSum f g (xs ++ ys) key = fiberSum f g xs key + fiberSum f g ys key := by
  simp [fiberSum]

/-- Removing the elements of one key changes the sums of no other. -/
theorem fiberSum_filter_ne (xs : List α) {key other : β} (apart : other ≠ key) :
    fiberSum f g (xs.filter fun x => decide (f x ≠ key)) other = fiberSum f g xs other := by
  rw [fiberSum, fiberSum, List.filter_filter]
  congr 2
  apply List.filter_congr
  intro x _
  by_cases here : f x = other
  · simp [here, apart]
  · simp [here]

/-- Where no element has a key, its sum is zero. -/
theorem fiberSum_eq_zero {xs : List α} {key : β} (absent : ∀ x ∈ xs, f x ≠ key) :
    fiberSum f g xs key = 0 := by
  have none : xs.filter (fun x => decide (f x = key)) = [] := by
    rw [List.filter_eq_nil_iff]
    intro x member
    simpa using absent x member
  simp [fiberSum, none]

theorem sum_ite_key {keys : List β} (distinct : keys.Nodup) (value : β) (m : M) :
    (keys.map fun key => if value = key then m else 0).sum = if value ∈ keys then m else 0 := by
  induction keys with
  | nil => simp
  | cons key rest ih =>
    obtain ⟨fresh, distinct⟩ := List.nodup_cons.mp distinct
    rw [List.map_cons, List.sum_cons, ih distinct]
    by_cases here : value = key
    · subst here
      simp [fresh]
    · simp [here]

theorem sum_fiberSum {keys : List β} (distinct : keys.Nodup) (xs : List α) :
    (keys.map (fiberSum f g xs)).sum = ((xs.filter fun x => decide (f x ∈ keys)).map g).sum := by
  induction xs with
  | nil =>
    show (keys.map fun _ => (0 : M)).sum = 0
    simp
  | cons x xs ih =>
    have split : (keys.map (fiberSum f g (x :: xs))).sum =
        (if f x ∈ keys then g x else 0) + (keys.map (fiberSum f g xs)).sum := by
      rw [← sum_ite_key distinct, ← List.sum_map_add]
      exact congrArg List.sum (List.map_congr_left fun key _ => fiberSum_cons f g x xs key)
    rw [split, ih]
    by_cases listed : f x ∈ keys
    · simp [listed]
    · simp [listed]

/-- Where the keys cover the list, nothing is left out. -/
theorem sum_fiberSum_of_cover {keys : List β} (distinct : keys.Nodup) {xs : List α}
    (cover : ∀ x ∈ xs, f x ∈ keys) : (keys.map (fiberSum f g xs)).sum = (xs.map g).sum := by
  rw [sum_fiberSum f g distinct, List.filter_eq_self.mpr]
  intro x member
  simpa using cover x member

end Lists
