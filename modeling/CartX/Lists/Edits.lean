import Mathlib.Data.List.Nodup

/-!
# Positions that survive edits

A position taken from a list goes stale when the list is edited. For a list of
distinct elements, edited by removing positions and by emptying it,
`replay_getElem?_iff` says exactly which positions still hold their element.
-/

inductive Edit
  | removed (index : Nat)
  | emptied
  deriving DecidableEq, Repr

namespace Edit

/-- The list after the edits, the latest of which comes first. -/
def replay {α : Type*} (elements : List α) : List Edit → List α
  | [] => elements
  | .removed index :: earlier => (replay elements earlier).eraseIdx index
  | .emptied :: _ => []

/-- The edit leaves the position alone. -/
def Spares (index : Nat) : Edit → Prop
  | .removed other => index < other
  | .emptied => False

instance (index : Nat) : (edit : Edit) → Decidable (edit.Spares index)
  | .removed other => inferInstanceAs (Decidable (index < other))
  | .emptied => inferInstanceAs (Decidable False)

section

variable {α : Type*} {elements : List α} {edits : List Edit} {index : Nat} {element : α}

theorem replay_sublist (elements : List α) (edits : List Edit) :
    (replay elements edits).Sublist elements := by
  induction edits with
  | nil => exact .refl _
  | cons edit earlier ih =>
    cases edit with
    | removed index => exact (List.eraseIdx_sublist _ _).trans ih
    | emptied => exact List.nil_sublist _

theorem replay_of_emptied (emptied : .emptied ∈ edits) : replay elements edits = [] := by
  induction edits with
  | nil => simp at emptied
  | cons edit earlier ih =>
    cases edit with
    | removed index => simp [replay, ih (by simpa using emptied)]
    | emptied => rfl

/-- Removing at or before a position moves everything from there on up by one. -/
theorem drop_eraseIdx_of_le {position : Nat} (before : index ≤ position) :
    (elements.eraseIdx index).drop position = elements.drop (position + 1) := by
  apply List.ext_getElem?
  intro offset
  rw [List.getElem?_drop, List.getElem?_drop, List.getElem?_eraseIdx_of_ge (by omega)]
  congr 1
  omega

/-- What was at or before a removed position never comes back to its place. -/
theorem not_mem_drop_replay (distinct : elements.Nodup) (here : elements[index]? = some element) :
    ((∀ edit ∈ edits, edit.Spares index) → (replay elements edits)[index]? = some element) ∧
      (¬ (∀ edit ∈ edits, edit.Spares index) → element ∉ (replay elements edits).drop index) := by
  induction edits with
  | nil => exact ⟨fun _ => here, fun touched => absurd (by simp) touched⟩
  | cons edit earlier ih =>
    obtain ⟨stays, gone⟩ := ih
    have distinct' : (replay elements earlier).Nodup := distinct.sublist (replay_sublist _ _)
    cases edit with
    | emptied => exact ⟨fun all => absurd (all .emptied (by simp)) id, fun _ => by simp [replay]⟩
    | removed other =>
      simp only [List.forall_mem_cons, replay]
      constructor
      · rintro ⟨after, all⟩
        rw [List.getElem?_eraseIdx_of_lt after]
        exact stays all
      · intro touched
        by_cases all : ∀ edit ∈ earlier, edit.Spares index
        · -- until now it was in its place, so it has just been passed over or removed
          have at_index := stays all
          have inside : index < (replay elements earlier).length :=
            (List.getElem?_eq_some_iff.mp at_index).1
          have before : other ≤ index := by
            by_contra later
            exact touched ⟨Nat.lt_of_not_le later, all⟩
          rw [drop_eraseIdx_of_le before]
          intro member
          obtain ⟨offset, found⟩ := List.mem_iff_getElem?.mp member
          rw [List.getElem?_drop] at found
          have := (List.getElem?_inj inside distinct').mp (at_index.trans found.symm)
          omega
        · exact fun member => gone all (((List.eraseIdx_sublist _ _).drop _).subset member)

/-- A position still holds its element exactly when every edit was behind it. -/
theorem replay_getElem?_iff (distinct : elements.Nodup) (here : elements[index]? = some element) :
    (replay elements edits)[index]? = some element ↔ ∀ edit ∈ edits, edit.Spares index := by
  obtain ⟨stays, gone⟩ := @not_mem_drop_replay _ _ edits _ _ distinct here
  refine ⟨fun found => ?_, stays⟩
  by_contra touched
  refine gone touched (List.mem_iff_getElem?.mpr ⟨0, ?_⟩)
  rw [List.getElem?_drop]
  exact found

end

end Edit
