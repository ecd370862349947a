import CartX.Machine.Run

/-!
# Simulation

A machine refines another when each of its steps is answered by a run of the
other, of any length, that keeps the states related. The runs of the other
machine carry a guard of their own, so that what is proved of guarded runs there
can be used here.
-/

namespace Machine

variable {S E T F : Type*} {M : Machine S E} {N : Machine T F}
variable {G : S → E → Prop} {K : T → F → Prop} {R : S → T → Prop} {s s' : S} {t : T} {es : List E}

/-- Every step that `G` allows is answered by a run of `N` within `K`. -/
def Simulates (M : Machine S E) (N : Machine T F) (G : S → E → Prop) (K : T → F → Prop)
    (R : S → T → Prop) : Prop :=
  ∀ s e s' t, R s t → G s e → M.step s e = some s' → ∃ fs t', N.Run K t fs t' ∧ R s' t'

theorem Run.simulated (simulates : M.Simulates N G K R) (related : R s t) (run : M.Run G s es s') :
    ∃ fs t', N.Run K t fs t' ∧ R s' t' := by
  induction run with
  | nil => exact ⟨[], t, .nil, related⟩
  | snoc _ guard step ih =>
    obtain ⟨fs, u, answered, related⟩ := ih
    obtain ⟨gs, v, next, related⟩ := simulates _ _ _ _ related guard step
    exact ⟨fs ++ gs, v, answered.append next, related⟩

end Machine
