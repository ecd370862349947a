import Mathlib.Algebra.BigOperators.Group.List.Lemmas
import Mathlib.Algebra.Ring.Nat
import CartX.Machine.Run

/-!
# Runs of bounded cost

Where every event is paid for out of what is left, a run cannot cost more than there
was to begin with.
-/

namespace Machine

variable {S E : Type*} {M : Machine S E} {G : S → E → Prop} {s t : S} {es : List E}

theorem Run.cost_le {I : S → Prop} {cost : E → Nat} {left : S → Nat} (run : M.Run G s es t)
    (initial : I s) (keeps : ∀ a e b, I a → G a e → M.step a e = some b → I b)
    (pays : ∀ a e b, I a → G a e → M.step a e = some b → cost e + left b ≤ left a) :
    (es.map cost).sum + left t ≤ left s := by
  induction run with
  | nil => simp
  | @snoc es e t u prior guard step ih =>
    have paid := pays _ _ _ (prior.invariant initial keeps) guard step
    rw [List.map_append, List.sum_append, List.map_cons, List.map_nil, List.sum_singleton]
    omega

end Machine
