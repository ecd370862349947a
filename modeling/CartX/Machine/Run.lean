import Mathlib.Data.List.Basic

/-!
# Deterministic event machines

A machine answers every event either with the state it moves to or with `none`,
when the event cannot happen. A run carries a guard: a condition on the state
before each step and the event performed there. `Free` is the guard that asks
for nothing, so `M.Run Free s es t` is an arbitrary run.
-/

structure Machine (S E : Type*) where
  step : S → E → Option S

namespace Machine

variable {S E : Type*} {M : Machine S E} {G : S → E → Prop} {s t u : S} {es fs : List E} {e : E}

/-- The guard of an unrestricted run. -/
def Free (_ : S) (_ : E) : Prop := True

instance (s : S) (e : E) : Decidable (Free s e) := inferInstanceAs (Decidable True)

inductive Run (M : Machine S E) (G : S → E → Prop) (s : S) : List E → S → Prop
  | nil : Run M G s [] s
  | snoc {es : List E} {e : E} {t u : S} :
      Run M G s es t → G t e → M.step t e = some u → Run M G s (es ++ [e]) u

theorem Run.mono {G' : S → E → Prop} (weaker : ∀ s e, G s e → G' s e)
    (run : M.Run G s es t) : M.Run G' s es t := by
  induction run with
  | nil => exact .nil
  | snoc _ guard step ih => exact .snoc ih (weaker _ _ guard) step

theorem Run.free (run : M.Run G s es t) : M.Run Free s es t :=
  run.mono fun _ _ _ => trivial

theorem Run.append (first : M.Run G s es t) (second : M.Run G t fs u) :
    M.Run G s (es ++ fs) u := by
  induction second with
  | nil => simpa using first
  | snoc _ guard step ih =>
    rw [← List.append_assoc]
    exact .snoc ih guard step

theorem Run.single (guard : G s e) (step : M.step s e = some t) : M.Run G s [e] t :=
  show M.Run G s ([] ++ [e]) t from .snoc .nil guard step

/-- A run may be extended at its front too. -/
theorem Run.cons (guard : G s e) (step : M.step s e = some t) (rest : M.Run G t es u) :
    M.Run G s (e :: es) u :=
  (Run.single guard step).append rest

/-- What holds initially and is kept by every guarded step holds after every run. -/
theorem Run.invariant {I : S → Prop} (run : M.Run G s es t) (initial : I s)
    (keeps : ∀ a e b, I a → G a e → M.step a e = some b → I b) : I t := by
  induction run with
  | nil => exact initial
  | snoc _ guard step ih => exact keeps _ _ _ ih guard step

/-! ### Executing a list of events -/

def exec (M : Machine S E) (G : S → E → Prop) [∀ s e, Decidable (G s e)] (s : S) :
    List E → Option S
  | [] => some s
  | e :: es =>
    if G s e then
      match M.step s e with
      | some t => exec M G t es
      | none => none
    else none

theorem run_of_exec [∀ s e, Decidable (G s e)] (done : M.exec G s es = some t) :
    M.Run G s es t := by
  induction es generalizing s with
  | nil => cases done; exact .nil
  | cons e es ih =>
    simp only [exec] at done
    split at done
    next guard =>
      cases step : M.step s e with
      | none => simp [step] at done
      | some m =>
        simp only [step] at done
        exact .cons guard step (ih done)
    · cases done

/-- A test on the result of an execution gives a run that passes it. -/
theorem exists_run_of_exec (M : Machine S E) (G : S → E → Prop) [∀ s e, Decidable (G s e)] (s : S)
    (es : List E) (test : S → Bool) (passes : (M.exec G s es).any test = true) :
    ∃ t, M.Run G s es t ∧ test t = true := by
  cases done : M.exec G s es with
  | none => simp [done] at passes
  | some t =>
    rw [done] at passes
    exact ⟨t, run_of_exec done, passes⟩

end Machine
