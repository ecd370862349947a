import CartX.Machine.Run

/-!
# History variables and pairs of runs

`M.observe record` runs `M` beside a history variable. The variable never
disables an event, so `M` and the observed machine have the same runs; it gives
a property of whole runs a state to talk about.

`Run.lockstep` is the proof rule for two runs that share some of their events.
-/

namespace Machine

variable {S E H : Type*} {M : Machine S E} {record : S → E → S → H → H}
variable {G : S → E → Prop} {s t : S} {es : List E} {e : E}

def observe (M : Machine S E) (record : S → E → S → H → H) : Machine (S × H) E where
  step p e := (M.step p.1 e).map fun t => (t, record p.1 e t p.2)

theorem observe_step_iff {p q : S × H} :
    (M.observe record).step p e = some q ↔
      M.step p.1 e = some q.1 ∧ q.2 = record p.1 e q.1 p.2 := by
  simp only [observe, Option.map_eq_some_iff, Prod.ext_iff]
  constructor
  · rintro ⟨t, step, rfl, same⟩
    exact ⟨step, same.symm⟩
  · rintro ⟨step, same⟩
    exact ⟨q.1, step, rfl, same.symm⟩

theorem observe_step (step : M.step s e = some t) (h : H) :
    (M.observe record).step (s, h) e = some (t, record s e t h) :=
  observe_step_iff.mpr ⟨step, rfl⟩

/-- Every run of `M` is observed. -/
theorem Run.observed (run : M.Run G s es t) (h : H) :
    ∃ h', (M.observe record).Run (fun p e => G p.1 e) (s, h) es (t, h') := by
  induction run with
  | nil => exact ⟨h, .nil⟩
  | @snoc _ e a b _ guard step ih =>
    obtain ⟨h', run⟩ := ih
    exact ⟨record a e b h', .snoc run guard (observe_step step h')⟩

/-- A run of the observed machine is one of `M`. -/
theorem Run.unobserved {K : S × H → E → Prop} {p q : S × H} (run : (M.observe record).Run K p es q) :
    M.Run Free p.1 es q.1 := by
  induction run with
  | nil => exact .nil
  | snoc _ _ step ih => exact .snoc ih trivial (observe_step_iff.mp step).1

/-- If guarded steps keep an invariant that gives `P`, and from the invariant no other step leads
to `P`, then the guarded runs are the runs all of whose states satisfy `P`. -/
theorem Run.guarded_iff_of_kept {J P : S → Prop} (initial : J s) (gives : ∀ a, J a → P a)
    (keeps : ∀ a e b, J a → G a e → M.step a e = some b → J b)
    (exact_guard : ∀ a e b, J a → M.step a e = some b → P b → G a e) :
    M.Run G s es t ↔ M.Run (fun a _ => P a) s es t ∧ P t := by
  constructor
  · intro run
    induction run with
    | nil => exact ⟨.nil, gives s initial⟩
    | snoc prior guard step ih =>
      exact ⟨.snoc ih.1 ih.2 step, gives _ (keeps _ _ _ (prior.invariant initial keeps) guard step)⟩
  · rintro ⟨run, last⟩
    induction run with
    | nil => exact .nil
    | snoc prior before step ih =>
      have guarded := ih before
      exact .snoc guarded (exact_guard _ _ _ (guarded.invariant initial keeps) step last) step

/-- If, from states where `P` holds, a step keeps `P` exactly when the guard allows it,
then the guarded runs are the runs all of whose states satisfy `P`. -/
theorem Run.guarded_iff_always {I P : S → Prop} (inv : I s) (initial : P s)
    (keeps : ∀ a e b, I a → M.step a e = some b → I b)
    (exact_guard : ∀ a e b, I a → P a → M.step a e = some b → (G a e ↔ P b)) :
    M.Run G s es t ↔ M.Run (fun a _ => P a) s es t ∧ P t := by
  apply Run.guarded_iff_of_kept (J := fun a => I a ∧ P a) ⟨inv, initial⟩
  · intro a both
    exact both.2
  · intro a e b both guard step
    exact ⟨keeps a e b both.1 step, (exact_guard a e b both.1 both.2 step).mp guard⟩
  · intro a e b both step last
    exact (exact_guard a e b both.1 both.2 step).mpr last

/-- If a step leads to `P` exactly when it starts from `P` and the guard allows it, the guarded
runs are the runs that end in `P`. -/
theorem Run.guarded_iff_ends {I P : S → Prop} (inv : I s) (initial : P s)
    (keeps : ∀ a e b, I a → M.step a e = some b → I b)
    (exact_guard : ∀ a e b, I a → M.step a e = some b → (P b ↔ P a ∧ G a e)) :
    M.Run G s es t ↔ M.Run Free s es t ∧ P t := by
  constructor
  · intro run
    refine ⟨run.free, ?_⟩
    have both : I t ∧ P t := run.invariant (I := fun a => I a ∧ P a) ⟨inv, initial⟩ fun a e b ih guard step =>
      ⟨keeps a e b ih.1 step, (exact_guard a e b ih.1 step).mpr ⟨ih.2, guard⟩⟩
    exact both.2
  · rintro ⟨run, last⟩
    induction run with
    | nil => exact .nil
    | snoc prior _ step ih =>
      have before := (exact_guard _ _ _ (prior.invariant inv fun a e b ia _ => keeps a e b ia) step).mp last
      exact .snoc (ih before.1) before.2 step

/-! ### Two runs with shared events -/

variable {s' t' : S} {es' : List E} {shared : E → Bool} {R : S → S → Prop}

/-- Two runs that perform the same shared events in the same order stay related, when
shared events taken by both sides and private events of either side keep the relation. -/
theorem Run.lockstep (left : M.Run Free s es t) (right : M.Run Free s' es' t')
    (same : es.filter shared = es'.filter shared) (related : R s s')
    (keep_left : ∀ a a' e b, R a a' → shared e = false → M.step a e = some b → R b a')
    (keep_right : ∀ a a' e b', R a a' → shared e = false → M.step a' e = some b' → R a b')
    (keep_both : ∀ a a' e b b', R a a' → shared e = true → M.step a e = some b →
      M.step a' e = some b' → R b b') : R t t' := by
  induction left generalizing es' t' with
  | nil =>
    induction right with
    | nil => exact related
    | @snoc es' e _ _ _ _ step ih =>
      cases kind : shared e with
      | true => simp [List.filter_append, kind] at same
      | false =>
        rw [List.filter_append] at same
        exact keep_right _ _ e _ (ih (by simpa [kind] using same)) kind step
  | @snoc es e t u left _ step ih =>
    cases kind : shared e with
    | false =>
      have same' : es.filter shared = es'.filter shared := by
        simpa [List.filter_append, kind] using same
      exact keep_left _ _ e _ (ih right same') kind step
    | true =>
      -- the right run performs `e` too; whatever follows it there is private
      induction right with
      | nil => simp [List.filter_append, kind] at same
      | @snoc fs f t' u' right _ step' ih' =>
        cases kind' : shared f with
        | false =>
          have same' : (es ++ [e]).filter shared = fs.filter shared := by
            simpa [List.filter_append, kind'] using same
          exact keep_right _ _ f _ (ih' same') kind' step'
        | true =>
          simp only [List.filter_append, List.filter_cons, kind, kind', List.filter_nil,
            if_true] at same
          obtain ⟨front, back⟩ := List.append_inj' same rfl
          cases back
          exact keep_both _ _ e _ _ (ih right front) kind step step'

end Machine
