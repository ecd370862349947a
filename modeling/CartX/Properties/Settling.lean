import CartX.Machine.Ranking
import CartX.Properties.Failures
import CartX.Properties.Freshness
import CartX.Properties.Navigation

/-!
# Waiting for Firebase

While the user does nothing, only answers and frames happen. Each answer ends a
handler or, in `_signup`, brings it to its second and last call, so at most two
answers come for each handler that is suspended. Whatever they are and in whatever
order they come, the app comes to rest, and then every login page that is left can be
used again: `_login` resets its flag on every way out, and the next frame enables the
button.
-/

namespace CartX

/-- The answers a suspended handler still waits for, at most. -/
def Await.answersLeft : Await → Nat
  | .createUser => 2
  | _ => 1

def App.answersLeft (s : App) : Nat := (s.pending.map fun call => call.point.answersLeft).sum

/-- The user does nothing: answers and frames only. -/
def Event.isPassive : Event → Bool
  | .answer _ _ | .frame => true
  | _ => false

def Event.answers : Event → Nat
  | .answer _ _ => 1
  | _ => 0

/-- The user does nothing. -/
def Waits (_ : App) (e : Timed) : Prop := e.event.isPassive = true

/-- At rest: no page is marked, and every login page can be used. -/
structure App.Rested (s : App) : Prop where
  clean : ∀ route ∈ s.stack, route.dirty = false
  login : ∀ route ∈ s.stack, ∀ state, route.page = .login state →
    state.isLoading = false ∧ state.buttonEnabled = true

theorem Await.answersLeft_pos (point : Await) : 1 ≤ point.answersLeft := by
  cases point <;> simp [Await.answersLeft]

theorem Await.answersLeft_le_two (point : Await) : point.answersLeft ≤ 2 := by
  cases point <;> simp [Await.answersLeft]

section Step

variable {s s' : App} {e : Timed}

/-- Taking one call off the list takes its answers off the sum. -/
theorem answersLeft_settle {pending : List Call} {call : Call}
    (names : (pending.map Call.id).Pairwise (· > ·)) (member : call ∈ pending) :
    (pending.map fun call => call.point.answersLeft).sum = call.point.answersLeft +
      ((pending.filter fun other => other.id != call.id).map fun call => call.point.answersLeft).sum := by
  induction pending with
  | nil => cases member
  | cons other rest ih =>
    rw [List.map_cons, List.pairwise_cons] at names
    have older : ∀ c ∈ rest, c.id < other.id := fun c listed =>
      names.1 c.id (List.mem_map_of_mem listed)
    rcases List.mem_cons.mp member with rfl | listed
    · have kept : rest.filter (fun c => c.id != call.id) = rest :=
        List.filter_eq_self.mpr fun c listed => by simp [(older c listed).ne]
      rw [List.filter_cons_of_neg (by simp), kept, List.map_cons, List.sum_cons]
    · have stays : (other.id != call.id) = true := by simp [(older call listed).ne']
      have kept : (other :: rest).filter (fun c => c.id != call.id) =
          other :: rest.filter fun c => c.id != call.id := List.filter_cons_of_pos stays
      rw [kept, List.map_cons, List.map_cons, List.sum_cons, List.sum_cons, ih names.2 listed]
      omega

theorem App.step_answersLeft (wf : WellFormed s) (waits : Waits s e) (step : s.step e = some s') :
    e.event.answers + s'.answersLeft ≤ s.answersLeft := by
  obtain ⟨time, event⟩ := e
  cases event with
  | frame =>
    rw [step_frame_iff step]
    exact (Nat.zero_add _).le
  | answer id outcome =>
    obtain ⟨call, turn, member, rfl, _, resumed, rfl⟩ := App.step_answered step
    have paid := answersLeft_settle wf.callNames member
    -- the handler ends, or it is `_signup` on its way to the document
    rcases resumed.started rfl with none | ⟨created, _, one, _⟩
    · have some_left := call.point.answersLeft_pos
      simp only [App.answersLeft, App.after_pending, App.commit_pending, App.settle, none,
        List.nil_append, Event.answers]
      omega
    · simp only [created, Await.answersLeft] at paid
      simp only [App.answersLeft, App.after_pending, App.commit_pending, App.settle, one,
        List.cons_append, List.nil_append, List.map_cons, List.sum_cons, Event.answers,
        Await.answersLeft]
      omega
  | _ => cases waits

theorem App.answersLeft_le (s : App) : s.answersLeft ≤ 2 * s.pending.length := by
  unfold App.answersLeft
  induction s.pending with
  | nil => simp
  | cons call rest ih =>
    have most := call.point.answersLeft_le_two
    rw [List.map_cons, List.sum_cons, List.length_cons]
    omega

/-- A frame with nothing pending leaves every page in order. -/
theorem App.rested_refreshed (flight : SingleFlight s) (fresh : s.Fresh) (quiet : s.pending = [])
    (time : Nat) : (s.refreshed time).Rested where
  clean := by
    intro route member
    obtain ⟨old, _, rfl⟩ := List.mem_map.mp member
    cases dirty : old.dirty <;> simp [Route.refresh, dirty]
  login := by
    intro route member state shown
    obtain ⟨old, listed, rfl⟩ := List.mem_map.mp member
    have idle : ∀ before, old.page = .login before → before.isLoading = false := by
      intro before isLogin
      have unsent : s.signIns old.id = [] := by simp [App.signIns, quiet]
      simpa [unsent] using flight.flag old listed before isLogin
    cases dirty : old.dirty with
    | true =>
      simp only [Route.refresh, dirty, if_true] at shown
      cases before : old.page <;> simp [before, Page.rebuild] at shown
      simp [← shown, idle _ before]
    | false =>
      -- a page that is not marked was built after the flag last changed
      simp only [Route.refresh, dirty, Bool.false_eq_true, if_false] at shown
      have other : old.page.isCart = false := by rw [shown]; rfl
      rcases fresh old listed dirty with built | ⟨isCart, _⟩
      · have same := (Route.upToDate_other other).mp built
        simp only [shown, Page.rebuild, Page.login.injEq] at same
        exact ⟨idle _ shown, by rw [← same, idle _ shown]; rfl⟩
      · simp [other] at isCart

end Step

/-! ### The result -/

section Result

variable {currentUser : Option Uid} {orders : List OrderDoc} {es waiting : List Timed} {s t : App}

/-- From every state the app can reach, while the user does nothing: the answers that come are
at most two for each call pending then, less those still to come; each call that is pending can
be answered next, with every outcome it can have; and once none is pending, the next
frame leaves no page marked and every login page with its button enabled. -/
theorem waiting_comes_to_rest (run : app.Run Machine.Free (App.init currentUser orders) es s)
    (wait : app.Run Waits s waiting t) :
    (waiting.map fun e => e.event.answers).sum + t.answersLeft ≤ 2 * s.pending.length ∧
    (∀ call ∈ t.pending, ∀ outcome, call.canEnd outcome = true →
      ∃ u, t.step ⟨t.now + 1, .answer call.id outcome⟩ = some u ∧ u.answersLeft < t.answersLeft) ∧
    (t.pending = [] → ∀ time, t.now < time →
      ∃ u, t.step ⟨time, .frame⟩ = some u ∧ u.Rested) := by
  have whole := run.append wait.free
  have laid := laid_of_run whole
  refine ⟨?_, ?_, ?_⟩
  · have paid := wait.cost_le (laid_of_run run).wf (fun _ _ _ wf _ step => wf.step step)
      fun _ _ _ wf waits step => App.step_answersLeft wf waits step
    exact paid.trans s.answersLeft_le
  · intro call member outcome ends
    have step := App.step_answer laid.wf member ends
    have waits : Waits t ⟨t.now + 1, .answer call.id outcome⟩ := rfl
    have paid := App.step_answersLeft laid.wf waits step
    exact ⟨_, step, by rw [Event.answers] at paid; omega⟩
  · intro quiet time later
    exact ⟨_, step_frame later, App.rested_refreshed laid.flight (fresh_of_run whole) quiet time⟩

/-- A sign-in that ends in an exception `_login` does not catch. -/
theorem failed_login_comes_to_rest : ∃ s t u, app.Run Machine.Free (App.init none [])
    (schedule [.splashTimeout, .tapLogin]) s ∧ app.Run Waits s [⟨3, .answer 2 .exception⟩] t ∧
    t.step ⟨4, .frame⟩ = some u ∧ u.Rested := by
  obtain ⟨s, run, ends⟩ := Machine.exists_run_of_exec app Machine.Free (App.init none [])
    (schedule [.splashTimeout, .tapLogin])
    (fun s => (s.step ⟨3, .answer 2 .exception⟩).any fun t => t.pending == [] && t.now == 3)
    (by decide +kernel)
  obtain ⟨t, step, quiet⟩ := Option.any_eq_true .. |>.mp ends
  simp only [Bool.and_eq_true, beq_iff_eq] at quiet
  have wait : app.Run Waits s [⟨3, .answer 2 .exception⟩] t := .single rfl step
  obtain ⟨u, frame, rested⟩ := (waiting_comes_to_rest run wait).2.2 quiet.1 4 (by omega)
  exact ⟨s, t, u, run, wait, frame, rested⟩

end Result

end CartX
