import CartX.Properties.OrderBook
import Mathlib.Data.List.Perm.Subperm

/-!
# Double orders

`_placeOrder` neither disables its button nor remembers that it is running, so
nothing but the user's patience keeps a cart from being ordered twice. What is
true: if Confirm Order is tapped only while no order begun since the last
Add-to-Cart tap is pending or recorded, no two orders of one such window are
recorded. And no weaker rule for the taps would do: after any other tap it is
enough that answers come, and nobody taps again, for a second order to be recorded
(`recorded_once_of_patient`).
-/

namespace CartX

/-- The attempts whose document is in the store or may still get there. -/
def Book.live (b : Book) : List Attempt := b.inFlight ++ b.recorded

/-- Confirm Order is tapped with no live attempt of the current window. -/
def Patient (p : App × Book) (e : Timed) : Prop :=
  e.event = .tapConfirm → ∀ a ∈ p.2.live, a.window ≠ p.2.adds

instance (p : App × Book) (e : Timed) : Decidable (Patient p e) :=
  inferInstanceAs (Decidable (_ → ∀ a ∈ _, _))

/-- Nothing but the answer to a call happens. -/
def Answered (_ : App × Book) (e : Timed) : Prop := ∃ call outcome, e.event = .answer call outcome

/-! ### One attempt per window -/

/-- Settling an attempt moves it or drops it. -/
theorem Book.settle_live_subperm (b : Book) (call : Nat) (recorded : Bool) :
    (b.settle call recorded).live.Subperm b.live := by
  have fewer : (b.inFlight.filter fun a => a.call != call).Sublist b.inFlight :=
    List.filter_sublist
  cases found : b.inFlight.find? fun a => a.call == call with
  | none => simp only [Book.settle, found]; exact .refl _
  | some attempt =>
    cases recorded with
    | false =>
      simp only [Book.settle, found, Bool.false_eq_true, if_false, Book.live]
      exact (fewer.append_right _).subperm
    | true =>
      -- the attempt leaves the front and joins the back
      obtain ⟨same, front, back, split, _⟩ := List.find?_eq_some_iff_append.mp found
      have kept : (b.inFlight.filter fun a => a.call != call).Sublist (front ++ back) := by
        have dropped : (attempt.call != call) = false := by simpa using same
        rw [split, List.filter_append, List.filter_cons_of_neg (by simp [dropped])]
        exact List.filter_sublist.append List.filter_sublist
      simp only [Book.settle, found, if_true, Book.live]
      refine (kept.append_right _).subperm.trans (List.Perm.subperm ?_)
      rw [split]
      grind

/-- No two live attempts began in one window. -/
def Book.Single (b : Book) : Prop := (b.live.map Attempt.window).Nodup

theorem Book.Single.recorded {b : Book} (single : b.Single) :
    (b.recorded.map Attempt.window).Nodup :=
  single.sublist ((List.sublist_append_right _ _).map _)

theorem Book.Single.step {p : App × Book} {e : Timed} (single : p.2.Single) (patient : Patient p e) :
    (p.2.step (p.1.bookEvent e)).Single := by
  cases entry : p.1.bookEvent e with
  -- a new attempt joins the live ones; the window must be new
  | begin call user doc =>
    have fresh := patient (bookEvent_eq_begin entry).1
    simp only [Book.Single, Book.step, Book.begin, Book.live, List.cons_append, List.map_cons,
      List.nodup_cons]
    refine ⟨fun listed => ?_, single⟩
    obtain ⟨a, member, same⟩ := List.mem_map.mp listed
    exact fresh a member same
  -- an end moves or drops an attempt, so windows stay apart
  | settle call recorded =>
    obtain ⟨kept, perm, sub⟩ := p.2.settle_live_subperm call recorded
    exact (perm.map _).nodup_iff.mp (single.sublist (sub.map _))
  | delete index =>
    simp only [Book.step, Book.delete]
    split <;> exact single
  | add | other => exact single

/-! ### Answers that record a second order -/

section Answers

variable {currentUser : Option Uid} {orders : List OrderDoc} {es : List Timed} {p : App × Book}

/-- The call behind an attempt in flight. -/
theorem Tracks.pending {s : App} {book : Book} (tracks : Tracks orders s book) {a : Attempt}
    (member : a ∈ book.inFlight) : ∃ page, (⟨a.call, page, .addOrder a.doc⟩ : Call) ∈ s.pending := by
  have listed : (a.call, a.doc) ∈ s.pending.filterMap Call.order? := by
    rw [← tracks.inFlight]
    exact List.mem_map.mpr ⟨a, member, rfl⟩
  obtain ⟨⟨id, page, point⟩, pending, order⟩ := List.mem_filterMap.mp listed
  obtain ⟨rfl, rfl⟩ := order?_eq_some_iff.mp order
  exact ⟨page, pending⟩

/-- Attempts in flight have names of their own. -/
theorem Tracks.attempt_unique {s : App} {book : Book} (tracks : Tracks orders s book)
    (wf : WellFormed s) : (book.inFlight.map Attempt.call).Nodup := by
  have names : book.inFlight.map Attempt.call = (s.pending.filterMap Call.order?).map Prod.fst := by
    rw [← tracks.inFlight, List.map_map]
    rfl
  -- the orders' names are some of the calls' names, in their order
  have sub : ((s.pending.filterMap Call.order?).map Prod.fst).Sublist (s.pending.map Call.id) := by
    generalize s.pending = pending
    induction pending with
    | nil => exact .refl _
    | cons call rest ih =>
      cases order : call.order? with
      | none => simpa [order] using ih.cons call.id
      | some entry =>
        have same : entry.1 = call.id := (order?_eq_some_iff.mp order).1.symm
        simpa [order, same] using ih
  rw [names]
  exact (wf.callNames.imp Nat.ne_of_gt).sublist sub

/-- A pending order can be answered with success. -/
theorem App.answer_enabled {s : App} {call : Call} {doc : OrderDoc} (member : call ∈ s.pending)
    (wf : WellFormed s) (point : call.point = .addOrder doc) :
    ∃ s', s.step ⟨s.now + 1, .answer call.id (.success .done)⟩ = some s' ∧
      s.bookEvent ⟨s.now + 1, .answer call.id (.success .done)⟩ = .settle call.id true := by
  have found : s.pending.find? (fun other => other.id == call.id) = some call :=
    find?_name (wf.callNames.imp Nat.ne_of_gt) member
  have ends : call.canEnd (.success .done) = true := by simp [Call.canEnd, point, Await.expects]
  exact ⟨_, App.step_answer wf member ends, Tracks.bookEvent_of_order _ found point⟩

/-- An attempt in flight may be recorded next. -/
theorem exists_recorded (run : bookedApp.Run Machine.Free (App.init currentUser orders, {}) es p)
    {a : Attempt} (member : a ∈ p.2.inFlight) :
    ∃ e q, Answered p e ∧ bookedApp.step p e = some q ∧ q.2.recorded = p.2.recorded ++ [a] ∧
      ∀ other ∈ p.2.inFlight, other.call ≠ a.call → other ∈ q.2.inFlight := by
  -- the attempt's call is pending, and its success is an event of the app
  obtain ⟨wf, tracks⟩ := tracks_of_run run
  obtain ⟨page, pending⟩ := tracks.pending member
  obtain ⟨s', step, entry⟩ := App.answer_enabled pending wf rfl
  have found := find?_name (tracks.attempt_unique wf) member
  refine ⟨_, (s', p.2.settle a.call true), ⟨a.call, .success .done, rfl⟩,
    Machine.observe_step_iff.mpr ⟨step, ?_⟩, ?_, ?_⟩
  · dsimp only at entry ⊢
    rw [entry]
    rfl
  · simp [Book.settle, found]
  · intro other other_mem different
    simp [Book.settle, found, other_mem, different]

/-- A Confirm Order tap begins an attempt of the current window, under a new name. -/
theorem confirm_begins {q : App × Book} {e : Timed} (tapped : e.event = .tapConfirm)
    (step : bookedApp.step p e = some q) :
    ∃ a, q.2 = { p.2 with inFlight := a :: p.2.inFlight } ∧ a.window = p.2.adds ∧
      p.1.now < a.call := by
  obtain ⟨time, event⟩ := e
  obtain ⟨moved, entered⟩ := Machine.observe_step_iff.mp step
  dsimp only at tapped
  subst tapped
  obtain ⟨⟨id, page, dirty⟩, rest, state, shape, shown, _⟩ := App.step_confirm moved
  dsimp only at shown
  subst shown
  simp only [App.bookEvent, shape, Book.step, Book.begin] at entered
  exact ⟨_, entered, rfl, (App.step_cases moved).1⟩

/-- After a hasty tap, answers alone can record two orders of one window. -/
theorem hasty_tap_doubles {q : App × Book} {e : Timed}
    (run : bookedApp.Run Machine.Free (App.init currentUser orders, {}) es p)
    (step : bookedApp.step p e = some q) (hasty : ¬ Patient p e) :
    ∃ fs r, bookedApp.Run Answered q fs r ∧ ¬ (r.2.recorded.map Attempt.window).Nodup := by
  simp only [Patient, not_forall, not_not] at hasty
  obtain ⟨tapped, old, live, window⟩ := hasty
  obtain ⟨new, begun, new_window, fresh⟩ := confirm_begins tapped step
  have here : new ∈ q.2.inFlight := by simp [begun]
  have run_q := run.snoc trivial step
  rcases List.mem_append.mp live with pending | recorded
  · -- the earlier order is still pending: it is recorded first, then the new one
    obtain ⟨wf, tracks⟩ := tracks_of_run run
    obtain ⟨page, call⟩ := tracks.pending pending
    have different : new.call ≠ old.call := by
      have := (wf.callAge _ call).1
      dsimp only at this
      omega
    obtain ⟨f, r, answer, first, one, rest⟩ :=
      exists_recorded run_q (show old ∈ q.2.inFlight by simp [begun, pending])
    obtain ⟨g, t, answer', second, two, _⟩ :=
      exists_recorded (run_q.snoc trivial first) (rest new here different)
    refine ⟨_, t, (Machine.Run.single answer first).snoc answer' second, ?_⟩
    simp [two, one, window, new_window, List.nodup_append]
  -- the earlier order is recorded already: the new one is recorded next
  · obtain ⟨f, r, answer, recording, one, _⟩ := exists_recorded run_q here
    refine ⟨_, r, .single answer recording, ?_⟩
    simp only [one, begun, List.map_append, List.map_cons, List.map_nil, List.nodup_append]
    rintro ⟨_, _, apart⟩
    exact apart _ (List.mem_map.mpr ⟨old, recorded, window⟩) _ (by simp) new_window.symm

end Answers

/-! ### The result -/

/-- In every run of patient taps no two recorded orders are of one window; a tap that is not
patient can be followed by answers alone that record two. -/
theorem recorded_once_of_patient (currentUser : Option Uid) (orders : List OrderDoc) :
    (∀ es p, bookedApp.Run Patient (App.init currentUser orders, {}) es p →
      p.1.orders = orders ++ p.2.recorded.map Attempt.doc ∧
        (p.2.recorded.map Attempt.window).Nodup) ∧
    (∀ es p e q, bookedApp.Run Patient (App.init currentUser orders, {}) es p →
      bookedApp.step p e = some q → ¬ Patient p e →
      ∃ fs r, bookedApp.Run Answered q fs r ∧
        ¬ (r.2.recorded.map Attempt.window).Nodup) := by
  refine ⟨fun es p run => ⟨(tracks_of_run run).2.recorded, ?_⟩,
    fun es p e q run step hasty => hasty_tap_doubles run.free step hasty⟩
  have single : p.2.Single := by
    refine run.invariant (I := fun p : App × Book => p.2.Single) List.nodup_nil ?_
    intro a e b single patient step
    rw [(Machine.observe_step_iff.mp step).2]
    exact single.step patient
  exact single.recorded

/-- From the start to a checkout page for one tomato. -/
def toCheckout : List Event :=
  [.splashTimeout, .tapLogin, .answer 2 (.success (.user "A")), .tapProduct tomato,
    .answer 4 (.success (.wish false)), .tapAddToCart, .tapNav 2, .buildRow 0, .tapProceed]

/-- A patient order, and a second one after it failed. -/
theorem recorded_once_retry : ∃ p, bookedApp.Run Patient (App.init none [], {})
    (schedule (toCheckout ++ [.tapConfirm, .answer 10 .exception, .tapConfirm,
      .answer 12 (.success .done)])) p ∧ (p.2.recorded.map Attempt.window).Nodup ∧
      p.1.orders.length = 1 := by
  obtain ⟨p, run, one⟩ := Machine.exists_run_of_exec bookedApp Patient
    (App.init none [], {})
    (schedule (toCheckout ++ [.tapConfirm, .answer 10 .exception, .tapConfirm,
      .answer 12 (.success .done)])) (fun p => p.1.orders.length == 1) (by decide +kernel)
  exact ⟨p, run, ((recorded_once_of_patient none []).1 _ p run).2, by simpa using one⟩

/-- Two taps on Confirm Order before the first answer: both orders are recorded. -/
theorem double_tap_records_twice :
    ¬ ∀ (currentUser : Option Uid) (orders : List OrderDoc) (es : List Timed) (p : App × Book),
      bookedApp.Run Machine.Free (App.init currentUser orders, {}) es p →
        (p.2.recorded.map Attempt.window).Nodup := by
  intro all
  obtain ⟨p, run, twice⟩ := Machine.exists_run_of_exec bookedApp Machine.Free
    (App.init none [], {})
    (schedule (toCheckout ++ [.tapConfirm, .tapConfirm, .answer 10 (.success .done),
      .answer 11 (.success .done)]))
    (fun p => p.2.recorded.map Attempt.window == [1, 1]) (by decide +kernel)
  have once := all none [] _ p run
  rw [eq_of_beq twice] at once
  exact absurd once (by decide)

end CartX
