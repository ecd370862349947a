import CartX.Machine.Simulation
import CartX.Model.Exits
import CartX.Properties.Mounted
import CartX.Properties.Orderable
import CartX.Properties.Tabs

/-!
# The app with exit transitions

As long as no handler navigates from a leaving page, the delay changes nothing: such runs
are runs of the app (`exiting_simulates_app`), and every run of the app is one of them
(`app_simulates_exiting`). So what is proved of the app's runs holds of these.

A handler that does navigate from a leaving page acts on another page than its own. The
save of a profile is the worst case: its `pop` then closes the page below the form, and
the navigator can be left empty.
-/

namespace CartX

/-! ### Effects that do not navigate -/

section Effects

variable {turn : Turn} {id : Nat} {effect : Effect} {effects : List Effect}

theorem Turn.mounted_applyEffect (quiet : effect.changesStack = false) (time : Nat) :
    (turn.applyEffect time id effect).mounted id = turn.mounted id := by
  cases effect with
  | setState update => rw [applyEffect_setState, mounted_setState]
  | showSnackBar content => rw [applyEffect_showSnackBar]
  | clearCart => rfl
  | _ => cases quiet

/-- On a page that is off the stack they do the same whether it is disposed of or not. -/
theorem applyEffect_quiet {mounted : Bool} (quiet : effect.changesStack = false)
    (there : turn.mounted id = true → mounted = true) (time : Nat) :
    Exiting.applyEffect mounted time id turn effect = turn.applyEffect time id effect := by
  cases effect with
  | setState update =>
    rw [Turn.applyEffect_setState]
    cases mounted with
    | true => rfl
    | false =>
      have away : turn.mounted id = false := by simpa using there
      exact (Turn.setState_of_unmounted away _).symm
  | showSnackBar content =>
    rw [Turn.applyEffect_showSnackBar]
    simp [Exiting.applyEffect, Turn.perform]
  | clearCart => rfl
  | _ => cases quiet

theorem applyEffects_quiet {mounted : Bool} (quiet : ∀ effect ∈ effects, effect.changesStack = false)
    (there : turn.mounted id = true → mounted = true) (time : Nat) :
    effects.foldl (Exiting.applyEffect mounted time id) turn =
      effects.foldl (Turn.applyEffect time id) turn := by
  induction effects generalizing turn with
  | nil => rfl
  | cons effect rest ih =>
    have first := quiet effect List.mem_cons_self
    rw [List.foldl_cons, List.foldl_cons, applyEffect_quiet first there]
    exact ih (fun other member => quiet other (List.mem_cons_of_mem _ member))
      (by rwa [Turn.mounted_applyEffect first])

/-- Without its page no handler navigates. -/
theorem resume_unmounted_quiet (point : Await) (outcome : Outcome) :
    ∀ effect ∈ (resume point false outcome).1, effect.changesStack = false := by
  cases outcome with
  | success response =>
    cases point with
    | getUser => rcases response with _ | _ | _ | (_ | data) <;> simp [resume, Effect.changesStack]
    | getWish => cases response <;> simp [resume, whenMounted]
    | _ => simp [resume, whenMounted, loginFinally, Effect.changesStack]
  | _ => cases point <;> simp [resume, whenMounted, loginFinally, signupCatch, Effect.changesStack]

/-- A leaving page whose handler does not navigate may as well be gone. -/
theorem resume_away (away : turn.mounted id = false) (point : Await) (outcome : Outcome)
    (quiet : ∀ effect ∈ (resume point true outcome).1, effect.changesStack = false) (time : Nat) :
    (resume point true outcome).1.foldl (Turn.applyEffect time id) turn =
      (resume point false outcome).1.foldl (Turn.applyEffect time id) turn := by
  have unchanged := fun update => Turn.setState_of_unmounted away update
  cases outcome with
  | success response =>
    cases point with
    | getUser => rcases response with _ | _ | _ | (_ | data) <;> rfl
    | getWish => cases response <;> simp [resume, whenMounted, unchanged]
    | writeWish => simp [resume, whenMounted, unchanged]
    | createUser => rfl
    -- the others navigate
    | _ => simp [resume, whenMounted, Effect.changesStack] at quiet
  | _ => cases point <;> simp [resume, whenMounted, loginFinally, unchanged]

/-- On a page of the stack the handler does the same: it uses nothing but the page's state after
the navigator. -/
theorem resume_there (there : turn.mounted id = true) (point : Await) (outcome : Outcome)
    (time : Nat) :
    (resume point true outcome).1.foldl (Exiting.applyEffect true time id) turn =
      (resume point true outcome).1.foldl (Turn.applyEffect time id) turn := by
  by_cases quiet : ∀ effect ∈ (resume point true outcome).1, effect.changesStack = false
  · exact applyEffects_quiet quiet (fun _ => rfl) time
  have still : (turn.setState id (Page.apply (.isLoading false))).mounted id = true := by
    rw [Turn.mounted_setState, there]
  have cleared : ({ turn with globalCart := [] } : Turn).mounted id = true := there
  cases outcome with
  | success response =>
    cases point with
    | getUser =>
      rcases response with _ | _ | _ | (_ | data) <;> simp [resume, Effect.changesStack] at quiet
    | getWish => cases response <;> simp [resume, whenMounted, Effect.changesStack] at quiet
    | createUser | writeWish => simp [resume, whenMounted, Effect.changesStack] at quiet
    | updateUser =>
      simp [resume, whenMounted, Exiting.applyEffect, Turn.applyEffect_of_mounted still, Turn.perform]
    | addOrder doc =>
      simp [resume, whenMounted, Exiting.applyEffect, Turn.applyEffect_of_mounted cleared,
        Turn.perform]
    | _ =>
      simp [resume, whenMounted, loginFinally, Exiting.applyEffect, Turn.applyEffect_of_mounted there,
        Turn.perform]
  | _ =>
    cases point <;>
      simp [resume, whenMounted, loginFinally, signupCatch, Effect.changesStack] at quiet

end Effects

namespace Exiting

section Step

variable {s s' : Exiting} {e : Timed} {event : ExitingEvent}

/-! ### Undisturbed steps are steps of the app -/

/-- A handler that does not navigate from a leaving page does what it does in the app. -/
theorem segment_undisturbed {call : Call} {outcome : Outcome}
    (quiet : call.page ∈ s.leaving →
      ∀ effect ∈ (resume call.point true outcome).1, effect.changesStack = false) (time : Nat) :
    s.segment time call outcome = s.app.segment time call outcome := by
  have same : (resume call.point (s.mounted call.page) outcome).1.foldl
      (applyEffect (s.mounted call.page) time call.page) s.app.turn =
      (resume call.point (s.app.turn.mounted call.page) outcome).1.foldl
        (Turn.applyEffect time call.page) s.app.turn := by
    cases there : s.app.turn.mounted call.page with
    | true =>
      rw [show s.mounted call.page = true by simp [mounted, there]]
      exact resume_there there _ _ _
    | false =>
      by_cases leaving : call.page ∈ s.leaving
      · rw [show s.mounted call.page = true by simp [mounted, leaving],
          applyEffects_quiet (quiet leaving) (fun _ => rfl), resume_away there _ _ (quiet leaving)]
      · rw [show s.mounted call.page = false by simp [mounted, there, leaving]]
        exact applyEffects_quiet (resume_unmounted_quiet _ _) (by simp [there]) _
  unfold segment App.segment
  by_cases next : call.point = .createUser ∧ outcome.succeeded = true
  · simp only [same, resume_next, if_pos next]
  · simp only [same, resume_next, if_neg next]

theorem answer_undisturbed {time id : Nat} {outcome : Outcome}
    (quiet : ∀ call ∈ s.app.pending, call.id = id → call.page ∈ s.leaving →
      ∀ effect ∈ (resume call.point true outcome).1, effect.changesStack = false) :
    s.answer time id outcome = s.app.answer time id outcome := by
  unfold answer App.answer
  cases found : s.app.pending.find? fun call => call.id == id with
  | none => rfl
  | some call =>
    have named : call.id = id := by simpa using List.find?_some found
    have same := segment_undisturbed
      (s := { s with app := { s.app with pending := s.app.pending.filter fun other => other.id != id } })
      (quiet call (List.mem_of_find?_eq_some found) named) time
    simp only [same]

/-- An undisturbed step is the app's, and the routes it removes begin to leave. -/
theorem step_undisturbed (undisturbed : s.Undisturbed (.app e)) :
    s.step (.app e) =
      (s.app.step e).map fun app => { app, leaving := s.removed app ++ s.leaving } := by
  obtain ⟨time, event⟩ := e
  cases event with
  | answer id outcome =>
    have same : answer { s with app := { s.app with now := time } } time id outcome =
        ({ s.app with now := time } : App).answer time id outcome := answer_undisturbed undisturbed
    simp only [step, same]
    rfl
  | _ => rfl

end Step

/-- Every transition can end. -/
theorem exists_disposed (s : Exiting) :
    ∃ fs, exiting.Run Undisturbed s fs { s with leaving := [] } := by
  induction count : s.leaving.length using Nat.strong_induction_on generalizing s with
  | _ n ih =>
    cases shape : s.leaving with
    | nil =>
      refine ⟨[], ?_⟩
      rw [← shape]
      exact .nil
    | cons id rest =>
      have step : exiting.step s (.disposed id) =
          some { s with leaving := s.leaving.filter (· != id) } :=
        if_pos (shape ▸ List.mem_cons_self)
      have shorter : (s.leaving.filter (· != id)).length < n := by
        rw [← count]
        exact List.length_filter_lt_length_iff_exists.mpr ⟨id, by simp [shape], by simp⟩
      obtain ⟨fs, run⟩ := ih _ shorter { s with leaving := s.leaving.filter (· != id) } rfl
      have allowed : s.Undisturbed (.disposed id) := trivial
      exact ⟨_, .cons allowed step run⟩

end Exiting

/-! ### Runs -/

theorem exiting_simulates_app :
    exiting.Simulates app Exiting.Undisturbed Machine.Free fun s a => s.app = a := by
  rintro s event s' _ rfl undisturbed step
  cases event with
  | app e =>
    rw [show exiting.step s (.app e) = _ from Exiting.step_undisturbed undisturbed] at step
    obtain ⟨a, moved, rfl⟩ := Option.map_eq_some_iff.mp step
    exact ⟨[e], a, .single trivial moved, rfl⟩
  | disposed route =>
    simp only [exiting, Exiting.step] at step
    split at step <;> cases step
    exact ⟨[], s.app, .nil, rfl⟩

/-- With nothing leaving, no step is disturbed; afterwards the transitions it began end. -/
theorem app_simulates_exiting :
    app.Simulates exiting Machine.Free Exiting.Undisturbed fun a s => s = { app := a } := by
  rintro a e a' _ rfl _ step
  have undisturbed : Exiting.Undisturbed { app := a } (.app e) := by
    obtain ⟨time, event⟩ := e
    cases event <;> simp [Exiting.Undisturbed]
  have moved := Exiting.step_undisturbed undisturbed
  rw [show a.step e = some a' from step] at moved
  obtain ⟨fs, disposed⟩ := Exiting.exists_disposed { app := a', leaving := _ }
  exact ⟨.app e :: fs, _, .cons undisturbed moved disposed, rfl⟩

/-! ### What is leaving is off the stack -/

/-- The app as the undisturbed runs have it, and apart from it the routes that are leaving. -/
structure Exiting.Apart (s : Exiting) : Prop where
  laid : Laid s.app
  away : ∀ page ∈ s.leaving, page ≤ s.app.now ∧ s.app.turn.mounted page = false

section Runs

variable {currentUser : Option Uid} {orders : List OrderDoc} {s s' : Exiting} {es : List ExitingEvent}

theorem Turn.mounted_iff {turn : Turn} {page : Nat} :
    turn.mounted page = true ↔ page ∈ turn.stack.map Route.id := by
  simp [Turn.mounted]

theorem Exiting.Apart.step {event : ExitingEvent} (apart : s.Apart) (undisturbed : s.Undisturbed event)
    (step : exiting.step s event = some s') : s'.Apart := by
  cases event with
  | disposed route =>
    simp only [exiting, Exiting.step] at step
    split at step <;> cases step
    exact ⟨apart.laid, fun page listed => apart.away page (List.mem_of_mem_filter listed)⟩
  | app e =>
    rw [show exiting.step s (.app e) = _ from Exiting.step_undisturbed undisturbed] at step
    obtain ⟨app, moved, rfl⟩ := Option.map_eq_some_iff.mp step
    have later : s.app.now < e.time := (App.step_cases moved).1
    have now : app.now = e.time := App.step_now moved
    refine ⟨apart.laid.step moved, fun page listed => ?_⟩
    rcases List.mem_append.mp listed with new | old
    · obtain ⟨there, gone⟩ := List.mem_filter.mp new
      obtain ⟨route, member, rfl⟩ := List.mem_map.mp there
      have age := apart.laid.wf.routeAge route member
      exact ⟨by dsimp only; omega, by simpa using gone⟩
    -- a route that is gone does not come back
    · obtain ⟨age, gone⟩ := apart.away page old
      refine ⟨by dsimp only; omega, Bool.eq_false_iff.mpr fun back => ?_⟩
      obtain ⟨_, restacked, _⟩ := App.step_restacked apart.laid.wf moved
      rcases List.mem_cons.mp (restacked.ids.subset (Turn.mounted_iff.mp back)) with new | before
      · omega
      · have still : s.app.turn.mounted page = true := Turn.mounted_iff.mpr before
        rw [gone] at still
        cases still

theorem apart_of_run (run : exiting.Run Exiting.Undisturbed (.init currentUser orders) es s) :
    s.Apart :=
  run.invariant ⟨.init currentUser orders, by simp [Exiting.init]⟩
    fun _ _ _ apart undisturbed step => apart.step undisturbed step

/-! ### The stacks -/

/-- While nothing navigates from a leaving page, the stacks of the app are exactly those of the
language. Without that condition the navigator can even be left without a page. -/
theorem reachable_stacks_iff (currentUser : Option Uid) (orders : List OrderDoc) :
    (∀ screens, (∃ es s, exiting.Run Exiting.Undisturbed (.init currentUser orders) es s ∧
      s.app.screens = screens) ↔ Stacked screens) ∧
    ∃ es s, exiting.Run Machine.Free (.init currentUser orders) es s ∧ s.app.screens = [] := by
  refine ⟨fun screens => ⟨?_, fun stacked => ?_⟩, ?_⟩
  · rintro ⟨es, s, run, rfl⟩
    exact (apart_of_run run).laid.stacked
  · obtain ⟨es, a, run, shown⟩ := (app_stacks_iff currentUser orders screens).mpr stacked
    obtain ⟨fs, _, lifted, rfl⟩ := run.simulated app_simulates_exiting rfl
    exact ⟨fs, _, lifted, shown⟩
  · exact ⟨(schedule [.splashTimeout, .tapLogin, .answer 2 (.success (.user "A")), .tapNav 3,
      .tapMenu .editProfile, .tapSave, .back, .answer 6 (.success .done)]).map .app, _,
      Machine.run_of_exec rfl, rfl⟩

/-! ### Saving a profile -/

theorem Exiting.segment_saved {time id page : Nat} (mounted : s.mounted page = true)
    (response : Response) :
    (s.segment time ⟨id, page, .updateUser⟩ (.success response)).stack =
      (s.app.turn.setState page (Page.apply (.isLoading false))).stack.tail := by
  simp [Exiting.segment, resume, mounted, whenMounted, Exiting.applyEffect, Turn.perform]

theorem Exiting.step_segment {call : Call} {outcome : Outcome} {time : Nat} (wf : WellFormed s.app)
    (member : call ∈ s.app.pending)
    (step : exiting.step s (.app ⟨time, .answer call.id outcome⟩) = some s') :
    s'.app.stack = (s.segment time call outcome).stack := by
  have found : s.app.pending.find? (fun other => other.id == call.id) = some call :=
    find?_name (wf.callNames.imp Nat.ne_of_gt) member
  simp only [exiting, Exiting.step] at step
  obtain ⟨app, moved, rfl⟩ := Option.map_eq_some_iff.mp step
  split at moved
  · simp only [Exiting.answer, found] at moved
    split at moved <;> cases moved
    rfl
  · cases moved

/-- `Navigator.pop` closes whatever page is topmost. When `_updateData` calls it with the form on
the stack, that is the form itself, and the profile page is left. When the form is already leaving,
it is another page. -/
theorem saved_form_pops_itself {call : Call} {outcome : Outcome} {time : Nat}
    (run : exiting.Run Exiting.Undisturbed (.init currentUser orders) es s)
    (member : call ∈ s.app.pending) (point : call.point = .updateUser)
    (mounted : s.mounted call.page = true) (ok : outcome.succeeded = true)
    (step : exiting.step s (.app ⟨time, .answer call.id outcome⟩) = some s') :
    (call.page ∉ s.leaving → ∃ form profile, s.app.stack = [form, profile] ∧ form.id = call.page ∧
      (∃ state, form.page = .editProfile state) ∧ profile.page = .profile ∧
      s'.app.stack = [profile]) ∧
    (call.page ∈ s.leaving → (∀ route ∈ s.app.stack, route.id ≠ call.page) ∧
      s'.app.stack = s.app.stack.tail) := by
  have apart := apart_of_run run
  have popped : s'.app.stack =
      (s.app.turn.setState call.page (Page.apply (.isLoading false))).stack.tail := by
    rw [Exiting.step_segment apart.laid.wf member step]
    obtain ⟨id, page, await⟩ := call
    dsimp only at point
    subst point
    cases outcome with
    | success response => exact Exiting.segment_saved mounted response
    | _ => cases ok
  constructor
  · intro staying
    have there : s.app.turn.mounted call.page = true := by
      simpa [Exiting.mounted, staying] using mounted
    obtain ⟨form, profile, stack, id, edits, shown, other⟩ :=
      App.form_over_profile apart.laid member point there
    refine ⟨form, profile, stack, id, edits, shown, ?_⟩
    rw [popped]
    simp [Turn.setState, stack, other]
  · intro leaving
    have gone := (apart.away call.page leaving).2
    refine ⟨fun route here same => ?_, ?_⟩
    · have there : s.app.turn.mounted call.page = true :=
        Turn.mounted_iff.mpr (List.mem_map.mpr ⟨route, here, same⟩)
      rw [gone] at there
      cases there
    · rw [popped, Turn.setState_of_unmounted gone]
      rfl

/-- The form is saved while its data is still being loaded; and it is left before its save ends. -/
theorem profile_page_popped_by_leaving_form :
    (∃ s s' profile, exiting.Run Exiting.Undisturbed (.init none [])
      ((schedule [.splashTimeout, .tapLogin, .answer 2 (.success (.user "A")), .tapNav 3,
        .tapMenu .editProfile, .tapSave]).map .app) s ∧
      exiting.step s (.app ⟨7, .answer 6 (.success .done)⟩) = some s' ∧ s'.app.stack = [profile]) ∧
    ∃ s s', exiting.Run Exiting.Undisturbed (.init none [])
      ((schedule [.splashTimeout, .tapLogin, .answer 2 (.success (.user "A")), .tapNav 3,
        .tapMenu .editProfile, .tapSave, .back]).map .app) s ∧
      exiting.step s (.app ⟨8, .answer 6 (.success .done)⟩) = some s' ∧
      s.app.screens = [.profile] ∧ s'.app.stack = [] := by
  constructor
  · obtain ⟨s, run, shape⟩ := Machine.exists_run_of_exec exiting Exiting.Undisturbed (.init none [])
      ((schedule [.splashTimeout, .tapLogin, .answer 2 (.success (.user "A")), .tapNav 3,
        .tapMenu .editProfile, .tapSave]).map .app)
      (fun s => decide (⟨6, 5, .updateUser⟩ ∈ s.app.pending) && s.mounted 5 && decide (5 ∉ s.leaving) &&
        (s.step (.app ⟨7, .answer 6 (.success .done)⟩)).isSome) (by decide +kernel)
    simp only [Bool.and_eq_true, decide_eq_true_eq, Option.isSome_iff_exists] at shape
    obtain ⟨⟨⟨member, mounted⟩, staying⟩, s', step⟩ := shape
    obtain ⟨_, profile, _, _, _, _, left⟩ :=
      (saved_form_pops_itself run member rfl mounted rfl step).1 staying
    exact ⟨s, s', profile, run, step, left⟩
  · obtain ⟨s, run, shape⟩ := Machine.exists_run_of_exec exiting Exiting.Undisturbed (.init none [])
      ((schedule [.splashTimeout, .tapLogin, .answer 2 (.success (.user "A")), .tapNav 3,
        .tapMenu .editProfile, .tapSave, .back]).map .app)
      (fun s => decide (⟨6, 5, .updateUser⟩ ∈ s.app.pending) && s.mounted 5 && decide (5 ∈ s.leaving) &&
        s.app.screens == [.profile] && (s.step (.app ⟨8, .answer 6 (.success .done)⟩)).isSome)
      (by decide +kernel)
    simp only [Bool.and_eq_true, decide_eq_true_eq, beq_iff_eq, Option.isSome_iff_exists] at shape
    obtain ⟨⟨⟨⟨member, mounted⟩, leaving⟩, screens⟩, s', step⟩ := shape
    obtain ⟨_, popped⟩ := (saved_form_pops_itself run member rfl mounted rfl step).2 leaving
    obtain ⟨profile, stack, _⟩ := List.map_eq_singleton_iff.mp screens
    exact ⟨s, s', run, step, screens, by rw [popped, stack, List.tail_cons]⟩

/-! ### Ordering -/

/-- From every state that undisturbed runs reach, every user can still order every product of the
catalogue: once what is leaving has left, some way on records one order more, for that user and
with the price of the product added to what is in the cart, and leaves the cart empty. -/
theorem every_product_can_be_ordered {product : Product}
    (run : exiting.Run Exiting.Undisturbed (.init currentUser orders) es s) (uid : Uid)
    (listed : product ∈ demoProducts) :
    ∃ fs t doc, exiting.Run Exiting.Undisturbed s fs t ∧ t.app.orders = s.app.orders ++ [doc] ∧
      doc.buyerId = uid ∧ doc.amount = s.app.globalCart.cartTotal + product.price ∧
      t.app.globalCart = [] := by
  obtain ⟨_, _, reached, rfl⟩ := run.simulated exiting_simulates_app rfl
  obtain ⟨_, _, doc, way, recorded, buyer, amount, empty⟩ := exists_product_ordered reached uid listed
  obtain ⟨fs, disposed⟩ := s.exists_disposed
  obtain ⟨gs, _, lifted, rfl⟩ := way.simulated app_simulates_exiting rfl
  exact ⟨_, _, doc, disposed.append lifted, recorded, buyer, amount, empty⟩

/-- After a failed save has left the edit form busy for good. -/
theorem backpack_can_be_ordered_after_failed_save : ∃ s fs t doc,
    exiting.Run Exiting.Undisturbed (.init none [])
      ((schedule [.splashTimeout, .tapLogin, .answer 2 (.success (.user "A")), .tapNav 3,
        .tapMenu .editProfile, .tapSave, .answer 6 .exception]).map .app) s ∧
    exiting.Run Exiting.Undisturbed s fs t ∧ t.app.orders = [doc] ∧ doc.buyerId = "B" ∧
    doc.amount = 2000 := by
  obtain ⟨s, run, empty⟩ := Machine.exists_run_of_exec exiting Exiting.Undisturbed (.init none [])
    ((schedule [.splashTimeout, .tapLogin, .answer 2 (.success (.user "A")), .tapNav 3,
      .tapMenu .editProfile, .tapSave, .answer 6 .exception]).map .app)
    (fun s => s.app.globalCart == [] && s.app.orders == []) (by decide +kernel)
  simp only [Bool.and_eq_true, beq_iff_eq] at empty
  have listed : backpack ∈ demoProducts := List.get_mem _ _
  obtain ⟨fs, t, doc, way, recorded, buyer, amount, _⟩ := every_product_can_be_ordered run "B" listed
  refine ⟨s, fs, t, doc, run, way, by rw [recorded, empty.2, List.nil_append], buyer, ?_⟩
  rw [amount, empty.1]
  decide +kernel

end Runs

end CartX
