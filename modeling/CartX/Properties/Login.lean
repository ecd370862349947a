import CartX.Properties.Pages

/-!
# Login is single-flight

Several taps on Login may be delivered before the page is rebuilt, so the
disabled button alone does not keep a second sign-in from being sent;
`if (_isLoading) return` in `_login` does, and the `finally` block resets the flag
on every way out. `SingleFlight` ties the flag to the pending calls over every
run of the app.
-/

namespace CartX

/-- The pending sign-ins of one login page. -/
def App.signIns (s : App) (page : Nat) : List Call :=
  s.pending.filter fun call => decide (call.point = .signIn ∧ call.page = page)

/-- At most one sign-in per page is pending, and `_isLoading` says whether one is. -/
structure SingleFlight (s : App) : Prop where
  once : ∀ page, (s.signIns page).length ≤ 1
  flag : ∀ route ∈ s.stack, ∀ state, route.page = .login state →
    (state.isLoading = true ↔ s.signIns route.id ≠ [])

/-- The navigation calls among the effects of a handler. -/
def Effect.navigates : Effect → Bool
  | .pushReplacement _ | .pushAndRemoveUntil _ | .pop => true
  | _ => false

theorem Page.loginBusy_eq_some {page : Page} {busy : Bool} :
    page.loginBusy = some busy ↔ ∃ state, page = .login state ∧ state.isLoading = busy := by
  cases page <;> simp [Page.loginBusy]

theorem Page.loginBusy_apply {page : Page} (other : ∀ state, page ≠ .login state)
    (change : LocalUpdate) : (Page.apply change page).loginBusy = page.loginBusy := by
  cases page with
  | login state => exact absurd rfl (other state)
  | _ => cases change <;> rfl

theorem Handler.eq_login {handler : Handler} (point : handler.start.2 = .signIn) :
    handler = .login := by
  cases handler <;> simp [Handler.start] at point
  rfl

theorem Await.eq_signIn {point : Await} {state : LoginState}
    (owns : point.owns (.login state) = true) : point = .signIn := by
  cases point <;> simp [Await.owns] at owns
  rfl

section Step

variable {s s' : App} {event : Event} {e : Timed}

/-- A login page's flag is set by a tap on Login while it is not set, and reset by the end of
its sign-in. -/
theorem Revised.loginBusy {route : Route} {page : Page} (revised : Revised s event route page) :
    page.loginBusy = route.page.loginBusy ∨
      (event = .tapLogin ∧ s.stack.head? = some route) ∨
      (∃ call outcome, event = .answer call.id outcome ∧ call ∈ s.pending ∧
        call.page = route.id ∧ call.point = .signIn) := by
  cases revised with
  | kept => exact .inl rfl
  | rebuilt => exact .inl (by cases route.page <;> rfl)
  -- only `_login` belongs to a login page
  | begun handler top owned idle =>
    cases shown : route.page with
    | login state =>
      rw [shown] at owned
      exact .inr (.inl ⟨(idle (Handler.eq_login (Await.eq_signIn owned))).1, top⟩)
    | _ => exact .inl rfl
  | restated _ _ restated =>
    generalize route.page = before at restated
    cases restated <;> exact .inl rfl
  | typed _ typed =>
    generalize route.page = before at typed
    cases typed <;> exact .inl rfl
  | rowBuilt _ _ shown => exact .inl (by rw [shown]; rfl)
  | resumed call outcome change answered member here owned =>
    cases shown : route.page with
    | login state =>
      rw [shown] at owned
      exact .inr (.inr ⟨call, outcome, answered, member, here, Await.eq_signIn owned⟩)
    | _ => exact .inl (Page.loginBusy_apply (by simp) change)

/-- A tap suspends a sign-in only if it is a tap on Login. -/
theorem Move.tapped_login {turn turn' : Turn} {time : Nat} {user : Option Uid} {top : Route}
    {call : Call} (none_yet : turn.started = []) (move : Move turn time user top event turn')
    (member : call ∈ turn'.started) (point : call.point = .signIn) : event = .tapLogin := by
  cases move with
  | begin handler _ _ _ idle =>
    rw [Turn.begin_started, none_yet, List.mem_singleton] at member
    rw [member] at point
    exact (idle (Handler.eq_login point)).1
  | confirm =>
    rw [Turn.begin_started, none_yet, List.mem_singleton] at member
    simp [member, Handler.start] at point
  -- the pages that are opened over others are no login pages
  | openPage page _ _ _ _ _ signup =>
    rcases turn.push_started time user page with none | ⟨other, _, owned, one⟩
    · simp [none, none_yet] at member
    · rw [one, none_yet, List.mem_singleton] at member
      rw [member] at point
      dsimp only at point
      rw [point] at owned
      obtain ⟨state, rfl⟩ := Await.signIn_owns owned
      simp_all [Page.isAuth]
  | proceed => simp [Turn.push, none_yet] at member
  | _ => simp_all

theorem App.Step.signIns_other (step : App.Step s event s') (untapped : event ≠ .tapLogin)
    (unanswered : ∀ call ∈ s.pending, call.point = .signIn → ∀ outcome,
      event ≠ .answer call.id outcome) (page : Nat) : s'.signIns page = s.signIns page := by
  have fresh {started : List Call} (none : ∀ call ∈ started, call.point ≠ .signIn) :
      started.filter (fun call => decide (call.point = .signIn ∧ call.page = page)) = [] := by
    rw [List.filter_eq_nil_iff]
    intro call member
    simp [none call member]
  cases step with
  | frame | back => rfl
  | tap event top rest turn shape move =>
    simp only [App.signIns, App.after_pending, List.filter_append]
    rw [fresh fun call member point => untapped (move.tapped_login rfl member point),
      List.nil_append]
  -- the call that ends is no sign-in, and a signup goes on with no sign-in either
  | answer call outcome turn member found ends resumed =>
    simp only [App.signIns, App.after_pending, App.commit_pending, List.filter_append]
    rw [fresh, List.nil_append, App.settle, List.filter_filter]
    · apply List.filter_congr
      intro other listed
      by_cases signIn : other.point = .signIn
      · have apart : other.id ≠ call.id := fun same =>
          unanswered other listed signIn outcome (by rw [same])
        simp [apart]
      · simp [signIn]
    · rcases resumed.started rfl with none | ⟨_, _, one, _⟩
      · simp [none]
      · simp [one]

/-- A tap on Login does nothing while `_isLoading`, else it sends a sign-in. -/
theorem App.step_tapLogin {time : Nat} (step : s.step ⟨time, .tapLogin⟩ = some s') :
    ∃ top rest state, s.stack = top :: rest ∧ top.page = .login state ∧
      (state.isLoading = true ∧ s' = { s with now := time } ∨
        state.isLoading = false ∧ s'.pending = ⟨time, top.id, .signIn⟩ :: s.pending ∧
          s'.stack = (s.turn.setState top.id (Page.apply (.isLoading true))).stack) := by
  cases stack : s.stack with
  | nil => simp [App.step, stack] at step
  | cons top rest =>
    simp only [App.step, stack, Turn.tap] at step
    split at step
    · obtain ⟨turn, tapped, rfl⟩ := Option.map_eq_some_iff.mp step
      cases page : top.page with
      | login state =>
        refine ⟨top, rest, state, rfl, page, ?_⟩
        simp only [page] at tapped
        -- the flag is read before anything is sent
        cases busy : state.isLoading with
        | true =>
          simp only [busy, if_true] at tapped
          split at tapped
          · cases tapped
            exact .inl ⟨rfl, by simp [App.after, App.turn]⟩
          · cases tapped
        | false =>
          simp only [busy, Bool.false_eq_true, if_false] at tapped
          split at tapped
          · cases tapped
            exact .inr ⟨rfl, by simp [Handler.start], by
              simp [Turn.begin, Handler.start, Turn.setState, stack]⟩
          · cases tapped
      | _ => simp [page] at tapped
    · cases step

theorem SingleFlight.flagged (flight : SingleFlight s) {route : Route} (member : route ∈ s.stack)
    {busy : Bool} (shown : route.page.loginBusy = some busy) :
    busy = true ↔ s.signIns route.id ≠ [] := by
  obtain ⟨state, login, rfl⟩ := Page.loginBusy_eq_some.mp shown
  exact flight.flag route member state login

/-- No call belongs to a page that is about to be opened. -/
theorem App.signIns_new {now : Nat} (older : ∀ call ∈ s.pending, call.page < now) :
    s.signIns now = [] := by
  rw [App.signIns, List.filter_eq_nil_iff]
  intro call member
  have := Nat.ne_of_lt (older call member)
  simp [this]

/-- Where an event neither sends nor ends a sign-in of a page, its flag tells of the calls that
were pending before. -/
theorem SingleFlight.flag_kept (wf : WellFormed s) (flight : SingleFlight s)
    (step : s.step e = some s') {route' : Route} (member : route' ∈ s'.stack) {state' : LoginState}
    (shown' : route'.page = .login state') (untapped : e.event ≠ .tapLogin)
    (unanswered : ∀ call ∈ s.pending, call.point = .signIn → call.page = route'.id → ∀ outcome,
      e.event ≠ .answer call.id outcome) :
    state'.isLoading = true ↔ s.signIns route'.id ≠ [] := by
  obtain ⟨later, _⟩ := App.step_cases step
  obtain ⟨_, aged⟩ := wf.tick later
  rcases (App.step_shifted wf step).routes member with ⟨new, fresh⟩ | ⟨route, old, id, revised⟩
  -- a new login page is idle, and nobody has called from it yet
  · have none : s.signIns route'.id = [] :=
      App.signIns_new fun call listed => new ▸ (aged.calls call listed).2
    simp only [shown', Page.isFresh, beq_iff_eq] at fresh
    simp [fresh, none]
  · have busy' : route'.page.loginBusy = some state'.isLoading := by rw [shown']; rfl
    rcases revised.loginBusy with kept | ⟨tapped, _⟩ | ⟨call, outcome, answered, listed, page, point⟩
    · rw [id]
      exact flight.flagged old (kept.symm.trans busy')
    · exact absurd tapped untapped
    · exact absurd answered (unanswered call listed point (page.trans id.symm) outcome)

/-- Events that neither send nor end a sign-in. -/
theorem SingleFlight.quiet (wf : WellFormed s) (flight : SingleFlight s)
    (step : s.step e = some s') (untapped : e.event ≠ .tapLogin)
    (unanswered : ∀ call ∈ s.pending, call.point = .signIn → ∀ outcome,
      e.event ≠ .answer call.id outcome) : SingleFlight s' := by
  obtain ⟨_, moved⟩ := App.step_cases step
  have calls : ∀ page, s'.signIns page = s.signIns page := moved.signIns_other untapped unanswered
  constructor
  · intro page
    rw [calls]
    exact flight.once page
  · intro route' member state' shown'
    rw [calls]
    exact flight.flag_kept wf step member shown' untapped
      fun call listed point _ => unanswered call listed point

/-- A tap on Login while nothing is pending. -/
theorem SingleFlight.begun (wf : WellFormed s) (flight : SingleFlight s) {top : Route}
    {rest : List Route} {state : LoginState} {time : Nat} (stack : s.stack = top :: rest)
    (login : top.page = .login state) (idle : state.isLoading = false)
    (pending : s'.pending = ⟨time, top.id, .signIn⟩ :: s.pending)
    (pages : s'.stack = (s.turn.setState top.id (Page.apply (.isLoading true))).stack) :
    SingleFlight s' := by
  have on_top : top ∈ s.stack := by simp [stack]
  -- the page was idle, so the new call is its only one
  have here : s'.signIns top.id = [⟨time, top.id, .signIn⟩] := by
    have none : s.signIns top.id = [] := by
      by_contra some_
      have busy := (flight.flag top on_top state login).mpr some_
      simp [idle] at busy
    rw [App.signIns, pending, List.filter_cons_of_pos (by simp), ← App.signIns, none]
  have elsewhere {page : Nat} (other : page ≠ top.id) : s'.signIns page = s.signIns page := by
    rw [App.signIns, pending, List.filter_cons_of_neg (by simpa using other.symm), ← App.signIns]
  constructor
  · intro page
    by_cases same : page = top.id
    · simp [same, here]
    · rw [elsewhere same]
      exact flight.once page
  · intro route' member state' shown'
    rw [pages] at member
    obtain ⟨route, old, rfl⟩ := List.mem_map.mp member
    by_cases same : route.id = top.id
    · cases route_unique wf.routeNames on_top old same
      simp only [if_true, login, Page.apply, Page.login.injEq] at shown'
      simp [here, ← shown']
    · simp only [same, if_false] at shown' ⊢
      rw [elsewhere same]
      exact flight.flag route old state' shown'

/-- When its sign-in ends, a login page that is there is not busy any more. -/
theorem Resumed.login_idle {turn turn' : Turn} {time : Nat} {call : Call} {outcome : Outcome}
    (point : call.point = .signIn) (resumed : Resumed turn time call outcome turn') :
    ∀ route ∈ turn'.stack, route.id = call.page → route.page.loginBusy ≠ some true := by
  have reset (turn : Turn) : ∀ route ∈ (turn.setState call.page (Page.apply (.isLoading false))).stack,
      route.id = call.page → route.page.loginBusy ≠ some true := by
    intro route member here
    obtain ⟨old, _, rfl⟩ := List.mem_map.mp member
    by_cases same : old.id = call.page
    · cases old.page <;> simp [same, Page.apply, Page.loginBusy]
    · simp [same] at here
  cases resumed with
  -- `finally` skips its `setState` only when the page is gone
  | nothing _ _ away =>
    intro route member here
    have gone : turn.mounted call.page = false := away point
    simp only [Turn.mounted, List.any_eq_false, beq_iff_eq] at gone
    exact absurd here (gone route member)
  | update change _ _ ends =>
    rw [(ends point).1]
    exact reset turn
  | loggedIn => exact reset _
  | created point' | signedUp point' | saved point' | ordered _ point' | orderedAway _ point'
  | loggedOut point' => simp [point] at point'

/-- The end of a sign-in. -/
theorem SingleFlight.ended {time : Nat} {call : Call} {outcome : Outcome} (wf : WellFormed s)
    (flight : SingleFlight s) (member : call ∈ s.pending) (point : call.point = .signIn)
    (step : s.step ⟨time, .answer call.id outcome⟩ = some s') : SingleFlight s' := by
  obtain ⟨other, turn, other_mem, same, _, resumed, after⟩ := App.step_answered step
  cases call_unique wf.callNames member other_mem same
  have idle := resumed.login_idle point
  have pending : s'.pending = s.pending.filter fun other => other.id != call.id := by
    rcases resumed.started rfl with none | ⟨created, _⟩
    · simp [after, none, App.settle]
    · simp [point] at created
  have stack : s'.stack = turn.stack := by rw [after]; rfl
  -- the call was the only one of its page
  have here : s'.signIns call.page = [] := by
    have listed : call ∈ s.signIns call.page := List.mem_filter.mpr ⟨member, by simp [point]⟩
    have only : s.signIns call.page = [call] := by
      have once := flight.once call.page
      cases calls : s.signIns call.page with
      | nil => simp [calls] at listed
      | cons first rest =>
        have alone : rest = [] := by simpa [calls] using once
        simp only [calls, alone, List.mem_singleton] at listed
        rw [listed, alone]
    rw [App.signIns, pending, List.filter_comm, ← App.signIns, only]
    simp
  have elsewhere {page : Nat} (other : page ≠ call.page) : s'.signIns page = s.signIns page := by
    rw [App.signIns, pending, List.filter_filter]
    apply List.filter_congr
    intro candidate listed
    by_cases mine : candidate.point = .signIn ∧ candidate.page = page
    · have apart : candidate.id ≠ call.id := fun same => other (by
        rw [← mine.2, call_unique wf.callNames member listed same])
      simp [mine, apart]
    · simp [mine]
  constructor
  · intro page
    by_cases same : page = call.page
    · simp [same, here]
    · rw [elsewhere same]
      exact flight.once page
  · intro route' route_mem state' shown'
    have busy' : route'.page.loginBusy = some state'.isLoading := by rw [shown']; rfl
    by_cases same : route'.id = call.page
    · rw [same, here]
      have reset := idle route' (stack ▸ route_mem) same
      rw [busy'] at reset
      simpa using reset
    · rw [elsewhere same]
      refine flight.flag_kept wf step route_mem shown' (by simp) fun other listed _ page _ answered => ?_
      simp only [Event.answer.injEq] at answered
      cases call_unique wf.callNames listed member answered.1
      exact same page.symm

theorem SingleFlight.step (wf : WellFormed s) (flight : SingleFlight s)
    (step : s.step e = some s') : SingleFlight s' := by
  obtain ⟨time, event⟩ := e
  by_cases tapped : event = .tapLogin
  · subst tapped
    obtain ⟨top, rest, state, stack, login, ⟨_, rfl⟩ | ⟨idle, pending, pages⟩⟩ :=
      App.step_tapLogin step
    · exact ⟨flight.once, flight.flag⟩
    · exact flight.begun wf stack login idle pending pages
  · by_cases answered : ∃ call ∈ s.pending, call.point = .signIn ∧
        ∃ outcome, event = .answer call.id outcome
    · obtain ⟨call, member, point, outcome, rfl⟩ := answered
      exact flight.ended wf member point step
    · exact flight.quiet wf step tapped fun call member point outcome same =>
        answered ⟨call, member, point, outcome, same⟩

/-! ### Navigation -/

/-- What the end of a sign-in does to the navigator: exactly one `pushReplacement` of the home
page if it succeeded and the page is there, nothing otherwise. -/
structure NavigatesOnce (s : App) (time : Nat) (call : Call) (outcome : Outcome) (s' : App) :
    Prop where
  calls : (resume call.point (s.turn.mounted call.page) outcome).1.filter Effect.navigates =
    if outcome.succeeded = true ∧ s.turn.mounted call.page = true then [.pushReplacement .home]
    else []
  opened : outcome.succeeded = true → s.turn.mounted call.page = true →
    ∃ rest, s'.stack = { id := time, page := .home } :: rest ∧
      rest.map Route.id = s.stack.tail.map Route.id
  stayed : ¬ (outcome.succeeded = true ∧ s.turn.mounted call.page = true) →
    s'.stack.map Route.id = s.stack.map Route.id

theorem Turn.setState_names (turn : Turn) (id : Nat) (update : Page → Page) :
    (turn.setState id update).stack.map Route.id = turn.stack.map Route.id := by
  simp only [Turn.setState, List.map_map]
  apply List.map_congr_left
  intro route _
  by_cases here : route.id = id <;> simp [here]

theorem signIn_navigations (mounted : Bool) (outcome : Outcome) :
    (resume .signIn mounted outcome).1.filter Effect.navigates =
      if outcome.succeeded = true ∧ mounted = true then [.pushReplacement .home] else [] := by
  cases outcome <;> cases mounted <;> rfl

theorem navigatesOnce {time : Nat} {call : Call} {outcome : Outcome} (wf : WellFormed s)
    (member : call ∈ s.pending) (point : call.point = .signIn)
    (step : s.step ⟨time, .answer call.id outcome⟩ = some s') :
    NavigatesOnce s time call outcome s' := by
  obtain ⟨later, _⟩ := App.step_cases step
  obtain ⟨_, aged⟩ := wf.tick later
  obtain ⟨other, turn, other_mem, same, _, resumed, rfl⟩ := App.step_answered step
  cases call_unique wf.callNames member other_mem same
  have calls := signIn_navigations (s.turn.mounted call.page) outcome
  rw [← point] at calls
  cases resumed with
  | nothing _ _ away =>
    have gone := away point
    exact ⟨calls, fun _ mounted => by simp [gone] at mounted, fun _ => rfl⟩
  | update _ _ _ ends =>
    have failed := (ends point).2
    exact ⟨calls, fun ok => by simp [failed] at ok, fun _ => s.turn.setState_names _ _⟩
  -- the home page, named by the clock, is not the page of the call
  | loggedIn _ ok mounted =>
    refine ⟨calls, fun _ _ => ?_, fun not => absurd ⟨ok, mounted⟩ not⟩
    have away : call.page ≠ time := Nat.ne_of_lt (aged.calls call member).2
    exact ⟨_, Turn.pushReplacement_setState away _, Turn.setState_names _ _ _⟩
  | created point' | signedUp point' | saved point' | ordered _ point' | orderedAway _ point'
  | loggedOut point' => simp [point] at point'

end Step

/-! ### The result -/

/-- In every state the app can reach: no login page has two sign-ins pending, `_isLoading` of a
mounted one is set exactly while it has one, and a pending sign-in can end with every outcome and
then navigates once, to the home page, if it succeeded with its page mounted, and not at all
otherwise. -/
theorem login_single_flight {currentUser : Option Uid} {orders : List OrderDoc} {es : List Timed}
    {s : App} (run : app.Run Machine.Free (App.init currentUser orders) es s) :
    (∀ page, (s.signIns page).length ≤ 1) ∧
    (∀ route ∈ s.stack, ∀ state, route.page = .login state →
      (state.isLoading = true ↔ s.signIns route.id ≠ [])) ∧
    ∀ call ∈ s.pending, call.point = .signIn →
      (∀ outcome, call.canEnd outcome = true →
        (s.step ⟨s.now + 1, .answer call.id outcome⟩).isSome = true) ∧
      ∀ time outcome s', s.step ⟨time, .answer call.id outcome⟩ = some s' →
        NavigatesOnce s time call outcome s' := by
  have invariant : WellFormed s ∧ SingleFlight s :=
    run.invariant (I := fun a : App => WellFormed a ∧ SingleFlight a)
      ⟨.init currentUser orders, by simp [App.init, App.signIns], by simp [App.init]⟩
      fun _ _ _ both _ step => ⟨both.1.step step, both.2.step both.1 step⟩
  obtain ⟨wf, flight⟩ := invariant
  refine ⟨flight.once, flight.flag, fun call member point => ⟨fun outcome ends => ?_,
    fun time outcome s' step => navigatesOnce wf member point step⟩⟩
  rw [App.step_answer wf member ends]
  rfl

/-- Two taps before the page is rebuilt send one sign-in. -/
theorem login_single_flight_double_tap : ∃ s, app.Run Machine.Free (App.init none [])
    (schedule [.splashTimeout, .tapLogin, .tapLogin]) s ∧ s.signIns 1 = [⟨2, 1, .signIn⟩] ∧
    ∀ page, (s.signIns page).length ≤ 1 := by
  obtain ⟨s, run, calls⟩ := Machine.exists_run_of_exec app Machine.Free (App.init none [])
    (schedule [.splashTimeout, .tapLogin, .tapLogin])
    (fun s => s.signIns 1 == [⟨2, 1, .signIn⟩]) (by decide +kernel)
  exact ⟨s, run, eq_of_beq calls, (login_single_flight run).1⟩

end CartX
