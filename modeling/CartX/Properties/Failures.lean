import CartX.Properties.WellFormed

/-!
# After a failed backend call

`_login`, `_updateData`, `_toggleWishlist` and `_placeOrder` each send one call from
a tap. When it fails, `_login` resets `_isLoading` in its `finally` block and the
next two have changed nothing before their `await`; `_updateData` has set
`_isLoading` and, with neither `try` nor `finally`, leaves it set, so the edit form
is replaced by the progress indicator for good.
-/

namespace CartX

/-- The state of a page that is the user's or tells of a call, apart from what the last build
made of it. -/
structure LocalState where
  busy : Bool := false
  texts : List String := []
  quantity : Int := 1
  isWishlisted : Bool := false
  selectedPaymentMethod : String := ""
  deriving DecidableEq, Repr

def Page.localState : Page → LocalState
  | .login state => { busy := state.isLoading, texts := [state.email, state.password] }
  | .product state => { quantity := state.quantity, isWishlisted := state.isWishlisted }
  | .checkout state => { selectedPaymentMethod := state.selectedPaymentMethod }
  | .editProfile state =>
    { busy := state.isLoading, texts := [state.name, state.phone, state.address] }
  | _ => {}

/-- The local state of every page on the stack. -/
def App.localStates (s : App) : List (Nat × LocalState) :=
  s.stack.map fun route => (route.id, route.page.localState)

/-- The taps that run `_login`, `_updateData`, `_toggleWishlist` and `_placeOrder`. -/
def backendTaps : List Event := [.tapLogin, .tapSave, .tapHeart, .tapConfirm]

/-- After the failure the pages and the cart are as before the tap, and once the page is rebuilt
the same tap sends a call again. -/
structure LeavesPage (tap : Event) (before after : App) : Prop where
  pages : after.localStates = before.localStates
  cart : after.globalCart = before.globalCart
  retry : ∃ time time' rebuilt again, after.step ⟨time, .frame⟩ = some rebuilt ∧
    rebuilt.step ⟨time', tap⟩ = some again ∧ ∃ call ∈ again.pending, call.id = time'

/-- Between the tap and the answer nothing but frames happens. -/
def FramesOnly (_ : App) (e : Timed) : Prop := e.event = .frame

instance (s : App) (e : Timed) : Decidable (FramesOnly s e) :=
  inferInstanceAs (Decidable (e.event = .frame))

/-! ### Taps that send a call -/

/-- A tap past the early returns of its handler. -/
inductive Sends (s : App) (time : Nat) (top : Route) : Event → Handler → Prop
  | login (state : LoginState) (shown : top.page = .login state)
      (enabled : state.buttonEnabled = true) (idle : state.isLoading = false) :
      Sends s time top .tapLogin .login
  | save (state : EditProfileState) (shown : top.page = .editProfile state)
      (form : state.formShown = true) : Sends s time top .tapSave .updateData
  | heart (state : ProductState) (uid : Uid) (shown : top.page = .product state)
      (user : s.currentUser = some uid) : Sends s time top .tapHeart .toggleWishlist
  | confirm (state : CheckoutState) (shown : top.page = .checkout state) :
      Sends s time top .tapConfirm
        (.placeOrder (placeOrder s.currentUser s.globalCart state.totalAmount time))

/-- The app after a handler of its topmost page has sent its call. -/
def App.sent (s : App) (time : Nat) (top : Route) (handler : Handler) : App :=
  ({ s with now := time } : App).after (s.turn.begin time top.id handler)

section Taps

variable {s s' : App} {time : Nat} {top : Route} {rest : List Route} {tap : Event}
variable {handler : Handler}

theorem step_of_sends (later : s.now < time) (stack : s.stack = top :: rest)
    (sends : Sends s time top tap handler) : s.step ⟨time, tap⟩ = some (s.sent time top handler) := by
  cases sends with
  | login state shown enabled idle =>
    simp [App.step, later, stack, Turn.tap, shown, enabled, idle, App.sent, App.turn]
  | save state shown form => simp [App.step, later, stack, Turn.tap, shown, form, App.sent, App.turn]
  | heart state uid shown user =>
    simp [App.step, later, stack, Turn.tap, shown, user, App.sent, App.turn]
  | confirm state shown =>
    simp [App.step, later, stack, Turn.tap, shown, App.sent, App.turn]

/-- A backend tap after which a call of that moment is pending has sent it. -/
theorem sends_of_step (wf : WellFormed s) (backend : tap ∈ backendTaps)
    (step : s.step ⟨time, tap⟩ = some s') (sent : ∃ call ∈ s'.pending, call.id = time) :
    ∃ top rest handler, s.stack = top :: rest ∧ Sends s time top tap handler ∧
      s' = s.sent time top handler := by
  have later := (App.step_cases step).1
  -- where the handler returns at once there is no such call
  have unsent (same : s' = { s with now := time }) : False := by
    obtain ⟨call, member, named⟩ := sent
    rw [same] at member
    have := (wf.callAge call member).1
    dsimp only at later
    omega
  dsimp only at later
  -- the tap is one of four, on a stack with a page on it
  simp only [backendTaps, List.mem_cons, List.not_mem_nil, or_false] at backend
  cases stack : s.stack with
  | nil => rcases backend with rfl | rfl | rfl | rfl <;> simp [App.step, stack] at step
  | cons top rest =>
    refine ⟨top, rest, ?_⟩
    obtain ⟨turn, tapped, rfl⟩ : ∃ turn, s.turn.tap time s.currentUser tap top = some turn ∧
        ({ s with now := time } : App).after turn = s' := by
      rcases backend with rfl | rfl | rfl | rfl <;>
        simpa [App.step, later, stack, App.turn] using step
    -- one case per handler, with its early return if it has one
    rcases backend with rfl | rfl | rfl | rfl
    · cases shown : top.page with
      | login state =>
        simp only [Turn.tap, shown] at tapped
        split at tapped
        next enabled =>
          split at tapped
          -- `if (_isLoading) return`
          next => cases tapped; exact absurd rfl unsent
          next idle =>
            cases tapped
            exact ⟨.login, rfl, .login state shown enabled (by simpa using idle), rfl⟩
        next => cases tapped
      | _ => simp [Turn.tap, shown] at tapped
    · cases shown : top.page with
      | editProfile state =>
        simp only [Turn.tap, shown] at tapped
        split at tapped
        next form => cases tapped; exact ⟨.updateData, rfl, .save state shown form, rfl⟩
        next => cases tapped
      | _ => simp [Turn.tap, shown] at tapped
    · cases shown : top.page with
      | product state =>
        cases user : s.currentUser with
        | some uid =>
          simp only [Turn.tap, shown, user, Option.some.injEq] at tapped
          subst tapped
          exact ⟨.toggleWishlist, rfl, .heart state uid shown user, by simp [App.sent, user]⟩
        -- `if (user == null) return`
        | none =>
          simp only [Turn.tap, shown, user, Option.some.injEq] at tapped
          subst tapped
          exact absurd rfl unsent
      | _ => simp [Turn.tap, shown] at tapped
    · cases shown : top.page with
      | checkout state =>
        simp only [Turn.tap, shown, Option.some.injEq] at tapped
        subst tapped
        exact ⟨_, rfl, .confirm state shown, rfl⟩
      | _ => simp [Turn.tap, shown] at tapped

theorem sent_pending (handler : Handler) :
    (s.sent time top handler).pending = ⟨time, top.id, handler.start.2⟩ :: s.pending := by
  simp [App.sent]

@[simp] theorem sent_globalCart : (s.sent time top handler).globalCart = s.globalCart := by
  simp [App.sent]

end Taps

/-! ### Frames -/

/-- One route at a frame. -/
def Route.refresh (globalCart : Cart) (route : Route) : Route :=
  if route.dirty then { route with page := route.page.rebuild globalCart, dirty := false } else route

theorem Route.refresh_refresh (globalCart : Cart) (route : Route) :
    (route.refresh globalCart).refresh globalCart = route.refresh globalCart := by
  cases dirty : route.dirty <;> simp [Route.refresh, dirty]

@[simp] theorem Route.refresh_id (globalCart : Cart) (route : Route) :
    (route.refresh globalCart).id = route.id := by
  cases dirty : route.dirty <;> simp [Route.refresh, dirty]

theorem Page.localState_rebuild (globalCart : Cart) (page : Page) :
    (page.rebuild globalCart).localState = page.localState := by
  cases page <;> rfl

@[simp] theorem Route.refresh_localState (globalCart : Cart) (route : Route) :
    (route.refresh globalCart).page.localState = route.page.localState := by
  cases dirty : route.dirty <;> simp [Route.refresh, dirty, Page.localState_rebuild]

/-- The app after a frame. -/
def App.refreshed (s : App) (time : Nat) : App :=
  { s with now := time, stack := s.stack.map (Route.refresh s.globalCart) }

theorem step_frame {s : App} {time : Nat} (later : s.now < time) :
    s.step ⟨time, .frame⟩ = some (s.refreshed time) := by
  simp only [App.step, later, if_true]
  rfl

theorem step_frame_iff {s s' : App} {time : Nat} (step : s.step ⟨time, .frame⟩ = some s') :
    s' = s.refreshed time := by
  rw [step_frame (App.step_cases step).1] at step
  exact (Option.some.inj step).symm

/-- Any number of frames do what one does. -/
theorem frames_cases {s t : App} {es : List Timed} (run : app.Run FramesOnly s es t) :
    ∃ now, t = { s with now } ∨ t = s.refreshed now := by
  induction run with
  | nil => exact ⟨s.now, .inl rfl⟩
  -- after the first frame no page is dirty, so the others find nothing to do
  | @snoc _ e t u _ frame step ih =>
    obtain ⟨time, event⟩ := e
    obtain rfl : event = .frame := frame
    obtain ⟨now, rfl | rfl⟩ := ih
    · exact ⟨time, .inr (by rw [step_frame_iff step]; rfl)⟩
    · refine ⟨time, .inr ?_⟩
      rw [step_frame_iff step]
      simp [App.refreshed, Function.comp_def, Route.refresh_refresh]

/-! ### Failed answers -/

/-- Only `_login` does anything to its page when its call fails. -/
theorem segment_failed (s : App) (time : Nat) (call : Call) {outcome : Outcome}
    (failed : outcome.succeeded = false) :
    s.segment time call outcome =
      if call.point = .signIn then s.turn.setState call.page (Page.apply (.isLoading false))
      else s.turn := by
  obtain ⟨id, page, point⟩ := call
  cases mounted : s.turn.mounted page with
  | true =>
    cases outcome with
    | success => cases failed
    | _ => cases point <;> simp [App.segment, resume, mounted, whenMounted, loginFinally, signupCatch]
  | false =>
    have gone := Turn.setState_of_unmounted mounted (Page.apply (.isLoading false))
    cases outcome with
    | success => cases failed
    | _ =>
      cases point <;> simp [App.segment, resume, mounted, whenMounted, loginFinally, signupCatch,
        gone]

theorem step_failed {s s' : App} {time id : Nat} {outcome : Outcome}
    (failed : outcome.succeeded = false) (step : s.step ⟨time, .answer id outcome⟩ = some s') :
    ∃ call, s.pending.find? (fun call => call.id == id) = some call ∧
      s'.stack = (if call.point = .signIn then
        s.turn.setState call.page (Page.apply (.isLoading false)) else s.turn).stack ∧
      s'.globalCart = s.globalCart ∧ s'.currentUser = s.currentUser ∧ s'.now = time := by
  unfold App.step at step
  split at step
  · dsimp only at step
    unfold App.answer at step
    split at step
    · cases step
    next call found =>
      split at step
      · cases step
        refine ⟨call, found, ?_⟩
        -- Firebase changes nothing when it fails
        have unchanged (s : App) : s.commit call.point outcome = s := by
          cases outcome with
          | success => cases failed
          | _ => cases call.point <;> rfl
        rw [segment_failed _ _ _ failed, unchanged]
        by_cases signIn : call.point = .signIn
        · simp [signIn, Turn.setState, App.turn]
        · simp [signIn, App.turn]
      · cases step
  · cases step

/-! ### From the tap to the failure -/

/-- One route under `setState`. -/
def Route.update (id : Nat) (change : Page → Page) (route : Route) : Route :=
  if route.id = id then { route with page := change route.page, dirty := true } else route

theorem setState_stack (turn : Turn) (id : Nat) (change : Page → Page) :
    (turn.setState id change).stack = turn.stack.map (Route.update id change) := rfl

/-- The stack at the answer, from the stack after the tap: frames may have refreshed it. -/
def Framed (globalCart : Cart) (g : Route → Route) : Prop :=
  g = id ∨ g = Route.refresh globalCart

section Framed

variable {cart : Cart} {g : Route → Route} {route : Route}

theorem Framed.id_eq (framed : Framed cart g) (route : Route) : (g route).id = route.id := by
  rcases framed with rfl | rfl
  · rfl
  · exact route.refresh_id cart

theorem Framed.localState (framed : Framed cart g) (route : Route) :
    (g route).page.localState = route.page.localState := by
  rcases framed with rfl | rfl
  · rfl
  · exact route.refresh_localState cart

/-- A frame after those makes no difference to the frames before it. -/
theorem Framed.refresh (framed : Framed cart g) (route : Route) :
    (g route).refresh cart = route.refresh cart := by
  rcases framed with rfl | rfl
  · rfl
  · exact route.refresh_refresh cart

end Framed

/-- A tap that sent a call, frames, and the failure of the call. -/
theorem failure_cases {s s1 s2 s3 : App} {tap : Event} {time time' : Nat} {frames : List Timed}
    {outcome : Outcome} (wf : WellFormed s) (backend : tap ∈ backendTaps)
    (tapped : s.step ⟨time, tap⟩ = some s1) (waited : app.Run FramesOnly s1 frames s2)
    (failed : outcome.succeeded = false)
    (answered : s2.step ⟨time', .answer time outcome⟩ = some s3) :
    ∃ top rest handler g, s.stack = top :: rest ∧ Sends s time top tap handler ∧
      Framed s.globalCart g ∧ s3.globalCart = s.globalCart ∧ s3.currentUser = s.currentUser ∧
      s3.stack = if handler.start.2 = .signIn then
          ((s.turn.begin time top.id handler).stack.map g).map
            (Route.update top.id (Page.apply (.isLoading false)))
        else (s.turn.begin time top.id handler).stack.map g := by
  obtain ⟨call, found, stack, cart, user, _⟩ := step_failed failed answered
  obtain ⟨now, framed⟩ := frames_cases waited
  have pending : s2.pending = s1.pending := by rcases framed with rfl | rfl <;> rfl
  rw [pending] at found
  -- the answered call is the one the tap sent
  have named : call.id = time := by simpa using List.find?_some found
  obtain ⟨top, rest, handler, shape, sends, rfl⟩ :=
    sends_of_step wf backend tapped ⟨call, List.mem_of_find?_eq_some found, named⟩
  rw [sent_pending, List.find?_cons_of_pos (by simp), Option.some.injEq] at found
  subst found
  dsimp only at stack
  have frames : ∃ g, Framed s.globalCart g ∧
      s2.stack = (s.turn.begin time top.id handler).stack.map g := by
    rcases framed with rfl | rfl
    · exact ⟨id, .inl rfl, by simp [App.sent]⟩
    · exact ⟨_, .inr rfl, by simp [App.refreshed, App.sent]⟩
  have kept : s2.globalCart = s.globalCart ∧ s2.currentUser = s.currentUser := by
    rcases framed with rfl | rfl <;> exact ⟨by simp [App.refreshed], rfl⟩
  obtain ⟨g, framed, stack2⟩ := frames
  refine ⟨top, rest, handler, g, shape, sends, framed, cart.trans kept.1, user.trans kept.2, ?_⟩
  rw [stack]
  split
  · rw [setState_stack, App.turn_stack, stack2]
  · rw [App.turn_stack, stack2]

section Endings

variable {s s3 : App} {time : Nat} {top : Route} {rest : List Route} {g : Route → Route}

theorem LeavesPage.of_sends {tap : Event} (top' : Route)
    (pages : s3.localStates = s.localStates) (cart : s3.globalCart = s.globalCart)
    (head : (s3.stack.map (Route.refresh s3.globalCart)).head? = some top')
    (sends : ∃ handler, Sends (s3.refreshed (s3.now + 1)) (s3.now + 2) top' tap handler) :
    LeavesPage tap s s3 := by
  obtain ⟨handler, sends⟩ := sends
  obtain ⟨_, shape⟩ := List.head?_eq_some_iff.mp head
  refine ⟨pages, cart, s3.now + 1, s3.now + 2, _, _, step_frame (Nat.lt_succ_self _),
    step_of_sends (Nat.lt_succ_self _) shape sends, ⟨s3.now + 2, top'.id, handler.start.2⟩, ?_, rfl⟩
  rw [sent_pending]
  exact List.mem_cons_self

/-- `_login` and `_updateData` set their busy flag before they call. -/
theorem begin_busy (handler : Handler) (busy : handler.start.1 = [.setState (.isLoading true)]) :
    (s.turn.begin time top.id handler).stack =
      s.stack.map (Route.update top.id (Page.apply (.isLoading true))) := by
  simp [Turn.begin, busy, setState_stack]

/-- The `finally` block of `_login` takes the flag back, so the button is built enabled again. -/
theorem login_failed (wf : WellFormed s) (shape : s.stack = top :: rest) {state : LoginState}
    (shown : top.page = .login state) (idle : state.isLoading = false)
    (framed : Framed s.globalCart g) (cart : s3.globalCart = s.globalCart)
    (stack : s3.stack = ((s.turn.begin time top.id .login).stack.map g).map
      (Route.update top.id (Page.apply (.isLoading false)))) : LeavesPage .tapLogin s s3 := by
  have stack' : s3.stack = s.stack.map fun route => Route.update top.id
      (Page.apply (.isLoading false)) (g (Route.update top.id (Page.apply (.isLoading true)) route)) := by
    rw [stack, begin_busy _ rfl, List.map_map, List.map_map]
    rfl
  -- the topmost page while it is busy
  obtain ⟨name, page, dirty⟩ := top
  dsimp only at shown stack' shape
  subst shown
  obtain ⟨email, password, isLoading, buttonEnabled⟩ := state
  obtain rfl : isLoading = false := idle
  obtain ⟨enabled, dirty', busy⟩ : ∃ enabled dirty',
      g ⟨name, .login ⟨email, password, true, buttonEnabled⟩, true⟩ =
        ⟨name, .login ⟨email, password, true, enabled⟩, dirty'⟩ := by
    rcases framed with rfl | rfl
    · exact ⟨_, _, rfl⟩
    · exact ⟨_, _, rfl⟩
  refine .of_sends ⟨name, .login ⟨email, password, false, true⟩, false⟩ ?_ cart ?_
    ⟨.login, .login _ rfl rfl rfl⟩
  · rw [App.localStates, App.localStates, stack', List.map_map]
    apply List.map_congr_left
    intro route member
    -- the other pages were touched by frames only
    by_cases here : route.id = name
    · have on_top : ⟨name, .login ⟨email, password, false, buttonEnabled⟩, dirty⟩ ∈ s.stack := by
        rw [shape]
        exact List.mem_cons_self
      have same := route_unique wf.routeNames on_top member here
      subst same
      simp [Route.update, Page.apply, busy, Page.localState]
    · simp [Route.update, here, framed.id_eq, framed.localState]
  · rw [stack', shape, List.map_cons, List.map_cons]
    simp only [Route.update, if_true, Page.apply, busy]
    rfl

/-- The handlers that change nothing before their call. -/
theorem quiet_failed {tap : Event} {handler : Handler} (shape : s.stack = top :: rest)
    (quiet : handler.start.1 = []) (framed : Framed s.globalCart g)
    (cart : s3.globalCart = s.globalCart)
    (stack : s3.stack = (s.turn.begin time top.id handler).stack.map g)
    (sends : ∃ handler', Sends (s3.refreshed (s3.now + 1)) (s3.now + 2)
      (top.refresh s.globalCart) tap handler') : LeavesPage tap s s3 := by
  have stack' : s3.stack = s.stack.map g := by
    rw [stack, Turn.begin, quiet]
    rfl
  refine .of_sends (top.refresh s.globalCart) ?_ cart ?_ sends
  · rw [App.localStates, App.localStates, stack', List.map_map]
    apply List.map_congr_left
    intro route _
    simp [framed.id_eq, framed.localState]
  · rw [stack', shape, List.map_cons, List.map_cons, cart, framed.refresh, List.head?_cons]

/-- After a failed save the next build has no form. -/
theorem save_failed (shape : s.stack = top :: rest) {state : EditProfileState}
    (shown : top.page = .editProfile state) (framed : Framed s.globalCart g)
    (cart : s3.globalCart = s.globalCart)
    (stack : s3.stack = (s.turn.begin time top.id .updateData).stack.map g) :
    ¬ LeavesPage .tapSave s s3 := by
  rintro ⟨_, _, time1, time2, rebuilt, again, frame, tapped, _⟩
  rw [step_frame_iff frame] at tapped
  -- the page has been or is now rebuilt while it is busy
  have built : (g (Route.update top.id (Page.apply (.isLoading true)) top)).refresh s.globalCart =
      ⟨top.id, .editProfile { state with isLoading := true, formShown := false }, false⟩ := by
    rw [framed.refresh]
    simp [Route.update, shown, Page.apply, Route.refresh, Page.rebuild]
  obtain ⟨rest', stack'⟩ : ∃ rest', (s3.refreshed time1).stack =
      ⟨top.id, .editProfile { state with isLoading := true, formShown := false }, false⟩ :: rest' := by
    rw [App.refreshed, stack, begin_busy _ rfl, shape, cart]
    exact ⟨_, congrArg (· :: _) built⟩
  simp [App.step, stack', Turn.tap] at tapped

end Endings

/-! ### The result -/

/-- Whatever state the app is in, a failed call of a tap leaves the pages and the cart as they
were before the tap, ready for the same tap, exactly when the tap was not Save Changes. -/
theorem failed_call_leaves_page_iff {currentUser : Option Uid} {orders : List OrderDoc}
    {es frames : List Timed} {s s1 s2 s3 : App} {tap : Event} {time time' : Nat} {outcome : Outcome}
    (run : app.Run Machine.Free (App.init currentUser orders) es s) (backend : tap ∈ backendTaps)
    (tapped : app.step s ⟨time, tap⟩ = some s1) (waited : app.Run FramesOnly s1 frames s2)
    (failed : outcome.succeeded = false)
    (answered : app.step s2 ⟨time', .answer time outcome⟩ = some s3) :
    LeavesPage tap s s3 ↔ tap ≠ .tapSave := by
  have wf := wellFormed_of_run run
  obtain ⟨top, rest, handler, g, shape, sends, framed, cart, user, stack⟩ :=
    failure_cases wf backend tapped waited failed answered
  cases sends with
  | login state shown _ idle =>
    exact iff_of_true (login_failed wf shape shown idle framed cart (by simpa [Handler.start] using stack))
      (by simp)
  | save state shown =>
    exact iff_of_false (save_failed shape shown framed cart (by simpa [Handler.start] using stack))
      (by simp)
  | heart state uid shown signedIn =>
    refine iff_of_true (quiet_failed shape rfl framed cart (by simpa [Handler.start] using stack) ?_)
      (by simp)
    obtain ⟨state', page⟩ : ∃ state', (top.refresh s.globalCart).page = .product state' := by
      cases dirty : top.dirty <;> simp [Route.refresh, dirty, shown, Page.rebuild]
    exact ⟨_, .heart state' uid page (user.trans signedIn)⟩
  | confirm state shown =>
    refine iff_of_true (quiet_failed shape rfl framed cart (by simpa [Handler.start] using stack) ?_)
      (by simp)
    have page : (top.refresh s.globalCart).page = .checkout state := by
      cases dirty : top.dirty <;> simp [Route.refresh, dirty, shown, Page.rebuild]
    exact ⟨_, .confirm state page⟩

/-- A sign-in that fails after a frame. -/
theorem failed_login_leaves_page : ∃ s s1 s2 s3,
    app.Run Machine.Free (App.init none []) (schedule [.splashTimeout, .typeLogin "a" "b"]) s ∧
    app.step s ⟨3, .tapLogin⟩ = some s1 ∧ app.Run FramesOnly s1 [⟨4, .frame⟩] s2 ∧
    app.step s2 ⟨5, .answer 3 (.authException none)⟩ = some s3 ∧ LeavesPage .tapLogin s s3 := by
  obtain ⟨s, run, checks⟩ := Machine.exists_run_of_exec app Machine.Free (App.init none [])
    (schedule [.splashTimeout, .typeLogin "a" "b"])
    (fun s => ((app.step s ⟨3, .tapLogin⟩).bind fun s1 => (app.exec FramesOnly s1 [⟨4, .frame⟩]).bind
      fun s2 => app.step s2 ⟨5, .answer 3 (.authException none)⟩).isSome) (by decide +kernel)
  obtain ⟨s3, answered⟩ := Option.isSome_iff_exists.mp checks
  obtain ⟨s1, tapped, answered⟩ := Option.bind_eq_some_iff.mp answered
  obtain ⟨s2, waited, answered⟩ := Option.bind_eq_some_iff.mp answered
  have waited := Machine.run_of_exec waited
  exact ⟨s, s1, s2, s3, run, tapped, waited, answered,
    (failed_call_leaves_page_iff run (by decide) tapped waited rfl answered).mpr (by simp)⟩

/-- Save Changes on the edit form, and the update fails: the page stays busy. -/
theorem failed_save_stays_busy :
    ¬ ∀ (currentUser : Option Uid) (orders : List OrderDoc) (es frames : List Timed)
      (s s1 s2 s3 : App) (tap : Event) (time time' : Nat) (outcome : Outcome),
      app.Run Machine.Free (App.init currentUser orders) es s → tap ∈ backendTaps →
      app.step s ⟨time, tap⟩ = some s1 → app.Run FramesOnly s1 frames s2 →
      outcome.succeeded = false → app.step s2 ⟨time', .answer time outcome⟩ = some s3 →
      s3.localStates = s.localStates ∧ s3.globalCart = s.globalCart := by
  intro all
  obtain ⟨s, run, checks⟩ := Machine.exists_run_of_exec app Machine.Free (App.init none [])
    (schedule [.splashTimeout, .tapLogin, .answer 2 (.success (.user "A")), .tapNav 3,
      .tapMenu .editProfile])
    (fun s => ((app.step s ⟨6, .tapSave⟩).bind fun s1 =>
      app.step s1 ⟨7, .answer 6 .exception⟩).any fun s3 => s3.localStates != s.localStates)
    (by decide +kernel)
  obtain ⟨s3, ended, differs⟩ := (Option.any_eq_true _ _).mp checks
  obtain ⟨s1, tapped, answered⟩ := Option.bind_eq_some_iff.mp ended
  have same := (all none [] _ [] s s1 s1 s3 .tapSave 6 7 .exception run (by decide) tapped .nil rfl
    answered).1
  simp [same] at differs

end CartX
