import CartX.Properties.WellFormed

/-!
# What one event does to the stack

Inversion of a step once more, for invariants of the pages' own state and of
their order on the stack: an event revises pages where they are, closes the
topmost one, opens one in its initial state, or replaces the topmost or all of
them (`Shifted`). A page that stays has been revised in one of the seven ways of
`Revised`.
-/

namespace CartX

/-- `_isLoading` of a login page. -/
def Page.loginBusy : Page → Option Bool
  | .login state => some state.isLoading
  | _ => none

/-- A page before an event and what the event makes of it. -/
inductive Revised (s : App) (event : Event) (route : Route) : Page → Prop
  | kept : Revised s event route route.page
  | rebuilt (frame : event = .frame) : Revised s event route (route.page.rebuild s.globalCart)
  | begun (handler : Handler) (top : s.stack.head? = some route)
      (owned : handler.start.2.owns route.page = true)
      (idle : handler = .login → event = .tapLogin ∧ route.page.loginBusy = some false) :
      Revised s event route (Page.apply (.isLoading true) route.page)
  | restated (page : Page) (top : s.stack.head? = some route)
      (restated : Restated event route.page page) : Revised s event route page
  | typed (page : Page) (typed : Typed route.page page) : Revised s event route page
  | rowBuilt (view view' : CartView) (shown : route.page = .cart view) :
      Revised s event route (.cart view')
  | resumed (call : Call) (outcome : Outcome) (change : LocalUpdate)
      (answered : event = .answer call.id outcome) (member : call ∈ s.pending)
      (here : call.page = route.id) (owned : call.point.owns route.page = true)
      (login : call.point = .signIn → change = .isLoading false) :
      Revised s event route (Page.apply change route.page)

structure Revision (s : App) (event : Event) (route route' : Route) : Prop where
  id : route'.id = route.id
  page : Revised s event route route'.page

/-- The stack after an event. -/
inductive Shifted (s : App) (event : Event) : List Route → Prop
  | revised {after : List Route} (pages : List.Forall₂ (Revision s event) s.stack after) :
      Shifted s event after
  | closed {top : Route} {rest after : List Route} (shape : s.stack = top :: rest)
      (pages : List.Forall₂ (Revision s event) rest after) : Shifted s event after
  | signup {top : Route} {rest : List Route} {state : LoginState} (shape : s.stack = top :: rest)
      (login : top.page = .login state) :
      Shifted s event ({ id := s.now, page := .signup } :: s.stack)
  | opened (page : Page) (fresh : page.isFresh = true) (shop : page.isAuth = false)
      (within : ∃ route ∈ s.stack, route.page.isAuth = false) :
      Shifted s event ({ id := s.now, page } :: s.stack)
  | entered {top : Route} {rest : List Route} (shape : s.stack = top :: rest)
      (splash : top.page = .splash) : Shifted s event ({ id := s.now, page := .login {} } :: rest)
  | loggedIn {after : List Route} (call : Call) (outcome : Outcome)
      (answered : event = .answer call.id outcome) (member : call ∈ s.pending)
      (point : call.point = .signIn) (ok : outcome.succeeded = true)
      (mounted : s.turn.mounted call.page = true)
      (pages : List.Forall₂ (Revision s event) s.stack.tail after) :
      Shifted s event ({ id := s.now, page := .home } :: after)
  | cleared (page : Page) (fresh : page.isFresh = true)
      (auth : page.isAuth = true → page = .login {}) :
      Shifted s event [{ id := s.now, page }]

section Stacks

variable {s s' : App} {event : Event} {stack : List Route}

theorem forall₂_map {R : Route → Route → Prop} {f : Route → Route}
    (each : ∀ route ∈ stack, R route (f route)) : List.Forall₂ R stack (stack.map f) := by
  rw [List.forall₂_map_right_iff, List.forall₂_same]
  exact each

theorem revisions_refl (s : App) (event : Event) (stack : List Route) :
    List.Forall₂ (Revision s event) stack stack :=
  List.forall₂_same.mpr fun _ _ => ⟨rfl, .kept⟩

theorem revisions_setState (turn : Turn) {id : Nat} {update : Page → Page}
    (revised : ∀ route ∈ turn.stack, route.id = id → Revised s event route (update route.page)) :
    List.Forall₂ (Revision s event) turn.stack (turn.setState id update).stack := by
  apply forall₂_map
  intro route member
  by_cases here : route.id = id
  · simpa [here] using ⟨by simp [here], revised route member here⟩
  · simpa [here] using ⟨rfl, .kept⟩

theorem revisions_edit (turn : Turn) {id : Nat} {update : Page → Page}
    (revised : ∀ route ∈ turn.stack, route.id = id → Revised s event route (update route.page)) :
    List.Forall₂ (Revision s event) turn.stack (turn.edit id update).stack := by
  apply forall₂_map
  intro route member
  by_cases here : route.id = id
  · simpa [here] using ⟨by simp [here], revised route member here⟩
  · simpa [here] using ⟨rfl, .kept⟩

theorem Turn.begin_stack (turn : Turn) (time id : Nat) (handler : Handler) :
    (turn.begin time id handler).stack = turn.stack ∨
      (turn.begin time id handler).stack = (turn.setState id (Page.apply (.isLoading true))).stack := by
  -- the busy flag of `_login` and `_updateData`, nothing in the others
  cases handler <;> simp only [Turn.begin, Handler.start, List.foldl_cons, List.foldl_nil,
    Turn.applyEffect_setState, or_true, true_or]

theorem Move.shifted {top : Route} {rest : List Route} {turn : Turn} (shape : s.stack = top :: rest)
    (unique : ∀ route ∈ s.stack, route.id = top.id → route = top)
    (move : Move s.turn s.now s.currentUser top event turn) : Shifted s event turn.stack := by
  have head : s.stack.head? = some top := by rw [shape]; rfl
  have on_top : top ∈ s.stack := by simp [shape]
  cases move with
  -- at most the topmost page is changed, by the name it has for itself
  | begin handler _ _ owned idle =>
    rcases s.turn.begin_stack s.now top.id handler with same | busy
    · exact same ▸ .revised (revisions_refl _ _ _)
    · rw [busy]
      refine .revised (revisions_setState s.turn fun route member here => ?_)
      rw [unique route member here]
      refine .begun handler head owned fun login => ?_
      obtain ⟨tapped, state, page, idle⟩ := idle login
      exact ⟨tapped, by rw [page, Page.loginBusy, idle]⟩
  | confirm state shown =>
    exact .revised (revisions_refl _ _ _)
  -- the only page opened before the shop is the signup page, from the login page
  | openPage page _ fromShop _ _ fresh signup =>
    rw [Turn.push_stack]
    cases auth : page.isAuth with
    | true =>
      obtain ⟨rfl, state, login⟩ := signup auth
      exact .signup shape login
    | false => exact .opened page fresh auth ⟨top, on_top, fromShop auth⟩
  -- the checkout page lies over the cart page
  | proceed view shown =>
    rw [Turn.push_stack]
    exact .opened _ rfl rfl ⟨top, on_top, by rw [shown]; rfl⟩
  | nav page _ _ toShop _ _ fresh => exact .cleared page fresh (by simp [toShop])
  | enter _ splash =>
    have entered : Shifted s event ({ id := s.now, page := .login {} } :: rest) :=
      .entered shape splash
    simpa [Turn.pushReplacement, shape] using entered
  | restate page _ _ _ restated =>
    refine .revised (revisions_setState s.turn fun route member here => ?_)
    rw [unique route member here]
    exact .restated page head restated
  | type page _ _ _ typed =>
    refine .revised (revisions_edit s.turn fun route member here => ?_)
    rw [unique route member here]
    exact .typed page typed
  | buildRow view index shown =>
    refine .revised (revisions_edit s.turn fun route member here => ?_)
    rw [unique route member here]
    exact .rowBuilt view _ shown
  | delete view index globalCart =>
    exact .revised (revisions_setState { s.turn with globalCart } fun _ _ _ => .kept)
  | _ => exact .revised (revisions_refl _ _ _)

theorem Resumed.shifted {call : Call} {outcome : Outcome} {turn : Turn}
    (answered : event = .answer call.id outcome) (member : call ∈ s.pending)
    (away : call.page ≠ s.now)
    (owned : ∀ route ∈ s.stack, route.id = call.page → call.point.owns route.page = true)
    (resumed : Resumed s.turn s.now call outcome turn) : Shifted s event turn.stack := by
  -- `setState` on some of the routes
  have update (stack : List Route) (old : stack ⊆ s.stack) (change : LocalUpdate)
      (login : call.point = .signIn → change = .isLoading false) :
      List.Forall₂ (Revision s event) stack
        (({ s.turn with stack } : Turn).setState call.page (Page.apply change)).stack :=
    revisions_setState { s.turn with stack } fun route here id =>
      .resumed call outcome change answered member id.symm (owned route (old here) id) login
  cases resumed with
  | update change _ _ login => exact .revised (update _ (List.Subset.refl _) change fun point => (login point).1)
  | loggedIn point ok mounted =>
    rw [Turn.pushReplacement_setState away]
    exact .loggedIn call outcome answered member point ok mounted
      (update _ (List.tail_sublist _).subset _ fun _ => rfl)
  | signedUp => exact .cleared .home rfl (by simp [Page.isAuth])
  | loggedOut => exact .cleared (.login {}) rfl fun _ => rfl
  -- the pop takes the topmost page, whichever it is
  | saved point _ mounted =>
    obtain ⟨route, here, _⟩ := exists_route_of_mounted mounted
    obtain ⟨top, rest, shape⟩ := List.exists_cons_of_ne_nil (List.ne_nil_of_mem here)
    rw [App.turn_stack] at shape
    dsimp only
    rw [Turn.setState_tail, App.turn_stack, shape, List.tail_cons]
    exact .closed shape (update _ (by simp [shape]) _ (by simp [point]))
  | ordered doc point _ mounted =>
    obtain ⟨route, here, id⟩ := exists_route_of_mounted mounted
    have checkout := owned route here id
    rw [point] at checkout
    obtain ⟨state, page⟩ := Await.addOrder_owns checkout
    exact .opened .orderDialog rfl rfl ⟨route, here, by rw [page]; rfl⟩
  | _ => exact .revised (revisions_refl _ _ _)

theorem App.Step.shifted (wf : WellFormed s) (aged : Aged s) (step : App.Step s event s') :
    Shifted s event s'.stack := by
  cases step with
  | frame =>
    refine .revised (forall₂_map fun route _ => ?_)
    by_cases dirty : route.dirty = true
    · simpa [dirty] using ⟨rfl, .rebuilt rfl⟩
    · simpa [dirty] using ⟨rfl, .kept⟩
  | back top below rest shape =>
    exact .closed shape (revisions_refl _ _ _)
  | tap event top rest turn shape move =>
    exact move.shifted shape fun route member same =>
      route_unique wf.routeNames (by simp [shape]) member same
  | answer call outcome turn member _ _ resumed =>
    exact resumed.shifted rfl member (Nat.ne_of_lt (aged.calls call member).2)
      (wf.owned call member)

theorem revisions_mem {before after : List Route} {route' : Route}
    (pages : List.Forall₂ (Revision s event) before after) (member : route' ∈ after) :
    ∃ route ∈ before, Revision s event route route' := by
  induction pages with
  | nil => simp at member
  | cons first _ ih =>
    rcases List.mem_cons.mp member with rfl | later
    · exact ⟨_, List.mem_cons_self, first⟩
    · obtain ⟨route, old, revision⟩ := ih later
      exact ⟨route, List.mem_cons_of_mem _ old, revision⟩

/-- A route after the event is new, with a page in its initial state, or has been revised. -/
theorem Shifted.routes {after : List Route} {route' : Route} (shifted : Shifted s event after)
    (member : route' ∈ after) :
    (route'.id = s.now ∧ route'.page.isFresh = true) ∨
      ∃ route ∈ s.stack, Revision s event route route' := by
  have kept (old : route' ∈ s.stack) : ∃ route ∈ s.stack, Revision s event route route' :=
    ⟨route', old, rfl, .kept⟩
  cases shifted with
  | revised pages => exact .inr (revisions_mem pages member)
  | closed shape pages =>
    obtain ⟨route, old, revision⟩ := revisions_mem pages member
    exact .inr ⟨route, by simp [shape, old], revision⟩
  | signup | opened =>
    rcases List.mem_cons.mp member with rfl | old
    · exact .inl ⟨rfl, by first | rfl | assumption⟩
    · exact .inr (kept old)
  | entered shape =>
    rcases List.mem_cons.mp member with rfl | old
    · exact .inl ⟨rfl, rfl⟩
    · exact .inr (kept (by simp [shape, old]))
  | loggedIn _ _ _ _ _ _ _ pages =>
    rcases List.mem_cons.mp member with rfl | later
    · exact .inl ⟨rfl, rfl⟩
    · obtain ⟨route, old, revision⟩ := revisions_mem pages later
      exact .inr ⟨route, List.mem_of_mem_tail old, revision⟩
  | cleared page fresh =>
    rw [List.mem_singleton] at member
    subst member
    exact .inl ⟨rfl, fresh⟩

end Stacks

/-- The stack after a step, from the state whose clock shows the event's time. -/
theorem App.step_shifted {s s' : App} {e : Timed} (wf : WellFormed s)
    (step : s.step e = some s') : Shifted { s with now := e.time } e.event s'.stack := by
  obtain ⟨later, moved⟩ := App.step_cases step
  obtain ⟨wf, aged⟩ := wf.tick later
  exact moved.shifted wf aged

end CartX
