import CartX.Machine.Observer
import CartX.Properties.Steps

/-!
# Well-formed states of the app

The structural invariant of every run: names are unique and older than the
clock, a suspended handler belongs to a page of its own kind as long as that
page is there, and the stack is either entirely inside the cart flow (cart,
checkout, success dialog) or entirely outside it.
-/

namespace CartX

/-- The amount a checkout page charges. -/
def Page.charge : Page → Option ℚ
  | .checkout state => some state.totalAmount
  | _ => none

theorem Page.charge_eq_none {page : Page} (other : ∀ state, page ≠ .checkout state) :
    page.charge = none := by
  cases page with
  | checkout state => exact absurd rfl (other state)
  | _ => rfl

/-- Two states of the same kind of page. -/
structure Page.Similar (page page' : Page) : Prop where
  owns : ∀ point : Await, point.owns page = point.owns page'
  flow : page.inCartFlow = page'.inCartFlow
  auth : page.isAuth = page'.isAuth
  charge : page.charge = page'.charge
  cart : page.isCart = page'.isCart

theorem Page.Similar.refl (page : Page) : page.Similar page := ⟨fun _ => rfl, rfl, rfl, rfl, rfl⟩

theorem Page.Alike.similar {page page' : Page} (alike : page.Alike page') : page.Similar page' := by
  unfold Page.Alike at alike
  split at alike
  · exact ⟨fun point => by cases point <;> rfl, rfl, rfl, rfl, rfl⟩
  · exact ⟨fun point => by cases point <;> rfl, rfl, rfl, rfl, rfl⟩
  · exact ⟨fun point => by cases point <;> rfl, rfl, rfl, rfl, rfl⟩
  -- of a checkout page's local state only the amount matters
  · exact ⟨fun point => by cases point <;> rfl, rfl, rfl, congrArg some alike, rfl⟩
  · rw [alike]
    exact .refl _

theorem Page.apply_similar (change : LocalUpdate) (page : Page) :
    page.Similar (Page.apply change page) := by
  cases change <;> cases page <;>
    first
    | exact .refl _
    | exact ⟨fun point => by cases point <;> rfl, rfl, rfl, rfl, rfl⟩

theorem Page.rebuild_similar (globalCart : Cart) (page : Page) :
    page.Similar (page.rebuild globalCart) := by
  cases page <;>
    first
    | exact .refl _
    | exact ⟨fun point => by cases point <;> rfl, rfl, rfl, rfl, rfl⟩

/-! ### Stacks that differ in the pages' local state -/

/-- The same routes, with other local state in their pages. -/
structure Reshaped (before after : List Route) : Prop where
  ids : after.map Route.id = before.map Route.id
  similar : ∀ route' ∈ after, ∃ route ∈ before, route.id = route'.id ∧
    route.page.Similar route'.page

theorem Reshaped.refl (stack : List Route) : Reshaped stack stack :=
  ⟨rfl, fun route member => ⟨route, member, rfl, .refl _⟩⟩

theorem reshaped_map {stack : List Route} {f : Route → Route}
    (keeps : ∀ route ∈ stack, (f route).id = route.id ∧ route.page.Similar (f route).page) :
    Reshaped stack (stack.map f) := by
  constructor
  · rw [List.map_map]
    exact List.map_congr_left fun route member => (keeps route member).1
  · intro route' member
    obtain ⟨route, old, rfl⟩ := List.mem_map.mp member
    exact ⟨route, old, (keeps route old).1.symm, (keeps route old).2⟩

namespace Turn

theorem setState_reshaped {turn : Turn} {id : Nat} {update : Page → Page}
    (keeps : ∀ route ∈ turn.stack, route.id = id → route.page.Similar (update route.page)) :
    Reshaped turn.stack (turn.setState id update).stack := by
  apply reshaped_map
  intro route member
  by_cases here : route.id = id
  · simpa [here] using keeps route member here
  · simpa [here] using Page.Similar.refl _

theorem edit_reshaped {turn : Turn} {id : Nat} {update : Page → Page}
    (keeps : ∀ route ∈ turn.stack, route.id = id → route.page.Similar (update route.page)) :
    Reshaped turn.stack (turn.edit id update).stack := by
  apply reshaped_map
  intro route member
  by_cases here : route.id = id
  · simpa [here] using keeps route member here
  · simpa [here] using Page.Similar.refl _

theorem rebuildDirty_reshaped (turn : Turn) :
    Reshaped turn.stack turn.rebuildDirty.stack := by
  apply reshaped_map
  intro route _
  -- a rebuild keeps the kind of page
  by_cases dirty : route.dirty = true
  · simpa [dirty] using Page.rebuild_similar _ _
  · simpa [dirty] using Page.Similar.refl _

@[simp] theorem setState_globalCart (turn : Turn) (id : Nat) (update : Page → Page) :
    (turn.setState id update).globalCart = turn.globalCart := rfl

@[simp] theorem setState_started (turn : Turn) (id : Nat) (update : Page → Page) :
    (turn.setState id update).started = turn.started := rfl

@[simp] theorem edit_globalCart (turn : Turn) (id : Nat) (update : Page → Page) :
    (turn.edit id update).globalCart = turn.globalCart := rfl

@[simp] theorem edit_started (turn : Turn) (id : Nat) (update : Page → Page) :
    (turn.edit id update).started = turn.started := rfl

@[simp] theorem pushReplacement_globalCart (turn : Turn) (time : Nat) (page : Page) :
    (turn.pushReplacement time page).globalCart = turn.globalCart := rfl

@[simp] theorem pushReplacement_started (turn : Turn) (time : Nat) (page : Page) :
    (turn.pushReplacement time page).started = turn.started := rfl

@[simp] theorem pushAndRemoveUntil_globalCart (turn : Turn) (time : Nat) (page : Page) :
    (turn.pushAndRemoveUntil time page).globalCart = turn.globalCart := rfl

@[simp] theorem pushAndRemoveUntil_started (turn : Turn) (time : Nat) (page : Page) :
    (turn.pushAndRemoveUntil time page).started = turn.started := rfl

/-- The page that replaces the topmost one has a new name: a `setState` for another page finds it
among the rest. -/
theorem pushReplacement_setState {turn : Turn} {time id : Nat} {page : Page} (away : id ≠ time)
    (update : Page → Page) :
    ((turn.pushReplacement time page).setState id update).stack = { id := time, page } ::
      ({ turn with stack := turn.stack.tail }.setState id update).stack := by
  simp [pushReplacement, setState, away.symm]

theorem setState_tail (turn : Turn) (id : Nat) (update : Page → Page) :
    (turn.setState id update).stack.tail =
      ({ turn with stack := turn.stack.tail }.setState id update).stack := by
  simp [setState, List.map_tail]

@[simp] theorem begin_globalCart (turn : Turn) (time id : Nat) (handler : Handler) :
    (turn.begin time id handler).globalCart = turn.globalCart := by
  cases handler <;> simp [begin, Handler.start]

@[simp] theorem begin_started (turn : Turn) (time id : Nat) (handler : Handler) :
    (turn.begin time id handler).started = ⟨time, id, handler.start.2⟩ :: turn.started := by
  cases handler <;> simp [begin, Handler.start]

theorem begin_reshaped (turn : Turn) (time id : Nat) (handler : Handler) :
    Reshaped turn.stack (turn.begin time id handler).stack := by
  have busy : Reshaped turn.stack (turn.setState id (Page.apply (.isLoading true))).stack :=
    setState_reshaped fun route _ _ => Page.apply_similar _ _
  cases handler <;> simp only [begin, Handler.start, List.foldl_cons, List.foldl_nil,
    applyEffect_setState]
  -- only these two set `_isLoading` before their call
  case login => exact busy
  case updateData => exact busy
  all_goals exact .refl _

@[simp] theorem push_globalCart (turn : Turn) (time : Nat) (user : Option Uid) (page : Page) :
    (turn.push time user page).globalCart = turn.globalCart := by
  unfold push
  split <;> simp

@[simp] theorem push_stack (turn : Turn) (time : Nat) (user : Option Uid) (page : Page) :
    (turn.push time user page).stack = { id := time, page } :: turn.stack := by
  unfold push
  split <;> simp [begin, Handler.start]

/-- The handlers a new page starts are its own. -/
theorem push_started (turn : Turn) (time : Nat) (user : Option Uid) (page : Page) :
    (turn.push time user page).started = turn.started ∨
      ∃ point : Await, point.isOrder = false ∧ point.owns page = true ∧
        (turn.push time user page).started = ⟨time, time, point⟩ :: turn.started := by
  unfold push
  split
  · exact .inr ⟨.getWish, rfl, rfl, by simp [Handler.start]⟩
  · exact .inr ⟨.getUser, rfl, rfl, by simp [Handler.start]⟩
  · exact .inl rfl

end Turn

/-! ### Stacks before and after a turn -/

/-- A turn keeps some of the routes, with other local state, and puts at most one new page on
top of them. -/
inductive Restacked (time : Nat) (before : List Route) : Option Page → List Route → Prop
  | kept {old after : List Route} (sub : old.Sublist before) (same : Reshaped old after) :
      Restacked time before none after
  | opened {old rest : List Route} (page : Page) (sub : old.Sublist before)
      (same : Reshaped old rest) : Restacked time before (some page) ({ id := time, page } :: rest)

/-- No route inside the cart flow together with one outside it. -/
def OneFlow (stack : List Route) : Prop :=
  ∀ route ∈ stack, ∀ route' ∈ stack, route.page.inCartFlow = route'.page.inCartFlow

/-- A cart page is the oldest route, so it is at the bottom. -/
def CartOldest (stack : List Route) : Prop :=
  ∀ cart ∈ stack, cart.page.isCart = true → ∀ route ∈ stack, cart.id ≤ route.id

theorem OneFlow.single (route : Route) : OneFlow [route] := by simp [OneFlow]

section Stacks

variable {time : Nat} {before after : List Route} {new : Option Page}

theorem Restacked.reshaped (same : Reshaped before after) : Restacked time before none after :=
  .kept (.refl _) same

theorem Restacked.ids (restacked : Restacked time before new after) :
    (after.map Route.id).Sublist (time :: before.map Route.id) := by
  cases restacked with
  -- the names are those of kept routes, below the new one if there is one
  | kept sub same => exact same.ids ▸ (sub.map _).cons _
  | opened page sub same =>
    rw [List.map_cons, same.ids]
    exact (sub.map _).cons_cons _

/-- A route after the turn is the new one or one from before, with the same kind of page. -/
theorem Restacked.routes (restacked : Restacked time before new after) {route' : Route}
    (member : route' ∈ after) :
    (∃ page, new = some page ∧ route' = { id := time, page }) ∨
      ∃ route ∈ before, route.id = route'.id ∧ route.page.Similar route'.page := by
  have old {old rest : List Route} (sub : old.Sublist before) (same : Reshaped old rest)
      (member : route' ∈ rest) :
      ∃ route ∈ before, route.id = route'.id ∧ route.page.Similar route'.page :=
    let ⟨route, here, similar⟩ := same.similar route' member
    ⟨route, sub.subset here, similar⟩
  cases restacked with
  | kept sub same => exact .inr (old sub same member)
  | opened page sub same =>
    rcases List.mem_cons.mp member with rfl | member
    · exact .inl ⟨page, rfl, rfl⟩
    · exact .inr (old sub same member)

/-- The new page is in the flow of the old ones, or alone. -/
theorem OneFlow.restacked (flow : OneFlow before)
    (fits : ∀ page, new = some page → after.tail = [] ∨
      ∃ route ∈ before, route.page.inCartFlow = page.inCartFlow)
    (restacked : Restacked time before new after) : OneFlow after := by
  -- kept routes are all in one flow, whatever became of their local state
  have similar {old rest : List Route} (sub : old.Sublist before) (same : Reshaped old rest)
      {route' : Route} (member : route' ∈ rest) {route : Route} (here : route ∈ before) :
      route'.page.inCartFlow = route.page.inCartFlow := by
    obtain ⟨other, other_mem, _, similar⟩ := same.similar route' member
    rw [← similar.flow]
    exact flow other (sub.subset other_mem) route here
  cases restacked with
  | kept sub same =>
    intro first first_mem second second_mem
    obtain ⟨other, other_mem, _, alike⟩ := same.similar second second_mem
    rw [similar sub same first_mem (sub.subset other_mem), alike.flow]
  | @opened _ rest page sub same =>
    rcases fits page rfl with alone | ⟨route, here, new_flow⟩
    -- alone on the stack
    · dsimp only [List.tail_cons] at alone
      rw [alone]
      exact .single _
    -- over routes of its own flow
    · have all : ∀ other ∈ ({ id := time, page } : Route) :: rest,
          other.page.inCartFlow = route.page.inCartFlow := by
        intro other member
        rcases List.mem_cons.mp member with rfl | member
        · exact new_flow.symm
        · exact similar sub same member here
      intro first first_mem second second_mem
      rw [all first first_mem, all second second_mem]

theorem CartOldest.restacked (oldest : CartOldest before) (older : ∀ route ∈ before, route.id < time)
    (alone : ∀ page, new = some page → page.isCart = true → after.tail = [])
    (restacked : Restacked time before new after) : CartOldest after := by
  intro cart cart_mem is_cart route route_mem
  rcases restacked.routes cart_mem with ⟨page, opened, rfl⟩ | ⟨old_cart, old_mem, id, similar⟩
  -- a cart page just opened is alone, one from before was the oldest already
  · have empty := alone page opened is_cart
    cases restacked with
    | kept => cases opened
    | opened page' =>
      dsimp only [List.tail_cons] at empty
      rw [empty, List.mem_singleton] at route_mem
      rw [route_mem]
  · have old_is_cart : old_cart.page.isCart = true := similar.cart.trans is_cart
    rcases restacked.routes route_mem with ⟨_, _, rfl⟩ | ⟨old, here, old_id, _⟩
    · have := older old_cart old_mem
      dsimp only
      omega
    · rw [← id, ← old_id]
      exact oldest old_cart old_mem old_is_cart old here

end Stacks

/-! ### What a turn does to routes, calls and names -/

section Turns

variable {turn turn' : Turn} {time : Nat} {user : Option Uid} {top : Route} {event : Event}
variable {call : Call} {outcome : Outcome}

/-- What is known of a page opened by a tap: the checkout page charges the cart's total, and a
cart page is built from the cart, alone on the stack. -/
structure Opens (turn : Turn) (top : Route) (event : Event) (page : Page) (stack : List Route) :
    Prop where
  flow : stack.tail = [] ∨ top.page.inCartFlow = page.inCartFlow
  charge : page.charge = none ∨
    event = .tapProceed ∧ page.charge = some turn.globalCart.cartTotal
  cart : ∀ view, page = .cart view →
    stack.tail = [] ∧ view = .build turn.globalCart
  auth : page.isAuth = false → top.page.isAuth = false

theorem Move.restacked (unique : ∀ route ∈ turn.stack, route.id = top.id → route = top)
    (move : Move turn time user top event turn') :
    ∃ new, Restacked time turn.stack new turn'.stack ∧
      ∀ page, new = some page → Opens turn top event page turn'.stack := by
  have reshaped {after : List Route} (same : Reshaped turn.stack after) :
      ∃ new, Restacked time turn.stack new after ∧
        ∀ page, new = some page → Opens turn top event page after :=
    ⟨none, .reshaped same, by simp⟩
  -- the name of the topmost route is nobody else's
  have only_top {page : Page} (similar : top.page.Similar page) :
      ∀ route ∈ turn.stack, route.id = top.id → route.page.Similar page := by
    intro route member here
    rw [unique route member here]
    exact similar
  cases move with
  | begin | confirm => exact reshaped (Turn.begin_reshaped _ _ _ _)
  -- pages outside the cart flow are opened from outside it
  | openPage page _ fromShop flow topFlow =>
    rw [Turn.push_stack]
    refine ⟨some page, .opened page (.refl _) (.refl _), ?_⟩
    rintro _ ⟨⟩
    refine ⟨.inr (topFlow.trans flow.symm), .inl (Page.charge_eq_none ?_), ?_, fromShop⟩
    · rintro state rfl
      cases flow
    · rintro view rfl
      cases flow
  -- the checkout page is opened from the cart page, and charges its cart
  | proceed view shown =>
    rw [Turn.push_stack]
    refine ⟨_, .opened _ (.refl _) (.refl _), ?_⟩
    rintro _ ⟨⟩
    refine ⟨.inr ?_, .inr ⟨rfl, rfl⟩, by simp, fun _ => ?_⟩ <;> rw [shown] <;> rfl
  -- the bottom bar removes all other routes
  | nav page _ fromShop _ unpaid built =>
    refine ⟨some page, .opened page (List.nil_sublist _) (.refl _), ?_⟩
    rintro _ ⟨⟩
    exact ⟨.inl rfl, .inl (Page.charge_eq_none unpaid), fun view here => ⟨rfl, built view here⟩,
      fun _ => fromShop⟩
  | enter _ splash =>
    refine ⟨some (.login {}), .opened _ (List.tail_sublist _) (.refl _), ?_⟩
    rintro _ ⟨⟩
    exact ⟨.inr (by rw [splash]; rfl), .inl rfl, by simp, by simp [Page.isAuth]⟩
  | restate page _ alike => exact reshaped (Turn.setState_reshaped (only_top alike.similar))
  | type page _ alike => exact reshaped (Turn.edit_reshaped (only_top alike.similar))
  | buildRow view index shown =>
    refine reshaped (Turn.edit_reshaped (only_top ?_))
    rw [shown]
    exact ⟨fun point => by cases point <;> rfl, rfl, rfl, rfl, rfl⟩
  | delete view index globalCart =>
    exact reshaped (@Turn.setState_reshaped { turn with globalCart } _ _ fun _ _ _ => .refl _)
  | _ => exact reshaped (.refl _)

theorem exists_route_of_mounted {id : Nat} (mounted : turn.mounted id = true) :
    ∃ route ∈ turn.stack, route.id = id := by
  simpa [Turn.mounted] using mounted

/-- A handler opens only the home page, the login page and the success dialog: the first and the
last over the pages of their flow, the login page alone. -/
structure Reopens (turn : Turn) (page : Page) (stack : List Route) : Prop where
  flow : stack.tail = [] ∨ ∃ route ∈ turn.stack, route.page.inCartFlow = page.inCartFlow
  charge : page.charge = none
  cart : page.isCart = false

theorem Resumed.restacked (away : call.page ≠ time)
    (owned : ∀ route ∈ turn.stack, route.id = call.page → call.point.owns route.page = true)
    (resumed : Resumed turn time call outcome turn') :
    ∃ new, Restacked time turn.stack new turn'.stack ∧
      ∀ page, new = some page → Reopens turn page turn'.stack := by
  have update (turn : Turn) (change : LocalUpdate) :
      Reshaped turn.stack (turn.setState call.page (Page.apply change)).stack :=
    Turn.setState_reshaped fun _ _ _ => Page.apply_similar _ _
  -- `pushAndRemoveUntil` leaves one route, whatever was there
  have single (page : Page) (charge : page.charge = none) (cart : page.isCart = false) :
      ∃ new, Restacked time turn.stack new [{ id := time, page }] ∧
        ∀ page', new = some page' → Reopens turn page' [{ id := time, page }] := by
    refine ⟨some page, .opened page (List.nil_sublist _) (.refl _), ?_⟩
    rintro _ ⟨⟩
    exact ⟨.inl rfl, charge, cart⟩
  cases resumed with
  | update change => exact ⟨none, .reshaped (update _ _), by simp⟩
  | loggedIn point _ mounted =>
    obtain ⟨route, member, id⟩ := exists_route_of_mounted mounted
    have login := owned route member id
    rw [Turn.pushReplacement_setState away]
    refine ⟨_, .opened _ (List.tail_sublist _) (update { turn with stack := turn.stack.tail } _), ?_⟩
    rintro _ ⟨⟩
    rw [point] at login
    obtain ⟨state, page⟩ := Await.signIn_owns login
    exact ⟨.inr ⟨route, member, by rw [page]; rfl⟩, rfl, rfl⟩
  | saved =>
    -- the pop may take the page itself or one above it
    dsimp only
    rw [Turn.setState_tail]
    exact ⟨none, .kept (List.tail_sublist _) (update { turn with stack := turn.stack.tail } _),
      by simp⟩
  | signedUp => exact single .home rfl rfl
  | loggedOut => exact single (.login {}) rfl rfl
  -- the dialog opens over a stack with the checkout page in it
  | ordered doc point _ mounted =>
    obtain ⟨route, member, id⟩ := exists_route_of_mounted mounted
    have checkout := owned route member id
    refine ⟨_, .opened _ (.refl _) (.refl _), ?_⟩
    rintro _ ⟨⟩
    rw [point] at checkout
    obtain ⟨state, page⟩ := Await.addOrder_owns checkout
    exact ⟨.inr ⟨route, member, by rw [page]; rfl⟩, rfl, rfl⟩
  | _ => exact ⟨none, .reshaped (.refl _), by simp⟩

/-- A tap suspends at most one handler: of the topmost page, or of a page it opens. -/
theorem Move.started (none_yet : turn.started = []) (move : Move turn time user top event turn') :
    turn'.started = [] ∨ ∃ point : Await,
      (turn'.started = [⟨time, top.id, point⟩] ∧ point.owns top.page = true) ∨
      (turn'.started = [⟨time, time, point⟩] ∧ ∃ page, turn'.stack = { id := time, page } :: turn.stack ∧
        point.owns page = true ∧ point.isOrder = false) := by
  -- only product and profile pages start a handler when they open
  have opened {page : Page} :
      (turn.push time user page).started = [] ∨ ∃ point : Await,
        ((turn.push time user page).started = [⟨time, top.id, point⟩] ∧
          point.owns top.page = true) ∨
        ((turn.push time user page).started = [⟨time, time, point⟩] ∧
          ∃ page', (turn.push time user page).stack = { id := time, page := page' } :: turn.stack ∧
            point.owns page' = true ∧ point.isOrder = false) := by
    rcases turn.push_started time user page with none | ⟨point, noOrder, owned, started⟩
    · exact .inl (none.trans none_yet)
    · exact .inr ⟨point, .inr ⟨by rw [started, none_yet], page, by simp, owned, noOrder⟩⟩
  cases move with
  | begin handler _ _ owned =>
    exact .inr ⟨handler.start.2, .inl ⟨by rw [Turn.begin_started, none_yet], owned⟩⟩
  | confirm state shown =>
    exact .inr ⟨_, .inl ⟨by rw [Turn.begin_started, none_yet], by simp [Handler.start, shown, Await.owns]⟩⟩
  | openPage | proceed => exact opened
  | _ => exact .inl none_yet

theorem Resumed.started (none_yet : turn.started = [])
    (resumed : Resumed turn time call outcome turn') :
    turn'.started = [] ∨ (call.point = .createUser ∧ outcome.succeeded = true ∧
      turn'.started = [⟨time, call.page, .setUser⟩] ∧ turn'.stack = turn.stack) := by
  cases resumed with
  | created point ok => exact .inr ⟨point, ok, rfl, rfl⟩
  | _ => exact .inl none_yet

/-- Objects of the cart stay in order; a new one comes last, named by the clock. -/
theorem Move.refs (move : Move turn time user top event turn') :
    (turn'.globalCart.map CartItem.ref).Sublist (turn.globalCart.map CartItem.ref ++ [time]) := by
  cases move with
  | add state =>
    rcases turn.globalCart.addToCart_refs time state.product state.quantity with same | added
    · simp [same]
    · simp [added]
  | delete view index globalCart _ _ removed =>
    obtain ⟨front, item, back, same, _, rfl⟩ := Cart.removeItem_eq_some_iff.mp removed
    simp only [Turn.setState_globalCart, same, List.map_append, List.map_cons, List.append_assoc]
    exact List.Sublist.append (.refl _) ((List.sublist_append_left _ _).cons _)
  | begin | confirm | openPage | proceed => simp
  | _ => exact List.sublist_append_left _ _

theorem Resumed.refs (resumed : Resumed turn time call outcome turn') :
    (turn'.globalCart.map CartItem.ref).Sublist (turn.globalCart.map CartItem.ref) := by
  cases resumed with
  | ordered | orderedAway => simp
  | _ => exact .refl _

end Turns

/-! ### The invariant -/

structure WellFormed (s : App) : Prop where
  routeNames : (s.stack.map Route.id).Pairwise (· > ·)
  routeAge : ∀ route ∈ s.stack, route.id ≤ s.now
  callNames : (s.pending.map Call.id).Pairwise (· > ·)
  callAge : ∀ call ∈ s.pending, call.id ≤ s.now ∧ call.page ≤ s.now
  itemNames : (s.globalCart.map CartItem.ref).Pairwise (· < ·)
  itemAge : ∀ item ∈ s.globalCart, item.ref ≤ s.now
  owned : ∀ call ∈ s.pending, ∀ route ∈ s.stack, route.id = call.page →
    call.point.owns route.page = true
  oneFlow : OneFlow s.stack
  cartOldest : CartOldest s.stack

theorem WellFormed.init (currentUser : Option Uid) (orders : List OrderDoc) :
    WellFormed (App.init currentUser orders) := by
  constructor <;> simp [App.init, OneFlow, CartOldest]

/-- Looking an element up under its own name. -/
theorem find?_name {α : Type*} {name : α → Nat} {elements : List α} {element : α}
    (names : (elements.map name).Nodup) (member : element ∈ elements) :
    elements.find? (fun other => name other == name element) = some element := by
  obtain ⟨other, found⟩ := Option.isSome_iff_exists.mp
    (List.find?_isSome (p := fun other => name other == name element).mpr ⟨element, member, by simp⟩)
  have same : name other = name element := by simpa using List.find?_some found
  rw [found, List.inj_on_of_nodup_map names (List.mem_of_find?_eq_some found) member same]

theorem route_unique {stack : List Route} (names : (stack.map Route.id).Pairwise (· > ·))
    {route other : Route} (member : route ∈ stack) (other_mem : other ∈ stack)
    (same : other.id = route.id) : other = route :=
  List.inj_on_of_nodup_map (names.imp Nat.ne_of_gt) other_mem member same

theorem call_unique {pending : List Call} (names : (pending.map Call.id).Pairwise (· > ·))
    {call other : Call} (member : call ∈ pending) (other_mem : other ∈ pending)
    (same : other.id = call.id) : other = call :=
  List.inj_on_of_nodup_map (names.imp Nat.ne_of_gt) other_mem member same

/-- Names below a new one stay in order. -/
theorem pairwise_of_sublist {names names' : List Nat} {now : Nat} (ordered : names.Pairwise (· > ·))
    (older : ∀ name ∈ names, name < now) (sub : names'.Sublist (now :: names)) :
    names'.Pairwise (· > ·) :=
  (List.pairwise_cons.mpr ⟨older, ordered⟩).sublist sub

/-- Every name is older than the clock, which shows the time of the event being handled. -/
structure Aged (s : App) : Prop where
  routes : ∀ route ∈ s.stack, route.id < s.now
  calls : ∀ call ∈ s.pending, call.id < s.now ∧ call.page < s.now
  items : ∀ item ∈ s.globalCart, item.ref < s.now

theorem WellFormed.tick {s : App} {time : Nat} (wf : WellFormed s) (later : s.now < time) :
    WellFormed { s with now := time } ∧ Aged { s with now := time } := by
  -- the clock moves on, everything else stays
  have routes : ∀ route ∈ s.stack, route.id < time := fun route member =>
    Nat.lt_of_le_of_lt (wf.routeAge route member) later
  have calls : ∀ call ∈ s.pending, call.id < time ∧ call.page < time := fun call member =>
    ⟨Nat.lt_of_le_of_lt (wf.callAge call member).1 later,
      Nat.lt_of_le_of_lt (wf.callAge call member).2 later⟩
  have items : ∀ item ∈ s.globalCart, item.ref < time := fun item member =>
    Nat.lt_of_le_of_lt (wf.itemAge item member) later
  exact ⟨⟨wf.routeNames, fun route member => Nat.le_of_lt (routes route member), wf.callNames,
    fun call member => ⟨Nat.le_of_lt (calls call member).1, Nat.le_of_lt (calls call member).2⟩,
    wf.itemNames, fun item member => Nat.le_of_lt (items item member), wf.owned, wf.oneFlow,
    wf.cartOldest⟩,
    routes, calls, items⟩

/-- The well-formed states after a turn: the routes come from before or are new, and so do the
calls, each new one on a page of its own kind. -/
theorem WellFormed.after {s base : App} {turn : Turn} (wf : WellFormed s) (aged : Aged s)
    (clock : base.now = s.now) (remaining : base.pending.Sublist s.pending)
    {new : Option Page} (restacked : Restacked s.now s.stack new turn.stack)
    (fits : ∀ page, new = some page → turn.stack.tail = [] ∨ page.isCart = false ∧
      ∃ route ∈ s.stack, route.page.inCartFlow = page.inCartFlow)
    (refs : (turn.globalCart.map CartItem.ref).Sublist (s.globalCart.map CartItem.ref ++ [s.now]))
    (started : turn.started = [] ∨ ∃ page point, turn.started = [⟨s.now, page, point⟩] ∧
      page ≤ s.now ∧ ∀ route ∈ turn.stack, route.id = page → point.owns route.page = true) :
    WellFormed (base.after turn) := by
  -- a call is one of those left, or the one just suspended under the clock's name
  have calls : ((base.after turn).pending.map Call.id).Sublist (s.now :: s.pending.map Call.id) := by
    rcases started with none | ⟨page, point, one, _⟩
    · simpa [none] using (remaining.map Call.id).cons s.now
    · simpa [one] using remaining.map Call.id
  -- no old call has the new page's name
  have old_owned : ∀ call ∈ base.pending, ∀ route' ∈ turn.stack, route'.id = call.page →
      call.point.owns route'.page = true := by
    intro call member route' route_mem here
    rcases restacked.routes route_mem with ⟨_, _, rfl⟩ | ⟨route, old, id, similar⟩
    · have := (aged.calls call (remaining.subset member)).2
      dsimp only at here
      omega
    · rw [← similar.owns]
      exact wf.owned call (remaining.subset member) route old (id.trans here)
  -- the fields in their order, each from what is known of names, calls and routes
  constructor
  · exact pairwise_of_sublist wf.routeNames (by simpa using aged.routes) restacked.ids
  · intro route member
    rw [App.after_now, clock]
    rcases restacked.routes member with ⟨_, _, rfl⟩ | ⟨old, old_mem, id, _⟩
    · exact Nat.le_refl _
    · have := aged.routes old old_mem
      omega
  · exact pairwise_of_sublist wf.callNames (by simpa using fun call member => (aged.calls call member).1)
      calls
  · intro call member
    rw [App.after_now, clock]
    rcases List.mem_append.mp member with new | old
    · rcases started with none | ⟨page, point, one, bound, _⟩
      · simp [none] at new
      · rw [one, List.mem_singleton] at new
        subst new
        exact ⟨Nat.le_refl _, bound⟩
    · have := aged.calls call (remaining.subset old)
      omega
  · refine List.Pairwise.sublist refs (List.pairwise_append.mpr ⟨wf.itemNames, by simp, ?_⟩)
    simpa using aged.items
  · intro item member
    rw [App.after_now, clock]
    have := refs.subset (List.mem_map.mpr ⟨item, member, rfl⟩)
    rcases List.mem_append.mp this with old | new
    · obtain ⟨before, before_mem, same⟩ := List.mem_map.mp old
      have := aged.items before before_mem
      omega
    · simp only [List.mem_singleton] at new
      omega
  · intro call member route route_mem here
    rcases List.mem_append.mp member with new | old
    · rcases started with none | ⟨page, point, one, _, owned⟩
      · simp [none] at new
      · rw [one, List.mem_singleton] at new
        subst new
        exact owned route route_mem here
    · exact old_owned call old route route_mem here
  · exact wf.oneFlow.restacked (fun page opened => (fits page opened).imp_right And.right) restacked
  · refine wf.cartOldest.restacked aged.routes (fun page opened is_cart => ?_) restacked
    rcases fits page opened with alone | ⟨no_cart, _⟩
    · exact alone
    · simp [no_cart] at is_cart

/-- The stack after a step, and what is known of the page it opens. -/
theorem App.Step.restacked {s s' : App} {event : Event} (wf : WellFormed s) (aged : Aged s)
    (step : App.Step s event s') :
    ∃ new, Restacked s.now s.stack new s'.stack ∧ ∀ page, new = some page →
      (page.charge = none ∨
        event = .tapProceed ∧ page.charge = some s.globalCart.cartTotal) ∧
      ∀ view, page = .cart view →
        s'.stack.tail = [] ∧ view = .build s.globalCart := by
  cases step with
  -- only taps and answers open pages
  | frame => exact ⟨none, .reshaped (Turn.rebuildDirty_reshaped s.turn), by simp⟩
  | back top below rest shape =>
    exact ⟨none, .kept (shape ▸ List.sublist_cons_self _ _) (.refl _), by simp⟩
  | tap event top rest turn shape move =>
    obtain ⟨new, restacked, opens⟩ := move.restacked fun route member same =>
      route_unique wf.routeNames (by simp [shape]) member same
    exact ⟨new, restacked, fun page opened => ⟨(opens page opened).charge, (opens page opened).cart⟩⟩
  | answer call outcome turn member _ _ resumed =>
    obtain ⟨new, restacked, reopens⟩ := resumed.restacked
      (Nat.ne_of_lt (aged.calls call member).2) (wf.owned call member)
    refine ⟨new, restacked, fun page opened => ⟨.inl (reopens page opened).charge, ?_⟩⟩
    rintro view rfl
    exact absurd (reopens _ opened).cart (by simp [Page.isCart])

theorem App.Step.wellFormed {s s' : App} {event : Event} (wf : WellFormed s) (aged : Aged s)
    (step : App.Step s event s') : WellFormed s' := by
  have keep : (s.globalCart.map CartItem.ref).Sublist
      (s.globalCart.map CartItem.ref ++ [s.now]) := List.sublist_append_left _ _
  cases step with
  | frame =>
    exact wf.after aged rfl (.refl _) (.reshaped (Turn.rebuildDirty_reshaped s.turn)) (by simp) keep
      (.inl rfl)
  | back top below rest shape =>
    have sub : (below :: rest).Sublist s.stack := shape ▸ List.sublist_cons_self _ _
    exact wf.after aged rfl (.refl _) (.kept sub (.refl _)) (by simp) keep (.inl rfl)
  | tap event top rest turn shape move =>
    have on_top : top ∈ s.stack := by simp [shape]
    have unique : ∀ route ∈ s.stack, route.id = top.id → route = top :=
      fun route member same => route_unique wf.routeNames on_top member same
    obtain ⟨new, restacked, opens⟩ := move.restacked unique
    refine wf.after aged rfl (.refl _) restacked (fun page opened => ?_) move.refs ?_
    · obtain ⟨flow, _, cart, _⟩ := opens page opened
      rcases flow with alone | same
      · exact .inl alone
      · cases page with
        | cart view => exact .inl (cart view rfl).1
        | _ => exact .inr ⟨rfl, top, on_top, same⟩
    -- the handler is the topmost page's own or the new page's
    rcases move.started rfl with none | ⟨point, ⟨one, owned⟩ | ⟨one, page, stack, owned, _⟩⟩
    · exact .inl none
    · refine .inr ⟨top.id, point, one, wf.routeAge top on_top, fun route' member here => ?_⟩
      rcases restacked.routes member with ⟨_, _, rfl⟩ | ⟨route, old, id, similar⟩
      · have := aged.routes top on_top
        dsimp only at here
        omega
      · rw [← similar.owns, unique route old (id.trans here)]
        exact owned
    · refine .inr ⟨s.now, point, one, Nat.le_refl _, fun route member here => ?_⟩
      rw [stack] at member
      rcases List.mem_cons.mp member with rfl | old
      · exact owned
      · have := aged.routes route old
        omega
  | answer call outcome turn member found ends resumed =>
    have owned := wf.owned call member
    have away : call.page ≠ s.now := Nat.ne_of_lt (aged.calls call member).2
    obtain ⟨new, restacked, reopens⟩ := resumed.restacked away owned
    refine wf.after aged (by simp [App.settle]) (by simp [App.settle]) restacked
      (fun page opened => ?_) (resumed.refs.trans keep) ?_
    · obtain ⟨flow, _, cart⟩ := reopens page opened
      exact flow.imp_right fun same => ⟨cart, same⟩
    -- a handler goes on to a second call only in `_signup`, on the same page
    rcases resumed.started rfl with none | ⟨point, _, one, stack⟩
    · exact .inl none
    · refine .inr ⟨call.page, .setUser, one, (wf.callAge call member).2, fun route old here => ?_⟩
      rw [stack] at old
      have signup := owned route old here
      rw [point] at signup
      rw [Await.createUser_owns signup]
      rfl

theorem WellFormed.step {s s' : App} {e : Timed} (wf : WellFormed s)
    (step : s.step e = some s') : WellFormed s' := by
  obtain ⟨later, moved⟩ := App.step_cases step
  obtain ⟨wf, aged⟩ := wf.tick later
  exact moved.wellFormed wf aged

theorem App.step_restacked {s s' : App} {e : Timed} (wf : WellFormed s)
    (step : s.step e = some s') :
    ∃ new, Restacked e.time s.stack new s'.stack ∧ ∀ page, new = some page →
      (page.charge = none ∨
        e.event = .tapProceed ∧ page.charge = some s.globalCart.cartTotal) ∧
      ∀ view, page = .cart view →
        s'.stack.tail = [] ∧ view = .build s.globalCart := by
  obtain ⟨later, moved⟩ := App.step_cases step
  obtain ⟨wf, aged⟩ := wf.tick later
  exact moved.restacked wf aged

/-- A call pending after a step was pending before or is named by the step's time. -/
theorem App.step_pending {s s' : App} {e : Timed} {call : Call} (step : s.step e = some s')
    (member : call ∈ s'.pending) : call ∈ s.pending ∨ call.id = e.time := by
  obtain ⟨_, moved⟩ := App.step_cases step
  obtain ⟨time, event⟩ := e
  cases moved with
  | frame | back => exact .inl member
  | tap _ top rest turn shape move =>
    rcases List.mem_append.mp member with started | old
    · rcases move.started rfl with none | ⟨_, ⟨one, _⟩ | ⟨one, _⟩⟩
      · simp [none] at started
      · simp_all
      · simp_all
    · exact .inl old
  | answer other outcome turn _ _ _ resumed =>
    rcases List.mem_append.mp member with started | old
    · rcases resumed.started rfl with none | ⟨_, _, one, _⟩
      · simp [none] at started
      · simp_all
    · rw [App.commit_pending] at old
      exact .inl (List.mem_of_mem_filter old)

/-- Every pending call can be answered next, with every outcome it can have. -/
theorem App.step_answer {s : App} {call : Call} {outcome : Outcome} (wf : WellFormed s)
    (member : call ∈ s.pending) (ends : call.canEnd outcome = true) :
    s.step ⟨s.now + 1, .answer call.id outcome⟩ =
      let s := ({ s with now := s.now + 1 } : App).settle call.id
      some ((s.commit call.point outcome).after (s.segment s.now call outcome)) := by
  have found : s.pending.find? (fun other => other.id == call.id) = some call :=
    find?_name (wf.callNames.imp Nat.ne_of_gt) member
  simp only [App.step, Nat.lt_succ_self, if_true, App.answer, found, ends, App.settle]

/-- The stack after the answer to a pending call. -/
theorem App.step_segment {s s' : App} {call : Call} {outcome : Outcome} {time : Nat}
    (wf : WellFormed s) (member : call ∈ s.pending)
    (step : s.step ⟨time, .answer call.id outcome⟩ = some s') :
    s'.stack = (s.segment time call outcome).stack := by
  have found : s.pending.find? (fun other => other.id == call.id) = some call :=
    find?_name (wf.callNames.imp Nat.ne_of_gt) member
  simp only [App.step, App.answer, found] at step
  split at step
  · split at step
    · cases step
      rfl
    · cases step
  · cases step

/-- Every state the app can reach is well formed. -/
theorem wellFormed_of_run {G : App → Timed → Prop} {currentUser : Option Uid}
    {orders : List OrderDoc} {es : List Timed} {s : App}
    (run : app.Run G (App.init currentUser orders) es s) : WellFormed s :=
  run.invariant (.init currentUser orders) fun _ _ _ wf _ step => wf.step step

end CartX
