import CartX.Lists.Edits
import CartX.Properties.Orders

/-!
# The rows of the cart page

A row keeps the position of its `CartItem` from the moment it was built. While
the cart page is open nothing is added to the cart, so the cart is what it was at
the last build, less the rows deleted and the orders recorded since
(`Displayed`). From this follows exactly which delete taps remove what their row
shows, and which late runs of `itemBuilder` stay inside the cart.
-/

namespace CartX

/-- The step builds the cart page: opens it, or rebuilds it after its `setState`. -/
def App.buildsCart (s : App) (e : Timed) (s' : App) : Bool :=
  (e.event == .frame && s.stack.any fun route => route.dirty && route.page.isCart) ||
    s'.stack.any fun route => route.page.isCart && route.id == e.time

/-- What happened to the cart since its page was last built, the latest first. -/
def noteEdit (s : App) (e : Timed) (s' : App) (since : List Edit) : List Edit :=
  if s.buildsCart e s' then []
  else match s.bookEvent e with
    | .delete index => if index < s.globalCart.length then .removed index :: since else since
    | .settle _ true => .emptied :: since
    | _ => since

/-- The app with the edits of its cart since the cart page was built. -/
def rowsApp : Machine (App × List Edit) Timed := app.observe noteEdit

/-! ### The cart page across a turn -/

namespace Turn

variable {turn : Turn} {id : Nat} {update : Page → Page} {route : Route}

theorem mem_setState (member : route ∈ (turn.setState id update).stack) :
    ∃ old ∈ turn.stack, (old.id ≠ id ∧ route = old) ∨
      (old.id = id ∧ route = { old with page := update old.page, dirty := true }) := by
  obtain ⟨old, old_mem, rfl⟩ := List.mem_map.mp member
  refine ⟨old, old_mem, ?_⟩
  split
  next here => exact .inr ⟨here, rfl⟩
  next other => exact .inl ⟨other, rfl⟩

theorem mem_edit (member : route ∈ (turn.edit id update).stack) :
    ∃ old ∈ turn.stack, (old.id ≠ id ∧ route = old) ∨
      (old.id = id ∧ route = { old with page := update old.page }) := by
  obtain ⟨old, old_mem, rfl⟩ := List.mem_map.mp member
  refine ⟨old, old_mem, ?_⟩
  split
  next here => exact .inr ⟨here, rfl⟩
  next other => exact .inl ⟨other, rfl⟩

/-- `setState` on other pages leaves the cart page as it is. -/
theorem mem_of_setState (member : route ∈ (turn.setState id update).stack)
    (shows : route.page.isCart = true)
    (other : ∀ old ∈ turn.stack, old.id = id → (update old.page).isCart = false) :
    route ∈ turn.stack := by
  obtain ⟨old, old_mem, ⟨_, rfl⟩ | ⟨here, rfl⟩⟩ := mem_setState member
  · exact old_mem
  · simp [other old old_mem here] at shows

end Turn

section Turns

variable {turn turn' : Turn} {time : Nat} {user : Option Uid} {top route : Route} {event : Event}
variable {view : CartView} {call : Call} {outcome : Outcome}

theorem CartOldest.unique {stack : List Route} (oldest : CartOldest stack) {first second : Route}
    (first_mem : first ∈ stack) (second_mem : second ∈ stack) (first_cart : first.page.isCart = true)
    (second_cart : second.page.isCart = true) : first.id = second.id :=
  Nat.le_antisymm (oldest first first_mem first_cart second second_mem)
    (oldest second second_mem second_cart first first_mem)

/-- What a tap does to the cart page: nothing, open it, build a row, or mark it after a delete. -/
inductive RowMove (turn : Turn) (time : Nat) (event : Event) (turn' : Turn) (route : Route)
    (view : CartView) : Prop
  | kept (old : route ∈ turn.stack)
      (quiet : ∀ index, event = .tapDelete index → turn.globalCart.length ≤ index)
  | opened (new : route.id = time) (keeps : turn'.globalCart = turn.globalCart)
      (fresh : view = .build turn.globalCart)
  | row (before : CartView) (index : Nat) (old : { route with page := .cart before } ∈ turn.stack)
      (tapped : event = .buildRow index) (clean : route.dirty = false)
      (built : view = before.buildRow turn.globalCart index)
  | deleted (index : Nat) (dirty : Bool) (old : { route with dirty } ∈ turn.stack)
      (marked : route.dirty = true) (tapped : event = .tapDelete index)
      (removed : turn.globalCart.removeItem index = some turn'.globalCart)

theorem Page.Alike.isCart {page page' : Page} (alike : page.Alike page') :
    page'.isCart = page.isCart := alike.similar.cart.symm

theorem isCart_of_shown {page : Page} (shown : page = .cart view) : page.isCart = true := by
  rw [shown]; rfl

theorem Move.rows (unique : ∀ route ∈ turn.stack, route.id = top.id → route = top)
    (on_top : top ∈ turn.stack) (oldest : CartOldest turn.stack)
    (move : Move turn time user top event turn') (member : route ∈ turn'.stack)
    (shown : route.page = .cart view) : RowMove turn time event turn' route view := by
  have shows := isCart_of_shown shown
  -- most taps leave the cart page as it is
  have kept (plain : event.isPlain = true) (old : route ∈ turn.stack) :
      RowMove turn time event turn' route view :=
    .kept old fun index tapped => by simp [tapped, Event.isPlain] at plain
  -- the handlers that mark their page are not the cart page's
  have begun {id : Nat} {handler : Handler} (at_top : id = top.id)
      (owned : handler.start.2.owns top.page = true)
      (member : route ∈ (turn.begin time id handler).stack) : route ∈ turn.stack := by
    have other : ∀ old ∈ turn.stack, old.id = id →
        (Page.apply (.isLoading true) old.page).isCart = false := by
      intro old old_mem here
      rw [unique old old_mem (here.trans at_top), ← (Page.apply_similar _ _).cart]
      exact Await.owns_not_cart owned
    cases handler <;> simp only [Turn.begin, Handler.start, List.foldl_cons, List.foldl_nil,
      Turn.applyEffect_setState] at member
    case login => exact Turn.mem_of_setState member shows other
    case updateData => exact Turn.mem_of_setState member shows other
    all_goals exact member
  cases move with
  | stay plain => exact kept plain member
  | begin handler plain _ owned => exact kept plain (begun rfl owned member)
  | openPage page plain _ flow =>
    rw [Turn.push_stack] at member
    rcases List.mem_cons.mp member with rfl | old
    · dsimp only at shown
      simp [shown, Page.inCartFlow] at flow
    · exact kept plain old
  | nav page plain _ _ _ built =>
    cases List.mem_singleton.mp member
    exact .opened rfl rfl (built view shown)
  | enter plain =>
    rcases List.mem_cons.mp member with rfl | old
    · cases shown
    · exact kept plain (List.mem_of_mem_tail old)
  -- `setState` and typing happen on other pages
  | restate page plain alike uncarted =>
    refine kept plain (Turn.mem_of_setState member shows fun _ _ _ => ?_)
    rw [alike.isCart]
    cases here : top.page <;> first | rfl | exact absurd here (uncarted _)
  | type page plain alike flow =>
    obtain ⟨old, old_mem, ⟨_, rfl⟩ | ⟨_, rfl⟩⟩ := Turn.mem_edit member
    · exact kept plain old_mem
    · rw [alike.isCart] at shows
      cases here : top.page <;> simp [here, Page.isCart, Page.inCartFlow] at shows flow
  | buildRow before index top_shown clean inside =>
    obtain ⟨old, old_mem, ⟨_, rfl⟩ | ⟨here, rfl⟩⟩ := Turn.mem_edit member
    · exact kept rfl old_mem
    · cases unique old old_mem here
      refine .row before index ?_ rfl clean (Page.cart.inj shown).symm
      rw [← top_shown]
      exact on_top
  | proceed =>
    rw [Turn.push_stack] at member
    rcases List.mem_cons.mp member with rfl | old
    · cases shown
    · exact kept rfl old
  | add => exact .kept member (by simp)
  -- the cart page is on top and the only one
  | delete before index globalCart top_shown _ removed =>
    obtain ⟨old, old_mem, ⟨other, rfl⟩ | ⟨here, rfl⟩⟩ := Turn.mem_setState member
    · exact absurd (oldest.unique old_mem on_top shows (isCart_of_shown top_shown)) other
    · exact .deleted index old.dirty old_mem rfl rfl removed
  -- `removeAt` threw: the page is not even marked
  | deleteThrows before index _ _ outside =>
    refine .kept member fun other tapped => ?_
    cases tapped
    by_contra inside
    have := Cart.removeItem_isSome_iff.mpr (Nat.lt_of_not_le inside)
    simp [outside] at this
  | confirm state top_shown =>
    exact .kept (begun rfl (by rw [top_shown]; rfl) member) (by simp)

/-- No handler changes the cart page. -/
theorem Resumed.rows
    (owned : ∀ route ∈ turn.stack, route.id = call.page → call.point.owns route.page = true)
    (resumed : Resumed turn time call outcome turn') (member : route ∈ turn'.stack)
    (shown : route.page = .cart view) : route ∈ turn.stack := by
  have shows := isCart_of_shown shown
  -- a handler's `setState` is on its own page
  have other (change : LocalUpdate) : ∀ old ∈ turn.stack, old.id = call.page →
      (Page.apply change old.page).isCart = false := by
    intro old old_mem here
    rw [← (Page.apply_similar _ _).cart]
    exact Await.owns_not_cart (owned old old_mem here)
  cases resumed with
  | update change => exact Turn.mem_of_setState member shows (other change)
  | loggedIn =>
    have old := Turn.mem_of_setState member shows fun old old_mem here => by
      rcases List.mem_cons.mp old_mem with rfl | old_mem
      · rfl
      · exact other _ old (List.mem_of_mem_tail old_mem) here
    rcases List.mem_cons.mp old with rfl | old
    · cases shown
    · exact List.mem_of_mem_tail old
  | saved => exact Turn.mem_of_setState (List.mem_of_mem_tail member) shows (other _)
  | signedUp | loggedOut => cases List.mem_singleton.mp member; cases shown
  | ordered =>
    rcases List.mem_cons.mp member with rfl | old
    · cases shown
    · exact old
  | nothing | created | orderedAway => exact member

end Turns

/-! ### The cart page across a step -/

/-- `RowMove` for every kind of step, with what it means for `buildsCart`. -/
inductive App.RowStep (s : App) (e : Timed) (s' : App) (route : Route) (view : CartView) : Prop
  | built (keeps : s'.globalCart = s.globalCart)
      (fresh : view = .build s.globalCart) (built : s.buildsCart e s' = true)
  | kept (old : route ∈ s.stack) (unbuilt : s.buildsCart e s' = false)
      (quiet : ∀ index, e.event = .tapDelete index → s.globalCart.length ≤ index)
  | row (before : CartView) (index : Nat) (old : { route with page := .cart before } ∈ s.stack)
      (tapped : e.event = .buildRow index) (clean : route.dirty = false)
      (shown : view = before.buildRow s.globalCart index) (unbuilt : s.buildsCart e s' = false)
  | deleted (index : Nat) (dirty : Bool) (old : { route with dirty } ∈ s.stack)
      (marked : route.dirty = true) (tapped : e.event = .tapDelete index)
      (removed : s.globalCart.removeItem index = some s'.globalCart)
      (unbuilt : s.buildsCart e s' = false)

/-- A cart page from before the step was not opened by it. -/
theorem App.buildsCart_of_old {s s' : App} {e : Timed} {route : Route} (wf : WellFormed s')
    (member : route ∈ s'.stack) (shows : route.page.isCart = true) (old : route.id < e.time)
    (unframed : e.event = .frame → ∀ other ∈ s.stack, other.dirty = true → other.page.isCart = false) :
    s.buildsCart e s' = false := by
  -- neither a frame that finds it marked nor a route named by the clock
  have no_rebuild : (e.event == .frame &&
      s.stack.any fun route => route.dirty && route.page.isCart) = false := by
    rw [Bool.and_eq_false_iff]
    by_cases frame : e.event = .frame
    · right
      rw [List.any_eq_false]
      intro other other_mem both
      obtain ⟨dirty, cart⟩ := Bool.and_eq_true_iff.mp both
      simp [unframed frame other other_mem dirty] at cart
    · exact .inl (by simpa using frame)
  have not_opened : (s'.stack.any fun route => route.page.isCart && route.id == e.time) = false := by
    rw [List.any_eq_false]
    intro other other_mem both
    obtain ⟨cart, new⟩ := Bool.and_eq_true_iff.mp both
    have same := wf.cartOldest.unique member other_mem shows cart
    have : other.id = e.time := by simpa using new
    omega
  simp [App.buildsCart, no_rebuild, not_opened]

theorem App.step_rows {s s' : App} {e : Timed} {route : Route} {view : CartView}
    (wf : WellFormed s) (step : s.step e = some s') (member : route ∈ s'.stack)
    (shown : route.page = .cart view) : App.RowStep s e s' route view := by
  have shows := isCart_of_shown shown
  have wf' := wf.step step
  obtain ⟨later, moved⟩ := App.step_cases step
  obtain ⟨time, event⟩ := e
  dsimp only at later
  -- a cart page from before was not built in this step unless by a frame
  have unbuilt {old : Route} (old_mem : old ∈ s.stack) (same : old.id = route.id)
      (unframed : event = .frame → ∀ other ∈ s.stack, other.dirty = true → other.page.isCart = false) :
      s.buildsCart ⟨time, event⟩ s' = false :=
    App.buildsCart_of_old wf' member shows (by have := wf.routeAge old old_mem; dsimp only; omega)
      unframed
  cases moved with
  | frame =>
    obtain ⟨old, old_mem, rfl⟩ := List.mem_map.mp member
    split at shown
    -- the frame rebuilds the page from the cart
    next dirty =>
      have old_cart : old.page.isCart = true := by
        rw [(Page.rebuild_similar s.globalCart old.page).cart]
        exact isCart_of_shown shown
      refine .built rfl ?_ ?_
      · obtain ⟨before, here⟩ := Page.eq_cart old_cart
        dsimp only at shown
        rw [here] at shown
        exact (Page.cart.inj shown).symm
      · rw [App.buildsCart, Bool.or_eq_true_iff]
        left
        simpa using ⟨old, old_mem, dirty, old_cart⟩
    -- no other cart page is on the stack, so nothing was built
    next clean =>
      rw [if_neg clean] at member shows ⊢
      refine .kept old_mem (App.buildsCart_of_old wf' member shows ?_ fun _ other other_mem dirty => ?_)
        (by simp)
      · exact Nat.lt_of_le_of_lt (wf.routeAge old old_mem) later
      · by_contra cart
        rw [Bool.not_eq_false] at cart
        have same := wf.cartOldest.unique old_mem other_mem shows cart
        exact clean (route_unique wf.routeNames other_mem old_mem same ▸ dirty)
  | back top below rest shape =>
    have old : route ∈ s.stack := by
      rw [show s.stack = top :: below :: rest from shape]
      exact List.mem_cons_of_mem _ member
    exact .kept old (unbuilt old rfl (by simp)) (by simp)
  | tap _ top rest turn shape move tapped =>
    have stack : s.stack = top :: rest := shape
    have on_top : top ∈ s.stack := by simp [stack]
    have unframed : event = .frame → ∀ other ∈ s.stack, other.dirty = true →
        other.page.isCart = false := fun frame => absurd frame tapped
    cases move.rows (fun route member same => route_unique wf.routeNames on_top member same) on_top
      wf.cartOldest member shown with
    | kept old quiet => exact .kept old (unbuilt old rfl unframed) quiet
    | opened new keeps fresh =>
      refine .built keeps fresh ?_
      rw [App.buildsCart, Bool.or_eq_true_iff]
      right
      simpa using ⟨route, member, shows, new⟩
    | row before index old tapped clean shown =>
      exact .row before index old tapped clean shown (unbuilt old rfl unframed)
    | deleted index dirty old marked tapped removed =>
      exact .deleted index dirty old marked tapped removed (unbuilt old rfl unframed)
  | answer call outcome turn pending found ends resumed =>
    have old : route ∈ s.stack := resumed.rows (wf.owned call pending) member shown
    exact .kept old (unbuilt old rfl (by simp)) (by simp)

/-! ### The invariant -/

/-- The cart page shows objects `built` of the cart as it was when the page was built, and the
cart is what the edits since then have left of them. -/
structure Displayed (globalCart : Cart) (since : List Edit) (dirty : Bool) (view : CartView)
    (built : List Nat) : Prop where
  count : built.length = view.itemCount
  distinct : built.Nodup
  rows : ∀ row ∈ view.rows, built[row.1]? = some row.2
  cart : globalCart.map CartItem.ref = Edit.replay built since
  clean : dirty = false → ∀ edit ∈ since, edit = .emptied

namespace Displayed

variable {globalCart globalCart' : Cart} {since : List Edit} {dirty : Bool} {view : CartView}
variable {built : List Nat}

theorem fresh (distinct : (globalCart.map CartItem.ref).Nodup) :
    Displayed globalCart [] dirty (.build globalCart)
      (globalCart.map CartItem.ref) :=
  ⟨by simp [CartView.build], distinct, by simp [CartView.build], rfl, by simp⟩

/-- A page that is not marked shows the cart as it is, unless the cart was emptied. -/
theorem clean_cart (displayed : Displayed globalCart since false view built) :
    (Edit.emptied ∉ since ∧ globalCart.map CartItem.ref = built) ∨
      (Edit.emptied ∈ since ∧ globalCart = []) := by
  have emptied := displayed.clean rfl
  cases since with
  -- without edits the cart is the one built from
  | nil => exact .inl ⟨by simp, displayed.cart⟩
  | cons edit earlier =>
    have here : Edit.emptied ∈ edit :: earlier := by simp [emptied edit (by simp)]
    have cart := displayed.cart
    rw [Edit.replay_of_emptied here] at cart
    exact .inr ⟨here, by simpa using cart⟩

theorem buildRow (displayed : Displayed globalCart since false view built) (index : Nat) :
    Displayed globalCart since false (view.buildRow globalCart index) built := by
  have others : ∀ row ∈ view.rows.filter (fun row => row.1 != index), built[row.1]? = some row.2 :=
    fun row member => displayed.rows row (List.mem_of_mem_filter member)
  unfold CartView.buildRow
  split
  next item found =>
    refine { displayed with count := displayed.count, rows := ?_ }
    -- the row is built from the cart as it was at the build, or not at all
    intro row member
    rcases List.mem_cons.mp member with rfl | member
    · rcases displayed.clean_cart with ⟨_, same⟩ | ⟨_, empty⟩
      · rw [← same, List.getElem?_map, found]
        rfl
      · simp [empty] at found
    · exact others row member
  next => exact { displayed with count := displayed.count, rows := others }

theorem emptied (displayed : Displayed globalCart since dirty view built) :
    Displayed [] (.emptied :: since) dirty view built := by
  refine { displayed with cart := rfl, clean := fun clean edit member => ?_ }
  rcases List.mem_cons.mp member with rfl | member
  · rfl
  · exact displayed.clean clean edit member

theorem removed {index : Nat} (displayed : Displayed globalCart since dirty view built)
    (removed : globalCart.removeItem index = some globalCart') :
    Displayed globalCart' (.removed index :: since) true view built := by
  refine { displayed with cart := ?_, clean := by simp }
  obtain ⟨front, item, back, rfl, rfl, rfl⟩ := Cart.removeItem_eq_some_iff.mp removed
  rw [Edit.replay, ← displayed.cart]
  simp [List.eraseIdx_append_of_length_le]

end Displayed

def RowsShown (s : App) (since : List Edit) : Prop :=
  ∀ route ∈ s.stack, ∀ view, route.page = .cart view →
    ∃ built, Displayed s.globalCart since route.dirty view built

/-- Nothing is added to the cart while its page is open. -/
theorem not_added_under_cart {s : App} (wf : WellFormed s) {route top : Route} {rest : List Route}
    {view : CartView} {state : ProductState} (member : route ∈ s.stack)
    (shown : route.page = .cart view) (shape : s.stack = top :: rest)
    (top_shown : top.page = .product state) : False := by
  have same := wf.oneFlow route member top (by simp [shape])
  rw [shown, top_shown] at same
  cases same

theorem bookEvent_eq_delete {s : App} {e : Timed} {index : Nat}
    (entry : s.bookEvent e = .delete index) : e.event = .tapDelete index := by
  unfold App.bookEvent at entry
  split at entry
  any_goals cases entry
  · assumption
  · split at entry <;> cases entry

/-- A step that leaves both the page and the cart alone. -/
theorem noteEdit_of_quiet {s s' : App} {e : Timed} (since : List Edit)
    (unbuilt : s.buildsCart e s' = false)
    (quiet : ∀ index, e.event = .tapDelete index → s.globalCart.length ≤ index)
    (unrecorded : ∀ call, s.bookEvent e ≠ .settle call true) : noteEdit s e s' since = since := by
  rw [noteEdit, unbuilt, if_neg Bool.false_ne_true]
  split
  next index entry => exact if_neg (Nat.not_lt.mpr (quiet index (bookEvent_eq_delete entry)))
  next call entry => exact absurd entry (unrecorded call)
  next => rfl

theorem RowsShown.step {s s' : App} {e : Timed} {since : List Edit} (shows : RowsShown s since)
    (wf : WellFormed s) (step : s.step e = some s') : RowsShown s' (noteEdit s e s' since) := by
  intro route member view shown
  have distinct : (s.globalCart.map CartItem.ref).Nodup := wf.itemNames.imp Nat.ne_of_lt
  have cart := App.step_cart step
  cases App.step_rows wf step member shown with
  -- the edits start anew with the build
  | built keeps fresh built =>
    refine ⟨s.globalCart.map CartItem.ref, ?_⟩
    rw [noteEdit, built, if_pos rfl, keeps, fresh]
    exact .fresh distinct
  -- the page did not change: whatever happened to the cart is an edit
  | kept old unbuilt quiet =>
    obtain ⟨built, displayed⟩ := shows route old view shown
    refine ⟨built, ?_⟩
    cases cart with
    | same keeps unrecorded =>
      rw [keeps, noteEdit_of_quiet since unbuilt quiet unrecorded]
      exact displayed
    | added top rest state shape top_shown =>
      exact (not_added_under_cart wf old shown shape top_shown).elim
    | deleted top rest before index _ _ _ tapped removed =>
      have outside := quiet index tapped
      have inside := Cart.removeItem_isSome_iff.mp (by rw [removed]; rfl)
      omega
    | cleared call recorded empty =>
      rw [noteEdit, unbuilt, if_neg Bool.false_ne_true, recorded, empty]
      exact displayed.emptied
  -- one more row; the cart stays
  | row before index old tapped clean row_shown unbuilt =>
    obtain ⟨built, displayed⟩ := shows _ old before rfl
    refine ⟨built, ?_⟩
    obtain ⟨time, event⟩ := e
    dsimp only at tapped
    subst tapped
    have keeps : s'.globalCart = s.globalCart := by
      cases cart with
      | same keeps => exact keeps
      | added _ _ _ _ _ tapped | deleted _ _ _ _ _ _ _ tapped => cases tapped
      | cleared call recorded => cases recorded
    rw [noteEdit_of_quiet since unbuilt (by simp) (by simp [App.bookEvent]), keeps, row_shown]
    dsimp only at displayed
    rw [clean] at displayed ⊢
    exact displayed.buildRow index
  -- the delete marks the page and is an edit
  | deleted index dirty old marked tapped removed unbuilt =>
    obtain ⟨built, displayed⟩ := shows _ old view shown
    refine ⟨built, ?_⟩
    obtain ⟨time, event⟩ := e
    dsimp only at tapped
    subst tapped
    have inside := Cart.removeItem_isSome_iff.mp (by rw [removed]; rfl)
    rw [noteEdit, unbuilt, if_neg Bool.false_ne_true, marked]
    simp only [App.bookEvent, inside, if_true]
    exact displayed.removed removed

theorem rowsShown_of_run {currentUser : Option Uid} {orders : List OrderDoc} {es : List Timed}
    {p : App × List Edit} (run : rowsApp.Run Machine.Free (App.init currentUser orders, []) es p) :
    WellFormed p.1 ∧ RowsShown p.1 p.2 := by
  refine run.invariant (I := fun p : App × List Edit => WellFormed p.1 ∧ RowsShown p.1 p.2)
    ⟨.init currentUser orders, by simp [RowsShown, App.init]⟩ ?_
  rintro p e q ⟨wf, shows⟩ - step
  obtain ⟨moved, noted⟩ := Machine.observe_step_iff.mp step
  rw [noted]
  exact ⟨wf.step moved, shows.step wf moved⟩

/-! ### The result -/

/-- The tap found an entry, that entry was the object `ref`, and nothing else left the cart. -/
def DeletesShown (globalCart globalCart' : Cart) (index ref : Nat) : Prop :=
  index < globalCart.length ∧ ref ∈ globalCart.map CartItem.ref ∧
    globalCart' = globalCart.filter fun item => item.ref != ref

instance (globalCart globalCart' : Cart) (index ref : Nat) :
    Decidable (DeletesShown globalCart globalCart' index ref) :=
  inferInstanceAs (Decidable (_ ∧ _ ∧ _))

/-- Removing by position removes the object exactly when it is at that position. -/
theorem deletesShown_iff {cart : Cart} (distinct : (cart.map CartItem.ref).Nodup)
    (index ref : Nat) :
    DeletesShown cart (cart.eraseIdx index) index ref ↔
      (cart.map CartItem.ref)[index]? = some ref := by
  constructor
  · rintro ⟨inside, listed, same⟩
    obtain ⟨item, member, rfl⟩ := List.mem_map.mp listed
    by_contra elsewhere
    -- an object elsewhere would still be in the cart
    obtain ⟨other, found⟩ := List.mem_iff_getElem?.mp member
    have apart : other ≠ index := by
      rintro rfl
      simp [found] at elsewhere
    have still : item ∈ cart.eraseIdx index :=
      List.mem_eraseIdx_iff_getElem?.mpr ⟨other, apart, found⟩
    rw [same] at still
    simpa using List.of_mem_filter still
  · intro found
    have inside : index < cart.length := by simpa using (List.getElem?_eq_some_iff.mp found).1
    refine ⟨inside, List.mem_of_getElem? found, ?_⟩
    obtain ⟨front, item, back, rfl, rfl, erased⟩ :=
      Cart.removeItem_eq_some_iff.mp (show cart.removeItem index = some (cart.eraseIdx index) by
        simp [Cart.removeItem, inside])
    have here : item.ref = ref := by simpa using found
    rw [List.map_append, List.map_cons, List.nodup_middle, List.nodup_cons, ← List.map_append]
      at distinct
    have others : ∀ other ∈ front ++ back, (other.ref != ref) = true := by
      intro other member
      simp only [bne_iff_ne, ← here]
      exact fun same => distinct.1 (same ▸ List.mem_map_of_mem member)
    rw [erased, List.filter_append, List.filter_cons_of_neg (by simp [here]),
      ← List.filter_append, List.filter_eq_self.mpr others]

/-- A delete tap on a built row removes the row's position, if the cart reaches that far. -/
theorem App.step_delete {s s' : App} {time index : Nat}
    (step : s.step ⟨time, .tapDelete index⟩ = some s') :
    s'.globalCart = s.globalCart.eraseIdx index := by
  obtain ⟨_, kind⟩ := App.step_cases step
  cases kind with
  | tap _ top rest turn shape move =>
    cases move.cartMove rfl with
    | delete view _ globalCart _ _ removed =>
      simp only [Cart.removeItem] at removed
      split at removed
      · exact (Option.some.inj removed).symm
      · cases removed
    | deleteThrows _ outside =>
      have := Cart.removeItem_isSome_iff.not.mp (by rw [outside]; simp)
      exact (List.eraseIdx_of_length_le (Nat.le_of_not_lt this)).symm

/-- `itemBuilder` runs on a page that is not marked, for a row below its count. -/
theorem App.step_buildRow {s s' : App} {time index : Nat} {top : Route} {rest : List Route}
    {view : CartView} (step : s.step ⟨time, .buildRow index⟩ = some s')
    (shape : s.stack = top :: rest) (shown : top.page = .cart view) :
    top.dirty = false ∧ index < view.itemCount := by
  unfold App.step at step
  split at step
  · simp only [shape, Turn.tap, shown, Option.map_eq_some_iff] at step
    obtain ⟨turn, tapped, _⟩ := step
    split at tapped
    next fits => exact fits
    · cases tapped
  · cases step

/-- In every reachable state with the cart page on top: a delete tap on a row the last build
produced removes exactly the object the row shows, inside the cart, exactly when no order was
recorded and no row at or above it was deleted since that build; and a late `itemBuilder` stays
inside the cart exactly when no order was recorded since then. -/
theorem cart_rows_iff (currentUser : Option Uid) (orders : List OrderDoc) (es : List Timed)
    (p : App × List Edit) (top : Route) (rest : List Route) (view : CartView)
    (run : rowsApp.Run Machine.Free (App.init currentUser orders, []) es p)
    (shape : p.1.stack = top :: rest) (shown : top.page = .cart view) :
    (∀ index ref time q, (index, ref) ∈ view.rows →
      rowsApp.step p ⟨time, .tapDelete index⟩ = some q →
      (DeletesShown p.1.globalCart q.1.globalCart index ref ↔
        ∀ edit ∈ p.2, edit.Spares index)) ∧
    (∀ index time q, rowsApp.step p ⟨time, .buildRow index⟩ = some q →
      (index < p.1.globalCart.length ↔ Edit.emptied ∉ p.2)) := by
  obtain ⟨wf, shows⟩ := rowsShown_of_run run
  obtain ⟨built, displayed⟩ := shows top (by simp [shape]) view shown
  constructor
  · intro index ref time q row step
    obtain ⟨moved, -⟩ := Machine.observe_step_iff.mp step
    rw [App.step_delete moved, deletesShown_iff (wf.itemNames.imp Nat.ne_of_lt), displayed.cart]
    exact Edit.replay_getElem?_iff displayed.distinct (displayed.rows _ row)
  · intro index time q step
    obtain ⟨moved, -⟩ := Machine.observe_step_iff.mp step
    obtain ⟨clean, inside⟩ := App.step_buildRow moved shape shown
    rw [clean] at displayed
    rcases displayed.clean_cart with ⟨unemptied, same⟩ | ⟨emptied, empty⟩
    · have length : p.1.globalCart.length = view.itemCount := by
        rw [← displayed.count, ← same, List.length_map]
      simp [unemptied, length, inside]
    · simp [emptied, empty]

/-- Two products in the cart and both rows built. -/
def toTwoRows : List Event :=
  [.splashTimeout, .tapLogin, .answer 2 (.success (.user "A")), .tapProduct tomato, .tapAddToCart,
    .back, .tapProduct backpack, .tapAddToCart, .tapNav 2, .buildRow 0, .buildRow 1]

/-- The topmost page is the cart page with the given row, and deleting that row is possible. -/
def canDelete (s : App) (time index ref : Nat) : Bool :=
  match s.stack with
  | ⟨_, .cart view, _⟩ :: _ => decide ((index, ref) ∈ view.rows) &&
      (s.step ⟨time, .tapDelete index⟩).isSome
  | _ => false

theorem of_canDelete {s : App} {time index ref : Nat} (can : canDelete s time index ref = true) :
    ∃ top rest view s', s.stack = top :: rest ∧ top.page = .cart view ∧ (index, ref) ∈ view.rows ∧
      s.step ⟨time, .tapDelete index⟩ = some s' := by
  unfold canDelete at can
  split at can
  next id view dirty rest shape =>
    obtain ⟨row, enabled⟩ := Bool.and_eq_true_iff.mp can
    obtain ⟨s', step⟩ := Option.isSome_iff_exists.mp enabled
    exact ⟨_, rest, view, s', shape, rfl, of_decide_eq_true row, step⟩
  next => cases can

/-- Deleting from the bottom up: after the second row, the first still deletes what it shows. -/
theorem cart_rows_bottom_up : ∃ p q : App × List Edit,
    rowsApp.Run Machine.Free (App.init none [], []) (schedule (toTwoRows ++ [.tapDelete 1])) p ∧
    rowsApp.step p ⟨13, .tapDelete 0⟩ = some q ∧
    DeletesShown p.1.globalCart q.1.globalCart 0 5 := by
  obtain ⟨p, run, both⟩ := Machine.exists_run_of_exec rowsApp Machine.Free
    (App.init none [], []) (schedule (toTwoRows ++ [.tapDelete 1]))
    (fun p => canDelete p.1 13 0 5 && decide (∀ edit ∈ p.2, edit.Spares 0))
    (by decide +kernel)
  obtain ⟨can, spared⟩ := Bool.and_eq_true_iff.mp both
  obtain ⟨top, rest, view, s', shape, shown, row, moved⟩ := of_canDelete can
  have step : rowsApp.step p ⟨13, .tapDelete 0⟩ = some (s', noteEdit p.1 ⟨13, .tapDelete 0⟩ s' p.2) :=
    Machine.observe_step moved _
  exact ⟨p, _, run, step, ((cart_rows_iff none [] _ p top rest view run shape shown).1 0 5 13 _ row
    step).mpr (of_decide_eq_true spared)⟩

/-- Deleting from the top down before the page is rebuilt: the second row's position is past the
end of the cart by then. -/
theorem second_delete_out_of_range :
    ¬ ∀ (currentUser : Option Uid) (orders : List OrderDoc) (es : List Timed) (s s' : App)
      (top : Route) (rest : List Route) (view : CartView) (index ref time : Nat),
      app.Run Machine.Free (App.init currentUser orders) es s → s.stack = top :: rest →
      top.page = .cart view → (index, ref) ∈ view.rows →
      app.step s ⟨time, .tapDelete index⟩ = some s' →
      DeletesShown s.globalCart s'.globalCart index ref := by
  intro all
  obtain ⟨s, run, both⟩ := Machine.exists_run_of_exec app Machine.Free
    (App.init none []) (schedule (toTwoRows ++ [.tapDelete 0]))
    (fun s => canDelete s 13 1 8 && s.globalCart.length == 1) (by decide +kernel)
  obtain ⟨can, short⟩ := Bool.and_eq_true_iff.mp both
  obtain ⟨top, rest, view, s', shape, shown, row, step⟩ := of_canDelete can
  have inside := (all none [] _ s s' top rest view 1 8 13 run shape shown row step).1
  have : s.globalCart.length = 1 := by simpa using short
  omega

end CartX
