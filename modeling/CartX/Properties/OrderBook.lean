import CartX.Properties.Ledger
import CartX.Properties.WellFormed

/-!
# The order book

What the shop does, seen from outside: units are put into the cart, rows are
deleted, orders are begun with what the cart holds, and each of them ends with
its document recorded or not. The book keeps what happened to every unit and to
every order; it is the abstract machine that the app refines (`Tracks`).

A unit is the `k`-th piece of a `CartItem` object. An add with quantity `q` makes
`q` more units of its entry, and an object's units never move to another object.
-/

namespace CartX

/-- A call of `_placeOrder`. `window` counts the Add-to-Cart taps before it. -/
structure Attempt where
  call : Nat
  user : Option Uid
  doc : OrderDoc
  window : Nat
  /-- `globalCart` when the call began. -/
  cart : Cart
  deriving DecidableEq, Repr

structure Book where
  cart : Cart := []
  adds : Nat := 0
  inFlight : List Attempt := []
  recorded : List Attempt := []
  deleted : List CartItem := []
  /-- The cart after each Add-to-Cart tap. -/
  filled : List Cart := []
  deriving DecidableEq, Repr

inductive BookEvent
  | add (ref : Nat) (product : Product) (quantity : Int)
  | delete (index : Nat)
  | begin (call : Nat) (user : Option Uid) (doc : OrderDoc)
  | settle (call : Nat) (recorded : Bool)
  | other
  deriving DecidableEq, Repr

namespace Book

def add (b : Book) (ref : Nat) (product : Product) (quantity : Int) : Book :=
  let cart := b.cart.addToCart ref product quantity
  { b with cart, adds := b.adds + 1, filled := cart :: b.filled }

def delete (b : Book) (index : Nat) : Book :=
  match b.cart.removeItem index with
  | some cart => { b with cart, deleted := b.cart[index]?.toList ++ b.deleted }
  | none => b

def begin (b : Book) (call : Nat) (user : Option Uid) (doc : OrderDoc) : Book :=
  { b with inFlight := { call, user, doc, window := b.adds, cart := b.cart } :: b.inFlight }

/-- A recorded order clears the cart, whatever is in it by now. -/
def settle (b : Book) (call : Nat) (recorded : Bool) : Book :=
  let inFlight := b.inFlight.filter fun a => a.call != call
  match b.inFlight.find? fun a => a.call == call with
  | some attempt =>
    if recorded then { b with cart := [], inFlight, recorded := b.recorded ++ [attempt] }
    else { b with inFlight }
  | none => b

def step (b : Book) : BookEvent → Book
  | .add ref product quantity => b.add ref product quantity
  | .delete index => b.delete index
  | .begin call user doc => b.begin call user doc
  | .settle call recorded => b.settle call recorded
  | .other => b

end Book

/-- What an event of the app means to the book. -/
def App.bookEvent (s : App) (e : Timed) : BookEvent :=
  match e.event, s.stack with
  | .tapAddToCart, ⟨_, .product state, _⟩ :: _ => .add e.time state.product state.quantity
  | .tapDelete index, _ => .delete index
  | .tapConfirm, ⟨_, .checkout state, _⟩ :: _ =>
    .begin e.time s.currentUser (placeOrder s.currentUser s.globalCart state.totalAmount e.time)
  | .answer id outcome, _ =>
    match s.pending.find? fun call => call.id == id with
    | some ⟨_, _, .addOrder _⟩ => .settle id outcome.succeeded
    | _ => .other
  | _, _ => .other

/-- The app with its order book beside it. -/
def bookedApp : Machine (App × Book) Timed :=
  app.observe fun s e _ book => book.step (s.bookEvent e)

/-! ### The app refines the book -/

/-- The order a pending call is about. -/
def Call.order? (call : Call) : Option (Nat × OrderDoc) :=
  match call.point with
  | .addOrder doc => some (call.id, doc)
  | _ => none

/-- The book of an app that started with the documents `orders`. -/
structure Tracks (orders : List OrderDoc) (s : App) (book : Book) : Prop where
  cart : book.cart = s.globalCart
  inFlight : book.inFlight.map (fun a => (a.call, a.doc)) = s.pending.filterMap Call.order?
  recorded : s.orders = orders ++ book.recorded.map Attempt.doc

theorem order?_of_isOrder_false {id page : Nat} {point : Await} (noOrder : point.isOrder = false) :
    Call.order? ⟨id, page, point⟩ = none := by
  cases point <;> simp_all [Call.order?, Await.isOrder]

theorem Await.eq_addOrder (point : Await) (order : point.isOrder = true) :
    ∃ doc, point = .addOrder doc := by
  cases point <;> simp_all [Await.isOrder]

theorem order?_eq_some_iff {call : Call} {id : Nat} {doc : OrderDoc} :
    call.order? = some (id, doc) ↔ call.id = id ∧ call.point = .addOrder doc := by
  cases point : call.point <;> simp [Call.order?, point]

/-- Only Confirm Order suspends an order, and only adds and deletes change the cart. -/
theorem Move.plain_cart {turn turn' : Turn} {time : Nat} {user : Option Uid} {top : Route}
    {event : Event} (none_yet : turn.started = []) (move : Move turn time user top event turn')
    (plain : event.isPlain = true) :
    turn'.globalCart = turn.globalCart ∧ turn'.started.filterMap Call.order? = [] := by
  -- a page opened by a tap starts at most the load of its own data
  have opened {page : Page} : (turn.push time user page).started.filterMap Call.order? = [] := by
    rcases turn.push_started time user page with none | ⟨point, noOrder, _, started⟩
    · simp [none, none_yet]
    · simp [started, none_yet, order?_of_isOrder_false noOrder]
  cases move with
  | begin handler _ noOrder => simp [none_yet, order?_of_isOrder_false noOrder]
  | openPage | proceed => exact ⟨by simp, opened⟩
  | add | delete | deleteThrows | confirm => simp [Event.isPlain] at plain
  | _ => simp [none_yet]

/-- Only a recorded order clears the cart. -/
theorem Resumed.cart {turn turn' : Turn} {time : Nat} {call : Call} {outcome : Outcome}
    (resumed : Resumed turn time call outcome turn') :
    turn'.globalCart =
      if call.point.isOrder = true ∧ outcome.succeeded = true then [] else turn.globalCart := by
  cases resumed with
  | nothing noOrder => simp only [if_neg noOrder]
  | update change noOrder => simp [noOrder]
  | ordered doc point ok | orderedAway doc point ok => simp [point, ok, Await.isOrder]
  | loggedIn point | created point | signedUp point | saved point | loggedOut point =>
    simp [point, Await.isOrder]

theorem Resumed.started_order {turn turn' : Turn} {time : Nat} {call : Call} {outcome : Outcome}
    (none_yet : turn.started = []) (resumed : Resumed turn time call outcome turn') :
    turn'.started.filterMap Call.order? = [] := by
  rcases resumed.started none_yet with none | ⟨_, _, one, _⟩
  · simp [none]
  · simp [one, Call.order?]

theorem bookEvent_of_plain (s : App) {e : Timed} (plain : e.event.isPlain = true) :
    s.bookEvent e = .other := by
  obtain ⟨time, event⟩ := e
  cases event <;> simp_all [App.bookEvent, Event.isPlain]

/-- An order begins with a tap on Confirm Order, in the session of that moment. -/
theorem bookEvent_eq_begin {s : App} {e : Timed} {call : Nat} {user : Option Uid} {doc : OrderDoc}
    (begun : s.bookEvent e = .begin call user doc) :
    e.event = .tapConfirm ∧ user = s.currentUser ∧
      ∃ totalAmount, doc = placeOrder s.currentUser s.globalCart totalAmount e.time := by
  unfold App.bookEvent at begun
  split at begun
  · cases begun
  · cases begun
  next _ state _ _ tapped _ => cases begun; exact ⟨tapped, rfl, state.totalAmount, rfl⟩
  next => split at begun <;> cases begun
  · cases begun

theorem filterMap_order_filter (pending : List Call) (id : Nat) :
    (pending.filter fun call => call.id != id).filterMap Call.order? =
      (pending.filterMap Call.order?).filter fun entry => entry.1 != id := by
  -- along the pending calls; removing by name and picking the orders commute
  induction pending with
  | nil => rfl
  | cons call rest ih =>
    cases order : call.order? with
    | none => by_cases here : call.id = id <;> simp [order, here, ih]
    | some entry =>
      have same : entry.1 = call.id := (order?_eq_some_iff.mp order).1.symm
      by_cases here : call.id = id <;> simp [order, here, same, ih]

namespace Tracks

variable {orders : List OrderDoc} {s : App} {book : Book} {call : Call}

/-- The end of a call that is no order leaves the orders in flight as they are. -/
theorem inFlight_of_other (tracks : Tracks orders s book) (wf : WellFormed s)
    (member : call ∈ s.pending) (noOrder : call.point.isOrder = false) :
    book.inFlight.map (fun a => (a.call, a.doc)) =
      (s.pending.filter fun other => other.id != call.id).filterMap Call.order? := by
  rw [filterMap_order_filter, tracks.inFlight]
  refine (List.filter_eq_self.mpr fun entry listed => ?_).symm
  obtain ⟨other, other_mem, order⟩ := List.mem_filterMap.mp listed
  obtain ⟨id, point⟩ := order?_eq_some_iff.mp order
  -- otherwise the ended call and the order would share a name
  have different : entry.1 ≠ call.id := by
    intro same
    have := call_unique wf.callNames member other_mem (id.trans same)
    simp [← this, point, Await.isOrder] at noOrder
  simpa using different

/-- The attempt behind a pending order. -/
theorem attempt {doc : OrderDoc} (tracks : Tracks orders s book) (wf : WellFormed s)
    (member : call ∈ s.pending) (point : call.point = .addOrder doc) :
    ∃ attempt, book.inFlight.find? (fun a => a.call == call.id) = some attempt ∧
      attempt.doc = doc := by
  have listed : (call.id, doc) ∈ book.inFlight.map fun a => (a.call, a.doc) := by
    rw [tracks.inFlight]
    exact List.mem_filterMap.mpr ⟨call, member, order?_eq_some_iff.mpr ⟨rfl, point⟩⟩
  obtain ⟨a, a_mem, entry⟩ := List.mem_map.mp listed
  obtain ⟨found, here⟩ := Option.isSome_iff_exists.mp
    (List.find?_isSome (p := fun a : Attempt => a.call == call.id).mpr ⟨a, a_mem, by simp_all⟩)
  refine ⟨found, here, ?_⟩
  -- the found attempt is some pending order under the same name, hence this one
  have found_id : found.call = call.id := by simpa using List.find?_some here
  have found_listed : (found.call, found.doc) ∈ s.pending.filterMap Call.order? := by
    rw [← tracks.inFlight]
    exact List.mem_map.mpr ⟨found, List.mem_of_find?_eq_some here, rfl⟩
  obtain ⟨other, other_mem, order⟩ := List.mem_filterMap.mp found_listed
  obtain ⟨id, other_point⟩ := order?_eq_some_iff.mp order
  rw [call_unique wf.callNames member other_mem (id.trans found_id), point] at other_point
  exact (Await.addOrder.inj other_point).symm

theorem init (currentUser : Option Uid) : Tracks orders (App.init currentUser orders) {} :=
  ⟨rfl, rfl, by simp [App.init]⟩

/-- A tap that neither changes the cart nor begins an order. -/
theorem tap_plain (tracks : Tracks orders s book) {top : Route} {event : Event} {turn : Turn}
    (move : Move s.turn s.now s.currentUser top event turn) (plain : event.isPlain = true) :
    Tracks orders (s.after turn) (book.step (s.bookEvent ⟨s.now, event⟩)) := by
  obtain ⟨cart, started⟩ := move.plain_cart rfl plain
  rw [bookEvent_of_plain s plain]
  refine ⟨tracks.cart.trans cart.symm, ?_, tracks.recorded⟩
  simp [started, tracks.inFlight, Book.step]

theorem tap (tracks : Tracks orders s book) {top : Route} {rest : List Route} {event : Event}
    {turn : Turn} (shape : s.stack = top :: rest)
    (move : Move s.turn s.now s.currentUser top event turn) :
    Tracks orders (s.after turn) (book.step (s.bookEvent ⟨s.now, event⟩)) := by
  cases plain : event.isPlain with
  | true => exact tracks.tap_plain move plain
  | false =>
    obtain ⟨id, page, dirty⟩ := top
    cases move.cartMove plain with
    -- both carts take the same add
    | add state shown =>
      dsimp only at shown
      subst shown
      have entry : s.bookEvent ⟨s.now, .tapAddToCart⟩ =
          .add s.now state.product state.quantity := by simp [App.bookEvent, shape]
      rw [entry]
      exact ⟨by simp [Book.step, Book.add, tracks.cart], tracks.inFlight, tracks.recorded⟩
    -- both remove by position, or both leave the cart alone
    | delete view index globalCart shown row removed =>
      rw [App.turn_globalCart, ← tracks.cart] at removed
      show Tracks orders _ (book.delete index)
      unfold Book.delete
      rw [removed]
      exact ⟨rfl, tracks.inFlight, tracks.recorded⟩
    | deleteThrows index outside =>
      rw [App.turn_globalCart, ← tracks.cart] at outside
      show Tracks orders _ (book.delete index)
      unfold Book.delete
      rw [outside]
      exact ⟨tracks.cart, tracks.inFlight, tracks.recorded⟩
    -- the new call and the new attempt carry the same document
    | confirm state shown =>
      dsimp only at shown
      subst shown
      have entry : s.bookEvent ⟨s.now, .tapConfirm⟩ = .begin s.now s.currentUser
          (placeOrder s.currentUser s.globalCart state.totalAmount s.now) := by
        simp [App.bookEvent, shape]
      rw [entry]
      refine ⟨tracks.cart, ?_, tracks.recorded⟩
      simp [Book.step, Book.begin, tracks.inFlight, Handler.start, Call.order?]

theorem bookEvent_of_order {outcome : Outcome} {doc : OrderDoc} (time : Nat)
    (found : s.pending.find? (fun other => other.id == call.id) = some call)
    (point : call.point = .addOrder doc) :
    s.bookEvent ⟨time, .answer call.id outcome⟩ = .settle call.id outcome.succeeded := by
  obtain ⟨id, page, await⟩ := call
  dsimp only at point found
  subst point
  simp [App.bookEvent, found]

theorem bookEvent_of_other {outcome : Outcome} (time : Nat)
    (found : s.pending.find? (fun other => other.id == call.id) = some call)
    (noOrder : call.point.isOrder = false) :
    s.bookEvent ⟨time, .answer call.id outcome⟩ = .other := by
  obtain ⟨id, page, await⟩ := call
  dsimp only at found
  cases await <;> simp_all [App.bookEvent, Await.isOrder]

theorem answer (tracks : Tracks orders s book) (wf : WellFormed s) {outcome : Outcome}
    {turn : Turn} (member : call ∈ s.pending)
    (found : s.pending.find? (fun other => other.id == call.id) = some call)
    (resumed : Resumed s.turn s.now call outcome turn) :
    Tracks orders (((s.settle call.id).commit call.point outcome).after turn)
      (book.step (s.bookEvent ⟨s.now, .answer call.id outcome⟩)) := by
  -- no handler goes on to place an order
  have started := resumed.started_order rfl
  have cart := resumed.cart
  have recorded := (s.settle call.id).commit_orders call.point outcome
  cases noOrder : call.point.isOrder with
  | false =>
    rw [bookEvent_of_other s.now found noOrder]
    refine ⟨?_, ?_, ?_⟩
    · simpa [noOrder, Book.step, tracks.cart] using cart.symm
    · simpa [started, Book.step, App.settle] using tracks.inFlight_of_other wf member noOrder
    · rcases recorded with ⟨doc, point, _⟩ | ⟨_, same⟩
      · simp [point, Await.isOrder] at noOrder
      · simpa [same, Book.step] using tracks.recorded
  | true =>
    obtain ⟨doc, point⟩ := call.point.eq_addOrder noOrder
    obtain ⟨attempt, here, same_doc⟩ := tracks.attempt wf member point
    rw [bookEvent_of_order s.now found point]
    -- the attempts left are those of the calls left
    have rest : (book.inFlight.filter fun a => a.call != call.id).map (fun a => (a.call, a.doc)) =
        (s.pending.filter fun other => other.id != call.id).filterMap Call.order? := by
      rw [filterMap_order_filter, ← tracks.inFlight, List.filter_map]
      rfl
    cases ok : outcome.succeeded with
    -- a success records the document and clears both carts
    | true =>
      refine ⟨?_, ?_, ?_⟩
      · simpa [noOrder, ok, Book.step, Book.settle, here] using cart.symm
      · simpa [started, ok, Book.step, Book.settle, here, App.settle] using rest
      · rcases recorded with ⟨doc', point', _, same⟩ | ⟨no, _⟩
        · rw [point] at point'
          cases point'
          simp only [App.after_orders, same, Book.step, Book.settle, here, if_true, List.map_append,
            List.map_cons, List.map_nil, same_doc]
          rw [← List.append_assoc, ← tracks.recorded]
          rfl
        · exact absurd ⟨noOrder, ok⟩ no
    -- a failure takes the attempt off the list and changes nothing else
    | false =>
      refine ⟨?_, ?_, ?_⟩
      · simpa [ok, Book.step, Book.settle, here, tracks.cart] using cart.symm
      · simpa [started, ok, Book.step, Book.settle, here, App.settle] using rest
      · rcases recorded with ⟨_, _, ok', _⟩ | ⟨_, same⟩
        · simp [ok] at ok'
        · simpa [same, Book.step, Book.settle, here] using tracks.recorded

theorem step {s' : App} {e : Timed} (tracks : Tracks orders s book) (wf : WellFormed s)
    (step : s.step e = some s') : Tracks orders s' (book.step (s.bookEvent e)) := by
  obtain ⟨later, moved⟩ := App.step_cases step
  obtain ⟨wf, -⟩ := wf.tick later
  -- the book does not look at the clock
  replace tracks : Tracks orders { s with now := e.time } book := ⟨tracks.1, tracks.2, tracks.3⟩
  show Tracks orders s' (book.step (({ s with now := e.time } : App).bookEvent e))
  obtain ⟨time, event⟩ := e
  cases moved with
  | frame | back => exact ⟨tracks.cart, tracks.inFlight, tracks.recorded⟩
  | tap _ top rest turn shape move => exact tracks.tap shape move
  | answer call outcome turn member found ends resumed =>
    exact tracks.answer wf member found resumed

end Tracks

/-- A Confirm Order tap submits the topmost checkout page's order. -/
theorem App.step_confirm {s s' : App} {time : Nat}
    (step : s.step ⟨time, .tapConfirm⟩ = some s') :
    ∃ top rest state, s.stack = top :: rest ∧ top.page = .checkout state ∧
      s'.pending = ⟨time, top.id,
        .addOrder (placeOrder s.currentUser s.globalCart state.totalAmount time)⟩ :: s.pending := by
  obtain ⟨_, kind⟩ := App.step_cases step
  cases kind with
  | tap _ top rest turn shape move =>
    cases move.cartMove rfl with
    | confirm state shown => exact ⟨top, rest, state, shape, shown, by simp [Handler.start]⟩

/-! ### What a step does to the cart -/

/-- Apart from adds and deletes on their pages, only a recorded order changes the cart. -/
inductive App.CartStep (s : App) (e : Timed) (globalCart : Cart) : Prop
  | same (keeps : globalCart = s.globalCart)
      (unrecorded : ∀ call, s.bookEvent e ≠ .settle call true)
  | added (top : Route) (rest : List Route) (state : ProductState) (shape : s.stack = top :: rest)
      (shown : top.page = .product state) (tapped : e.event = .tapAddToCart)
      (grown : globalCart = s.globalCart.addToCart e.time state.product state.quantity)
  | deleted (top : Route) (rest : List Route) (view : CartView) (index : Nat)
      (shape : s.stack = top :: rest) (shown : top.page = .cart view)
      (row : view.rows.any (fun row => row.1 == index) = true)
      (tapped : e.event = .tapDelete index)
      (removed : s.globalCart.removeItem index = some globalCart)
  | cleared (call : Nat) (recorded : s.bookEvent e = .settle call true) (empty : globalCart = [])

theorem App.Step.cart {s s' : App} {event : Event} (step : App.Step s event s') :
    App.CartStep s ⟨s.now, event⟩ s'.globalCart := by
  cases step with
  | frame | back => exact .same rfl (by simp [App.bookEvent])
  | tap _ top rest turn shape move =>
    cases plain : event.isPlain with
    -- plain taps mean nothing to the book
    | true =>
      refine .same (move.plain_cart rfl plain).1 fun call => ?_
      rw [bookEvent_of_plain s plain]
      simp
    | false =>
      cases move.cartMove plain with
      | add state shown => exact .added top rest state shape shown rfl rfl
      | delete view index globalCart shown row removed =>
        exact .deleted top rest view index shape shown row rfl removed
      | deleteThrows => exact .same rfl (by simp [App.bookEvent])
      | confirm state shown =>
        refine .same (by simp) fun call => ?_
        obtain ⟨id, page, dirty⟩ := top
        dsimp only at shown
        simp [App.bookEvent, shape, shown]
  | answer call outcome turn member found ends resumed =>
    have cart := resumed.cart
    cases noOrder : call.point.isOrder with
    | false =>
      refine .same (by simpa [noOrder] using cart) fun id => ?_
      rw [Tracks.bookEvent_of_other s.now found noOrder]
      simp
    | true =>
      obtain ⟨doc, point⟩ := call.point.eq_addOrder noOrder
      have entry : s.bookEvent ⟨s.now, .answer call.id outcome⟩ =
          .settle call.id outcome.succeeded := Tracks.bookEvent_of_order s.now found point
      cases ok : outcome.succeeded with
      | true => exact .cleared call.id (by rw [entry, ok]) (by simpa [noOrder, ok] using cart)
      | false => exact .same (by simpa [ok] using cart) (by simp [entry, ok])

theorem App.step_cart {s s' : App} {e : Timed} (step : s.step e = some s') :
    App.CartStep s e s'.globalCart := by
  obtain ⟨_, moved⟩ := App.step_cases step
  cases moved.cart with
  | same keeps unrecorded => exact .same keeps unrecorded
  | added top rest state shape shown tapped grown =>
    exact .added top rest state shape shown tapped grown
  | deleted top rest view index shape shown row tapped removed =>
    exact .deleted top rest view index shape shown row tapped removed
  | cleared call recorded empty => exact .cleared call recorded empty

theorem App.CartStep.operation {s : App} {e : Timed} {globalCart : Cart}
    (step : App.CartStep s e globalCart) :
    globalCart = s.globalCart ∨ ∃ op, cartMachine.step s.globalCart op = some globalCart := by
  cases step with
  | same keeps _ => exact .inl keeps
  | added _ _ state _ _ _ grown =>
    exact .inr ⟨.add e.time state.product state.quantity, congrArg some grown.symm⟩
  | deleted _ _ _ index _ _ _ _ removed => exact .inr ⟨.remove index, removed⟩
  | cleared _ _ empty => exact .inr ⟨.clear, congrArg some empty.symm⟩

/-- Whatever happens in the app, its cart is the one of a ledger. -/
theorem refines_of_app_run {G : App → Timed → Prop} {currentUser : Option Uid}
    {orders : List OrderDoc} {es : List Timed} {s : App}
    (run : app.Run G (App.init currentUser orders) es s) :
    ∃ ops book, (cartMachine.observe enter).Run Machine.Free ([], []) ops (s.globalCart, book) ∧
      Refines (live book) s.globalCart := by
  obtain ⟨ops, operated⟩ : ∃ ops, cartMachine.Run Machine.Free [] ops s.globalCart := by
    refine run.invariant (I := fun s : App => ∃ ops, cartMachine.Run Machine.Free [] ops s.globalCart)
      ⟨[], .nil⟩ ?_
    rintro a e b ⟨ops, operated⟩ - step
    rcases (App.step_cart step).operation with same | ⟨op, moved⟩
    · exact ⟨ops, by rwa [same]⟩
    · exact ⟨_, operated.snoc trivial moved⟩
  obtain ⟨book, entered⟩ := operated.observed []
  exact ⟨ops, book, entered, refines_of_run entered⟩

/-- In every run, the book says what is in the cart, which orders are pending and which have
been recorded. -/
theorem tracks_of_run {G : App × Book → Timed → Prop} {currentUser : Option Uid}
    {orders : List OrderDoc} {es : List Timed} {p : App × Book}
    (run : bookedApp.Run G (App.init currentUser orders, {}) es p) :
    WellFormed p.1 ∧ Tracks orders p.1 p.2 := by
  refine run.invariant (I := fun p : App × Book => WellFormed p.1 ∧ Tracks orders p.1 p.2)
    ⟨.init currentUser orders, .init currentUser⟩ ?_
  rintro p e q ⟨wf, tracks⟩ - step
  obtain ⟨moved, entered⟩ := Machine.observe_step_iff.mp step
  rw [entered]
  exact ⟨wf.step moved, tracks.step wf moved⟩

end CartX
