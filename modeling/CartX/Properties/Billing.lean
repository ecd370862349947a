import CartX.Properties.Orders

/-!
# What an order bills

The amount of an order is the cart total at the moment its checkout page was
opened, and only the success of an order changes the cart under an open checkout
page. So a checkout page is good for one order: it bills the cart it orders as
long as it was opened for a non-empty cart and no order has been recorded since.
-/

namespace CartX

/-- The checkout pages opened for a non-empty cart since the last recorded order. -/
def noteCheckout (s : App) (e : Timed) (_ : App) (unspent : List Nat) : List Nat :=
  match s.bookEvent e, e.event with
  | .settle _ true, _ => []
  | _, .tapProceed => if s.globalCart.isEmpty then unspent else e.time :: unspent
  | _, _ => unspent

/-- The app with the list of its unspent checkout pages. -/
def billedApp : Machine (App × List Nat) Timed := app.observe noteCheckout

/-- On every open checkout page, the cart has something in it exactly when the page is unspent,
and then the page charges the cart's total. -/
structure Billed (s : App) (unspent : List Nat) : Prop where
  age : ∀ id ∈ unspent, id ≤ s.now
  good : ∀ route ∈ s.stack, ∀ amount, route.page.charge = some amount →
    (route.id ∈ unspent ↔ s.globalCart ≠ []) ∧
      (s.globalCart ≠ [] → amount = s.globalCart.cartTotal)

theorem noteCheckout_of_recorded {s s' : App} {e : Timed} {call : Nat}
    (recorded : s.bookEvent e = .settle call true) (unspent : List Nat) :
    noteCheckout s e s' unspent = [] := by
  simp [noteCheckout, recorded]

theorem noteCheckout_of_proceed {s s' : App} {time : Nat} (unspent : List Nat) :
    noteCheckout s ⟨time, .tapProceed⟩ s' unspent =
      if s.globalCart.isEmpty then unspent else time :: unspent := by
  simp [noteCheckout, App.bookEvent]

/-- Unless an order is recorded, old names stay as they are. -/
theorem mem_noteCheckout {s s' : App} {e : Timed}
    (unrecorded : ∀ call, s.bookEvent e ≠ .settle call true) {unspent : List Nat} {id : Nat}
    (old : id ≠ e.time) : id ∈ noteCheckout s e s' unspent ↔ id ∈ unspent := by
  unfold noteCheckout
  split
  next recorded => exact absurd recorded (unrecorded _)
  next => split <;> simp [old]
  next => rfl

theorem charge_inCartFlow {page : Page} {amount : ℚ} (charges : page.charge = some amount) :
    page.inCartFlow = true ∧ page.isCart = false := by
  cases page with
  | checkout state => exact ⟨rfl, rfl⟩
  | _ => cases charges

/-- While a checkout page is open, nothing is added to or deleted from the cart. -/
theorem cart_under_checkout {s : App} {e : Timed} {globalCart : Cart} (wf : WellFormed s)
    {route : Route} (member : route ∈ s.stack) {amount : ℚ}
    (charges : route.page.charge = some amount) (step : App.CartStep s e globalCart) :
    (globalCart = s.globalCart ∧ ∀ call, s.bookEvent e ≠ .settle call true) ∨
      (globalCart = [] ∧ ∃ call, s.bookEvent e = .settle call true) := by
  obtain ⟨in_flow, no_cart⟩ := charge_inCartFlow charges
  cases step with
  | same keeps unrecorded => exact .inl ⟨keeps, unrecorded⟩
  | cleared call recorded empty => exact .inr ⟨empty, call, recorded⟩
  | added top rest state shape shown =>
    -- a product page and a checkout page are never on one stack
    have same := wf.oneFlow route member top (by simp [shape])
    rw [in_flow, shown] at same
    cases same
  | deleted top rest view index shape shown =>
    -- the cart page on top would be the oldest route
    have oldest := wf.cartOldest top (by simp [shape]) (by simp [shown, Page.isCart]) route member
    have names := wf.routeNames
    rw [shape, List.map_cons, List.pairwise_cons] at names
    rw [shape] at member
    rcases List.mem_cons.mp member with rfl | below
    · simp [shown, Page.isCart] at no_cart
    · have := names.1 route.id (List.mem_map_of_mem below)
      omega

theorem Billed.step {s s' : App} {e : Timed} {unspent : List Nat} (billed : Billed s unspent)
    (wf : WellFormed s) (step : s.step e = some s') : Billed s' (noteCheckout s e s' unspent) := by
  have now := App.step_now step
  have later := (App.step_cases step).1
  have cart := App.step_cart step
  obtain ⟨new, restacked, opens⟩ := App.step_restacked wf step
  obtain ⟨time, event⟩ := e
  dsimp only at now later restacked opens
  constructor
  · intro id member
    rw [now]
    -- only Proceed enters a name, and that name is the clock's
    by_cases old : id = time
    · exact Nat.le_of_eq old
    · have listed : id ∈ unspent := by
        by_cases recorded : ∃ call, s.bookEvent ⟨time, event⟩ = .settle call true
        · obtain ⟨call, recorded⟩ := recorded
          simp [noteCheckout_of_recorded recorded] at member
        · exact (mem_noteCheckout (not_exists.mp recorded) old).mp member
      exact (billed.age id listed).trans (Nat.le_of_lt later)
  · intro route' member amount charges
    rcases restacked.routes member with ⟨page, opened, rfl⟩ | ⟨route, old, id, similar⟩
    · -- a checkout page just opened
      rcases (opens page opened).1 with none | ⟨rfl, total⟩
      · simp [none] at charges
      · cases total.symm.trans charges
        have keeps : s'.globalCart = s.globalCart := by
          cases cart with
          | same keeps => exact keeps
          | added _ _ _ _ _ tapped | deleted _ _ _ _ _ _ _ tapped => cases tapped
          | cleared call recorded => cases recorded
        have fresh : time ∉ unspent := fun listed => by
          have := billed.age time listed
          omega
        rw [noteCheckout_of_proceed, keeps]
        cases empty : s.globalCart.isEmpty <;> simp_all
    · -- a checkout page from before
      have charged : route.page.charge = some amount := similar.charge.trans charges
      obtain ⟨listed, total⟩ := billed.good route old amount charged
      have id_old : route'.id ≠ time := by
        have := wf.routeAge route old
        omega
      -- under an open checkout page the cart is unchanged, or was just emptied
      rcases cart_under_checkout wf old charged cart with
        ⟨keeps, unrecorded⟩ | ⟨empty, call, recorded⟩
      · rw [mem_noteCheckout unrecorded id_old, keeps, ← id]
        exact ⟨listed, total⟩
      · rw [noteCheckout_of_recorded recorded, empty]
        simp

theorem billed_of_run {currentUser : Option Uid} {orders : List OrderDoc} {es : List Timed}
    {p : App × List Nat}
    (run : billedApp.Run Machine.Free (App.init currentUser orders, []) es p) :
    WellFormed p.1 ∧ Billed p.1 p.2 := by
  refine run.invariant (I := fun p : App × List Nat => WellFormed p.1 ∧ Billed p.1 p.2)
    ⟨.init currentUser orders, ⟨by simp, by simp [App.init, Page.charge]⟩⟩ ?_
  rintro p e q ⟨wf, billed⟩ - step
  obtain ⟨moved, noted⟩ := Machine.observe_step_iff.mp step
  rw [noted]
  exact ⟨wf.step moved, billed.step wf moved⟩

/-- In every reachable state, a Confirm Order tap submits the total of a non-empty cart exactly
when its checkout page is unspent. -/
theorem confirm_bills_cart_iff (currentUser : Option Uid) (orders : List OrderDoc)
    (es : List Timed) (p q : App × List Nat) (time : Nat)
    (run : billedApp.Run Machine.Free (App.init currentUser orders, []) es p)
    (step : billedApp.step p ⟨time, .tapConfirm⟩ = some q) :
    ∃ route doc, p.1.stack.head? = some route ∧
      q.1.pending = ⟨time, route.id, .addOrder doc⟩ :: p.1.pending ∧
      (doc.amount = p.1.globalCart.cartTotal ∧ p.1.globalCart ≠ [] ↔ route.id ∈ p.2) := by
  obtain ⟨_, billed⟩ := billed_of_run run
  obtain ⟨moved, -⟩ := Machine.observe_step_iff.mp step
  obtain ⟨top, rest, state, shape, shown, submitted⟩ := App.step_confirm moved
  obtain ⟨listed, total⟩ :=
    billed.good top (by simp [shape]) state.totalAmount (by rw [shown]; rfl)
  refine ⟨top, _, by simp [shape], submitted, ?_⟩
  rw [listed]
  exact ⟨fun both => both.2, fun full => ⟨total full, full⟩⟩

/-- The first Confirm Order tap on a checkout page for one tomato bills 70. -/
theorem confirm_bills_tomato : ∃ p q, billedApp.Run Machine.Free (App.init none [], [])
    (schedule toCheckout) p ∧ billedApp.step p ⟨10, .tapConfirm⟩ = some q ∧
    ∃ route doc, p.1.stack.head? = some route ∧
      q.1.pending = ⟨10, route.id, .addOrder doc⟩ :: p.1.pending ∧ doc.amount = 70 := by
  obtain ⟨p, run, shape⟩ := Machine.exists_run_of_exec billedApp Machine.Free
    (App.init none [], []) (schedule toCheckout)
    (fun p => (billedApp.step p ⟨10, .tapConfirm⟩).isSome && p.1.globalCart.cartTotal == 70 &&
      p.1.stack.head?.all fun route => decide (route.id ∈ p.2)) (by decide +kernel)
  simp only [Bool.and_eq_true, beq_iff_eq, Option.all_eq_true, decide_eq_true_eq,
    Option.isSome_iff_exists] at shape
  obtain ⟨⟨⟨q, step⟩, total⟩, fresh⟩ := shape
  obtain ⟨route, doc, visible, sent, bills⟩ := confirm_bills_cart_iff none [] _ p q 10 run step
  exact ⟨p, q, run, step, route, doc, visible, sent,
    (bills.mpr (fresh route visible)).1.trans total⟩

/-- The success dialog is closed with Back and Confirm Order tapped again: the page charges 70
for a cart that is empty by now. -/
theorem second_confirm_bills_nothing :
    ¬ ∀ (currentUser : Option Uid) (orders : List OrderDoc) (es : List Timed) (p q : App)
      (time : Nat), app.Run Machine.Free (App.init currentUser orders) es p →
      app.step p ⟨time, .tapConfirm⟩ = some q →
      ∃ route doc, p.stack.head? = some route ∧
        q.pending = ⟨time, route.id, .addOrder doc⟩ :: p.pending ∧
        doc.amount = p.globalCart.cartTotal ∧ p.globalCart ≠ [] := by
  intro all
  obtain ⟨p, run, spent⟩ := Machine.exists_run_of_exec app Machine.Free
    (App.init none [])
    (schedule (toCheckout ++ [.tapConfirm, .answer 10 (.success .done), .back]))
    (fun p => p.globalCart == [] && (app.step p ⟨13, .tapConfirm⟩).isSome)
    (by decide +kernel)
  obtain ⟨empty, enabled⟩ := Bool.and_eq_true_iff.mp spent
  obtain ⟨q, step⟩ := Option.isSome_iff_exists.mp enabled
  obtain ⟨_, _, _, _, _, full⟩ := all none [] _ p q 13 run step
  exact full (eq_of_beq empty)

end CartX
