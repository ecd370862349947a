import CartX.Model.App

/-!
# What one event can do

Inversion of the app's step function: a tap is one of the thirteen moves of
`Move`, the segment after an awaited call one of the nine ways of `Resumed`, and
a step is a frame, a Back, a tap or an answer (`App.Step`). Invariants of the
app are proved from these, without unfolding the step function again.
-/

namespace CartX

/-- The page a suspended handler belongs to. -/
def Await.owns : Await → Page → Bool
  | .signIn, .login _ => true
  | .createUser, .signup | .setUser, .signup => true
  | .getUser, .editProfile _ | .updateUser, .editProfile _ => true
  | .getWish, .product _ | .writeWish, .product _ => true
  | .addOrder _, .checkout _ => true
  | .signOut, .profile => true
  | _, _ => false

def Await.isOrder : Await → Bool
  | .addOrder _ => true
  | _ => false

/-- The pages before the shop. -/
def Page.isAuth : Page → Bool
  | .splash | .login _ | .signup => true
  | _ => false

/-- The cart page and what opens from it. -/
def Page.inCartFlow : Page → Bool
  | .cart _ | .checkout _ | .orderDialog => true
  | _ => false

def Page.isCart : Page → Bool
  | .cart _ => true
  | _ => false

theorem Page.eq_cart {page : Page} (shows : page.isCart = true) : ∃ view, page = .cart view := by
  cases page with
  | cart view => exact ⟨view, rfl⟩
  | _ => cases shows

/-! ### The page a call belongs to -/

theorem Await.signIn_owns {page : Page} (owns : Await.signIn.owns page = true) :
    ∃ state, page = .login state := by
  cases page with
  | login state => exact ⟨state, rfl⟩
  | _ => cases owns

theorem Await.createUser_owns {page : Page} (owns : Await.createUser.owns page = true) :
    page = .signup := by
  cases page with
  | signup => rfl
  | _ => cases owns

theorem Await.addOrder_owns {doc : OrderDoc} {page : Page}
    (owns : (Await.addOrder doc).owns page = true) : ∃ state, page = .checkout state := by
  cases page with
  | checkout state => exact ⟨state, rfl⟩
  | _ => cases owns

/-- The cart page has no handler. -/
theorem Await.owns_not_cart {point : Await} {page : Page} (owns : point.owns page = true) :
    page.isCart = false := by
  cases page with
  | cart view => cases point <;> cases owns
  | _ => rfl

/-- The same page with other local state: what a cart page was built from and what a
checkout page charges stay. -/
def Page.Alike : Page → Page → Prop
  | .login _, .login _ | .product _, .product _ | .editProfile _, .editProfile _ => True
  | .checkout state, .checkout state' => state.totalAmount = state'.totalAmount
  | page, page' => page = page'

/-- The local state a page is opened with. -/
def Page.isFresh : Page → Bool
  | .login state => state == {}
  | .product state => state.quantity == 1 && !state.isWishlisted && !state.minusEnabled
  | .editProfile state => state == {}
  | _ => true

/-- The `setState` bodies of taps: the quantity buttons and the payment method. -/
inductive Restated : Event → Page → Page → Prop
  | plus (state : ProductState) :
      Restated .tapPlus (.product state) (.product { state with quantity := state.quantity + 1 })
  | minus (state : ProductState) (enabled : state.minusEnabled = true) :
      Restated .tapMinus (.product state) (.product { state with quantity := state.quantity - 1 })
  | payment (state : CheckoutState) (value : String) :
      Restated (.selectPayment value) (.checkout state)
        (.checkout { state with selectedPaymentMethod := value })

/-- What typing changes. -/
inductive Typed : Page → Page → Prop
  | login (state : LoginState) (email password : String) :
      Typed (.login state) (.login { state with email, password })
  | profile (state : EditProfileState) (name phone address : String) :
      Typed (.editProfile state) (.editProfile { state with name, phone, address })

/-- The events that neither change the cart nor begin or end an order. -/
def Event.isPlain : Event → Bool
  | .tapAddToCart | .tapDelete _ | .tapConfirm | .answer _ _ => false
  | _ => true

/-- The moves of a tap on the topmost route. -/
inductive Move (turn : Turn) (time : Nat) (currentUser : Option Uid) (top : Route) :
    Event → Turn → Prop
  | stay {event : Event} (plain : event.isPlain = true) : Move turn time currentUser top event turn
  | begin {event : Event} (handler : Handler) (plain : event.isPlain = true)
      (noOrder : handler.start.2.isOrder = false) (owned : handler.start.2.owns top.page = true)
      (idle : handler = .login →
        event = .tapLogin ∧ ∃ state, top.page = .login state ∧ state.isLoading = false) :
      Move turn time currentUser top event (turn.begin time top.id handler)
  | openPage {event : Event} (page : Page) (plain : event.isPlain = true)
      (fromShop : page.isAuth = false → top.page.isAuth = false)
      (flow : page.inCartFlow = false) (topFlow : top.page.inCartFlow = false)
      (fresh : page.isFresh = true)
      (signup : page.isAuth = true → page = .signup ∧ ∃ state, top.page = .login state) :
      Move turn time currentUser top event (turn.push time currentUser page)
  | nav {event : Event} (page : Page) (plain : event.isPlain = true)
      (fromShop : top.page.isAuth = false) (toShop : page.isAuth = false)
      (unpaid : ∀ state, page ≠ .checkout state)
      (built : ∀ view, page = .cart view → view = .build turn.globalCart)
      (fresh : page.isFresh = true) :
      Move turn time currentUser top event (turn.pushAndRemoveUntil time page)
  | enter {event : Event} (plain : event.isPlain = true) (splash : top.page = .splash) :
      Move turn time currentUser top event (turn.pushReplacement time (.login {}))
  | restate {event : Event} (page : Page) (plain : event.isPlain = true)
      (alike : top.page.Alike page) (uncarted : ∀ view, top.page ≠ .cart view)
      (restated : Restated event top.page page) :
      Move turn time currentUser top event (turn.setState top.id fun _ => page)
  | type {event : Event} (page : Page) (plain : event.isPlain = true)
      (alike : top.page.Alike page) (flow : top.page.inCartFlow = false)
      (typed : Typed top.page page) :
      Move turn time currentUser top event (turn.edit top.id fun _ => page)
  | buildRow (view : CartView) (index : Nat) (shown : top.page = .cart view)
      (clean : top.dirty = false) (inside : index < view.itemCount) :
      Move turn time currentUser top (.buildRow index)
        (turn.edit top.id fun _ => .cart (view.buildRow turn.globalCart index))
  | proceed (view : CartView) (shown : top.page = .cart view) (full : 0 < view.itemCount) :
      Move turn time currentUser top .tapProceed
        (turn.push time currentUser (.checkout { totalAmount := turn.globalCart.cartTotal }))
  | add (state : ProductState) (shown : top.page = .product state) :
      Move turn time currentUser top .tapAddToCart
        { turn with globalCart := turn.globalCart.addToCart time state.product state.quantity }
  | delete (view : CartView) (index : Nat) (globalCart : Cart) (shown : top.page = .cart view)
      (row : view.rows.any (fun row => row.1 == index) = true)
      (removed : turn.globalCart.removeItem index = some globalCart) :
      Move turn time currentUser top (.tapDelete index)
        ({ turn with globalCart }.setState top.id fun page => page)
  | deleteThrows (view : CartView) (index : Nat) (shown : top.page = .cart view)
      (row : view.rows.any (fun row => row.1 == index) = true)
      (outside : turn.globalCart.removeItem index = none) :
      Move turn time currentUser top (.tapDelete index) turn
  | confirm (state : CheckoutState) (shown : top.page = .checkout state) :
      Move turn time currentUser top .tapConfirm
        (turn.begin time top.id
          (.placeOrder (placeOrder currentUser turn.globalCart state.totalAmount time)))

/-- The moves of the taps that are not plain. -/
inductive CartMove (turn : Turn) (time : Nat) (currentUser : Option Uid) (top : Route) :
    Event → Turn → Prop
  | add (state : ProductState) (shown : top.page = .product state) :
      CartMove turn time currentUser top .tapAddToCart
        { turn with globalCart := turn.globalCart.addToCart time state.product state.quantity }
  | delete (view : CartView) (index : Nat) (globalCart : Cart) (shown : top.page = .cart view)
      (row : view.rows.any (fun row => row.1 == index) = true)
      (removed : turn.globalCart.removeItem index = some globalCart) :
      CartMove turn time currentUser top (.tapDelete index)
        ({ turn with globalCart }.setState top.id fun page => page)
  | deleteThrows (index : Nat) (outside : turn.globalCart.removeItem index = none) :
      CartMove turn time currentUser top (.tapDelete index) turn
  | confirm (state : CheckoutState) (shown : top.page = .checkout state) :
      CartMove turn time currentUser top .tapConfirm
        (turn.begin time top.id
          (.placeOrder (placeOrder currentUser turn.globalCart state.totalAmount time)))

theorem Move.cartMove {turn turn' : Turn} {time : Nat} {currentUser : Option Uid} {top : Route}
    {event : Event} (move : Move turn time currentUser top event turn')
    (busy : event.isPlain = false) : CartMove turn time currentUser top event turn' := by
  cases move with
  | add state shown => exact .add state shown
  | delete view index globalCart shown row removed =>
    exact .delete view index globalCart shown row removed
  | deleteThrows view index _ _ outside => exact .deleteThrows index outside
  | confirm state shown => exact .confirm state shown
  | stay plain | begin _ plain | openPage _ plain | nav _ plain | enter plain
  | restate _ plain | type _ plain => simp [busy] at plain
  | buildRow | proceed => cases busy

theorem navBar_isShop {page : Page} {selectedIndex : Nat}
    (bar : page.navBar = some selectedIndex) : page.isAuth = false := by
  cases page <;> simp_all [Page.navBar, Page.isAuth]

theorem ofNavIndex_cases {globalCart : Cart} {index : Nat} {page : Page}
    (entry : Page.ofNavIndex globalCart index = some page) :
    page = .home ∨ page = .category ∨ page = .cart (.build globalCart) ∨
      page = .profile := by
  rcases index with _ | _ | _ | _ | _ <;> simp_all [Page.ofNavIndex, eq_comm]

theorem shownProducts_page {page : Page} {product : Product}
    (shown : product ∈ page.shownProducts.1) :
    page.isAuth = false ∧ page.inCartFlow = false := by
  cases page <;> simp_all [Page.shownProducts, Page.isAuth, Page.inCartFlow]

theorem tap_cases {turn turn' : Turn} {time : Nat} {currentUser : Option Uid} {event : Event}
    {top : Route} (tapped : turn.tap time currentUser event top = some turn') :
    Move turn time currentUser top event turn' := by
  -- one case per line of `Turn.tap`, in its order
  unfold Turn.tap at tapped
  split at tapped
  -- the splash timer
  next shown => cases tapped; exact .enter rfl shown
  -- Login, which returns at once while `_isLoading`
  next state shown =>
    split at tapped
    · split at tapped
      · cases tapped; exact .stay rfl
      next idle =>
        cases tapped
        exact .begin .login rfl rfl (by simp [shown, Handler.start, Await.owns])
          fun _ => ⟨rfl, state, shown, by simpa using idle⟩
    · cases tapped
  -- Create Account, then Get Started
  next shown =>
    cases tapped
    exact .openPage .signup rfl (by simp [Page.isAuth]) rfl (by simp [shown, Page.inCartFlow]) rfl
      fun _ => ⟨rfl, _, shown⟩
  next shown =>
    cases tapped
    exact .begin .signup rfl rfl (by simp [shown, Handler.start, Await.owns]) (by simp)
  -- the bottom bar; the current tab does nothing
  next index page shown =>
    split at tapped
    next selectedIndex next bar entry =>
      split at tapped
      · cases tapped; exact .stay rfl
      · cases tapped
        rcases ofNavIndex_cases entry with rfl | rfl | rfl | rfl <;>
          exact .nav _ rfl (navBar_isShop bar) rfl (by simp) (by simp) rfl
    · cases tapped
  -- the search field and the category rows
  next shown =>
    cases tapped
    exact .openPage _ rfl (by simp [shown, Page.isAuth]) rfl (by simp [shown, Page.inCartFlow]) rfl
      (by simp [Page.isAuth])
  next shown =>
    split at tapped
    · cases tapped
      exact .openPage _ rfl (by simp [shown, Page.isAuth]) rfl (by simp [shown, Page.inCartFlow]) rfl
        (by simp [Page.isAuth])
    · cases tapped
  -- a product card
  next product page shown =>
    split at tapped
    next listed =>
      cases tapped
      obtain ⟨shop, flow⟩ := shownProducts_page listed
      exact .openPage _ rfl (fun _ => shop) rfl flow rfl (by simp [Page.isAuth])
    · cases tapped
  -- the heart; `_toggleWishlist` returns without a user
  next shown =>
    split at tapped
    · cases tapped
      exact .begin .toggleWishlist rfl rfl (by simp [shown, Handler.start, Await.owns]) (by simp)
    · cases tapped; exact .stay rfl
  -- plus and minus; minus is disabled where it was built at one
  next state shown =>
    cases tapped
    exact .restate _ rfl (by simp [shown, Page.Alike]) (by simp [shown]) (shown ▸ .plus state)
  next state shown =>
    split at tapped
    next enabled =>
      cases tapped
      exact .restate _ rfl (by simp [shown, Page.Alike]) (by simp [shown])
        (shown ▸ .minus state enabled)
    · cases tapped
  -- Add to Cart
  next state shown => cases tapped; exact .add state shown
  -- `itemBuilder`, a row's delete icon, Proceed
  next view shown =>
    split at tapped
    next fits => cases tapped; exact .buildRow view _ shown fits.1 fits.2
    · cases tapped
  next view shown =>
    split at tapped
    next row =>
      split at tapped
      next removed => cases tapped; exact .delete view _ _ shown row removed
      next outside => cases tapped; exact .deleteThrows view _ shown row outside
    · cases tapped
  next view shown =>
    split at tapped
    next full => cases tapped; exact .proceed view shown full
    · cases tapped
  -- the payment method and Confirm Order
  next state shown =>
    cases tapped
    exact .restate _ rfl (by simp [shown, Page.Alike]) (by simp [shown]) (shown ▸ .payment state _)
  next state shown => cases tapped; exact .confirm state shown
  -- Back to Home in the success dialog, then the profile's menu and Logout
  next shown =>
    cases tapped; exact .nav _ rfl (by simp [shown, Page.isAuth]) rfl (by simp) (by simp) rfl
  next item shown =>
    cases tapped
    exact .openPage _ rfl (by simp [shown, Page.isAuth]) (by cases item <;> rfl)
      (by simp [shown, Page.inCartFlow]) (by cases item <;> rfl)
      (by cases item <;> simp [Page.ofMenuItem, Page.isAuth])
  next shown =>
    cases tapped
    exact .begin .logout rfl rfl (by simp [shown, Handler.start, Await.owns]) (by simp)
  -- typing on the login page and in the profile form, then Save Changes
  next state shown =>
    cases tapped
    exact .type _ rfl (by simp [shown, Page.Alike]) (by simp [shown, Page.inCartFlow])
      (shown ▸ .login state _ _)
  next state shown =>
    split at tapped
    · cases tapped
      exact .type _ rfl (by simp [shown, Page.Alike]) (by simp [shown, Page.inCartFlow])
        (shown ▸ .profile state _ _ _)
    · cases tapped
  next state shown =>
    split at tapped
    · cases tapped
      exact .begin .updateData rfl rfl (by simp [shown, Handler.start, Await.owns]) (by simp)
    · cases tapped
  next => cases tapped

/-! ### Segments of suspended handlers -/

/-- What a handler of route `call.page` does when its pending call ends. -/
inductive Resumed (turn : Turn) (time : Nat) (call : Call) (outcome : Outcome) : Turn → Prop
  | nothing (noOrder : ¬(call.point.isOrder = true ∧ outcome.succeeded = true))
      (stranded : call.point = .signOut → outcome.succeeded = true →
        turn.mounted call.page = false)
      (loginAway : call.point = .signIn → turn.mounted call.page = false) :
      Resumed turn time call outcome turn
  | update (change : LocalUpdate) (noOrder : call.point.isOrder = false)
      (noSignOut : call.point ≠ .signOut)
      (loginEnds : call.point = .signIn → change = .isLoading false ∧ outcome.succeeded = false) :
      Resumed turn time call outcome (turn.setState call.page (Page.apply change))
  | loggedIn (point : call.point = .signIn) (ok : outcome.succeeded = true)
      (mounted : turn.mounted call.page = true) :
      Resumed turn time call outcome
        ((turn.pushReplacement time .home).setState call.page (Page.apply (.isLoading false)))
  | created (point : call.point = .createUser) (ok : outcome.succeeded = true) :
      Resumed turn time call outcome
        { turn with started := [{ id := time, page := call.page, point := .setUser }] }
  | signedUp (point : call.point = .setUser) (ok : outcome.succeeded = true)
      (mounted : turn.mounted call.page = true) :
      Resumed turn time call outcome (turn.pushAndRemoveUntil time .home)
  | saved (point : call.point = .updateUser) (ok : outcome.succeeded = true)
      (mounted : turn.mounted call.page = true) :
      Resumed turn time call outcome
        { turn.setState call.page (Page.apply (.isLoading false)) with
          stack := (turn.setState call.page (Page.apply (.isLoading false))).stack.tail }
  | ordered (doc : OrderDoc) (point : call.point = .addOrder doc) (ok : outcome.succeeded = true)
      (mounted : turn.mounted call.page = true) :
      Resumed turn time call outcome
        { turn with globalCart := [], stack := { id := time, page := .orderDialog } :: turn.stack }
  | orderedAway (doc : OrderDoc) (point : call.point = .addOrder doc)
      (ok : outcome.succeeded = true) (away : turn.mounted call.page = false) :
      Resumed turn time call outcome { turn with globalCart := [] }
  | loggedOut (point : call.point = .signOut) (ok : outcome.succeeded = true)
      (mounted : turn.mounted call.page = true) :
      Resumed turn time call outcome (turn.pushAndRemoveUntil time (.login {}))

namespace Turn

theorem setState_of_unmounted {turn : Turn} {id : Nat} (away : turn.mounted id = false)
    (update : Page → Page) : turn.setState id update = turn := by
  have same : (turn.stack.map fun route =>
      if route.id = id then { route with page := update route.page, dirty := true } else route) =
        turn.stack := by
    conv_rhs => rw [← List.map_id turn.stack]
    apply List.map_congr_left
    intro route member
    have other : route.id ≠ id := by simpa using List.any_eq_false.mp away route member
    simp [other]
  simp [setState, same]

@[simp] theorem applyEffect_clearCart (time id : Nat) (turn : Turn) :
    turn.applyEffect time id .clearCart = { turn with globalCart := [] } := rfl

/-- `setState` on a page that is gone throws, which changes as little as it would there. -/
@[simp] theorem applyEffect_setState (time id : Nat) (turn : Turn) (update : LocalUpdate) :
    turn.applyEffect time id (.setState update) = turn.setState id (Page.apply update) := by
  cases mounted : turn.mounted id with
  | true => simp [applyEffect, perform, mounted]
  | false => simp [applyEffect, mounted, Effect.usesPage, setState_of_unmounted mounted]

@[simp] theorem applyEffect_showSnackBar (time id : Nat) (turn : Turn) (content : String) :
    turn.applyEffect time id (.showSnackBar content) = turn := by
  simp [applyEffect, perform]

theorem applyEffect_of_mounted {turn : Turn} {id : Nat} (mounted : turn.mounted id = true)
    (time : Nat) (effect : Effect) :
    turn.applyEffect time id effect = turn.perform time id effect := by
  simp [applyEffect, mounted]

@[simp] theorem mounted_setState (turn : Turn) (id other : Nat) (update : Page → Page) :
    (turn.setState id update).mounted other = turn.mounted other := by
  simp only [mounted, setState, List.any_map]
  congr 1
  funext route
  by_cases here : route.id = id <;> simp [here]

end Turn

theorem segment_cases (s : App) (time : Nat) (call : Call) (outcome : Outcome) :
    Resumed s.turn time call outcome (s.segment time call outcome) := by
  obtain ⟨id, page, point⟩ := call
  -- the `mounted` checks of the handlers come out the same way in a whole segment
  cases mounted : s.turn.mounted page with
  | true =>
    have used (effect : Effect) := Turn.applyEffect_of_mounted mounted time effect
    cases outcome with
    | success response =>
      cases point with
      | signIn =>
        simp only [App.segment, resume, mounted, whenMounted, loginFinally, if_true,
          List.cons_append, List.nil_append, List.foldl_cons, List.foldl_nil, used,
          Turn.applyEffect_setState]
        exact .loggedIn rfl rfl mounted
      | createUser => exact .created rfl rfl
      | setUser =>
        simp only [App.segment, resume, mounted, whenMounted, if_true, List.foldl_cons,
          List.foldl_nil, used]
        exact .signedUp rfl rfl mounted
      | getUser =>
        rcases response with _ | _ | _ | (_ | data) <;>
          simp only [App.segment, resume, List.foldl_cons, List.foldl_nil, Turn.applyEffect_setState]
        case profile.some => exact .update _ rfl (by simp) (by simp)
        all_goals exact .nothing (by simp [Await.isOrder]) (by simp) (by simp)
      -- the `setState` does not unmount the page, so the check after it passes
      | updateUser =>
        have still : (s.turn.setState page (Page.apply (.isLoading false))).mounted page = true := by
          rw [Turn.mounted_setState, mounted]
        simp only [App.segment, resume, mounted, whenMounted, if_true, List.foldl_cons,
          List.foldl_nil, Turn.applyEffect_setState, Turn.applyEffect_showSnackBar,
          Turn.applyEffect_of_mounted still]
        exact .saved rfl rfl mounted
      | getWish =>
        rcases response with _ | _ | exists_ | _ <;>
          simp only [App.segment, resume, mounted, whenMounted, if_true, List.foldl_cons,
            List.foldl_nil, Turn.applyEffect_setState]
        case wish => exact .update _ rfl (by simp) (by simp)
        all_goals exact .nothing (by simp [Await.isOrder]) (by simp) (by simp)
      | writeWish =>
        simp only [App.segment, resume, mounted, whenMounted, if_true, List.foldl_cons,
          List.foldl_nil, Turn.applyEffect_setState]
        exact .update _ rfl (by simp) (by simp)
      -- the cart is cleared before the check
      | addOrder doc =>
        have still : ({ s.turn with globalCart := [] } : Turn).mounted page = true := mounted
        simp only [App.segment, resume, mounted, whenMounted, if_true, List.foldl_cons,
          List.foldl_nil, Turn.applyEffect_clearCart, Turn.applyEffect_of_mounted still]
        exact .ordered doc rfl rfl mounted
      | signOut =>
        simp only [App.segment, resume, mounted, whenMounted, if_true, List.foldl_cons,
          List.foldl_nil, used]
        exact .loggedOut rfl rfl mounted
    -- failures: only `_login` has a `finally` block
    | _ =>
      cases point <;> simp only [App.segment, resume, mounted, whenMounted, loginFinally,
        signupCatch, if_true, List.foldl_cons, List.foldl_nil, Turn.applyEffect_setState,
        Turn.applyEffect_showSnackBar]
      case signIn => exact .update _ rfl (by simp) fun _ => ⟨rfl, rfl⟩
      all_goals exact .nothing (by simp [Outcome.succeeded]) (by simp [Outcome.succeeded]) (by simp)
  -- on a page that is gone only the unchecked effects are left
  | false =>
    cases outcome with
    | success response =>
      cases point with
      | createUser => exact .created rfl rfl
      | getUser =>
        rcases response with _ | _ | _ | (_ | data) <;>
          simp only [App.segment, resume, List.foldl_cons, List.foldl_nil, Turn.applyEffect_setState]
        case profile.some => exact .update _ rfl (by simp) (by simp)
        all_goals exact .nothing (by simp [Await.isOrder]) (by simp) (by simp)
      | updateUser =>
        simp only [App.segment, resume, mounted, whenMounted, Bool.false_eq_true, if_false,
          List.foldl_cons, List.foldl_nil, Turn.applyEffect_setState]
        exact .update _ rfl (by simp) (by simp)
      | getWish =>
        cases response <;> simp only [App.segment, resume, mounted, whenMounted,
          Bool.false_eq_true, if_false, List.foldl_nil]
        all_goals exact .nothing (by simp [Await.isOrder]) (by simp) (by simp)
      | addOrder doc =>
        simp only [App.segment, resume, mounted, whenMounted, Bool.false_eq_true, if_false,
          List.foldl_cons, List.foldl_nil, Turn.applyEffect_clearCart]
        exact .orderedAway doc rfl rfl mounted
      | _ =>
        simp only [App.segment, resume, mounted, whenMounted, loginFinally, Bool.false_eq_true,
          if_false, List.append_nil, List.foldl_nil]
        exact .nothing (by simp [Await.isOrder]) (fun _ _ => mounted) fun _ => mounted
    | _ =>
      cases point <;> simp only [App.segment, resume, mounted, whenMounted, loginFinally,
        signupCatch, Bool.false_eq_true, if_false, List.foldl_cons, List.foldl_nil,
        Turn.applyEffect_showSnackBar]
      all_goals
        exact .nothing (by simp [Outcome.succeeded]) (by simp [Outcome.succeeded]) fun _ => mounted

/-! ### Steps -/

namespace App

section Fields

variable (s : App) (turn : Turn) (point : Await) (outcome : Outcome)

@[simp] theorem turn_stack : s.turn.stack = s.stack := rfl
@[simp] theorem turn_globalCart : s.turn.globalCart = s.globalCart := rfl
@[simp] theorem turn_started : s.turn.started = [] := rfl
@[simp] theorem after_now : (s.after turn).now = s.now := rfl
@[simp] theorem after_currentUser : (s.after turn).currentUser = s.currentUser := rfl
@[simp] theorem after_stack : (s.after turn).stack = turn.stack := rfl
@[simp] theorem after_globalCart : (s.after turn).globalCart = turn.globalCart := rfl
@[simp] theorem after_pending : (s.after turn).pending = turn.started ++ s.pending := rfl
@[simp] theorem after_orders : (s.after turn).orders = s.orders := rfl

@[simp] theorem commit_now : (s.commit point outcome).now = s.now := by
  unfold commit; split <;> rfl

@[simp] theorem commit_pending : (s.commit point outcome).pending = s.pending := by
  unfold commit; split <;> rfl

end Fields

/-- The signed-in user changes only by a sign-in, an account creation or a sign-out. -/
theorem commit_currentUser (s : App) (point : Await) (outcome : Outcome) :
    (s.commit point outcome).currentUser = s.currentUser ∨
      (∃ uid, (s.commit point outcome).currentUser = some uid ∧ outcome.succeeded = true ∧
        (point = .signIn ∨ point = .createUser)) ∨
      ((s.commit point outcome).currentUser = none ∧ point = .signOut ∧
        outcome.succeeded = true) := by
  unfold commit
  split
  · exact .inr (.inl ⟨_, rfl, rfl, .inl rfl⟩)
  · exact .inr (.inl ⟨_, rfl, rfl, .inr rfl⟩)
  · exact .inr (.inr ⟨rfl, rfl, rfl⟩)
  · exact .inl rfl
  · exact .inl rfl

theorem commit_orders (s : App) (point : Await) (outcome : Outcome) :
    (∃ doc, point = .addOrder doc ∧ outcome.succeeded = true ∧
      (s.commit point outcome).orders = s.orders ++ [doc]) ∨
    (¬(point.isOrder = true ∧ outcome.succeeded = true) ∧
      (s.commit point outcome).orders = s.orders) := by
  cases outcome with
  | success response =>
    cases point <;> cases response <;> simp [commit, Await.isOrder, Outcome.succeeded]
  | _ => cases point <;> simp [commit, Outcome.succeeded]

/-- The app after the pending call `id` is off the list. -/
def settle (s : App) (id : Nat) : App :=
  { s with pending := s.pending.filter fun other => other.id != id }

@[simp] theorem settle_orders (s : App) (id : Nat) : (s.settle id).orders = s.orders := rfl

/-- The four kinds of step, from the state `s` whose clock already shows the event's time. -/
inductive Step (s : App) : Event → App → Prop
  | frame : Step s .frame (s.after s.turn.rebuildDirty)
  | back (top below : Route) (rest : List Route) (shape : s.stack = top :: below :: rest) :
      Step s .back (s.after { s.turn with stack := below :: rest })
  | tap (event : Event) (top : Route) (rest : List Route) (turn : Turn)
      (shape : s.stack = top :: rest) (move : Move s.turn s.now s.currentUser top event turn)
      (tapped : event ≠ .frame) : Step s event (s.after turn)
  | answer (call : Call) (outcome : Outcome) (turn : Turn) (member : call ∈ s.pending)
      (found : s.pending.find? (fun other => other.id == call.id) = some call)
      (ends : call.canEnd outcome = true) (resumed : Resumed s.turn s.now call outcome turn) :
      Step s (.answer call.id outcome) (((s.settle call.id).commit call.point outcome).after turn)

theorem step_cases {s s' : App} {e : Timed} (step : s.step e = some s') :
    s.now < e.time ∧ Step { s with now := e.time } e.event s' := by
  obtain ⟨time, event⟩ := e
  unfold App.step at step
  split at step
  next later =>
    refine ⟨later, ?_⟩
    dsimp only at step ⊢
    split at step
    next => cases step; exact .frame
    -- the answered call is the pending one of that name
    next call outcome =>
      unfold App.answer at step
      split at step
      · cases step
      next pending found =>
        split at step
        next ends =>
          cases step
          have same : pending.id = call := by simpa using List.find?_some found
          subst same
          exact .answer pending outcome _ (List.mem_of_find?_eq_some found) found ends
            (segment_cases _ _ _ _)
        · cases step
    next top below rest shape => cases step; exact .back top below rest shape
    next => cases step
    next top rest unframed _ _ _ shape =>
      obtain ⟨turn, tapped, rfl⟩ := Option.map_eq_some_iff.mp step
      exact .tap _ top rest turn shape (tap_cases tapped) unframed
    next => cases step
  · cases step

/-- The answer to a call resumes the call of that name. -/
theorem step_answered {s s' : App} {time id : Nat} {outcome : Outcome}
    (step : s.step ⟨time, .answer id outcome⟩ = some s') :
    ∃ call turn, call ∈ s.pending ∧ call.id = id ∧ call.canEnd outcome = true ∧
      Resumed s.turn time call outcome turn ∧
      s' = ((({ s with now := time } : App).settle call.id).commit call.point outcome).after turn := by
  obtain ⟨_, moved⟩ := step_cases step
  cases moved with
  | tap _ _ _ _ _ move => cases move.cartMove rfl
  | answer call _ turn member _ ends resumed =>
    exact ⟨call, turn, member, rfl, ends, resumed, rfl⟩

theorem step_now {s s' : App} {e : Timed} (step : s.step e = some s') : s'.now = e.time := by
  obtain ⟨_, moved⟩ := step_cases step
  obtain ⟨time, event⟩ := e
  cases moved <;> simp [settle]

end App

end CartX
