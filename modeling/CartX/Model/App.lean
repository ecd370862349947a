import CartX.Machine.Run
import CartX.Model.Handlers

/-!
# The app

The whole app as one machine: the signed-in user, the navigator's stack of
routes with the state of each page, `globalCart`, the suspended handlers and the
`orders` collection. Its events are the taps on the topmost page, the frames
that rebuild pages marked by `setState`, and the answers of Firebase to pending
calls, which come in any order and with any outcome.

Every event happens at a time later than the one before. A route, a call or a
`CartItem` created by an event is named by that event's time, so names are
never used twice.

A tap and a handler's segment run in one turn of the event loop. They read the
signed-in user, change the routes and the cart, and suspend handlers; the rest
of the app is not in their reach (`Turn`).

A page shows what its last build read. Where a later tap depends on that, the
page state holds the value as built: the Login button, the minus button, the
rows of the cart and the Proceed button, the edit form. A page is rebuilt only
by a frame after its own `setState`; popping a route does not rebuild the page
below.

One thing is assumed of Flutter: exit transitions take no time, so a page is `mounted`
exactly as long as its route is on the stack. `Exits.lean` has the app without this
assumption.
-/

namespace CartX

structure LoginState where
  email : String := ""
  password : String := ""
  isLoading : Bool := false
  /-- `_isLoading ? null : _login`, as of the last build. -/
  buttonEnabled : Bool := true
  deriving DecidableEq, Repr

structure ProductState where
  product : Product
  navIndex : Nat
  quantity : Int := 1
  isWishlisted : Bool := false
  /-- `quantity > 1 ? … : null`, as of the last build. -/
  minusEnabled : Bool := false
  deriving DecidableEq, Repr

/-- The cart page as built: `itemCount` rows, of which those in `rows` have been produced by
`itemBuilder` so far, each at an index and for a `CartItem` object. -/
structure CartView where
  itemCount : Nat
  /-- `cartTotal`, shown only above a non-empty cart. -/
  total : ℚ
  rows : List (Nat × Nat) := []
  deriving DecidableEq, Repr

/-- `build` of the cart page; the rows follow one by one. -/
def CartView.build (globalCart : Cart) : CartView where
  itemCount := globalCart.length
  total := globalCart.cartTotal

/-- `itemBuilder` for one row. Past the end of the cart it throws and the row is lost. -/
def CartView.buildRow (view : CartView) (globalCart : Cart) (index : Nat) : CartView :=
  let others := view.rows.filter fun row => row.1 != index
  match globalCart[index]? with
  | some item => { view with rows := (index, item.ref) :: others }
  | none => { view with rows := others }

structure CheckoutState where
  totalAmount : ℚ
  selectedPaymentMethod : String := "Cash on Delivery"
  deriving DecidableEq, Repr

structure EditProfileState where
  name : String := ""
  phone : String := ""
  address : String := ""
  isLoading : Bool := false
  /-- The form, not the progress indicator, was built. -/
  formShown : Bool := true
  deriving DecidableEq, Repr

inductive Page
  | splash
  | login (state : LoginState)
  | signup
  | home
  | category
  | productList (categoryFilter : Option String) (navIndex : Nat)
  | search (navIndex : Nat)
  | product (state : ProductState)
  | cart (view : CartView)
  | checkout (state : CheckoutState)
  /-- The 'Order Placed Successfully!' dialog, a route of its own. -/
  | orderDialog
  | profile
  | myOrders
  | wishlist
  | editProfile (state : EditProfileState)
  | settings
  | contactUs
  deriving DecidableEq, Repr

/-- A route of the navigator. `dirty` is set by `setState` and cleared by the rebuild. -/
structure Route where
  id : Nat
  page : Page
  dirty : Bool := false
  deriving DecidableEq, Repr

/-- A suspended handler: its pending call and the route of the page it belongs to. -/
structure Call where
  id : Nat
  page : Nat
  point : Await
  deriving DecidableEq, Repr

/-- The outcome is one the call can have. -/
def Call.canEnd (call : Call) : Outcome → Bool
  | .success response => call.point.expects response
  | _ => true

structure App where
  now : Nat
  currentUser : Option Uid
  /-- Topmost route first. -/
  stack : List Route
  globalCart : Cart
  pending : List Call
  orders : List OrderDoc
  deriving DecidableEq, Repr

/-- The app once Firebase is initialised. A user may still be signed in from an earlier
process, but `SplashScreen` leads to `LoginPage` all the same. -/
def App.init (currentUser : Option Uid) (orders : List OrderDoc) : App where
  now := 0
  currentUser
  stack := [{ id := 0, page := .splash }]
  globalCart := []
  pending := []
  orders

inductive MenuItem
  | myOrders
  | wishlist
  | editProfile
  | settings
  | contactUs
  deriving DecidableEq, Repr

inductive Event
  | splashTimeout
  | tapLogin
  | tapCreateAccount
  | tapGetStarted
  /-- System Back, the app bar's back button and the 'Login' link of `SignupPage`. -/
  | back
  | tapNav (index : Nat)
  | tapSearch
  | tapCategory (categoryName : String)
  | tapProduct (product : Product)
  | tapHeart
  | tapPlus
  | tapMinus
  | tapAddToCart
  /-- The list view runs `itemBuilder` for one row. -/
  | buildRow (index : Nat)
  | tapDelete (index : Nat)
  | tapProceed
  | selectPayment (value : String)
  | tapConfirm
  | tapBackToHome
  | tapMenu (item : MenuItem)
  | tapLogout
  | typeLogin (email password : String)
  | typeProfile (name phone address : String)
  | tapSave
  | frame
  | answer (call : Nat) (outcome : Outcome)
  deriving DecidableEq, Repr

/-- An event and the time it happens at. -/
structure Timed where
  time : Nat
  event : Event
  deriving DecidableEq, Repr

namespace Page

def ofDestination : Destination → Page
  | .home => .home
  | .login => .login {}

/-- `MainNavigationPage`; a fresh cart page is built from the cart as it is. -/
def ofNavIndex (globalCart : Cart) : Nat → Option Page
  | 0 => some .home
  | 1 => some .category
  | 2 => some (.cart (.build globalCart))
  | 3 => some .profile
  | _ => none

def ofMenuItem : MenuItem → Page
  | .myOrders => .myOrders
  | .wishlist => .wishlist
  | .editProfile => .editProfile {}
  | .settings => .settings
  | .contactUs => .contactUs

/-- `selectedIndex` of the page's `CustomNavBar`, if it has one. -/
def navBar : Page → Option Nat
  | .home => some 0
  | .category => some 1
  | .productList _ navIndex => some navIndex
  | .search navIndex => some navIndex
  | .product state => some state.navIndex
  | .cart _ => some 2
  | .profile => some 3
  | _ => none

/-- The products the page can list, each opening its `ProductDescriptionPage` with the given
`navIndex`. Which of them `SearchPage` and `WishlistPage` list depends on the text and the
documents; both take them from the catalogue. -/
def shownProducts : Page → List Product × Nat
  | .home => (popularProducts, 0)
  | .productList categoryFilter navIndex => (listedProducts demoProducts categoryFilter, navIndex)
  | .search navIndex => (demoProducts, navIndex)
  | .wishlist => (demoProducts, 3)
  | _ => ([], 0)

/-- The handlers' `setState` bodies. -/
def apply : LocalUpdate → Page → Page
  | .isLoading value, .login state => .login { state with isLoading := value }
  | .isLoading value, .editProfile state => .editProfile { state with isLoading := value }
  | .isWishlisted value, .product state => .product { state with isWishlisted := value }
  | .flipWishlisted, .product state =>
    .product { state with isWishlisted := !state.isWishlisted }
  | .controllers name phone address, .editProfile state =>
    .editProfile { state with name, phone, address }
  | _, page => page

/-- `build`, for the pages whose later taps depend on what it read. -/
def rebuild (globalCart : Cart) : Page → Page
  | .login state => .login { state with buttonEnabled := !state.isLoading }
  | .product state => .product { state with minusEnabled := decide (1 < state.quantity) }
  | .cart _ => .cart (.build globalCart)
  | .editProfile state => .editProfile { state with formShown := !state.isLoading }
  | page => page

end Page

/-! ### One turn of the event loop -/

/-- The routes and the cart during a turn, and the handlers suspended in it so far. -/
structure Turn where
  /-- Topmost route first. -/
  stack : List Route
  globalCart : Cart
  started : List Call := []
  deriving DecidableEq, Repr

namespace Turn

/-- `mounted` of a page's State, with no exit transitions. -/
def mounted (turn : Turn) (page : Nat) : Bool := turn.stack.any fun route => route.id == page

/-- Change one page without a rebuild. -/
def edit (turn : Turn) (id : Nat) (update : Page → Page) : Turn :=
  { turn with stack := turn.stack.map fun route =>
      if route.id = id then { route with page := update route.page } else route }

/-- `setState` on one page: it is rebuilt at the next frame. -/
def setState (turn : Turn) (id : Nat) (update : Page → Page) : Turn :=
  { turn with stack := turn.stack.map fun route =>
      if route.id = id then { route with page := update route.page, dirty := true } else route }

def pushReplacement (turn : Turn) (time : Nat) (page : Page) : Turn :=
  { turn with stack := { id := time, page } :: turn.stack.tail }

def pushAndRemoveUntil (turn : Turn) (time : Nat) (page : Page) : Turn :=
  { turn with stack := [{ id := time, page }] }

/-- One effect of a handler of route `id` whose page is there to be used. -/
def perform (turn : Turn) (time id : Nat) : Effect → Turn
  -- the new route is named by the time of the event that opens it
  | .setState update => turn.setState id (Page.apply update)
  | .pushReplacement destination => turn.pushReplacement time (.ofDestination destination)
  | .pushAndRemoveUntil destination => turn.pushAndRemoveUntil time (.ofDestination destination)
  -- `Navigator.pop` closes the topmost route, whichever page's context it is called with
  | .pop => { turn with stack := turn.stack.tail }
  | .showDialog => { turn with stack := { id := time, page := .orderDialog } :: turn.stack }
  | .showSnackBar _ => turn
  | .clearCart => { turn with globalCart := [] }

/-- Using a page that is gone throws, so it changes nothing. -/
def applyEffect (time id : Nat) (turn : Turn) (effect : Effect) : Turn :=
  if effect.usesPage && !turn.mounted id then turn else turn.perform time id effect

/-- Run a handler of route `id` up to its first await. -/
def begin (turn : Turn) (time id : Nat) (handler : Handler) : Turn :=
  let turn := handler.start.1.foldl (applyEffect time id) turn
  { turn with started := { id := time, page := id, point := handler.start.2 } :: turn.started }

/-- `Navigator.push`, and the handler that the new page's `initState` starts. -/
def push (turn : Turn) (time : Nat) (currentUser : Option Uid) (page : Page) : Turn :=
  let turn := { turn with stack := { id := time, page } :: turn.stack }
  match page, currentUser with
  -- `_loadWishlistState` and `_loadCurrentData` return at once without a user
  | .product _, some _ => turn.begin time time .loadWishlistState
  | .editProfile _, some _ => turn.begin time time .loadCurrentData
  | _, _ => turn

/-- The taps on the topmost page. -/
def tap (turn : Turn) (time : Nat) (currentUser : Option Uid) (event : Event) (top : Route) :
    Option Turn :=
  match event, top.page with
  -- SplashScreen, LoginPage and SignupPage
  | .splashTimeout, .splash => some (turn.pushReplacement time (.login {}))
  | .tapLogin, .login state =>
    if state.buttonEnabled then
      if state.isLoading then some turn else some (turn.begin time top.id .login)
    else none
  | .tapCreateAccount, .login _ => some (turn.push time currentUser .signup)
  | .tapGetStarted, .signup => some (turn.begin time top.id .signup)
  -- CustomNavBar: `if (index == selectedIndex) return`
  | .tapNav index, page =>
    match page.navBar, Page.ofNavIndex turn.globalCart index with
    | some selectedIndex, some next =>
      if selectedIndex = index then some turn else some (turn.pushAndRemoveUntil time next)
    | _, _ => none
  -- the pages that list products
  | .tapSearch, .home => some (turn.push time currentUser (.search 0))
  | .tapCategory categoryName, .category =>
    if categoryName ∈ categoryNames then
      some (turn.push time currentUser (.productList (some categoryName) 1))
    else none
  | .tapProduct product, page =>
    if product ∈ page.shownProducts.1 then
      some (turn.push time currentUser (.product { product, navIndex := page.shownProducts.2 }))
    else none
  -- ProductDescriptionPage
  | .tapHeart, .product _ =>
    match currentUser with
    | some _ => some (turn.begin time top.id .toggleWishlist)
    | none => some turn
  | .tapPlus, .product state =>
    some (turn.setState top.id fun _ => .product { state with quantity := state.quantity + 1 })
  | .tapMinus, .product state =>
    if state.minusEnabled then
      some (turn.setState top.id fun _ => .product { state with quantity := state.quantity - 1 })
    else none
  | .tapAddToCart, .product state =>
    some { turn with globalCart := turn.globalCart.addToCart time state.product state.quantity }
  -- CartPage: the list view builds rows late, from the count of the last build
  | .buildRow index, .cart view =>
    if top.dirty = false ∧ index < view.itemCount then
      some (turn.edit top.id fun _ => .cart (view.buildRow turn.globalCart index))
    else none
  | .tapDelete index, .cart view =>
    if view.rows.any fun row => row.1 == index then
      match turn.globalCart.removeItem index with
      | some globalCart => some ({ turn with globalCart }.setState top.id fun page => page)
      -- `removeAt` throws before `setState` marks the page
      | none => some turn
    else none
  -- the route's builder reads `cartTotal` once
  | .tapProceed, .cart view =>
    if 0 < view.itemCount then
      some (turn.push time currentUser (.checkout { totalAmount := turn.globalCart.cartTotal }))
    else none
  | .selectPayment value, .checkout state =>
    some (turn.setState top.id fun _ => .checkout { state with selectedPaymentMethod := value })
  | .tapConfirm, .checkout state =>
    let doc := placeOrder currentUser turn.globalCart state.totalAmount time
    some (turn.begin time top.id (.placeOrder doc))
  -- the success dialog and ProfilePage
  | .tapBackToHome, .orderDialog => some (turn.pushAndRemoveUntil time .home)
  | .tapMenu item, .profile => some (turn.push time currentUser (.ofMenuItem item))
  | .tapLogout, .profile => some (turn.begin time top.id .logout)
  -- the controllers change without a rebuild
  | .typeLogin email password, .login state =>
    some (turn.edit top.id fun _ => .login { state with email, password })
  | .typeProfile name phone address, .editProfile state =>
    if state.formShown then
      some (turn.edit top.id fun _ => .editProfile { state with name, phone, address })
    else none
  | .tapSave, .editProfile state =>
    if state.formShown then some (turn.begin time top.id .updateData) else none
  | _, _ => none

/-- Rebuild the pages whose `setState` was called since the last frame. -/
def rebuildDirty (turn : Turn) : Turn :=
  { turn with stack := turn.stack.map fun route =>
      if route.dirty then
        { route with page := route.page.rebuild turn.globalCart, dirty := false }
      else route }

end Turn

/-! ### The machine -/

namespace App

def turn (s : App) : Turn where
  stack := s.stack
  globalCart := s.globalCart

/-- The app after a turn. -/
def after (s : App) (turn : Turn) : App :=
  { s with
    stack := turn.stack
    globalCart := turn.globalCart
    pending := turn.started ++ s.pending }

/-- What a finished call changed on Firebase's side. -/
def commit (s : App) : Await → Outcome → App
  | .signIn, .success (.user uid) | .createUser, .success (.user uid) =>
    { s with currentUser := some uid }
  | .signOut, .success _ => { s with currentUser := none }
  | .addOrder doc, .success _ => { s with orders := s.orders ++ [doc] }
  | _, _ => s

/-- The segment of a handler that follows the end of its pending call. -/
def segment (s : App) (time : Nat) (call : Call) (outcome : Outcome) : Turn :=
  let result := resume call.point (s.turn.mounted call.page) outcome
  let turn := result.1.foldl (Turn.applyEffect time call.page) s.turn
  match result.2 with
  | some next => { turn with started := [{ id := time, page := call.page, point := next }] }
  | none => turn

/-- The answer to a pending call: its effect on Firebase, then the handler's next segment. -/
def answer (s : App) (time id : Nat) (outcome : Outcome) : Option App :=
  match s.pending.find? fun call => call.id == id with
  | none => none
  | some call =>
    if call.canEnd outcome then
      -- the handler resumes in the state its own call left
      let s := { s with pending := s.pending.filter fun other => other.id != id }
      some ((s.commit call.point outcome).after (s.segment time call outcome))
    else none

/-- One event. Back on the last route leaves the app and is not an event of it. -/
def step (s : App) (e : Timed) : Option App :=
  if s.now < e.time then
    let s := { s with now := e.time }
    match e.event, s.stack with
    | .frame, _ => some (s.after s.turn.rebuildDirty)
    | .answer call outcome, _ => s.answer e.time call outcome
    | .back, _ :: below :: rest => some (s.after { s.turn with stack := below :: rest })
    | .back, _ => none
    | event, top :: _ => (s.turn.tap e.time s.currentUser event top).map s.after
    | _, [] => none
  else none

end App

/-- The app as a machine. -/
def app : Machine App Timed := ⟨App.step⟩

/-- The given events one a tick, from tick 1 on. -/
def schedule (events : List Event) : List Timed :=
  events.mapIdx fun index event => ⟨index + 1, event⟩

end CartX
