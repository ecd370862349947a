import CartX.Model.Cart

/-!
# The asynchronous page handlers

Each handler of the app runs on its page's isolate in segments: it runs without
interruption up to an `await` on Firebase, is suspended there, and runs on when
the answer arrives. A suspended handler is an `Await`; `resume` is the segment
that follows it. A segment is the list of things the handler does, in order,
with the `mounted` checks of the source taken and the exceptions it lets through
ending it.

What a handler sends to Firebase is a separate definition where some other part
of the model reads it (`placeOrder`, `SignupForm.userDoc`, `toggleWishlist`).
-/

namespace CartX

abbrev Uid := String

/-- A document of the `orders` collection. -/
structure OrderDoc where
  buyerId : String
  amount : ℚ
  orderDate : Nat
  itemSummary : String
  deriving DecidableEq, Repr

/-- The three fields `_loadCurrentData` reads; a field may hold `null`. -/
structure ProfileData where
  name : Option String
  phone : Option String
  address : Option String
  deriving DecidableEq, Repr

/-- What Firebase returns to a handler. -/
inductive Response
  | done
  | user (uid : Uid)
  | wish (exists_ : Bool)
  | profile (data : Option ProfileData)
  deriving DecidableEq, Repr

/-- How an awaited call ends. The handlers tell `FirebaseAuthException` apart from the rest. -/
inductive Outcome
  | success (response : Response)
  | authException (message : Option String)
  | exception
  deriving DecidableEq, Repr

def Outcome.succeeded : Outcome → Bool
  | .success _ => true
  | _ => false

/-- The points at which a handler is suspended. -/
inductive Await
  | signIn
  | createUser
  | setUser
  | getUser
  | updateUser
  | getWish
  | writeWish
  | addOrder (doc : OrderDoc)
  | signOut
  deriving DecidableEq, Repr

/-- The shape of the answer each call is given. -/
def Await.expects : Await → Response → Bool
  | .signIn, .user _ | .createUser, .user _ => true
  -- a get returns a document, the writes return nothing
  | .getWish, .wish _ | .getUser, .profile _ => true
  | .setUser, .done | .updateUser, .done | .writeWish, .done | .addOrder _, .done
  | .signOut, .done => true
  | _, _ => false

/-- The bodies of the handlers' `setState` calls. -/
inductive LocalUpdate
  | isLoading (value : Bool)
  | isWishlisted (value : Bool)
  | flipWishlisted
  | controllers (name phone address : String)
  deriving DecidableEq, Repr

/-- The pages a handler navigates to. -/
inductive Destination
  | home
  | login
  deriving DecidableEq, Repr

inductive Effect
  | setState (update : LocalUpdate)
  | pushReplacement (page : Destination)
  | pushAndRemoveUntil (page : Destination)
  | pop
  | showSnackBar (content : String)
  | showDialog
  | clearCart
  deriving DecidableEq, Repr

/-- `setState` and everything looked up through the page's `context`. -/
def Effect.usesPage : Effect → Bool
  | .clearCart => false
  | _ => true

/-- `if (mounted) { … }`. -/
def whenMounted (mounted : Bool) (effects : List Effect) : List Effect :=
  if mounted then effects else []

/-- The `finally` block of `_login`. -/
def loginFinally (mounted : Bool) : List Effect :=
  whenMounted mounted [.setState (.isLoading false)]

/-- The `on FirebaseAuthException` block of `_signup`; other exceptions pass through. -/
def signupCatch : Outcome → List Effect
  | .authException message => [.showSnackBar (message.getD "Signup failed.")]
  | _ => []

/-- The segment that runs when the awaited call ends, and the next call it awaits. -/
def resume (point : Await) (mounted : Bool) (outcome : Outcome) : List Effect × Option Await :=
  match point, outcome with
  -- _login
  | .signIn, .success _ =>
    (whenMounted mounted [.pushReplacement .home] ++ loginFinally mounted, none)
  | .signIn, .authException message =>
    -- no mounted check before ScaffoldMessenger.of(context)
    (.showSnackBar (message.getD "Login Failed") :: loginFinally mounted, none)
  -- passed on, after the `finally` block
  | .signIn, .exception => (loginFinally mounted, none)
  -- _signup; once the account exists, its document is next
  | .createUser, .success _ => ([], some .setUser)
  | .createUser, failure => (signupCatch failure, none)
  | .setUser, .success _ => (whenMounted mounted [.pushAndRemoveUntil .home], none)
  | .setUser, failure => (signupCatch failure, none)
  -- _loadCurrentData
  | .getUser, .success (.profile (some data)) =>
    -- no mounted check before the first setState here nor in _updateData
    ([.setState (.controllers (data.name.getD "") (data.phone.getD "") (data.address.getD ""))], none)
  -- _updateData
  | .updateUser, .success _ =>
    (.setState (.isLoading false) ::
      whenMounted mounted [.pop, .showSnackBar "Profile Updated!"], none)
  -- _loadWishlistState
  | .getWish, .success (.wish exists_) =>
    (whenMounted mounted [.setState (.isWishlisted exists_)], none)
  -- _toggleWishlist
  | .writeWish, .success _ => (whenMounted mounted [.setState .flipWishlisted], none)
  -- _placeOrder; the cart is cleared whether the page is there or not
  | .addOrder _, .success _ => (.clearCart :: whenMounted mounted [.showDialog], none)
  -- _logout
  | .signOut, .success _ => (whenMounted mounted [.pushAndRemoveUntil .login], none)
  -- an exception nobody catches ends the handler; a missing document skips the setState
  | _, _ => ([], none)

/-! ### The handlers up to their first await -/

/-- A call of a handler that gets as far as its first `await`: past `if (_isLoading) return`
in `_login` and `if (user == null) return` in the three that ask for the user. -/
inductive Handler
  | login
  | signup
  | loadCurrentData
  | updateData
  | loadWishlistState
  | toggleWishlist
  | placeOrder (doc : OrderDoc)
  | logout
  deriving DecidableEq, Repr

def Handler.start : Handler → List Effect × Await
  | .login => ([.setState (.isLoading true)], .signIn)
  | .signup => ([], .createUser)
  | .loadCurrentData => ([], .getUser)
  | .updateData => ([.setState (.isLoading true)], .updateUser)
  | .loadWishlistState => ([], .getWish)
  | .toggleWishlist => ([], .writeWish)
  | .placeOrder doc => ([], .addOrder doc)
  | .logout => ([], .signOut)

/-- The document `_placeOrder` submits: the cart is read for its summary only, the amount is
the one the checkout page was built with. -/
def placeOrder (currentUser : Option Uid) (globalCart : Cart) (totalAmount : ℚ) (now : Nat) :
    OrderDoc where
  buyerId := currentUser.getD "unknown"
  amount := totalAmount
  orderDate := now
  itemSummary :=
    if globalCart.isEmpty then "Order Details"
    else toString globalCart.length ++ " Items Ordered"

end CartX
