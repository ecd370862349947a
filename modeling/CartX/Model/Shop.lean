import CartX.Machine.Run
import CartX.Model.Cart

/-!
# Shopping over any catalogue

The product page, the cart and what changes them, over a catalogue that is a
parameter: `App.lean` has the shipped one. A product page shows what its last
build computed; the quantity changes at once and the page is rebuilt at the
next frame.
-/

namespace CartX

structure ProductPage where
  product : Product
  quantity : Int := 1
  /-- `quantity` as of the last build, which the total and the minus button are from. -/
  built : Int := 1
  deriving DecidableEq, Repr

/-- The 'Total Price' on the page. -/
def ProductPage.totalPrice (page : ProductPage) : ℚ := page.product.price * page.built

structure Shop where
  /-- The open product page; the cart page is only reached by leaving it. -/
  page : Option ProductPage := none
  globalCart : Cart := []
  /-- The name of the next `CartItem` object. -/
  next : Nat := 0
  deriving DecidableEq, Repr

inductive ShopEvent
  | openProduct (product : Product)
  | plus
  | minus
  | frame
  | addToCart
  | leave
  | removeItem (index : Nat)
  /-- A pending order succeeds: `globalCart.clear()`. -/
  | orderCompleted
  deriving DecidableEq, Repr

namespace Shop

def step (demoProducts : List Product) (s : Shop) : ShopEvent → Option Shop
  | .openProduct product =>
    if product ∈ demoProducts then some { s with page := some { product } } else none
  | .plus => s.page.map fun page => { s with page := some { page with quantity := page.quantity + 1 } }
  -- the button of the last build
  | .minus => s.page.bind fun page =>
    if 1 < page.built then
      some { s with page := some { page with quantity := page.quantity - 1 } }
    else none
  | .frame => some { s with page := s.page.map fun page => { page with built := page.quantity } }
  | .addToCart => s.page.map fun page =>
    { s with
      globalCart := s.globalCart.addToCart s.next page.product page.quantity
      next := s.next + 1 }
  | .leave => some { s with page := none }
  | .removeItem index =>
    match s.page, s.globalCart.removeItem index with
    | some _, _ => none
    | none, some globalCart => some { s with globalCart }
    -- `removeAt` throws
    | none, none => some s
  | .orderCompleted => some { s with globalCart := [] }

end Shop

def shop (demoProducts : List Product) : Machine Shop ShopEvent := ⟨Shop.step demoProducts⟩

end CartX
