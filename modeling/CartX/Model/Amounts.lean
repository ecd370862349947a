import CartX.Model.App
import CartX.Numbers.Binary64

/-!
# The amounts in doubles

The amounts of the pages as the program computes them: prices are binary64 numbers,
quantities are converted to such, and every product and every sum is rounded.
-/

namespace CartX

/-- `product.price * quantity`. -/
def amount64 (product : Product) (quantity : Int) : ℚ :=
  Binary64.mul product.price (Binary64.round quantity)

def CartItem.lineTotal64 (item : CartItem) : ℚ := amount64 item.product item.quantity

def Cart.cartTotal64 (globalCart : Cart) : ℚ :=
  globalCart.foldl (fun total current => Binary64.add total current.lineTotal64) 0

/-- The 'Total Price' of a product page with this quantity. -/
def ProductState.totalPrice64 (state : ProductState) : ℚ := amount64 state.product state.quantity

end CartX
