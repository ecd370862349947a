import CartX.Model.Products
import Mathlib.Algebra.Field.Rat
import Mathlib.Data.List.Nodup

/-!
# The cart

`globalCart` of `lib/Waseq/cart_manager.dart` and the three functions that
change it: `_addToCart` of the product page, `_removeItem` of the cart page and
the `clear()` of a completed order.

A `CartItem` is an object that the rows of the cart page keep hold of, so it
carries an identity `ref`. The quantity is a Dart `int`: nothing in the program
keeps it positive.
-/

namespace CartX

structure CartItem where
  ref : Nat
  product : Product
  quantity : Int
  deriving DecidableEq, Repr

/-- `price * quantity`, the amount of one row. -/
def CartItem.lineTotal (item : CartItem) : ℚ := item.product.price * item.quantity

abbrev Cart := List CartItem

namespace Cart

/-- `_addToCart`: the first entry with the product's name takes the quantity, else a new
object `ref` is appended. -/
def addToCart (globalCart : Cart) (ref : Nat) (product : Product) (quantity : Int) : Cart :=
  match globalCart.findIdx? fun item => item.product.name == product.name with
  -- the first match only, by name
  | some existingIndex => globalCart.modify existingIndex fun item =>
      { item with quantity := item.quantity + quantity }
  | none => globalCart ++ [{ ref, product, quantity }]

/-- `List.removeAt` throws a `RangeError` outside the list. -/
def removeItem (globalCart : Cart) (index : Nat) : Option Cart :=
  if index < globalCart.length then some (globalCart.eraseIdx index) else none

def cartTotal (globalCart : Cart) : ℚ :=
  globalCart.foldl (fun total current => total + current.lineTotal) 0

/-! ### `_addToCart` along the list -/

@[simp] theorem addToCart_nil (ref : Nat) (product : Product) (quantity : Int) :
    addToCart [] ref product quantity = [⟨ref, product, quantity⟩] := rfl

theorem addToCart_cons (item : CartItem) (rest : Cart) (ref : Nat) (product : Product)
    (quantity : Int) :
    addToCart (item :: rest) ref product quantity =
      if item.product.name = product.name then
        { item with quantity := item.quantity + quantity } :: rest
      else item :: addToCart rest ref product quantity := by
  -- the search stops at the head or goes on in the tail, one index further
  simp only [addToCart, List.findIdx?_cons]
  by_cases same : item.product.name = product.name
  · simp [same]
  · simp only [beq_iff_eq, same, if_false]
    cases rest.findIdx? (fun item => item.product.name == product.name) <;> simp

/-- Either an entry of that name grows in place, or a new entry is appended. -/
theorem addToCart_cases (cart : Cart) (ref : Nat) (product : Product) (quantity : Int) :
    (∃ front item back, cart = front ++ item :: back ∧ item.product.name = product.name ∧
      (∀ other ∈ front, other.product.name ≠ product.name) ∧
      addToCart cart ref product quantity =
        front ++ { item with quantity := item.quantity + quantity } :: back) ∨
    ((∀ other ∈ cart, other.product.name ≠ product.name) ∧
      addToCart cart ref product quantity = cart ++ [⟨ref, product, quantity⟩]) := by
  -- along the list, to the first entry of that name
  induction cart with
  | nil => exact .inr ⟨by simp, rfl⟩
  | cons first rest ih =>
    rw [addToCart_cons]
    by_cases same : first.product.name = product.name
    · exact .inl ⟨[], first, rest, rfl, same, by simp, by simp [same]⟩
    · rcases ih with ⟨front, item, back, split, name, fresh, added⟩ | ⟨fresh, added⟩
      · refine .inl ⟨first :: front, item, back, by simp [split], name, ?_, by simp [same, added]⟩
        simpa [same] using fresh
      · exact .inr ⟨by simpa [same] using fresh, by simp [same, added]⟩

/-- No object leaves the cart, and at most the new one joins it. -/
theorem addToCart_refs (cart : Cart) (ref : Nat) (product : Product) (quantity : Int) :
    (addToCart cart ref product quantity).map CartItem.ref = cart.map CartItem.ref ∨
    (addToCart cart ref product quantity).map CartItem.ref = cart.map CartItem.ref ++ [ref] := by
  rcases addToCart_cases cart ref product quantity with ⟨_, _, _, split, _, _, added⟩ | ⟨_, added⟩
  · exact .inl (by rw [added, split]; simp)
  · exact .inr (by rw [added]; simp)

/-! ### `_removeItem` -/

theorem removeItem_eq_some_iff {cart cart' : Cart} {index : Nat} :
    removeItem cart index = some cart' ↔
      ∃ front item back, cart = front ++ item :: back ∧ front.length = index ∧
        cart' = front ++ back := by
  simp only [removeItem]
  constructor
  · intro removed
    split at removed
    next inside =>
      refine ⟨cart.take index, cart[index], cart.drop (index + 1), ?_, ?_, ?_⟩
      · rw [List.getElem_cons_drop, List.take_append_drop]
      · simp [Nat.le_of_lt inside]
      · rw [← List.eraseIdx_eq_take_drop_succ]
        exact (Option.some.inj removed).symm
    · cases removed
  · rintro ⟨front, item, back, rfl, rfl, rfl⟩
    simp [List.eraseIdx_append_of_length_le]

theorem removeItem_isSome_iff {cart : Cart} {index : Nat} :
    (removeItem cart index).isSome ↔ index < cart.length := by
  unfold removeItem
  split <;> simp_all

/-! ### `cartTotal` -/

theorem cartTotal_eq_sum (cart : Cart) :
    cartTotal cart = (cart.map CartItem.lineTotal).sum := by
  -- `fold` adds from the left, so the induction is for every start
  have general (start : ℚ) : cart.foldl (fun total current => total + current.lineTotal) start =
      start + (cart.map CartItem.lineTotal).sum := by
    induction cart generalizing start with
    | nil => simp
    | cons item rest ih => simp [ih, add_assoc]
  simpa [cartTotal] using general 0

end Cart
end CartX
