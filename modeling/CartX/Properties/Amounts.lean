import CartX.Model.Amounts
import CartX.Properties.Storefront
import Mathlib.Algebra.BigOperators.Ring.List
import Mathlib.Algebra.Order.BigOperators.Group.List

/-!
# The amounts are exact

The model computes amounts as rationals, the program with doubles. The prices of the
catalogue are whole and at most 9000, and each tap changes a quantity by one at most, so
for a million events no amount leaves the whole numbers that doubles hold exactly.
-/

namespace CartX

/-- The pieces in the cart. -/
def Cart.units (globalCart : Cart) : Nat := (globalCart.map fun item => item.quantity.natAbs).sum

theorem demoProducts_whole : ∀ product ∈ demoProducts,
    product.price = product.price.num ∧ product.price.num.natAbs ≤ 9000 := by decide +kernel

section Exact

variable {product : Product} {quantity : Int} {cart : Cart}

/-- The amount as a whole number. -/
def wholeAmount (product : Product) (quantity : Int) : Int := product.price.num * quantity

theorem wholeAmount_le (listed : product ∈ demoProducts) (quantity : Int) :
    (wholeAmount product quantity).natAbs ≤ 9000 * quantity.natAbs := by
  rw [wholeAmount, Int.natAbs_mul]
  exact Nat.mul_le_mul_right _ (demoProducts_whole product listed).2

theorem wholeAmount_cast (listed : product ∈ demoProducts) :
    (wholeAmount product quantity : ℚ) = product.price * quantity := by
  rw [wholeAmount, Int.cast_mul, ← (demoProducts_whole product listed).1]

theorem amount64_eq (listed : product ∈ demoProducts) (few : 9000 * quantity.natAbs ≤ 2 ^ 53) :
    amount64 product quantity = wholeAmount product quantity := by
  have small := wholeAmount_le listed quantity
  rw [amount64, Binary64.round_int (by omega), (demoProducts_whole product listed).1,
    Binary64.mul_int (small.trans few)]
  rfl

theorem Cart.units_le {item : CartItem} (member : item ∈ cart) : item.quantity.natAbs ≤ cart.units :=
  List.single_le_sum (by simp) _ (List.mem_map_of_mem member)

theorem Cart.cartTotal64_eq (stocked : ∀ item ∈ cart, item.product ∈ demoProducts)
    (few : 9000 * cart.units ≤ 2 ^ 53) : cart.cartTotal64 = cart.cartTotal := by
  -- line by line the amounts are whole
  have lines : cart.cartTotal64 = cart.foldl
      (fun total item => Binary64.add total (wholeAmount item.product item.quantity)) 0 := by
    apply List.foldl_ext
    intro total item member
    have units := Cart.units_le member
    rw [CartItem.lineTotal64, amount64_eq (stocked item member) (by omega)]
  have whole : cart.cartTotal = cart.foldl
      (fun total item => total + (wholeAmount item.product item.quantity : ℚ)) 0 := by
    apply List.foldl_ext
    intro total item member
    rw [CartItem.lineTotal, wholeAmount_cast (stocked item member)]
  have small : (cart.map fun item => (wholeAmount item.product item.quantity).natAbs).sum ≤
      9000 * cart.units := by
    rw [Cart.units, ← List.sum_map_mul_left]
    exact List.sum_le_sum fun item member => wholeAmount_le (stocked item member) _
  rw [lines, whole]
  exact Binary64.foldl_add (fun item : CartItem => wholeAmount item.product item.quantity) cart 0
    (by simpa using small.trans few)

end Exact

/-! ### Quantities after so many events -/

structure App.Counted (count : Nat) (s : App) : Prop where
  selected : ∀ route ∈ s.stack, ∀ state, route.page = .product state → state.quantity.natAbs ≤ count
  added : s.globalCart.units ≤ count * count

section Counted

variable {s s' : App} {e : Timed} {count : Nat} {cart cart' : Cart}

theorem Cart.units_append (front back : Cart) :
    Cart.units (front ++ back) = front.units + back.units := by
  simp [Cart.units]

theorem Cart.units_addToCart (cart : Cart) (ref : Nat) (product : Product) (quantity : Int) :
    (cart.addToCart ref product quantity).units ≤ cart.units + quantity.natAbs := by
  rcases cart.addToCart_cases ref product quantity with ⟨front, item, back, rfl, _, _, grown⟩ |
    ⟨_, appended⟩
  · have larger := Int.natAbs_add_le item.quantity quantity
    rw [grown, Cart.units_append, Cart.units_append]
    simp only [Cart.units, List.map_cons, List.sum_cons]
    omega
  · rw [appended, Cart.units_append]
    simp [Cart.units]

theorem Cart.units_removeItem {index : Nat} (removed : cart.removeItem index = some cart') :
    cart'.units ≤ cart.units := by
  obtain ⟨front, item, back, rfl, _, rfl⟩ := Cart.removeItem_eq_some_iff.mp removed
  rw [Cart.units_append, Cart.units_append]
  simp only [Cart.units, List.map_cons, List.sum_cons]
  omega

/-- An event selects one piece more or less, and adds what was selected. -/
theorem App.Counted.step (wf : WellFormed s) (counted : s.Counted count) (step : s.step e = some s') :
    s'.Counted (count + 1) := by
  constructor
  · intro route' member state' shown
    rcases (App.step_shifted wf step).routes member with ⟨_, fresh⟩ | ⟨route, old, revision⟩
    · simp only [shown, Page.isFresh, Bool.and_eq_true, beq_iff_eq] at fresh
      rw [fresh.1.1]
      exact Nat.succ_pos count
    · obtain ⟨state, was, _, reshown⟩ := (shown ▸ revision.page).reshown
      have before := counted.selected route old state was
      cases reshown with
      | kept quantity | plus quantity | minus _ quantity | rebuilt _ quantity =>
        rw [quantity]
        omega
  · have larger : count * count + count ≤ (count + 1) * (count + 1) := by
      rw [Nat.mul_add, Nat.add_mul]
      omega
    have added := counted.added
    cases App.step_cart step with
    | same keeps =>
      rw [keeps]
      omega
    | added top rest state shape shown _ grown =>
      have selected := counted.selected top (by simp [shape]) state shown
      have more := s.globalCart.units_addToCart e.time state.product state.quantity
      rw [grown]
      omega
    | deleted _ _ _ _ _ _ _ _ removed =>
      have fewer := Cart.units_removeItem removed
      omega
    | cleared _ _ empty =>
      rw [empty]
      exact Nat.zero_le _

theorem counted_of_run {currentUser : Option Uid} {orders : List OrderDoc} {es : List Timed}
    (run : app.Run Machine.Free (App.init currentUser orders) es s) : s.Counted es.length := by
  induction run with
  | nil => exact ⟨by simp [App.init], Nat.zero_le _⟩
  | snoc prior _ step ih =>
    rw [List.length_append]
    exact ih.step (wellFormed_of_run prior) step

end Counted

/-! ### The result -/

/-- In every run of up to a million events the doubles of the program are the numbers of the model:
every amount of a product page, of a row of the cart and of the whole cart comes out exact, and no
quantity leaves the range of the program's integers. -/
theorem amounts_exact_for_a_million_events {currentUser : Option Uid} {orders : List OrderDoc}
    {es : List Timed} {s : App} (run : app.Run Machine.Free (App.init currentUser orders) es s)
    (short : es.length ≤ 1000000) :
    s.globalCart.cartTotal64 = s.globalCart.cartTotal ∧
    (∀ item ∈ s.globalCart, item.lineTotal64 = item.lineTotal ∧ item.quantity.natAbs < 2 ^ 63) ∧
    ∀ route ∈ s.stack, ∀ state, route.page = .product state →
      state.totalPrice64 = state.product.price * state.quantity ∧ state.quantity.natAbs < 2 ^ 63 := by
  have stocked := stocked_of_run run
  obtain ⟨selected, added⟩ := counted_of_run run
  have most : es.length * es.length ≤ 1000000 * 1000000 := Nat.mul_le_mul short short
  refine ⟨Cart.cartTotal64_eq stocked (by omega), fun item member => ?_, fun route member state shown => ?_⟩
  · have few := Cart.units_le member
    refine ⟨?_, by omega⟩
    rw [CartItem.lineTotal64, amount64_eq (stocked item member) (by omega),
      wholeAmount_cast (stocked item member), CartItem.lineTotal]
  · have few := selected route member state shown
    have listed := (laid_of_run run).stacked.stocked (App.product_mem member shown)
    refine ⟨?_, by omega⟩
    rw [ProductState.totalPrice64, amount64_eq listed (by omega), wholeAmount_cast listed]

/-- Two pieces of one product and one of another. -/
theorem two_products_amount_exact : ∃ s, app.Run Machine.Free (App.init none [])
      (schedule [.splashTimeout, .tapLogin, .answer 2 (.success (.user "A")), .tapProduct tomato,
        .tapPlus, .frame, .tapAddToCart, .back, .tapProduct backpack, .tapAddToCart]) s ∧
    s.globalCart.cartTotal64 = 2140 := by
  obtain ⟨s, run, total⟩ := Machine.exists_run_of_exec app Machine.Free (App.init none [])
    (schedule [.splashTimeout, .tapLogin, .answer 2 (.success (.user "A")), .tapProduct tomato,
      .tapPlus, .frame, .tapAddToCart, .back, .tapProduct backpack, .tapAddToCart])
    (fun s => s.globalCart.cartTotal == 2140) (by decide +kernel)
  exact ⟨s, run, (amounts_exact_for_a_million_events run (by decide)).1.trans (eq_of_beq total)⟩

end CartX
