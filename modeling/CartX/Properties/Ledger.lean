import CartX.Machine.Observer
import CartX.Model.Cart
import Mathlib.Data.List.Induction

/-!
# The cart as a ledger

The abstract cart is a book of purchases. A purchase counts as long as its
product name's entry has not been removed and the cart not been cleared since
(`live`); the entries of the cart are then the names of the live purchases in
the order of their first purchase, each with the product of its first live
purchase and the sum of the quantities of all of them.

`cart_refines_ledger` shows that every run of `_addToCart`, `_removeItem` and
`clear()` from the empty cart keeps the two in step.
-/

namespace CartX

/-- The operations on `globalCart`. `ref` names the object an add may create. -/
inductive CartOp
  | add (ref : Nat) (product : Product) (quantity : Int)
  | remove (index : Nat)
  | clear
  deriving DecidableEq, Repr

/-- `_removeItem` outside the list throws, so it is not an operation there. -/
def cartMachine : Machine Cart CartOp where
  step globalCart
    | .add ref product quantity => some (globalCart.addToCart ref product quantity)
    | .remove index => globalCart.removeItem index
    | .clear => some []

/-- One tap on Add to Cart. -/
structure Purchase where
  product : Product
  quantity : Int
  deriving DecidableEq, Repr

def Purchase.name (purchase : Purchase) : String := purchase.product.name

/-- A line of the book. A removal is entered under the name of the removed entry. -/
inductive Entry
  | bought (purchase : Purchase)
  | removed (name : String)
  | cleared
  deriving DecidableEq, Repr

/-- The line ends the entry of that name. -/
def Entry.ends (name : String) : Entry → Bool
  | .bought _ => false
  | .removed other => other == name
  | .cleared => true

/-- The purchases, oldest first, whose entry no later line ended. -/
def live : List Entry → List Purchase
  | [] => []
  | .bought purchase :: later =>
    if later.any (Entry.ends purchase.name) then live later else purchase :: live later
  | _ :: later => live later

/-- The book of a run: each operation adds its line. -/
def enter (globalCart : Cart) (op : CartOp) (_ : Cart) (book : List Entry) : List Entry :=
  match op with
  | .add _ product quantity => book ++ [.bought ⟨product, quantity⟩]
  | .remove index => book ++ (globalCart[index]?.map fun item => .removed item.product.name).toList
  | .clear => book ++ [.cleared]

namespace Ledger

/-- The names with a live purchase, in the order of their first one. -/
def names (purchases : List Purchase) : List String := (purchases.map Purchase.name).eraseDups

/-- The purchases of one name. -/
def under (purchases : List Purchase) (name : String) : List Purchase :=
  purchases.filter fun purchase => purchase.name == name

def quantity (purchases : List Purchase) (name : String) : Int :=
  ((under purchases name).map Purchase.quantity).sum

/-- The product of the first purchase of that name. -/
def product? (purchases : List Purchase) (name : String) : Option Product :=
  (under purchases name).head?.map Purchase.product

/-- The sum of price times quantity over the ledger's entries. -/
def total (purchases : List Purchase) : ℚ :=
  ((names purchases).map fun name =>
    (product? purchases name).elim 0 Product.price * quantity purchases name).sum

end Ledger

open Ledger

/-- The cart shows exactly these purchases. -/
structure Refines (purchases : List Purchase) (globalCart : Cart) : Prop where
  order : globalCart.map (fun item => item.product.name) = names purchases
  quantity : ∀ item ∈ globalCart, item.quantity = Ledger.quantity purchases item.product.name
  product : ∀ item ∈ globalCart, product? purchases item.product.name = some item.product

/-! ### Lists without repetitions -/

section EraseDups

variable {α : Type*} [DecidableEq α]

theorem eraseDups_snoc (l : List α) (a : α) :
    (l ++ [a]).eraseDups = if a ∈ l then l.eraseDups else l.eraseDups ++ [a] := by
  -- a repeated element is dropped, a new one goes to the end
  rw [List.eraseDups_append]
  by_cases present : a ∈ l <;> simp [List.removeAll, present, List.eraseDups_cons]

theorem eraseDups_filter (p : α → Bool) (l : List α) :
    (l.filter p).eraseDups = l.eraseDups.filter p := by
  -- from the end, where `eraseDups_snoc` applies
  induction l using List.reverseRecOn with
  | nil => rfl
  | append_singleton l a ih =>
    rw [List.filter_append, eraseDups_snoc]
    -- a dropped element changes neither side, a kept one both alike
    cases keep : p a with
    | false => by_cases present : a ∈ l <;> simp [keep, present, ih]
    | true =>
      simp only [List.filter_cons, keep, List.filter_nil, if_true, eraseDups_snoc, List.mem_filter,
        and_true, ih]
      by_cases present : a ∈ l <;> simp [keep, present]

theorem nodup_eraseDups (l : List α) : l.eraseDups.Nodup := by
  induction l using List.reverseRecOn with
  | nil => simp
  | append_singleton l a ih =>
    rw [eraseDups_snoc]
    split
    · exact ih
    next absent =>
      rw [List.nodup_append]
      refine ⟨ih, List.nodup_singleton a, ?_⟩
      rintro b member c (_ | _) rfl
      · exact absent (List.mem_eraseDups.mp member)
      · contradiction

end EraseDups

/-! ### The book, line by line -/

@[simp] theorem live_bought (book : List Entry) (purchase : Purchase) :
    live (book ++ [.bought purchase]) = live book ++ [purchase] := by
  -- along the book; only a later line can end a purchase
  induction book with
  | nil => simp [live]
  | cons line later ih =>
    cases line with
    | bought first =>
      simp only [List.cons_append, live, List.any_append, List.any_cons, List.any_nil,
        Entry.ends, Bool.or_false, ih]
      split <;> simp
    | _ => simpa [live] using ih

@[simp] theorem live_removed (book : List Entry) (name : String) :
    live (book ++ [.removed name]) = (live book).filter fun purchase => purchase.name != name := by
  induction book with
  | nil => simp [live]
  | cons line later ih =>
    cases line with
    | bought first =>
      simp only [List.cons_append, live, List.any_append, List.any_cons, List.any_nil,
        Entry.ends, Bool.or_false, ih]
      -- already ended, ended by this removal, or still live
      by_cases ended : later.any (Entry.ends first.name)
      · simp [ended]
      · by_cases same : name = first.name
        · simp [ended, same]
        · simp [ended, same, Ne.symm same]
    | _ => simpa [live] using ih

@[simp] theorem live_cleared (book : List Entry) : live (book ++ [.cleared]) = [] := by
  induction book with
  | nil => rfl
  -- a clear ends every purchase before it
  | cons line later ih => cases line <;> simpa [live, Entry.ends] using ih

/-! ### The ledger after one more purchase and after a removal -/

namespace Ledger

theorem mem_names {purchases : List Purchase} {name : String} :
    name ∈ names purchases ↔ ∃ purchase ∈ purchases, purchase.name = name := by
  simp [names, List.mem_eraseDups]

theorem names_snoc (purchases : List Purchase) (purchase : Purchase) :
    names (purchases ++ [purchase]) =
      if purchase.name ∈ names purchases then names purchases
      else names purchases ++ [purchase.name] := by
  simp [names, eraseDups_snoc, List.mem_eraseDups]

theorem names_filter (purchases : List Purchase) (gone : String) :
    names (purchases.filter fun purchase => purchase.name != gone) =
      (names purchases).filter fun name => name != gone := by
  rw [names, names, ← eraseDups_filter, List.filter_map]
  rfl

theorem under_snoc (purchases : List Purchase) (purchase : Purchase) (name : String) :
    under (purchases ++ [purchase]) name =
      under purchases name ++ if purchase.name = name then [purchase] else [] := by
  by_cases same : purchase.name = name <;> simp [under, same]

theorem under_filter {gone name : String} (other : name ≠ gone) (purchases : List Purchase) :
    under (purchases.filter fun purchase => purchase.name != gone) name = under purchases name := by
  rw [under, List.filter_filter]
  apply List.filter_congr
  intro purchase _
  by_cases same : purchase.name = name <;> simp [same, other]

theorem under_eq_nil_iff {purchases : List Purchase} {name : String} :
    under purchases name = [] ↔ name ∉ names purchases := by
  simp [under, mem_names]

theorem quantity_snoc (purchases : List Purchase) (purchase : Purchase) (name : String) :
    quantity (purchases ++ [purchase]) name =
      quantity purchases name + if purchase.name = name then purchase.quantity else 0 := by
  by_cases same : purchase.name = name <;> simp [quantity, under_snoc, same]

theorem product?_snoc_of_mem {purchases : List Purchase} {name : String}
    (present : name ∈ names purchases) (purchase : Purchase) :
    product? (purchases ++ [purchase]) name = product? purchases name := by
  have some_under : under purchases name ≠ [] := fun empty => under_eq_nil_iff.mp empty present
  simp [product?, under_snoc, List.head?_append_of_ne_nil _ some_under]

end Ledger

/-! ### Each operation keeps cart and ledger in step -/

theorem Refines.nodup {purchases : List Purchase} {cart : Cart} (refines : Refines purchases cart) :
    (cart.map fun item => item.product.name).Nodup := by
  rw [refines.order]
  exact nodup_eraseDups _

theorem Refines.empty : Refines [] [] where
  order := rfl
  quantity := by simp
  product := by simp

theorem Refines.add {purchases : List Purchase} {cart : Cart} (refines : Refines purchases cart)
    (ref : Nat) (product : Product) (amount : Int) :
    Refines (purchases ++ [⟨product, amount⟩]) (cart.addToCart ref product amount) := by
  have listed : product.name ∈ names purchases ↔ ∃ item ∈ cart, item.product.name = product.name := by
    rw [← refines.order, List.mem_map]
  rcases Cart.addToCart_cases cart ref product amount with
    ⟨front, item, back, rfl, same, _, added⟩ | ⟨fresh, added⟩
  · -- the entry is there: its name keeps its place and its first product
    have present : product.name ∈ names purchases := listed.mpr ⟨item, by simp, same⟩
    have distinct := refines.nodup
    -- names are distinct, so no other entry has this one's
    have other (entry : CartItem) (member : entry ∈ front ++ back) :
        product.name ≠ entry.product.name := by
      intro equal
      simp only [List.map_append, List.map_cons, List.nodup_append, List.nodup_cons,
        List.mem_map, List.mem_cons] at distinct
      grind
    have kept : ∀ entry ∈ front ++ item :: back,
        product? (purchases ++ [⟨product, amount⟩]) entry.product.name = some entry.product := by
      intro entry member
      have named : entry.product.name ∈ names purchases := by
        rw [← refines.order]
        exact List.mem_map.mpr ⟨entry, member, rfl⟩
      rw [product?_snoc_of_mem named, refines.product entry member]
    rw [added]
    refine ⟨?_, ?_, ?_⟩
    · rw [names_snoc, Purchase.name, if_pos present, ← refines.order]
      simp
    · intro entry member
      rw [quantity_snoc]
      simp only [List.mem_append, List.mem_cons] at member
      rcases member with front_mem | rfl | back_mem
      · simp [Purchase.name, other entry (by simp [front_mem]),
          refines.quantity entry (by simp [front_mem])]
      · simp [Purchase.name, same, refines.quantity item (by simp)]
      · simp [Purchase.name, other entry (by simp [back_mem]),
          refines.quantity entry (by simp [back_mem])]
    · intro entry member
      simp only [List.mem_append, List.mem_cons] at member
      rcases member with front_mem | rfl | back_mem
      · exact kept entry (by simp [front_mem])
      · exact kept item (by simp)
      · exact kept entry (by simp [back_mem])
  · -- a new name goes to the end, with nothing bought under it before
    have absent : product.name ∉ names purchases := by
      rw [listed]
      rintro ⟨item, member, same⟩
      exact fresh item member same
    rw [added]
    refine ⟨?_, ?_, ?_⟩
    · rw [names_snoc, Purchase.name, if_neg absent, ← refines.order]
      simp
    · intro entry member
      rw [quantity_snoc]
      rcases List.mem_append.mp member with old | new
      · simp [Purchase.name, Ne.symm (fresh entry old), refines.quantity entry old]
      · cases List.mem_singleton.mp new
        simp [Purchase.name, Ledger.quantity, under_eq_nil_iff.mpr absent]
    · intro entry member
      rcases List.mem_append.mp member with old | new
      · have named : entry.product.name ∈ names purchases := by
          rw [← refines.order]
          exact List.mem_map.mpr ⟨entry, old, rfl⟩
        rw [product?_snoc_of_mem named, refines.product entry old]
      · cases List.mem_singleton.mp new
        simp [product?, under_snoc, Purchase.name, under_eq_nil_iff.mpr absent]

theorem Refines.remove {purchases : List Purchase} {front back : Cart} {item : CartItem}
    (refines : Refines purchases (front ++ item :: back)) :
    Refines (purchases.filter fun purchase => purchase.name != item.product.name)
      (front ++ back) := by
  have distinct := refines.nodup
  have other (entry : CartItem) (member : entry ∈ front ++ back) :
      entry.product.name ≠ item.product.name := by
    simp only [List.map_append, List.map_cons, List.nodup_append, List.nodup_cons,
      List.mem_map, List.mem_cons] at distinct
    grind
  have before (entry : CartItem) (member : entry ∈ front ++ back) :
      entry ∈ front ++ item :: back := by
    simp only [List.mem_append, List.mem_cons] at member ⊢
    tauto
  refine ⟨?_, ?_, ?_⟩
  · rw [names_filter, ← refines.order]
    simp only [List.map_append, List.map_cons, List.filter_append, List.filter_cons, bne_self_eq_false,
      Bool.false_eq_true, if_false, List.filter_map]
    congr 2 <;> exact (List.filter_eq_self.mpr fun entry member => by
      simpa using other entry (by simp [member])).symm
  · intro entry member
    rw [refines.quantity entry (before entry member), Ledger.quantity, Ledger.quantity,
      under_filter (other entry member)]
  · intro entry member
    rw [product?, under_filter (other entry member)]
    exact refines.product entry (before entry member)

theorem Refines.total {purchases : List Purchase} {cart : Cart} (refines : Refines purchases cart) :
    cart.cartTotal = Ledger.total purchases := by
  rw [Cart.cartTotal_eq_sum, Ledger.total, ← refines.order, List.map_map]
  congr 1
  -- entry by entry: price and quantity are the ledger's
  apply List.map_congr_left
  intro item member
  simp [CartItem.lineTotal, refines.product item member, refines.quantity item member]

/-- Every run keeps the cart in step with the live purchases of its book. -/
theorem refines_of_run {ops : List CartOp} {cart : Cart} {book : List Entry}
    (run : (cartMachine.observe enter).Run Machine.Free ([], []) ops (cart, book)) :
    Refines (live book) cart := by
  refine run.invariant (I := fun state : Cart × List Entry => Refines (live state.2) state.1)
    Refines.empty ?_
  rintro ⟨cart, book⟩ op ⟨cart', book'⟩ refines - step
  obtain ⟨moved, entered⟩ := Machine.observe_step_iff.mp step
  simp only [cartMachine] at moved entered ⊢
  subst entered
  cases op with
  | add ref product quantity =>
    cases moved
    simpa [enter] using refines.add ref product quantity
  | remove index =>
    obtain ⟨front, item, back, rfl, rfl, rfl⟩ := Cart.removeItem_eq_some_iff.mp moved
    simpa [enter] using refines.remove
  | clear =>
    cases moved
    simpa [enter] using Refines.empty

/-! ### The result -/

/-- What the ledger says about a cart: the entries' names are pairwise distinct, they are the
names of the live purchases, each entry has the sum of its purchases' quantities and the
product of the first of them, the entries stand in the order of those first purchases, and
the total is the ledger's. -/
structure ShowsLedger (purchases : List Purchase) (globalCart : Cart) : Prop where
  distinct : (globalCart.map fun item => item.product.name).Nodup
  listed : ∀ name, (∃ item ∈ globalCart, item.product.name = name) ↔
    ∃ purchase ∈ purchases, purchase.name = name
  quantity : ∀ item ∈ globalCart, item.quantity =
    ((purchases.filter fun purchase => purchase.name == item.product.name).map
      Purchase.quantity).sum
  product : ∀ item ∈ globalCart,
    (purchases.find? fun purchase => purchase.name == item.product.name).map Purchase.product =
      some item.product
  order : globalCart.map (fun item => item.product.name) = (purchases.map Purchase.name).eraseDups
  total : globalCart.cartTotal = Ledger.total purchases

/-- The operations that can be carried out from a cart: every add, every clear, and every
removal below the cart's length. -/
theorem cartMachine_enabled_iff (cart : Cart) (op : CartOp) :
    (cartMachine.step cart op).isSome ↔ ∀ index, op = .remove index → index < cart.length := by
  cases op with
  | remove index => simp [cartMachine, Cart.removeItem_isSome_iff]
  | _ => simp [cartMachine]

/-- For every sequence of cart operations from the empty cart, the cart is what the ledger of
those operations says; and every operation on it but a removal past its end can follow. -/
theorem cart_refines_ledger (ops : List CartOp) (cart : Cart) (book : List Entry)
    (run : (cartMachine.observe enter).Run Machine.Free ([], []) ops (cart, book)) :
    ShowsLedger (live book) cart ∧
    ∀ op, (cartMachine.step cart op).isSome ↔ ∀ index, op = .remove index → index < cart.length := by
  have refines := refines_of_run run
  refine ⟨⟨refines.nodup, fun name => ?_, refines.quantity, fun item member => ?_, refines.order,
    refines.total⟩, cartMachine_enabled_iff cart⟩
  · rw [← mem_names, ← refines.order, List.mem_map]
  · rw [← List.head?_filter]
    exact refines.product item member

/-- Two purchases of one name, another one, a removal and a fresh start under the removed name. -/
theorem cart_refines_ledger_rebought : ∃ cart book, (cartMachine.observe enter).Run Machine.Free
    ([], []) [.add 0 tomato 2, .add 1 backpack 1, .add 2 tomato 3, .remove 0, .add 3 tomato 1]
      (cart, book) ∧ ShowsLedger (live book) cart ∧
    cart.map (fun item => (item.product.name, item.quantity)) =
      [("Laptop Backpack", 1), ("Fresh Tomatoo (1 kg)", 1)] := by
  obtain ⟨⟨cart, book⟩, run, shown⟩ := Machine.exists_run_of_exec (cartMachine.observe enter)
    Machine.Free ([], [])
    [.add 0 tomato 2, .add 1 backpack 1, .add 2 tomato 3, .remove 0, .add 3 tomato 1]
    (fun state => state.1.map (fun item => (item.product.name, item.quantity)) ==
      [("Laptop Backpack", 1), ("Fresh Tomatoo (1 kg)", 1)]) (by decide +kernel)
  exact ⟨cart, book, run, (cart_refines_ledger _ cart book run).1, eq_of_beq shown⟩

end CartX
