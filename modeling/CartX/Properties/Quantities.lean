import CartX.Properties.OrderBook
import CartX.Properties.Pages
import Mathlib.Algebra.Order.Ring.Rat

/-!
# The selected quantity

The minus button is built with a callback while `quantity > 1` and without one
otherwise. A tap runs the callback of the last build, so a second tap before the
next frame takes a quantity of two past one. Nothing else lowers the quantity:
the runs in which minus is tapped only above one are exactly the runs in which
every selected quantity, and with it every quantity in the cart, stays at least
one.
-/

namespace CartX

/-- Every selected quantity and every quantity in the cart is at least one, so no line of a
product with a price is free or negative. -/
structure App.Positive (s : App) : Prop where
  selected : ∀ route ∈ s.stack, ∀ state, route.page = .product state → 1 ≤ state.quantity
  added : ∀ item ∈ s.globalCart, 1 ≤ item.quantity
  lines : ∀ item ∈ s.globalCart, 0 < item.product.price → 0 < item.lineTotal

/-- `quantity` of a product page. -/
def Page.quantity : Page → Option Int
  | .product state => some state.quantity
  | _ => none

/-- Minus is tapped only while the quantity, not the last build's, is above one. -/
def LowersAboveOne (s : App) (e : Timed) : Prop :=
  e.event = .tapMinus → ∀ top ∈ s.stack.head?, ∀ quantity ∈ top.page.quantity, 1 < quantity

instance (s : App) (e : Timed) : Decidable (LowersAboveOne s e) :=
  inferInstanceAs (Decidable (_ → ∀ top ∈ _, ∀ quantity ∈ _, _))

theorem CartItem.lineTotal_pos {item : CartItem} (quantity : 1 ≤ item.quantity)
    (price : 0 < item.product.price) : 0 < item.lineTotal := by
  have units : (0 : ℚ) < item.quantity := by exact_mod_cast Int.lt_of_lt_of_le Int.zero_lt_one quantity
  exact mul_pos price units

/-- What `_addToCart` adds is positive, and so is what it adds to. -/
theorem Cart.addToCart_quantities {cart : Cart} {ref : Nat} {product : Product} {quantity : Int}
    (old : ∀ item ∈ cart, 1 ≤ item.quantity) (new : 1 ≤ quantity) :
    ∀ item ∈ cart.addToCart ref product quantity, 1 ≤ item.quantity := by
  rcases cart.addToCart_cases ref product quantity with ⟨front, item, back, rfl, _, _, grown⟩ |
    ⟨_, appended⟩
  · rw [grown]
    have here := old item (by simp)
    intro other member
    rcases List.mem_append.mp member with before | after
    · exact old other (by simp [before])
    · rcases List.mem_cons.mp after with rfl | after
      · dsimp only
        omega
      · exact old other (by simp [after])
  · rw [appended]
    intro other member
    rcases List.mem_append.mp member with before | last
    · exact old other before
    · rw [List.mem_singleton] at last
      subst last
      exact new

theorem Page.quantity_eq_some {page : Page} {quantity : Int} :
    page.quantity = some quantity ↔ ∃ state, page = .product state ∧ state.quantity = quantity := by
  cases page <;> simp [Page.quantity]

theorem Page.apply_quantity (change : LocalUpdate) (page : Page) :
    (Page.apply change page).quantity = page.quantity := by
  cases change <;> cases page <;> rfl

/-- Only the two buttons change a quantity, and only minus lowers it. -/
theorem Revised.quantity {s : App} {event : Event} {route : Route} {page : Page}
    (revised : Revised s event route page) :
    page.quantity = route.page.quantity ∨
      (∃ state, route.page = .product state ∧ page.quantity = some (state.quantity + 1)) ∨
      (event = .tapMinus ∧ s.stack.head? = some route ∧
        ∃ state, route.page = .product state ∧ page.quantity = some (state.quantity - 1)) := by
  cases revised with
  | kept => exact .inl rfl
  | rebuilt => exact .inl (by cases route.page <;> rfl)
  | begun => exact .inl (Page.apply_quantity _ _)
  -- the two buttons and the payment method; the other cases leave product pages alone
  | restated _ top restated =>
    generalize shown : route.page = before at restated
    cases restated with
    | plus state => exact .inr (.inl ⟨state, rfl, rfl⟩)
    | minus state => exact .inr (.inr ⟨rfl, top, state, rfl, rfl⟩)
    | payment => exact .inl rfl
  | typed _ typed =>
    generalize route.page = before at typed
    cases typed <;> exact .inl rfl
  | rowBuilt _ _ shown => exact .inl (by rw [shown]; rfl)
  | resumed => exact .inl (Page.apply_quantity _ _)

section Step

variable {s s' : App} {e : Timed}

theorem App.Positive.step (wf : WellFormed s) (positive : s.Positive) (guard : LowersAboveOne s e)
    (step : s.step e = some s') : s'.Positive := by
  -- the cart first: what is added was selected, and selected quantities are positive
  have added : ∀ item ∈ s'.globalCart, 1 ≤ item.quantity := by
    cases App.step_cart step with
    | same keeps => rw [keeps]; exact positive.added
    | added top rest state shape shown _ grown =>
      rw [grown]
      exact Cart.addToCart_quantities positive.added
        (positive.selected top (by simp [shape]) state shown)
    -- the entries left were there before
    | deleted _ _ _ _ _ _ _ _ removed =>
      obtain ⟨front, item, back, split, _, rest⟩ := Cart.removeItem_eq_some_iff.mp removed
      intro other member
      refine positive.added other ?_
      rw [rest] at member
      rw [split]
      rcases List.mem_append.mp member with before | after
      · simp [before]
      · simp [after]
    | cleared _ _ empty => simp [empty]
  refine ⟨?_, added, fun item member => CartItem.lineTotal_pos (added item member)⟩
  intro route' member state' shown'
  -- now the pages: a new one starts at one, an old one was revised
  rcases (App.step_shifted wf step).routes member with ⟨_, fresh⟩ | ⟨route, old, revision⟩
  · simp [shown', Page.isFresh] at fresh
    omega
  · have now : route'.page.quantity = some state'.quantity := by rw [shown']; rfl
    rcases revision.page.quantity with same | ⟨state, shown, grown⟩ | ⟨tapped, top, state, shown, lower⟩
    · obtain ⟨state, shown, same⟩ := Page.quantity_eq_some.mp (same.symm.trans now)
      rw [← same]
      exact positive.selected route old state shown
    · have := positive.selected route old state shown
      rw [grown, Option.some.injEq] at now
      omega
    · have above : 1 < state.quantity := guard tapped route top state.quantity (by rw [shown]; rfl)
      rw [lower, Option.some.injEq] at now
      omega

/-- A tap on a stale minus at one selects zero. -/
theorem stale_minus_selects_zero (guard : ¬ LowersAboveOne s e) (step : s.step e = some s') :
    ¬ s'.Positive := by
  -- the page on top selects one or less, and its minus was built enabled
  simp only [LowersAboveOne, not_forall] at guard
  obtain ⟨tapped, ⟨id, page, dirty⟩, top, quantity, shown, low⟩ := guard
  obtain ⟨state, rfl, rfl⟩ := Page.quantity_eq_some.mp shown
  obtain ⟨rest, stack⟩ := List.head?_eq_some_iff.mp top
  simp only [App.step, tapped, stack, Turn.tap] at step
  split at step
  · obtain ⟨turn, moved, rfl⟩ := Option.map_eq_some_iff.mp step
    split at moved
    · cases moved
      intro positive
      have selected := positive.selected
        { id, page := .product { state with quantity := state.quantity - 1 }, dirty := true }
        (by simp [Turn.setState]) _ rfl
      dsimp only at selected
      omega
    · cases moved
  · cases step

end Step

/-! ### The result -/

/-- The runs in which minus is tapped only above one are the runs in which every quantity stays
at least one. -/
theorem quantities_positive_iff (currentUser : Option Uid) (orders : List OrderDoc)
    (es : List Timed) (s : App) :
    app.Run LowersAboveOne (App.init currentUser orders) es s ↔
      app.Run (fun a _ => a.Positive) (App.init currentUser orders) es s ∧ s.Positive := by
  refine Machine.Run.guarded_iff_always (I := WellFormed) (.init currentUser orders)
    ⟨by simp [App.init], by simp [App.init], by simp [App.init]⟩
    (fun a e b wf step => wf.step step) ?_
  intro a e b wf positive step
  constructor
  · intro guard
    exact positive.step wf guard step
  · intro kept
    by_contra stale
    exact stale_minus_selects_zero stale step kept

/-- Up to three and down again, with a frame after each tap on minus. -/
theorem quantities_positive_rebuilt : ∃ s, app.Run LowersAboveOne (App.init none [])
    (schedule [.splashTimeout, .tapLogin, .answer 2 (.success (.user "A")), .tapProduct tomato,
      .tapPlus, .tapPlus, .frame, .tapMinus, .frame, .tapMinus, .frame, .tapAddToCart]) s ∧
    s.Positive := by
  obtain ⟨s, run, _⟩ := Machine.exists_run_of_exec app LowersAboveOne (App.init none [])
    (schedule [.splashTimeout, .tapLogin, .answer 2 (.success (.user "A")), .tapProduct tomato,
      .tapPlus, .tapPlus, .frame, .tapMinus, .frame, .tapMinus, .frame, .tapAddToCart])
    (fun s => s.globalCart == [⟨12, tomato, 1⟩]) (by decide +kernel)
  exact ⟨s, run, ((quantities_positive_iff none [] _ s).mp run).2⟩

/-- Two taps on minus before the next frame take a quantity of two to zero. -/
theorem double_minus_adds_nothing :
    ¬ ∀ (currentUser : Option Uid) (orders : List OrderDoc) (es : List Timed) (s : App),
      app.Run Machine.Free (App.init currentUser orders) es s → s.Positive := by
  intro all
  obtain ⟨s, run, cart⟩ := Machine.exists_run_of_exec app Machine.Free (App.init none [])
    (schedule [.splashTimeout, .tapLogin, .answer 2 (.success (.user "A")), .tapProduct tomato,
      .tapPlus, .frame, .tapMinus, .tapMinus, .tapAddToCart])
    (fun s => s.globalCart == [⟨9, tomato, 0⟩]) (by decide +kernel)
  have positive := (all none [] _ s run).added ⟨9, tomato, 0⟩ (by rw [eq_of_beq cart]; simp)
  simp at positive

end CartX
