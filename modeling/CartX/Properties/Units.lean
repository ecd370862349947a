import CartX.Properties.Orders

/-!
# Lost units

Every unit that was ever added should be in the cart, deleted by the user, or in
the cart of a recorded order when that order began. Two steps can lose one: an
add with a negative quantity, which shrinks an entry, and the success of an
order, whose `globalCart.clear()` also drops what was added while the order was
pending. `units_accounted_iff` shows that these are the only ones, and exactly
when they lose a unit.
-/

namespace CartX

/-- The `k`-th unit of an object of the cart. -/
structure Piece where
  ref : Nat
  k : Nat
  deriving DecidableEq, Repr

def Cart.Holds (cart : Cart) (piece : Piece) : Prop :=
  ∃ item ∈ cart, item.ref = piece.ref ∧ (piece.k : Int) < item.quantity

instance (cart : Cart) (piece : Piece) : Decidable (cart.Holds piece) :=
  inferInstanceAs (Decidable (∃ item ∈ cart, _))

/-- The unit is in the cart, was deleted, or was in the cart when a recorded order began. -/
def Book.AccountsFor (b : Book) (piece : Piece) : Prop :=
  b.cart.Holds piece ∨ Cart.Holds b.deleted piece ∨ ∃ a ∈ b.recorded, a.cart.Holds piece

instance (b : Book) (piece : Piece) : Decidable (b.AccountsFor piece) :=
  inferInstanceAs (Decidable (_ ∨ _ ∨ ∃ a ∈ b.recorded, _))

/-- Every unit that was ever in the cart after an add is accounted for. -/
def Book.Accounted (b : Book) : Prop :=
  ∀ cart ∈ b.filled, ∀ piece, cart.Holds piece → b.AccountsFor piece

/-- Every entry of `cart` that has a unit stands in `snapshot` with at least that quantity. -/
def Cart.CoveredBy (cart snapshot : Cart) : Prop :=
  ∀ item ∈ cart, 0 < item.quantity →
    ∃ before ∈ snapshot, before.ref = item.ref ∧ item.quantity ≤ before.quantity

instance (cart snapshot : Cart) : Decidable (cart.CoveredBy snapshot) :=
  inferInstanceAs (Decidable (∀ item ∈ cart, _))

/-- The events that lose no unit: an add does not shrink an entry that has units, and an order
is recorded when the cart holds nothing that was not there when the order began. -/
def BookEvent.Keeps (b : Book) : BookEvent → Prop
  | .add _ product quantity =>
    ∀ item ∈ b.cart.find? fun item => item.product.name == product.name,
      0 < item.quantity → 0 ≤ quantity
  | .settle call true =>
    ∀ a ∈ b.inFlight.find? fun a => a.call == call, b.cart.CoveredBy a.cart
  | _ => True

instance (b : Book) : (event : BookEvent) → Decidable (event.Keeps b)
  | .add _ _ _ => inferInstanceAs (Decidable (∀ item ∈ _, _))
  | .settle _ true => inferInstanceAs (Decidable (∀ a ∈ _, _))
  | .settle _ false | .delete _ | .begin _ _ _ | .other => inferInstanceAs (Decidable True)

/-! ### Units of a cart -/

namespace Cart

@[simp] theorem holds_nil (piece : Piece) : ¬ Cart.Holds [] piece := by simp [Cart.Holds]

theorem holds_append {cart cart' : Cart} {piece : Piece} :
    Cart.Holds (cart ++ cart') piece ↔ cart.Holds piece ∨ cart'.Holds piece := by
  simp only [Cart.Holds, List.mem_append, or_and_right, exists_or]

theorem holds_cons {item : CartItem} {cart : Cart} {piece : Piece} :
    Cart.Holds (item :: cart) piece ↔
      (item.ref = piece.ref ∧ (piece.k : Int) < item.quantity) ∨ cart.Holds piece := by
  simp [Cart.Holds]

/-- A covering snapshot holds every unit of the cart, and its last ones are enough. -/
theorem coveredBy_iff {cart snapshot : Cart} :
    cart.CoveredBy snapshot ↔ ∀ piece, cart.Holds piece → snapshot.Holds piece := by
  constructor
  · rintro covered ⟨ref, k⟩ ⟨item, member, rfl, inside⟩
    dsimp only at inside
    obtain ⟨before, listed, same, enough⟩ := covered item member (by omega)
    exact ⟨before, listed, same, by dsimp only; omega⟩
  -- the last unit of an entry stands for all of them
  · intro all item member positive
    obtain ⟨before, listed, same, inside⟩ :=
      all ⟨item.ref, (item.quantity - 1).toNat⟩ ⟨item, member, rfl, by dsimp only; omega⟩
    exact ⟨before, listed, same, by dsimp only at inside; omega⟩

end Cart

namespace Book

/-- What was deleted or in the cart of a recorded order. -/
def past (b : Book) : Cart := b.deleted ++ b.recorded.flatMap Attempt.cart

theorem accountsFor_iff {b : Book} {piece : Piece} :
    b.AccountsFor piece ↔ b.cart.Holds piece ∨ b.past.Holds piece := by
  simp only [AccountsFor, past, Cart.Holds]
  grind

/-- The objects in the book and their ages: none is in the cart twice, none comes back into the
cart, and every unit in the cart came with an add. -/
structure Ordered (now : Nat) (b : Book) : Prop where
  distinct : (b.cart.map CartItem.ref).Nodup
  known : ∀ piece, b.cart.Holds piece → ∃ cart ∈ b.filled, cart.Holds piece
  gone : ∀ item ∈ b.cart, ∀ old ∈ b.past, old.ref ≠ item.ref
  cartAge : ∀ item ∈ b.cart, item.ref ≤ now
  pastAge : ∀ old ∈ b.past, old.ref ≤ now
  flightAge : ∀ a ∈ b.inFlight, ∀ item ∈ a.cart, item.ref ≤ now

/-- A recorded order moves from the flight to the past and empties the cart. -/
theorem settle_recorded {b : Book} {call : Nat} {a : Attempt}
    (found : b.inFlight.find? (fun a => a.call == call) = some a) :
    b.settle call true = { b with
      cart := []
      inFlight := b.inFlight.filter fun a => a.call != call
      recorded := b.recorded ++ [a] } := by
  simp [settle, found]

/-- An order that fails, or that nobody waits for, changes no cart. -/
theorem settle_failed (b : Book) (call : Nat) :
    ∃ inFlight, b.settle call false = { b with inFlight } ∧ inFlight ⊆ b.inFlight := by
  cases found : b.inFlight.find? fun a => a.call == call with
  | none => exact ⟨b.inFlight, by simp [settle, found], List.Subset.refl _⟩
  | some a => exact ⟨_, by simp [settle, found]; rfl, List.filter_subset_self _⟩

namespace Ordered

variable {now time : Nat} {b : Book}

theorem init : Ordered 0 {} := by
  constructor <;> simp [past]

theorem later (ordered : Ordered now b) (later : now ≤ time) : Ordered time b :=
  { ordered with
    cartAge := fun item member => (ordered.cartAge item member).trans later
    pastAge := fun old member => (ordered.pastAge old member).trans later
    flightAge := fun a flying item member => (ordered.flightAge a flying item member).trans later }

theorem add (ordered : Ordered now b) (fresh : now < time) (product : Product) (quantity : Int) :
    Ordered time (b.add time product quantity) := by
  have aged := ordered.later (Nat.le_of_lt fresh)
  have refs := b.cart.addToCart_refs time product quantity
  -- an object in the cart after the add is a new one or was there before
  have origin : ∀ item ∈ b.cart.addToCart time product quantity,
      item.ref = time ∨ ∃ before ∈ b.cart, before.ref = item.ref := by
    intro item member
    have listed := List.mem_map_of_mem (f := CartItem.ref) member
    rcases refs with same | added
    · rw [same] at listed
      exact .inr (List.mem_map.mp listed)
    · rw [added] at listed
      rcases List.mem_append.mp listed with old | new
      · exact .inr (List.mem_map.mp old)
      · exact .inl (List.mem_singleton.mp new)
  refine { aged with distinct := ?_, known := ?_, gone := ?_, cartAge := ?_ }
  · rcases refs with same | added
    · exact same ▸ ordered.distinct
    -- the new object's name is the clock's, so no other has it
    · have new : time ∉ b.cart.map CartItem.ref := by
        rintro listed
        obtain ⟨item, member, same⟩ := List.mem_map.mp listed
        have := ordered.cartAge item member
        omega
      simpa [Book.add, added, List.nodup_append] using ⟨ordered.distinct, by simpa using new⟩
  · exact fun piece held => ⟨_, List.mem_cons_self, held⟩
  · intro item member old old_mem
    rcases origin item member with new | ⟨before, before_mem, same⟩
    · have := ordered.pastAge old old_mem
      omega
    · rw [← same]
      exact ordered.gone before before_mem old old_mem
  · intro item member
    rcases origin item member with new | ⟨before, before_mem, same⟩
    · exact Nat.le_of_eq new
    · exact same ▸ aged.cartAge before before_mem

theorem delete (ordered : Ordered now b) (index : Nat) : Ordered now (b.delete index) := by
  unfold Book.delete
  split
  next cart removed =>
    -- the deleted object moves from the cart to the past
    obtain ⟨front, item, back, split, rfl, rfl⟩ := Cart.removeItem_eq_some_iff.mp removed
    have kept : ∀ other ∈ front ++ back, other ∈ b.cart := by
      rw [split]
      grind
    have here : item ∈ b.cart := by simp [split]
    have at_index : b.cart[front.length]?.toList = [item] := by simp [split]
    have apart : ∀ other ∈ front ++ back, item.ref ≠ other.ref := by
      have distinct := ordered.distinct
      rw [split, List.map_append, List.map_cons, List.nodup_middle, List.nodup_cons,
        ← List.map_append] at distinct
      exact fun other member same => distinct.1 (same ▸ List.mem_map_of_mem member)
    have past_mem : ∀ old, old ∈ item :: b.deleted ++ b.recorded.flatMap Attempt.cart →
        old = item ∨ old ∈ b.past := by
      simp [past]
    rw [at_index]
    refine ⟨?_, ?_, ?_, ?_, ?_, ordered.flightAge⟩
    · have sub : (front ++ back).Sublist b.cart := by
        rw [split]
        exact List.Sublist.append (.refl _) (List.sublist_cons_self _ _)
      exact ordered.distinct.sublist (sub.map _)
    · rintro piece ⟨other, member, held⟩
      exact ordered.known piece ⟨other, kept other member, held⟩
    · intro other member old old_mem
      rcases past_mem old old_mem with rfl | old_mem
      · exact apart other member
      · exact ordered.gone other (kept other member) old old_mem
    · exact fun other member => ordered.cartAge other (kept other member)
    · intro old old_mem
      rcases past_mem old old_mem with rfl | old_mem
      · exact ordered.cartAge _ here
      · exact ordered.pastAge old old_mem
  next => exact ordered

theorem settle (ordered : Ordered now b) (call : Nat) (recorded : Bool) :
    Ordered now (b.settle call recorded) := by
  cases recorded with
  | false =>
    obtain ⟨inFlight, same, fewer⟩ := b.settle_failed call
    rw [same]
    exact { ordered with flightAge := fun a member => ordered.flightAge a (fewer member) }
  | true =>
    cases found : b.inFlight.find? fun a => a.call == call with
    | none => simpa [Book.settle, found] using ordered
    | some a =>
      rw [settle_recorded found]
      refine ⟨List.nodup_nil, by simp, by simp, by simp, ?_, ?_⟩
      · intro old old_mem
        -- the order's cart joins the past
        have place : old ∈ b.past ∨ old ∈ a.cart := by
          simp only [past, List.flatMap_append, List.flatMap_cons, List.flatMap_nil,
            List.append_nil] at old_mem
          simp only [past]
          grind
        rcases place with old_mem | old_mem
        · exact ordered.pastAge old old_mem
        · exact ordered.flightAge a (List.mem_of_find?_eq_some found) old old_mem
      · exact fun a' member => ordered.flightAge a' (List.mem_of_mem_filter member)

theorem step (ordered : Ordered now b) (later : now < time) {event : BookEvent}
    (named : ∀ ref product quantity, event = .add ref product quantity → ref = time) :
    Ordered time (b.step event) := by
  have aged := ordered.later (Nat.le_of_lt later)
  cases event with
  | add ref product quantity =>
    cases named ref product quantity rfl
    exact ordered.add later product quantity
  | delete index => exact aged.delete index
  | begin call user doc =>
    refine { aged with flightAge := fun a member => ?_ }
    rcases List.mem_cons.mp member with rfl | member
    · exact aged.cartAge
    · exact aged.flightAge a member
  | settle call recorded => exact aged.settle call recorded
  | other => exact aged

/-- No unit of an object in the cart is accounted for elsewhere. -/
theorem not_past (ordered : Ordered now b) {item : CartItem} (member : item ∈ b.cart) (k : Nat) :
    ¬ b.past.Holds ⟨item.ref, k⟩ := by
  rintro ⟨old, old_mem, same, _⟩
  exact ordered.gone item member old old_mem same

end Ordered

/-! ### Which events lose a unit -/

section Events

variable {now : Nat} {b : Book}

/-- What an add does to the entry it grows, and to the units of the cart. -/
theorem add_accounted_iff (ordered : Ordered now b) (accounted : b.Accounted) (ref : Nat)
    (product : Product) (quantity : Int) :
    (BookEvent.add ref product quantity).Keeps b ↔ (b.add ref product quantity).Accounted := by
  have past : (b.add ref product quantity).past = b.past := rfl
  have cart : (b.add ref product quantity).cart = b.cart.addToCart ref product quantity := rfl
  -- the units of the new cart are in it; those of the earlier ones were accounted for before
  have reduce : (∀ piece, b.cart.Holds piece →
      (b.cart.addToCart ref product quantity).Holds piece) →
      (b.add ref product quantity).Accounted := by
    intro grows cart' member piece held
    rw [accountsFor_iff, past, cart]
    rcases List.mem_cons.mp member with rfl | member
    · exact .inl held
    · exact (accountsFor_iff.mp (accounted cart' member piece held)).imp_left (grows piece)
  rcases b.cart.addToCart_cases ref product quantity with
    ⟨front, item, back, split, name, fresh, added⟩ | ⟨fresh, added⟩
  · have found : (b.cart.find? fun item => item.product.name == product.name) = some item := by
      rw [List.find?_eq_some_iff_append]
      exact ⟨by simpa using name, front, back, split, by simpa using fresh⟩
    have here : item ∈ b.cart := by simp [split]
    simp only [BookEvent.Keeps, found, Option.mem_def, Option.some.injEq, forall_eq']
    constructor
    · intro grows
      apply reduce
      intro piece held
      rw [split, Cart.holds_append, Cart.holds_cons] at held
      rw [added, Cart.holds_append, Cart.holds_cons]
      refine held.imp_right (Or.imp_left fun ⟨same, inside⟩ => ⟨same, ?_⟩)
      -- the entry grew, so it still holds the piece
      have := grows (by omega)
      dsimp only
      omega
    · intro accounted' positive
      -- the entry's last unit came with some add, so it must still be accounted for
      obtain ⟨cart', filled, held⟩ := ordered.known ⟨item.ref, (item.quantity - 1).toNat⟩
        ⟨item, here, rfl, by dsimp only; omega⟩
      have still := accounted' cart' (List.mem_cons_of_mem _ filled) _ held
      rw [accountsFor_iff, past, cart, added] at still
      rcases still with ⟨grown, member, same, inside⟩ | before
      · -- the grown entry is the only one with that reference
        have names : ((front ++ { item with quantity := item.quantity + quantity } :: back).map
            CartItem.ref).Nodup := by
          have := ordered.distinct
          rw [split] at this
          simpa using this
        have := List.inj_on_of_nodup_map names member
          (y := { item with quantity := item.quantity + quantity }) (by simp) same
        subst this
        dsimp only at inside
        omega
      · exact absurd before (ordered.not_past here _)
  -- a new entry takes nothing away
  · have missing : (b.cart.find? fun item => item.product.name == product.name) = none := by
      simpa using fresh
    refine iff_of_true (by simp [BookEvent.Keeps, missing]) (reduce fun piece held => ?_)
    rw [added, Cart.holds_append]
    exact .inl held

theorem delete_accounted (accounted : b.Accounted) (index : Nat) : (b.delete index).Accounted := by
  unfold delete
  split
  next cart removed =>
    obtain ⟨front, item, back, split, rfl, rfl⟩ := Cart.removeItem_eq_some_iff.mp removed
    have at_index : b.cart[front.length]?.toList = [item] := by simp [split]
    intro cart' member piece held
    have before := accounted cart' member piece held
    rw [at_index]
    simp only [AccountsFor, split, Cart.holds_append, Cart.holds_cons, List.singleton_append]
      at before ⊢
    tauto
  next => exact accounted

theorem settle_accounted_iff (ordered : Ordered now b) (accounted : b.Accounted) (call : Nat)
    (recorded : Bool) :
    (BookEvent.settle call recorded).Keeps b ↔ (b.settle call recorded).Accounted := by
  cases recorded with
  | false =>
    obtain ⟨inFlight, same, _⟩ := b.settle_failed call
    rw [same]
    exact iff_of_true trivial accounted
  | true =>
    cases found : b.inFlight.find? fun a => a.call == call with
    | none => simpa [BookEvent.Keeps, found, Book.settle] using accounted
    | some a =>
      -- the cart is empty now: what is left is the past and the order's own cart
      have place (piece : Piece) : (b.settle call true).AccountsFor piece ↔
          b.past.Holds piece ∨ a.cart.Holds piece := by
        rw [settle_recorded found, accountsFor_iff]
        simp [past, Cart.holds_append, List.flatMap_append, or_assoc]
      have filled : (b.settle call true).filled = b.filled := by rw [settle_recorded found]
      simp only [BookEvent.Keeps, found, Option.mem_def, Option.some.injEq, forall_eq',
        Cart.coveredBy_iff]
      constructor
      · intro covered cart member piece held
        rw [filled] at member
        rw [place]
        rcases accountsFor_iff.mp (accounted cart member piece held) with inside | before
        · exact .inr (covered piece inside)
        · exact .inl before
      · rintro accounted' ⟨ref, k⟩ held
        obtain ⟨cart, member, held'⟩ := ordered.known _ held
        -- units still in the cart are nowhere in the past, so the order's cart must hold them
        rcases (place _).mp (accounted' cart (filled ▸ member) _ held') with before | inside
        · obtain ⟨item, here, rfl, _⟩ := held
          exact absurd before (ordered.not_past here k)
        · exact inside

/-- From a book that accounts for every unit, the events that keep it so. -/
theorem keeps_iff_accounted (ordered : Ordered now b) (accounted : b.Accounted)
    (event : BookEvent) : event.Keeps b ↔ (b.step event).Accounted := by
  cases event with
  | add ref product quantity => exact add_accounted_iff ordered accounted ref product quantity
  | delete index => exact iff_of_true trivial (delete_accounted accounted index)
  | begin => exact iff_of_true trivial accounted
  | settle call recorded => exact settle_accounted_iff ordered accounted call recorded
  | other => exact iff_of_true trivial accounted

end Events

end Book

/-! ### The app's runs -/

/-- The event loses no unit. -/
def KeepsUnits (p : App × Book) (e : Timed) : Prop := (p.1.bookEvent e).Keeps p.2

instance (p : App × Book) (e : Timed) : Decidable (KeepsUnits p e) :=
  inferInstanceAs (Decidable ((p.1.bookEvent e).Keeps p.2))

theorem bookEvent_eq_add {s : App} {e : Timed} {ref : Nat} {product : Product} {quantity : Int}
    (entry : s.bookEvent e = .add ref product quantity) : ref = e.time := by
  unfold App.bookEvent at entry
  split at entry
  any_goals cases entry
  · rfl
  · split at entry <;> cases entry

/-- The runs in which no event loses a unit are those that account for every unit at every
moment, and an order that fails changes no cart. -/
theorem units_accounted_iff (currentUser : Option Uid) (orders : List OrderDoc) (es : List Timed)
    (p : App × Book) :
    (bookedApp.Run KeepsUnits (App.init currentUser orders, {}) es p ↔
      bookedApp.Run (fun p _ => p.2.Accounted) (App.init currentUser orders, {}) es p ∧
        p.2.Accounted) ∧
    (∀ call e q, bookedApp.Run Machine.Free (App.init currentUser orders, {}) es p →
      p.1.bookEvent e = .settle call false → bookedApp.step p e = some q →
      q.1.globalCart = p.1.globalCart) := by
  constructor
  · refine Machine.Run.guarded_iff_always
      (I := fun p : App × Book => p.2.Ordered p.1.now) .init
      (fun cart member => by simp at member) ?_ ?_
    · intro a e b ordered step
      obtain ⟨moved, entered⟩ := Machine.observe_step_iff.mp step
      obtain ⟨later, _⟩ := App.step_cases moved
      rw [entered, App.step_now moved]
      exact ordered.step later fun _ _ _ entry => bookEvent_eq_add entry
    · intro a e b ordered accounted step
      rw [(Machine.observe_step_iff.mp step).2]
      exact Book.keeps_iff_accounted ordered accounted _
  · intro call e q run failed step
    obtain ⟨wf, tracks⟩ := tracks_of_run run
    obtain ⟨_, tracks'⟩ := tracks_of_run (run.snoc trivial step)
    obtain ⟨inFlight, same, _⟩ := p.2.settle_failed call
    rw [← tracks.cart, ← tracks'.cart, (Machine.observe_step_iff.mp step).2, failed, Book.step, same]

/-- One more tomato is added while the order for the first is pending. -/
def addedMeanwhile : List Event :=
  toCheckout ++ [.tapConfirm, .back, .tapNav 0, .tapProduct tomato, .tapAddToCart]

/-- An order that is recorded before more is added loses nothing. -/
theorem units_accounted_in_turn : ∃ p, bookedApp.Run KeepsUnits (App.init none [], {})
    (schedule (toCheckout ++ [.tapConfirm, .answer 10 (.success .done), .tapBackToHome,
      .tapProduct tomato, .tapAddToCart])) p ∧ p.2.Accounted ∧ p.2.filled.length = 2 := by
  obtain ⟨p, run, two⟩ := Machine.exists_run_of_exec bookedApp KeepsUnits
    (App.init none [], {})
    (schedule (toCheckout ++ [.tapConfirm, .answer 10 (.success .done), .tapBackToHome,
      .tapProduct tomato, .tapAddToCart])) (fun p => p.2.filled.length == 2)
    (by decide +kernel)
  exact ⟨p, run, ((units_accounted_iff none [] _ p).1.mp run).2, by simpa using two⟩

/-- The success of the pending order clears the second tomato too. -/
theorem late_success_loses_unit :
    ¬ ∀ (currentUser : Option Uid) (orders : List OrderDoc) (es : List Timed) (p : App × Book),
      bookedApp.Run Machine.Free (App.init currentUser orders, {}) es p → p.2.Accounted := by
  intro all
  obtain ⟨p, run, lost⟩ := Machine.exists_run_of_exec bookedApp Machine.Free
    (App.init none [], {})
    (schedule (addedMeanwhile ++ [.answer 10 (.success .done)]))
    (fun p => p.2.filled.any fun cart =>
      decide (cart.Holds ⟨6, 1⟩ ∧ ¬ p.2.AccountsFor ⟨6, 1⟩)) (by decide +kernel)
  obtain ⟨cart, filled, lost⟩ := List.any_eq_true.mp lost
  obtain ⟨held, missing⟩ := of_decide_eq_true lost
  exact missing (all none [] _ p run cart filled _ held)

end CartX
