import CartX.Lists.Fibers
import CartX.Machine.Observer
import CartX.Model.Shop

/-!
# Products are billed at their own price

The wishlist knows a product by its id, `_addToCart` by its name. Over a catalogue
with distinct ids, the cart bills every add at the total the product page showed
as long as no add meets an entry of another product with the same name, and the
page has been rebuilt since the quantity last changed; and only then.
-/

namespace CartX

/-- An add, with the 'Total Price' the page showed at the tap. -/
structure Charge where
  product : Product
  shown : ℚ
  deriving DecidableEq, Repr

/-- The adds since the entry of their product was last removed or the cart was cleared. -/
def noteCharge (s : Shop) (e : ShopEvent) (_ : Shop) (live : List Charge) : List Charge :=
  match e with
  | .addToCart => live ++ (s.page.map fun page => ⟨page.product, page.totalPrice⟩).toList
  | .removeItem index =>
    match s.globalCart[index]? with
    | some item => live.filter fun charge => decide (charge.product.id ≠ item.product.id)
    | none => live
  | .orderCompleted => []
  | _ => live

/-- The shop with the list of its live adds. -/
def chargedShop (demoProducts : List Product) : Machine (Shop × List Charge) ShopEvent :=
  (shop demoProducts).observe noteCharge

/-- One entry for each product with a live add, carrying that product, and the total of the cart
is what the pages showed. -/
structure BilledAsShown (p : Shop × List Charge) : Prop where
  distinct : (p.1.globalCart.map fun item => item.product.id).Nodup
  entries : ∀ id, id ∈ (p.1.globalCart.map fun item => item.product.id) ↔
    id ∈ p.2.map fun charge => charge.product.id
  products : ∀ item ∈ p.1.globalCart, ∀ charge ∈ p.2, charge.product.id = item.product.id →
    item.product = charge.product
  total : p.1.globalCart.cartTotal = (p.2.map Charge.shown).sum

/-- Add to Cart is tapped only while no entry of another product has the product's name and the
page shows the total of the selected quantity. -/
def AddsApart (p : Shop × List Charge) (e : ShopEvent) : Prop :=
  match e, p.1.page with
  | .addToCart, some page =>
    (∀ item ∈ p.1.globalCart, item.product.name = page.product.name →
      item.product.id = page.product.id) ∧
    page.totalPrice = page.product.price * page.quantity
  | _, _ => True

instance (p : Shop × List Charge) (e : ShopEvent) : Decidable (AddsApart p e) := by
  unfold AddsApart
  split <;> infer_instance

/-- What the entry of each product owes to the live adds. -/
def owed (live : List Charge) (id : String) : ℚ :=
  Lists.fiberSum (fun charge : Charge => charge.product.id) Charge.shown live id

/-- The invariant of the guarded runs: every line is the sum of its own product's adds. -/
structure Priced (demoProducts : List Product) (p : Shop × List Charge) : Prop where
  page : ∀ page, p.1.page = some page → page.product ∈ demoProducts
  cart : ∀ item ∈ p.1.globalCart, item.product ∈ demoProducts
  live : ∀ charge ∈ p.2, charge.product ∈ demoProducts
  names : (p.1.globalCart.map fun item => item.product.name).Nodup
  entries : ∀ id, id ∈ (p.1.globalCart.map fun item => item.product.id) ↔
    id ∈ p.2.map fun charge => charge.product.id
  lines : ∀ item ∈ p.1.globalCart, item.lineTotal = owed p.2 item.product.id

section Catalogue

variable {demoProducts : List Product} (distinct : (demoProducts.map Product.id).Nodup)

include distinct

theorem product_eq_of_id {product other : Product} (member : product ∈ demoProducts)
    (other_mem : other ∈ demoProducts) (same : product.id = other.id) : product = other :=
  List.inj_on_of_nodup_map distinct member other_mem same

/-- Entries with distinct names are of distinct products, which have distinct ids. -/
theorem Priced.ids {p : Shop × List Charge} (priced : Priced demoProducts p) :
    (p.1.globalCart.map fun item => item.product.id).Nodup := by
  have names := priced.names
  rw [List.Nodup, List.pairwise_map] at names ⊢
  refine names.imp_of_mem fun {item other} member other_mem apart same => apart ?_
  rw [product_eq_of_id distinct (priced.cart item member) (priced.cart other other_mem) same]

theorem Priced.billedAsShown {p : Shop × List Charge} (priced : Priced demoProducts p) :
    BilledAsShown p := by
  refine ⟨priced.ids distinct, priced.entries, ?_, ?_⟩
  · intro item member charge live same
    exact (product_eq_of_id distinct (priced.live charge live) (priced.cart item member) same).symm
  · have lines : p.1.globalCart.map CartItem.lineTotal =
        (p.1.globalCart.map fun item => item.product.id).map (owed p.2) := by
      rw [List.map_map]
      exact List.map_congr_left priced.lines
    have cover : ∀ charge ∈ p.2, charge.product.id ∈ p.1.globalCart.map fun item => item.product.id :=
      fun charge live => (priced.entries _).mpr (List.mem_map.mpr ⟨charge, live, rfl⟩)
    rw [Cart.cartTotal_eq_sum, lines]
    exact Lists.sum_fiberSum_of_cover _ _ (priced.ids distinct) cover

end Catalogue

theorem owed_append (live : List Charge) (charge : Charge) (id : String) :
    owed (live ++ [charge]) id =
      owed live id + if charge.product.id = id then charge.shown else 0 := by
  rw [owed, Lists.fiberSum_append, Lists.fiberSum_cons, Lists.fiberSum_nil, add_zero]
  rfl

theorem owed_append_of_ne {live : List Charge} {charge : Charge} {id : String}
    (other : charge.product.id ≠ id) : owed (live ++ [charge]) id = owed live id := by
  rw [owed_append, if_neg other, add_zero]

/-! ### One add -/

section Add

variable {demoProducts : List Product} {s : Shop} {live : List Charge} {page : ProductPage}

/-- A cart with one line for the added product and the others as they were. -/
theorem Priced.grown {globalCart : Cart} (priced : Priced demoProducts (s, live))
    (opened : s.page = some page)
    (names : (globalCart.map fun item => item.product.name).Nodup)
    (ids : ∀ id, id ∈ (globalCart.map fun item => item.product.id) ↔
      id ∈ (s.globalCart.map fun item => item.product.id) ∨ id = page.product.id)
    (items : ∀ item ∈ globalCart,
      item ∈ s.globalCart ∧ page.product.id ≠ item.product.id ∨
      item.product = page.product ∧
        item.lineTotal = owed live page.product.id + page.totalPrice) :
    Priced demoProducts ({ s with globalCart, next := s.next + 1 },
      live ++ [⟨page.product, page.totalPrice⟩]) := by
  -- the page and the new charge are of one product of the catalogue
  have stocked := priced.page page opened
  constructor
  · exact priced.page
  · intro item member
    rcases items item member with ⟨old, _⟩ | ⟨own, _⟩
    · exact priced.cart item old
    · rw [own]
      exact stocked
  · intro charge member
    rcases List.mem_append.mp member with old | new
    · exact priced.live charge old
    · rw [List.mem_singleton.mp new]
      exact stocked
  · exact names
  · intro id
    rw [List.map_append, List.mem_append, ids, priced.entries]
    simp
  -- an old line owes nothing to the new charge, the product's own line owes it too
  · intro item member
    rcases items item member with ⟨old, other⟩ | ⟨own, line⟩
    · rw [owed_append_of_ne other]
      exact priced.lines item old
    · rw [line, own, owed_append, if_pos rfl]

/-- The product's own entry grows by the selected quantity. -/
theorem Priced.merged (distinct : (demoProducts.map Product.id).Nodup)
    (priced : Priced demoProducts (s, live)) (opened : s.page = some page)
    (shows : page.totalPrice = page.product.price * page.quantity)
    {front back : Cart} {item : CartItem} (split : s.globalCart = front ++ item :: back)
    (own : item.product = page.product) :
    Priced demoProducts ({ s with
        globalCart := front ++ { item with quantity := item.quantity + page.quantity } :: back
        next := s.next + 1 }, live ++ [⟨page.product, page.totalPrice⟩]) := by
  have here : item ∈ s.globalCart := by simp [split]
  have line : item.lineTotal = owed live page.product.id := own ▸ priced.lines item here
  have names := priced.names
  have ids := priced.ids distinct
  dsimp only at names ids
  rw [split] at names
  -- no other entry has the product's id
  rw [split, List.map_append, List.map_cons, List.nodup_middle, List.nodup_cons,
    ← List.map_append, own] at ids
  apply priced.grown opened
  · simpa using names
  · intro id
    simp only [split, List.map_append, List.map_cons, List.mem_append, List.mem_cons, own]
    tauto
  · intro other member
    rw [List.mem_append, List.mem_cons] at member
    rcases member with before | rfl | after
    · exact .inl ⟨by simp [split, before], fun same => ids.1 (List.mem_map.mpr
        ⟨other, List.mem_append_left _ before, same.symm⟩)⟩
    · refine .inr ⟨own, ?_⟩
      rw [← line, shows]
      simp only [CartItem.lineTotal, own]
      rw [Int.cast_add, mul_add]
    · exact .inl ⟨by simp [split, after], fun same => ids.1 (List.mem_map.mpr
        ⟨other, List.mem_append_right _ after, same.symm⟩)⟩

/-- A product whose name is not in the cart gets an entry of its own. -/
theorem Priced.appended (distinct : (demoProducts.map Product.id).Nodup)
    (priced : Priced demoProducts (s, live)) (opened : s.page = some page)
    (shows : page.totalPrice = page.product.price * page.quantity)
    (fresh : ∀ item ∈ s.globalCart, item.product.name ≠ page.product.name) :
    Priced demoProducts ({ s with
        globalCart := s.globalCart ++ [⟨s.next, page.product, page.quantity⟩]
        next := s.next + 1 }, live ++ [⟨page.product, page.totalPrice⟩]) := by
  have stocked := priced.page page opened
  -- no entry of that name, so none with that id either
  have absent : ∀ item ∈ s.globalCart, page.product.id ≠ item.product.id := fun item member same =>
    fresh item member (by rw [product_eq_of_id distinct stocked (priced.cart item member) same])
  have nothing : owed live page.product.id = 0 := by
    apply Lists.fiberSum_eq_zero
    intro charge member same
    have listed := (priced.entries page.product.id).mpr (List.mem_map.mpr ⟨charge, member, same⟩)
    obtain ⟨item, old, same⟩ := List.mem_map.mp listed
    exact absent item old same.symm
  apply priced.grown opened
  · rw [List.map_append, List.nodup_append_comm]
    simp only [List.map_cons, List.map_nil, List.singleton_append, List.nodup_cons]
    refine ⟨fun listed => ?_, priced.names⟩
    obtain ⟨item, member, same⟩ := List.mem_map.mp listed
    exact fresh item member same
  · intro id
    simp
  · intro item member
    rcases List.mem_append.mp member with old | new
    · exact .inl ⟨old, absent item old⟩
    · rw [List.mem_singleton] at new
      subst new
      refine .inr ⟨rfl, ?_⟩
      rw [nothing, zero_add, shows]
      rfl

/-- An add that meets no entry of another product. -/
theorem Priced.add (distinct : (demoProducts.map Product.id).Nodup)
    (priced : Priced demoProducts (s, live)) (opened : s.page = some page)
    (apart : ∀ item ∈ s.globalCart, item.product.name = page.product.name →
      item.product.id = page.product.id)
    (shows : page.totalPrice = page.product.price * page.quantity) :
    Priced demoProducts
      ({ s with
        globalCart := s.globalCart.addToCart s.next page.product page.quantity
        next := s.next + 1 }, live ++ [⟨page.product, page.totalPrice⟩]) := by
  rcases s.globalCart.addToCart_cases s.next page.product page.quantity with
    ⟨front, item, back, split, name, _, grown⟩ | ⟨fresh, appended⟩
  -- the entry of the same name is the product's own
  · have here : item ∈ s.globalCart := by simp [split]
    have own : item.product = page.product := product_eq_of_id distinct (priced.cart item here)
      (priced.page page opened) (apart item here name)
    rw [grown]
    exact priced.merged distinct opened shows split own
  · rw [appended]
    exact priced.appended distinct opened shows fresh

/-- Removing an entry ends the adds of its product. -/
theorem Priced.remove (distinct : (demoProducts.map Product.id).Nodup)
    (priced : Priced demoProducts (s, live)) {front back : Cart} {item : CartItem}
    (split : s.globalCart = front ++ item :: back) :
    Priced demoProducts ({ s with globalCart := front ++ back },
      live.filter fun charge => decide (charge.product.id ≠ item.product.id)) := by
  have ids := priced.ids distinct
  have names := priced.names
  dsimp only at ids names
  rw [split, List.map_append, List.map_cons, List.nodup_middle, List.nodup_cons,
    ← List.map_append] at ids names
  have kept : ∀ other ∈ front ++ back, other ∈ s.globalCart := by
    intro other member
    rw [split]
    rcases List.mem_append.mp member with before | after
    · simp [before]
    · simp [after]
  constructor
  · exact priced.page
  · exact fun other member => priced.cart other (kept other member)
  · exact fun charge member => priced.live charge (List.mem_of_mem_filter member)
  · exact names.2
  · intro id
    have before := priced.entries id
    dsimp only at before ⊢
    rw [split] at before
    simp only [List.map_append, List.map_cons, List.mem_append, List.mem_cons] at before
    by_cases gone : id = item.product.id
    · subst gone
      refine iff_of_false ids.1 fun listed => ?_
      obtain ⟨charge, member, same⟩ := List.mem_map.mp listed
      simp [same] at member
    · rw [List.map_append, List.mem_append]
      constructor
      · intro listed
        obtain ⟨charge, member, rfl⟩ := List.mem_map.mp (before.mp (by tauto))
        exact List.mem_map.mpr ⟨charge, List.mem_filter.mpr ⟨member, by simpa using gone⟩, rfl⟩
      · intro listed
        obtain ⟨charge, member, rfl⟩ := List.mem_map.mp listed
        have := before.mpr (List.mem_map.mpr ⟨charge, List.mem_of_mem_filter member, rfl⟩)
        tauto
  · intro other member
    have apart : other.product.id ≠ item.product.id := fun same =>
      ids.1 (List.mem_map.mpr ⟨other, member, same⟩)
    dsimp only
    rw [owed, Lists.fiberSum_filter_ne _ _ _ apart]
    exact priced.lines other (kept other member)

end Add

/-! ### Runs -/

section Step

variable {demoProducts : List Product} {p q : Shop × List Charge} {e : ShopEvent}

/-- Events on the page alone. -/
theorem Priced.turned {s : Shop} {live : List Charge} {page? : Option ProductPage}
    (priced : Priced demoProducts (s, live))
    (stocked : ∀ page, page? = some page → page.product ∈ demoProducts) :
    Priced demoProducts ({ s with page := page? }, live) :=
  ⟨stocked, priced.cart, priced.live, priced.names, priced.entries, priced.lines⟩

theorem Priced.step (distinct : (demoProducts.map Product.id).Nodup)
    (priced : Priced demoProducts p) (guard : AddsApart p e)
    (step : (chargedShop demoProducts).step p e = some q) : Priced demoProducts q := by
  obtain ⟨moved, noted⟩ := Machine.observe_step_iff.mp step
  obtain ⟨s, live⟩ := p
  obtain ⟨s', live'⟩ := q
  dsimp only at moved noted
  subst noted
  cases e with
  | openProduct product =>
    simp only [shop, Shop.step] at moved
    split at moved
    next stocked =>
      cases moved
      refine priced.turned ?_
      rintro page ⟨⟩
      exact stocked
    · cases moved
  | plus =>
    obtain ⟨page, opened, rfl⟩ := Option.map_eq_some_iff.mp moved
    refine priced.turned ?_
    rintro _ ⟨⟩
    exact priced.page page opened
  | minus =>
    obtain ⟨page, opened, lowered⟩ := Option.bind_eq_some_iff.mp moved
    split at lowered
    · cases lowered
      refine priced.turned ?_
      rintro _ ⟨⟩
      exact priced.page page opened
    · cases lowered
  | frame =>
    cases moved
    refine priced.turned fun page' built => ?_
    obtain ⟨page, opened, rfl⟩ := Option.map_eq_some_iff.mp built
    exact priced.page page opened
  | leave =>
    cases moved
    exact priced.turned (by simp)
  | addToCart =>
    obtain ⟨page, opened, rfl⟩ := Option.map_eq_some_iff.mp moved
    simp only [AddsApart, opened] at guard
    obtain ⟨apart, shows⟩ := guard
    simpa [noteCharge, opened] using priced.add distinct opened apart shows
  -- past the end of the cart nothing is removed
  | removeItem index =>
    simp only [shop, Shop.step] at moved
    split at moved
    · cases moved
    next globalCart _ removed =>
      cases moved
      obtain ⟨front, item, back, split, rfl, rfl⟩ := Cart.removeItem_eq_some_iff.mp removed
      simpa [noteCharge, split] using priced.remove distinct split
    next outside =>
      cases moved
      have past : s.globalCart[index]? = none := by
        rw [List.getElem?_eq_none_iff]
        by_contra inside
        have some_ := Cart.removeItem_isSome_iff.mpr (Nat.lt_of_not_le inside)
        simp [outside] at some_
      simpa [noteCharge, past] using priced
  | orderCompleted =>
    cases moved
    exact ⟨priced.page, by simp, by simp [noteCharge], by simp, by simp [noteCharge], by simp⟩

/-- An add where no other product has the name adds its own price. -/
theorem Cart.addToCart_total {cart : Cart} {ref : Nat} {product : Product} {quantity : Int}
    (own : ∀ item ∈ cart, item.product.name = product.name → item.product = product) :
    (cart.addToCart ref product quantity).cartTotal = cart.cartTotal + product.price * quantity := by
  rcases cart.addToCart_cases ref product quantity with
    ⟨front, item, back, rfl, name, _, grown⟩ | ⟨_, appended⟩
  · have same := own item (by simp) name
    simp only [grown, Cart.cartTotal_eq_sum, List.map_append, List.map_cons, List.sum_append,
      List.sum_cons, CartItem.lineTotal, Int.cast_add, mul_add, same]
    ac_rfl
  · simp [appended, Cart.cartTotal_eq_sum, CartItem.lineTotal]

/-- Where an entry of that name is in the cart, an add brings no new product. -/
theorem Cart.addToCart_products {cart : Cart} {product : Product} (ref : Nat) (quantity : Int)
    {item : CartItem} (member : item ∈ cart) (name : item.product.name = product.name) :
    (cart.addToCart ref product quantity).map CartItem.product = cart.map CartItem.product := by
  rcases cart.addToCart_cases ref product quantity with
    ⟨front, found, back, rfl, _, _, grown⟩ | ⟨fresh, _⟩
  · simp [grown]
  · exact absurd name (fresh item member)

/-- Any other add is billed wrong. -/
theorem addsApart_of_billed (distinct : (demoProducts.map Product.id).Nodup)
    (priced : Priced demoProducts p) (step : (chargedShop demoProducts).step p e = some q)
    (billed : BilledAsShown q) : AddsApart p e := by
  obtain ⟨moved, noted⟩ := Machine.observe_step_iff.mp step
  obtain ⟨s, live⟩ := p
  obtain ⟨s', live'⟩ := q
  dsimp only at moved noted
  subst noted
  unfold AddsApart
  split
  case h_2 => trivial
  next page opened =>
  dsimp only at opened
  obtain ⟨_, same, rfl⟩ := Option.map_eq_some_iff.mp moved
  cases opened.symm.trans same
  have stocked := priced.page page opened
  have apart : ∀ item ∈ s.globalCart, item.product.name = page.product.name →
      item.product.id = page.product.id := by
    intro item member name
    -- the entry the add should have is among the old ones, under the name of `item`
    have listed := (billed.entries page.product.id).mpr (by simp [noteCharge, opened])
    dsimp only at listed
    obtain ⟨product, carried, id⟩ : ∃ product ∈ s.globalCart.map CartItem.product,
        product.id = page.product.id := by
      rw [← Cart.addToCart_products s.next page.quantity member name]
      simpa using listed
    obtain ⟨other, other_mem, rfl⟩ := List.mem_map.mp carried
    have own := product_eq_of_id distinct (priced.cart other other_mem) stocked id
    have same : other = item := List.inj_on_of_nodup_map priced.names other_mem member
      (by rw [own, name])
    rw [← same, id]
  refine ⟨apart, ?_⟩
  have before := (priced.billedAsShown distinct).total
  have after := billed.total
  rw [Cart.addToCart_total fun item member name =>
    product_eq_of_id distinct (priced.cart item member) stocked (apart item member name)] at after
  simp only [noteCharge, opened, Option.map_some, Option.toList_some, List.map_append, List.map_cons,
    List.map_nil, List.sum_append, List.sum_cons, List.sum_nil, add_zero] at after before
  rw [before] at after
  exact (add_left_cancel after).symm

end Step

/-! ### The result -/

/-- Over every catalogue with distinct ids, the runs in which every add is apart from the other
products in the cart, on a page that shows its total, are the runs that bill every add as shown. -/
theorem billed_as_shown_iff {demoProducts : List Product}
    (distinct : (demoProducts.map Product.id).Nodup) (es : List ShopEvent) (p : Shop × List Charge) :
    (chargedShop demoProducts).Run AddsApart ({}, []) es p ↔
      (chargedShop demoProducts).Run (fun p _ => BilledAsShown p) ({}, []) es p ∧ BilledAsShown p := by
  apply Machine.Run.guarded_iff_of_kept (J := Priced demoProducts)
  · exact ⟨by simp, by simp, by simp, by simp, by simp, by simp⟩
  · intro p priced
    exact priced.billedAsShown distinct
  · intro p e q priced guard step
    exact priced.step distinct guard step
  · intro p e q priced step billed
    exact addsApart_of_billed distinct priced step billed

/-- Two tomatoes, a backpack, and the tomatoes removed again. -/
theorem billed_as_shown_removed : ∃ p, (chargedShop demoProducts).Run AddsApart ({}, [])
    [.openProduct tomato, .plus, .frame, .addToCart, .openProduct backpack, .addToCart, .leave,
      .removeItem 0] p ∧ p.1.globalCart ≠ [] ∧ BilledAsShown p := by
  obtain ⟨p, run, left⟩ := Machine.exists_run_of_exec (chargedShop demoProducts) AddsApart ({}, [])
    [.openProduct tomato, .plus, .frame, .addToCart, .openProduct backpack, .addToCart, .leave,
      .removeItem 0]
    (fun p => p.1.globalCart != []) (by decide +kernel)
  exact ⟨p, run, by simpa using left, ((billed_as_shown_iff (by decide +kernel) _ p).mp run).2⟩

/-- A dearer product of the same name is billed at the price of the one in the cart. -/
theorem namesake_is_billed_at_other_price :
    ¬ ∀ (demoProducts : List Product) (es : List ShopEvent) (p : Shop × List Charge),
      (demoProducts.map Product.id).Nodup →
      (chargedShop demoProducts).Run Machine.Free ({}, []) es p → BilledAsShown p := by
  intro all
  obtain ⟨p, run, wrong⟩ := Machine.exists_run_of_exec
    (chargedShop [tomato, { tomato with id := "p14", price := 100 }]) Machine.Free ({}, [])
    [.openProduct tomato, .addToCart, .openProduct { tomato with id := "p14", price := 100 },
      .addToCart]
    (fun p => decide (p.1.globalCart.cartTotal = 140 ∧ (p.2.map Charge.shown).sum = 170))
    (by decide +kernel)
  have total := (all _ _ p (by decide +kernel) run).total
  obtain ⟨cart, shown⟩ := of_decide_eq_true wrong
  rw [cart, shown] at total
  revert total
  decide +kernel

end CartX
