import CartX.Machine.Simulation
import CartX.Properties.Freshness
import CartX.Properties.Identities
import CartX.Properties.Navigation
import CartX.Properties.OrderBook
import CartX.Properties.Prices
import CartX.Properties.Quantities

/-!
# The app refines the shop

The shop of `Shop.lean` has one product page, a cart and a catalogue. The app has
a stack of routes and names its cart objects, but over every run it does what a
shop over the shipped catalogue does: its only product page is the topmost one,
and nothing depends on the names. What is proved of every shop therefore holds of
the app: with the shipped catalogue, whose names are distinct, an add is billed
as the page showed it whenever the page has been rebuilt since the quantity last
changed.
-/

namespace CartX

/-! ### The product page -/

/-- Nothing is opened over a product page. -/
theorem Stacked.product_top {screens : List Screen} (stacked : Stacked screens) {product : Product}
    {navIndex : Nat} (within : .product product navIndex ∈ screens) :
    ∃ rest, screens = .product product navIndex :: rest ∧
      ∀ other index, .product other index ∉ rest := by
  induction stacked generalizing product navIndex with
  | root root =>
    rw [List.mem_singleton] at within
    subst within
    cases root
  | signedIn => simp at within
  | @onTop above below rest lies stack ih =>
    -- a product page below would be the page this one was opened from
    have none_below : ∀ other index, Screen.product other index ∉ below :: rest := by
      intro other index lower
      obtain ⟨_, shape, _⟩ := ih lower
      rw [(List.cons_eq_cons.mp shape).1] at lies
      cases lies
    have here : .product product navIndex = above := by
      simpa [none_below product navIndex] using within
    exact ⟨below :: rest, by rw [here], none_below⟩

theorem popularProducts_subset : ∀ product ∈ popularProducts, product ∈ demoProducts := by
  intro product member
  obtain ⟨index, _, found⟩ := List.mem_filterMap.mp member
  exact List.mem_of_getElem? found

theorem listedProducts_subset (demoProducts : List Product) (categoryFilter : Option String) :
    listedProducts demoProducts categoryFilter ⊆ demoProducts := by
  cases categoryFilter with
  | none => exact List.Subset.refl _
  | some category => exact List.filter_sublist.subset

/-- Every product page is of a product of the catalogue. -/
theorem Stacked.stocked {screens : List Screen} (stacked : Stacked screens) {product : Product}
    {navIndex : Nat} (within : .product product navIndex ∈ screens) : product ∈ demoProducts := by
  obtain ⟨rest, rfl, _⟩ := stacked.product_top within
  cases stacked with
  | root root => cases root
  | onTop lies =>
    cases lies with
    | popular _ listed => exact popularProducts_subset _ listed
    | found _ _ listed | wished _ listed => exact listed
    | listed _ _ _ listed => exact listedProducts_subset _ _ listed

section Routes

variable {s s' : App} {e : Timed} {route other : Route} {state state' : ProductState}

theorem App.product_mem (member : route ∈ s.stack) (shown : route.page = .product state) :
    .product state.product state.navIndex ∈ s.screens := by
  have within := App.mem_screens member
  rwa [shown] at within

/-- There is one product page. -/
theorem Laid.product_unique (laid : Laid s) (member : route ∈ s.stack)
    (shown : route.page = .product state) (other_mem : other ∈ s.stack)
    (other_shown : other.page = .product state') : other = route := by
  obtain ⟨rest, shape, none⟩ := laid.stacked.product_top (App.product_mem member shown)
  obtain ⟨top, others, stack, _, below⟩ := List.map_eq_cons_iff.mp shape
  have on_top {candidate : Route} {state : ProductState} (member : candidate ∈ s.stack)
      (shown : candidate.page = .product state) : candidate = top := by
    rw [stack, List.mem_cons] at member
    rcases member with rfl | lower
    · rfl
    · have within : candidate.page.screen ∈ others.map fun route => route.page.screen :=
        List.mem_map.mpr ⟨candidate, lower, rfl⟩
      rw [below, shown] at within
      exact absurd within (none _ _)
  rw [on_top member shown, on_top other_mem other_shown]

/-- It is the topmost page. -/
theorem Laid.product_head (laid : Laid s) (member : route ∈ s.stack)
    (shown : route.page = .product state) : s.stack.head? = some route := by
  obtain ⟨rest, shape, _⟩ := laid.stacked.product_top (App.product_mem member shown)
  obtain ⟨top, others, stack, screen, _⟩ := List.map_eq_cons_iff.mp shape
  have product : ∃ state, top.page = .product state := by
    cases page : top.page <;> simp [page, Page.screen] at screen
    exact ⟨_, rfl⟩
  obtain ⟨state', top_shown⟩ := product
  rw [stack, List.head?_cons, laid.product_unique member shown (by simp [stack]) top_shown]

/-- What an event makes of a product page that stays. -/
inductive Reshown (event : Event) (state state' : ProductState) : Prop
  | kept (quantity : state'.quantity = state.quantity)
      (minus : state'.minusEnabled = state.minusEnabled)
  | plus (quantity : state'.quantity = state.quantity + 1)
      (minus : state'.minusEnabled = state.minusEnabled)
  | minus (enabled : state.minusEnabled = true) (quantity : state'.quantity = state.quantity - 1)
      (minus : state'.minusEnabled = state.minusEnabled)
  | rebuilt (frame : event = .frame) (quantity : state'.quantity = state.quantity)
      (minus : state'.minusEnabled = decide (1 < state.quantity))

theorem Page.apply_product {change : LocalUpdate} {page : Page}
    (shown : Page.apply change page = .product state') :
    ∃ state, page = .product state ∧ state'.product = state.product ∧
      state'.quantity = state.quantity ∧ state'.minusEnabled = state.minusEnabled := by
  cases change <;> cases page <;> cases shown <;> exact ⟨_, rfl, rfl, rfl, rfl⟩

theorem Revised.reshown {event : Event} (revised : Revised s event route (.product state')) :
    ∃ state, route.page = .product state ∧ state'.product = state.product ∧
      Reshown event state state' := by
  generalize after : Page.product state' = page at revised
  cases revised with
  | kept => exact ⟨state', after.symm, rfl, .kept rfl rfl⟩
  | rebuilt frame =>
    cases shown : route.page <;> rw [shown] at after <;> cases after
    exact ⟨_, rfl, rfl, .rebuilt frame rfl rfl⟩
  | begun | resumed =>
    obtain ⟨state, shown, product, quantity, minus⟩ := Page.apply_product after.symm
    exact ⟨state, shown, product, .kept quantity minus⟩
  | restated _ _ restated =>
    generalize shown : route.page = before at restated
    cases restated with
    | plus state => cases after; exact ⟨state, rfl, rfl, .plus rfl rfl⟩
    | minus state enabled => cases after; exact ⟨state, rfl, rfl, .minus enabled rfl rfl⟩
    | payment => cases after
  | typed _ typed =>
    generalize route.page = before at typed
    cases typed <;> cases after
  | rowBuilt => cases after

end Routes

/-! ### The app with its till -/

/-- What the product pages show and what was added from them. -/
structure Till where
  /-- The quantity each product page was last built with, by its route. -/
  built : Nat → Int := fun _ => 1
  /-- The adds since the entry of their product was last deleted or the cart was cleared. -/
  live : List Charge := []

/-- The 'Total Price' of the topmost page. -/
def Till.shown (till : Till) (s : App) (product : Product) : ℚ :=
  product.price * (s.stack.head?.map fun top => till.built top.id).getD 1

/-- A new page shows one piece; a frame builds the pages that are marked. -/
def Till.rebuild (till : Till) (s : App) (e : Timed) (id : Nat) : Int :=
  if id = e.time then 1
  else if e.event = .frame then
    match s.stack.find? fun route => route.id == id && route.dirty with
    | some { page := .product state, .. } => state.quantity
    | _ => till.built id
  else till.built id

def Till.note (s : App) (e : Timed) (_ : App) (till : Till) : Till where
  built := till.rebuild s e
  live :=
    match s.bookEvent e with
    | .add _ product _ => till.live ++ [⟨product, till.shown s product⟩]
    | .delete index =>
      match s.globalCart[index]? with
      | some item => till.live.filter fun charge => decide (charge.product.id ≠ item.product.id)
      | none => till.live
    | .settle _ true => []
    | _ => till.live

def soldApp : Machine (App × Till) Timed := app.observe Till.note

/-- The shop's page is the product page of the app, if there is one. -/
structure Displays (s : App) (built : Nat → Int) (t : Shop) : Prop where
  page : ∀ route ∈ s.stack, ∀ state, route.page = .product state →
    t.page = some ⟨state.product, state.quantity, built route.id⟩
  minus : ∀ route ∈ s.stack, ∀ state, route.page = .product state →
    state.minusEnabled = decide (1 < built route.id)
  clean : ∀ route ∈ s.stack, ∀ state, route.page = .product state → route.dirty = false →
    built route.id = state.quantity
  empty : (∀ route ∈ s.stack, ∀ state, route.page ≠ .product state) → t.page = none

/-- The app with its till and the shop with its charges. -/
structure Sells (p : App × Till) (q : Shop × List Charge) : Prop where
  laid : Laid p.1
  displays : Displays p.1 p.2.built q.1
  cart : q.1.globalCart.blank = p.1.globalCart.blank
  live : q.2 = p.2.live
  stocked : ∀ item ∈ q.1.globalCart, item.product ∈ demoProducts

section Pages

variable {s s' : App} {e : Timed} {till : Till} {t : Shop} {live : List Charge}
variable {K : Shop × List Charge → ShopEvent → Prop}

/-- Events of the shop that are no adds are allowed. -/
def AllowsOthers (K : Shop × List Charge → ShopEvent → Prop) : Prop :=
  ∀ q f, f ≠ .addToCart → K q f

/-- An event of the shop that changes the page only. -/
theorem turnPage (others : AllowsOthers K) {f : ShopEvent} {page? : Option ProductPage}
    (no_add : f ≠ .addToCart)
    (step : Shop.step demoProducts t f = some { t with page := page? })
    (noted : noteCharge t f { t with page := page? } live = live) :
    (chargedShop demoProducts).Run K (t, live) [f] ({ t with page := page? }, live) := by
  refine .single (others _ _ no_add) ?_
  have observed : (chargedShop demoProducts).step (t, live) f =
      some ({ t with page := page? }, noteCharge t f { t with page := page? } live) :=
    Machine.observe_step step live
  rwa [noted] at observed

/-- The one product page decides. -/
theorem Displays.of_page {built : Nat → Int} {route : Route} {state : ProductState} (laid : Laid s)
    (member : route ∈ s.stack) (shown : route.page = .product state)
    (page : t.page = some ⟨state.product, state.quantity, built route.id⟩)
    (minus : state.minusEnabled = decide (1 < built route.id))
    (clean : route.dirty = false → built route.id = state.quantity) : Displays s built t := by
  have same {other : Route} {state' : ProductState} (other_mem : other ∈ s.stack)
      (other_shown : other.page = .product state') : other = route ∧ state' = state := by
    cases laid.product_unique member shown other_mem other_shown
    rw [shown] at other_shown
    cases other_shown
    exact ⟨rfl, rfl⟩
  constructor
  · intro other other_mem state' other_shown
    obtain ⟨rfl, rfl⟩ := same other_mem other_shown
    exact page
  · intro other other_mem state' other_shown
    obtain ⟨rfl, rfl⟩ := same other_mem other_shown
    exact minus
  · intro other other_mem state' other_shown
    obtain ⟨rfl, rfl⟩ := same other_mem other_shown
    exact clean
  · intro none
    exact absurd shown (none route member state)

/-- A page has just been opened. -/
theorem Displays.opened {route : Route} {state : ProductState} (others : AllowsOthers K)
    (laid : Laid s') (member : route ∈ s'.stack) (shown : route.page = .product state)
    (new : route.id = e.time) (fresh : route.page.isFresh = true) :
    ∃ fs page?, (chargedShop demoProducts).Run K (t, live) fs ({ t with page := page? }, live) ∧
      Displays s' (till.rebuild s e) { t with page := page? } := by
  have stocked := laid.stacked.stocked (App.product_mem member shown)
  have built : till.rebuild s e route.id = 1 := if_pos new
  simp only [shown, Page.isFresh, Bool.and_eq_true, beq_iff_eq, Bool.not_eq_true'] at fresh
  obtain ⟨⟨one, _⟩, disabled⟩ := fresh
  refine ⟨[.openProduct state.product], some { product := state.product },
    turnPage others (by simp) (by simp [Shop.step, stocked]) rfl, ?_⟩
  refine .of_page laid member shown ?_ ?_ fun _ => ?_
  · rw [built, one]
  · rw [built, disabled]
    rfl
  · rw [built, one]

theorem Till.rebuild_unframed {id : Nat} (older : id ≠ e.time) (unframed : e.event ≠ .frame) :
    till.rebuild s e id = till.built id := by
  simp [Till.rebuild, older, unframed]

/-- A frame builds the product page with the selected quantity if it is marked. -/
theorem Till.rebuild_framed {route : Route} {state : ProductState} (wf : WellFormed s)
    (member : route ∈ s.stack) (shown : route.page = .product state) (framed : e.event = .frame)
    (older : route.id ≠ e.time) :
    till.rebuild s e route.id = if route.dirty then state.quantity else till.built route.id := by
  have unique {other : Route} (other_mem : other ∈ s.stack) (same : other.id = route.id) :
      other = route := route_unique wf.routeNames member other_mem same
  cases dirty : route.dirty with
  | true =>
    have found : s.stack.find? (fun other => other.id == route.id && other.dirty) = some route := by
      obtain ⟨other, found⟩ := Option.isSome_iff_exists.mp (List.find?_isSome.mpr
        ⟨route, member, by simp [dirty]⟩ : (s.stack.find? fun other =>
          other.id == route.id && other.dirty).isSome)
      have named := List.find?_some found
      simp only [Bool.and_eq_true, beq_iff_eq] at named
      rw [found, unique (List.mem_of_find?_eq_some found) named.1]
    obtain ⟨id, page, mark⟩ := route
    dsimp only at shown older
    subst shown
    simp only [Till.rebuild, older, framed, if_true, if_false, found]
  | false =>
    have lost : s.stack.find? (fun other => other.id == route.id && other.dirty) = none := by
      rw [List.find?_eq_none]
      intro other other_mem
      by_cases same : other.id = route.id
      · rw [unique other_mem same, dirty]
        simp
      · simp [same]
    simp only [Till.rebuild, older, framed, if_true, if_false, lost]
    rfl

/-- A frame shows the selected quantity on the page if it is marked. -/
theorem Displays.framed {route : Route} {state : ProductState} (others : AllowsOthers K)
    (laid : Laid s) (laid' : Laid s') (displays : Displays s till.built t)
    (member : route ∈ s.stack) (shown : route.page = .product state) (framed : e.event = .frame)
    (later : s.now < e.time) (built : s'.stack = s.turn.rebuildDirty.stack) :
    ∃ fs page?, (chargedShop demoProducts).Run K (t, live) fs ({ t with page := page? }, live) ∧
      Displays s' (till.rebuild s e) { t with page := page? } := by
  have older : route.id ≠ e.time :=
    Nat.ne_of_lt (Nat.lt_of_le_of_lt (laid.wf.routeAge route member) later)
  have page := displays.page route member state shown
  have rebuilt := till.rebuild_framed laid.wf member shown framed older
  refine ⟨[.frame], t.page.map fun page => { page with built := page.quantity },
    turnPage others (by simp) rfl rfl, ?_⟩
  cases dirty : route.dirty with
  | true =>
    rw [if_pos dirty] at rebuilt
    have listed : { route with
        page := .product { state with minusEnabled := decide (1 < state.quantity) }
        dirty := false } ∈ s'.stack := by
      rw [built]
      exact List.mem_map.mpr ⟨route, member, by simp [dirty, shown, Page.rebuild]⟩
    refine .of_page laid' listed rfl ?_ ?_ fun _ => rebuilt
    · simp [page, rebuilt]
    · simp [rebuilt]
  -- the page shows it already
  | false =>
    rw [if_neg (by simp [dirty])] at rebuilt
    have listed : route ∈ s'.stack := by
      rw [built]
      exact List.mem_map.mpr ⟨route, member, by simp [dirty]⟩
    have clean := displays.clean route member state shown dirty
    refine .of_page laid' listed shown ?_ ?_ fun _ => rebuilt.trans clean
    · simp [page, rebuilt, clean]
    · rw [rebuilt]
      exact displays.minus route member state shown

/-- The page of the app after any event, and what the shop does meanwhile. -/
theorem Displays.step (others : AllowsOthers K) (laid : Laid s) (displays : Displays s till.built t)
    (step : s.step e = some s') :
    ∃ fs page?, (chargedShop demoProducts).Run K (t, live) fs ({ t with page := page? }, live) ∧
      Displays s' (till.rebuild s e) { t with page := page? } := by
  have laid' := laid.step step
  have later := (App.step_cases step).1
  by_cases open_ : ∃ route ∈ s'.stack, ∃ state, route.page = .product state
  · obtain ⟨route', member', state', shown'⟩ := open_
    rcases (App.step_shifted laid.wf step).routes member' with ⟨new, fresh⟩ | ⟨route, member, id, revised⟩
    · exact Displays.opened others laid' member' shown' new fresh
    rw [shown'] at revised
    obtain ⟨state, shown, product, reshown⟩ := revised.reshown
    by_cases framed : e.event = .frame
    · rcases App.step_kinds step with ⟨_, built⟩ | ⟨back, _⟩ | ⟨_, _, answer⟩ | ⟨_, _, _, _, tapped, _⟩
      · exact displays.framed others laid laid' member shown framed later built
      · simp [framed] at back
      · simp [framed] at answer
      · simp [framed, Turn.tap] at tapped
    · have older : route'.id ≠ e.time := by
        rw [id]
        exact Nat.ne_of_lt (Nat.lt_of_le_of_lt (laid.wf.routeAge route member) later)
      have built : till.rebuild s e route'.id = till.built route.id := by
        rw [Till.rebuild_unframed older framed, id]
      have page := displays.page route member state shown
      have minus := displays.minus route member state shown
      -- a page that is not marked is as it was
      have clean (unmarked : route'.dirty = false) : till.rebuild s e route'.id = state'.quantity := by
        cases App.step_marked laid.wf step framed member' with
        | opened new => exact absurd new older
        | kept old =>
          rw [Till.rebuild_unframed older framed]
          exact displays.clean route' old state' shown' unmarked
        | marked dirty => simp [unmarked] at dirty
        | typed old _ typed =>
          rw [shown'] at typed
          generalize old.page = before at typed
          cases typed
        | row _ shows => rw [shown'] at shows; cases shows
      cases reshown with
      | kept quantity same =>
        refine ⟨[], t.page, .nil, .of_page laid' member' shown' ?_ ?_ clean⟩
        · rw [page, built, product, quantity]
        · rw [built, same, minus]
      | plus quantity same =>
        refine ⟨[.plus], some ⟨state.product, state.quantity + 1, till.built route.id⟩,
          turnPage others (by simp) (by simp [Shop.step, page]) rfl,
          .of_page laid' member' shown' ?_ ?_ clean⟩
        · rw [built, product, quantity]
        · rw [built, same, minus]
      | minus enabled quantity same =>
        have above : 1 < till.built route.id := by simpa [minus] using enabled
        refine ⟨[.minus], some ⟨state.product, state.quantity - 1, till.built route.id⟩,
          turnPage others (by simp) (by simp [Shop.step, page, above]) rfl,
          .of_page laid' member' shown' ?_ ?_ clean⟩
        · rw [built, product, quantity]
        · rw [built, same, minus]
      | rebuilt frame => exact absurd frame framed
  -- no product page is left
  · have gone : ∀ route ∈ s'.stack, ∀ state, route.page ≠ .product state :=
      fun route member state shown => open_ ⟨route, member, state, shown⟩
    refine ⟨[.leave], none, turnPage others (by simp) rfl rfl, ?_⟩
    exact ⟨fun route member state shown => absurd shown (gone route member state),
      fun route member state shown => absurd shown (gone route member state),
      fun route member state shown => absurd shown (gone route member state), fun _ => rfl⟩

end Pages

/-! ### The cart -/

theorem Cart.blank_addToCart_ref (cart : Cart) (ref ref' : Nat) (product : Product) (quantity : Int) :
    (cart.addToCart ref product quantity).blank = (cart.addToCart ref' product quantity).blank := by
  induction cart with
  | nil => rfl
  | cons item rest ih =>
    rw [addToCart_cons, addToCart_cons]
    by_cases same : item.product.name = product.name
    · rw [if_pos same, if_pos same]
    · rw [if_neg same, if_neg same]
      exact congrArg (item.blank :: ·) ih

/-- Carts that differ in names only stay so. -/
theorem Cart.addToCart_blank_congr {cart cart' : Cart} (same : cart.blank = cart'.blank)
    (ref ref' : Nat) (product : Product) (quantity : Int) :
    (cart.addToCart ref product quantity).blank = (cart'.addToCart ref' product quantity).blank := by
  rw [blank_addToCart, same, ← blank_addToCart, blank_addToCart_ref]

theorem Cart.removeItem_blank_congr {cart cart' rest : Cart} {index : Nat}
    (same : cart.blank = cart'.blank) (removed : cart'.removeItem index = some rest) :
    ∃ left, cart.removeItem index = some left ∧ left.blank = rest.blank := by
  have blank : (cart.removeItem index).map Cart.blank = some rest.blank := by
    rw [← Cart.blank_removeItem, same, Cart.blank_removeItem, removed]
    rfl
  exact Option.map_eq_some_iff.mp blank

theorem Cart.getElem?_product_congr {cart cart' : Cart} (same : cart.blank = cart'.blank)
    (index : Nat) : cart[index]?.map CartItem.product = cart'[index]?.map CartItem.product := by
  have blank := congrArg (fun cart : Cart => cart[index]?.map CartItem.product) same
  simpa [Option.map_map, Function.comp_def, CartItem.blank] using blank

/-- What does not look at the names is the same on both. -/
theorem Cart.map_eq_of_blank {α : Type*} {f : CartItem → α} {cart cart' : Cart}
    (same : cart.blank = cart'.blank) (unnamed : ∀ item, f item.blank = f item) :
    cart.map f = cart'.map f := by
  have blank := congrArg (List.map f) same
  simpa [Cart.blank, Function.comp_def, unnamed] using blank

theorem Cart.addToCart_stocked {catalogue : List Product} {cart : Cart} {ref : Nat}
    {product : Product} {quantity : Int} (stocked : ∀ item ∈ cart, item.product ∈ catalogue)
    (new : product ∈ catalogue) :
    ∀ item ∈ cart.addToCart ref product quantity, item.product ∈ catalogue := by
  rcases cart.addToCart_cases ref product quantity with
    ⟨front, item, back, rfl, _, _, grown⟩ | ⟨_, appended⟩
  · have products : (front ++ { item with quantity := item.quantity + quantity } :: back).map
        CartItem.product = (front ++ item :: back).map CartItem.product := by simp
    intro other member
    rw [grown] at member
    have listed := List.mem_map_of_mem (f := CartItem.product) member
    rw [products] at listed
    obtain ⟨old, old_mem, same⟩ := List.mem_map.mp listed
    rw [← same]
    exact stocked old old_mem
  · rw [appended]
    intro other member
    rcases List.mem_append.mp member with old | last
    · exact stocked other old
    · rw [List.mem_singleton.mp last]
      exact new

section Steps

variable {s s' : App} {e : Timed} {till : Till} {t : Shop} {live : List Charge}
variable {K : Shop × List Charge → ShopEvent → Prop}

/-- What the shop does to its cart while the app takes a step. -/
def Charged (K : Shop × List Charge → ShopEvent → Prop) (t : Shop) (live : List Charge)
    (globalCart : Cart) (live' : List Charge) : Prop :=
  ∃ fs t', (chargedShop demoProducts).Run K (t, live) fs (t', live') ∧ t'.page = t.page ∧
    t'.globalCart.blank = globalCart.blank ∧ ∀ item ∈ t'.globalCart, item.product ∈ demoProducts

theorem Sells.kept (sells : Sells (s, till) (t, live)) (same : s'.globalCart = s.globalCart)
    (unnoted : (Till.note s e s' till).live = till.live) :
    Charged K t live s'.globalCart (Till.note s e s' till).live := by
  have noted : live = (Till.note s e s' till).live := sells.live.trans unnoted.symm
  refine ⟨[], t, ?_, rfl, by rw [same]; exact sells.cart, sells.stocked⟩
  rw [← noted]
  exact .nil

/-- An add on the product page is the shop's add. -/
theorem Sells.exists_add {top : Route} {rest : List Route} {state : ProductState}
    (sells : Sells (s, till) (t, live)) (shape : s.stack = top :: rest)
    (shown : top.page = .product state) (tapped : e.event = .tapAddToCart)
    (grown : s'.globalCart = s.globalCart.addToCart e.time state.product state.quantity) :
    ∃ t', (chargedShop demoProducts).step (t, live) .addToCart =
        some (t', (Till.note s e s' till).live) ∧ t'.page = t.page ∧
      t'.globalCart.blank = s'.globalCart.blank ∧
      ∀ item ∈ t'.globalCart, item.product ∈ demoProducts := by
  have on_top : top ∈ s.stack := by simp [shape]
  have page : t.page = some ⟨state.product, state.quantity, till.built top.id⟩ :=
    sells.displays.page top on_top state shown
  have books : live = till.live := sells.live
  have stocked := sells.laid.stacked.stocked (App.product_mem on_top shown)
  have noted : (Till.note s e s' till).live =
      live ++ [⟨state.product, state.product.price * till.built top.id⟩] := by
    obtain ⟨id, page, dirty⟩ := top
    dsimp only at shown
    subst shown
    simp [Till.note, App.bookEvent, tapped, shape, Till.shown, books]
  have step : Shop.step demoProducts t .addToCart = some { t with
      globalCart := t.globalCart.addToCart t.next state.product state.quantity
      next := t.next + 1 } := by simp [Shop.step, page]
  refine ⟨{ t with
    globalCart := t.globalCart.addToCart t.next state.product state.quantity
    next := t.next + 1 }, ?_, rfl, ?_, Cart.addToCart_stocked sells.stocked stocked⟩
  · have observed : (chargedShop demoProducts).step (t, live) .addToCart = some (_, _) :=
      Machine.observe_step step live
    rw [observed, noted]
    simp [noteCharge, page, ProductPage.totalPrice]
  · rw [grown]
    exact Cart.addToCart_blank_congr sells.cart _ _ _ _

theorem Sells.added {top : Route} {rest : List Route} {state : ProductState}
    (sells : Sells (s, till) (t, live)) (allowed : K (t, live) .addToCart)
    (shape : s.stack = top :: rest) (shown : top.page = .product state)
    (tapped : e.event = .tapAddToCart)
    (grown : s'.globalCart = s.globalCart.addToCart e.time state.product state.quantity) :
    Charged K t live s'.globalCart (Till.note s e s' till).live := by
  obtain ⟨t', added, page, cart, stocked⟩ := sells.exists_add shape shown tapped grown
  exact ⟨[.addToCart], t', .single allowed added, page, cart, stocked⟩

theorem Sells.deleted {top : Route} {rest : List Route} {view : CartView} {index : Nat}
    (sells : Sells (s, till) (t, live)) (others : AllowsOthers K)
    (shape : s.stack = top :: rest) (shown : top.page = .cart view)
    (tapped : e.event = .tapDelete index)
    (removed : s.globalCart.removeItem index = some s'.globalCart) :
    Charged K t live s'.globalCart (Till.note s e s' till).live := by
  have books : live = till.live := sells.live
  have cart : t.globalCart.blank = s.globalCart.blank := sells.cart
  -- no product page is open, since it would be the topmost
  have closed : t.page = none := by
    refine sells.displays.empty fun route member state product => ?_
    have head := sells.laid.product_head member product
    dsimp only at head
    rw [shape, List.head?_cons, Option.some.injEq] at head
    rw [head, product] at shown
    cases shown
  obtain ⟨left, removed', same⟩ := Cart.removeItem_blank_congr cart removed
  have step : Shop.step demoProducts t (.removeItem index) = some { t with globalCart := left } := by
    simp [Shop.step, closed, removed']
  have noted : (Till.note s e s' till).live =
      noteCharge t (.removeItem index) { t with globalCart := left } live := by
    have products := Cart.getElem?_product_congr cart index
    simp only [Till.note, App.bookEvent, tapped, noteCharge, books]
    cases here : t.globalCart[index]? <;> cases there : s.globalCart[index]? <;>
      simp_all
  refine ⟨[.removeItem index], { t with globalCart := left }, .single (others _ _ (by simp)) ?_, rfl,
    same, fun item member => ?_⟩
  · rw [noted]
    exact Machine.observe_step step live
  · obtain ⟨front, gone, back, split, _, rfl⟩ := Cart.removeItem_eq_some_iff.mp removed'
    refine sells.stocked item ?_
    dsimp only
    rw [split]
    rcases List.mem_append.mp member with before | after
    · simp [before]
    · simp [after]

theorem charged_of_cleared (others : AllowsOthers K) {call : Nat}
    (recorded : s.bookEvent e = .settle call true) (empty : s'.globalCart = []) :
    Charged K t live s'.globalCart (Till.note s e s' till).live := by
  have noted : (Till.note s e s' till).live = [] := by simp [Till.note, recorded]
  refine ⟨[.orderCompleted], { t with globalCart := [] }, .single (others _ _ (by simp)) ?_, rfl,
    by rw [empty], by simp⟩
  rw [noted]
  rfl

/-- The cart and the charges after any event. -/
theorem Sells.charged (sells : Sells (s, till) (t, live)) (others : AllowsOthers K)
    (adds : e.event = .tapAddToCart → K (t, live) .addToCart) (step : s.step e = some s') :
    Charged K t live s'.globalCart (Till.note s e s' till).live := by
  have unnoted (other : s.bookEvent e = .other) : (Till.note s e s' till).live = till.live := by
    simp [Till.note, other]
  obtain ⟨_, moved⟩ := App.step_cases step
  obtain ⟨time, event⟩ := e
  cases moved with
  | frame | back => exact sells.kept rfl (unnoted (by simp [App.bookEvent]))
  | tap _ top rest turn shape move =>
    cases plain : event.isPlain with
    | true =>
      exact sells.kept (move.plain_cart rfl plain).1 (unnoted (bookEvent_of_plain s plain))
    | false =>
      cases move.cartMove plain with
      | add state shown => exact sells.added (adds rfl) shape shown rfl rfl
      | delete view index globalCart shown row removed =>
        exact sells.deleted others shape shown rfl removed
      -- past the end nothing is deleted, and nothing is noted
      | deleteThrows index outside =>
        have past : s.globalCart[index]? = none := by
          rw [List.getElem?_eq_none_iff]
          by_contra inside
          have some_ := Cart.removeItem_isSome_iff.mpr (Nat.lt_of_not_le inside)
          have outside : s.globalCart.removeItem index = none := outside
          simp [outside] at some_
        exact sells.kept rfl (by simp [Till.note, App.bookEvent, past])
      | confirm state shown =>
        dsimp only at shape
        refine sells.kept (by simp) ?_
        obtain ⟨id, page, dirty⟩ := top
        dsimp only at shown
        simp [Till.note, App.bookEvent, shape, shown]
  | answer call outcome turn member found ends resumed =>
    have cart := resumed.cart
    cases noOrder : call.point.isOrder with
    | false =>
      exact sells.kept (by simpa [noOrder] using cart)
        (unnoted (Tracks.bookEvent_of_other time found noOrder))
    | true =>
      obtain ⟨doc, point⟩ := call.point.eq_addOrder noOrder
      have entry : s.bookEvent ⟨time, .answer call.id outcome⟩ =
          .settle call.id outcome.succeeded := Tracks.bookEvent_of_order time found point
      cases ok : outcome.succeeded with
      | true =>
        exact charged_of_cleared others (entry.trans (by rw [ok])) (by simpa [noOrder, ok] using cart)
      | false =>
        exact sells.kept (by simpa [ok] using cart) (by simp [Till.note, entry, ok])

theorem Displays.of_page_eq {built : Nat → Int} {t' : Shop} (displays : Displays s built t)
    (same : t'.page = t.page) : Displays s built t' :=
  ⟨fun route member state shown => same.trans (displays.page route member state shown),
    displays.minus, displays.clean, fun gone => same.trans (displays.empty gone)⟩

/-- A step of the app is answered by the shop: first the cart, then the page. -/
theorem Sells.step (sells : Sells (s, till) (t, live)) (others : AllowsOthers K)
    (adds : e.event = .tapAddToCart → K (t, live) .addToCart) (step : s.step e = some s') :
    ∃ fs q, (chargedShop demoProducts).Run K (t, live) fs q ∧ Sells (s', Till.note s e s' till) q := by
  obtain ⟨fs, t', run, page, cart, stocked⟩ := sells.charged others adds step
  obtain ⟨gs, page?, run', displays⟩ :=
    (sells.displays.of_page_eq page).step others sells.laid step
  exact ⟨fs ++ gs, _, run.append run', sells.laid.step step, displays, cart, rfl, stocked⟩

theorem Sells.init (currentUser : Option Uid) (orders : List OrderDoc) :
    Sells (App.init currentUser orders, {}) ({}, []) where
  laid := .init currentUser orders
  displays := ⟨by simp [App.init], by simp [App.init], by simp [App.init], fun _ => rfl⟩
  cart := rfl
  live := rfl
  stocked := by simp

end Steps

/-! ### The results -/

/-- Every run of the app with its till is one of the shop with its charges. -/
theorem soldApp_simulates : soldApp.Simulates (chargedShop demoProducts) Machine.Free Machine.Free Sells := by
  rintro ⟨s, till⟩ e ⟨s', till'⟩ ⟨t, live⟩ sells _ step
  obtain ⟨step, noted⟩ := Machine.observe_step_iff.mp step
  dsimp only at step noted
  rw [noted]
  exact sells.step (fun _ _ _ => trivial) (fun _ => trivial) step

/-- In every state the app can reach, the shop can be in one it sells as. -/
theorem exists_sells {currentUser : Option Uid} {orders : List OrderDoc} {es : List Timed} {s : App}
    (run : app.Run Machine.Free (App.init currentUser orders) es s) :
    ∃ till fs q, (chargedShop demoProducts).Run Machine.Free ({}, []) fs q ∧ Sells (s, till) q := by
  obtain ⟨till, observed⟩ : ∃ till, soldApp.Run (fun p e => Machine.Free p.1 e)
      (App.init currentUser orders, {}) es (s, till) := run.observed ({} : Till)
  obtain ⟨fs, q, answered, sells⟩ :=
    observed.simulated soldApp_simulates (.init currentUser orders)
  exact ⟨till, fs, q, answered, sells⟩

/-- What is in the cart is from the catalogue. -/
theorem stocked_of_run {currentUser : Option Uid} {orders : List OrderDoc} {es : List Timed} {s : App}
    (run : app.Run Machine.Free (App.init currentUser orders) es s) :
    ∀ item ∈ s.globalCart, item.product ∈ demoProducts := by
  obtain ⟨_, _, ⟨t, _⟩, _, sells⟩ := exists_sells run
  have same : t.globalCart.map CartItem.product = s.globalCart.map CartItem.product :=
    Cart.map_eq_of_blank sells.cart fun _ => rfl
  intro item member
  obtain ⟨other, listed, product⟩ := List.mem_map.mp (same ▸ List.mem_map_of_mem member)
  exact product ▸ sells.stocked other listed

/-- Add to Cart is tapped only while the page shows the total of the selected quantity. -/
def AddsAsShown (p : App × Till) (e : Timed) : Prop :=
  e.event = .tapAddToCart → ∀ top ∈ p.1.stack.head?, ∀ quantity ∈ top.page.quantity,
    p.2.built top.id = quantity

instance (p : App × Till) (e : Timed) : Decidable (AddsAsShown p e) :=
  inferInstanceAs (Decidable (_ → ∀ top ∈ _, ∀ quantity ∈ _, _))

/-- The app's cart with its live adds, as the shop has them. -/
def billed (p : App × Till) : Shop × List Charge := ({ globalCart := p.1.globalCart }, p.2.live)

theorem demoProducts_names : (demoProducts.map Product.name).Nodup := by decide +kernel

theorem demoProducts_ids : (demoProducts.map Product.id).Nodup := by decide +kernel

theorem demoProducts_priced : ∀ product ∈ demoProducts, product.price ≠ 0 := by decide +kernel

/-- `BilledAsShown` looks at the entries of the cart, not at their names. -/
theorem BilledAsShown.of_blank {t t' : Shop} {live : List Charge} (billed : BilledAsShown (t, live))
    (same : t.globalCart.blank = t'.globalCart.blank) : BilledAsShown (t', live) := by
  have ids : (t.globalCart.map fun item => item.product.id) =
      t'.globalCart.map fun item => item.product.id := Cart.map_eq_of_blank same fun _ => rfl
  have carried : t.globalCart.map CartItem.product = t'.globalCart.map CartItem.product :=
    Cart.map_eq_of_blank same fun _ => rfl
  obtain ⟨distinct, entries, products, total⟩ := billed
  dsimp only at distinct entries products total
  rw [ids] at distinct
  simp only [ids] at entries
  refine ⟨distinct, entries, fun item member charge live same => ?_, ?_⟩
  · have listed : item.product ∈ t.globalCart.map CartItem.product :=
      carried ▸ List.mem_map_of_mem member
    obtain ⟨other, other_mem, product⟩ := List.mem_map.mp listed
    rw [← product]
    exact products other other_mem charge live (product ▸ same)
  · rw [← total, ← Cart.cartTotal_blank, ← same, Cart.cartTotal_blank]

section Billing

variable {s s' : App} {till : Till} {t : Shop} {live : List Charge} {e : Timed}

theorem App.step_addToCart {time : Nat} (step : s.step ⟨time, .tapAddToCart⟩ = some s') :
    ∃ top rest state, s.stack = top :: rest ∧ top.page = .product state ∧
      s'.globalCart = s.globalCart.addToCart time state.product state.quantity := by
  obtain ⟨_, moved⟩ := App.step_cases step
  cases moved with
  | tap _ top rest turn shape move =>
    cases move.cartMove rfl with
    | add state shown => exact ⟨top, rest, state, shape, shown, rfl⟩

/-- Names are distinct in the shipped catalogue, so what the shop asks of an add is that the page
shows its total, and no product is free. -/
theorem Sells.addsApart_iff (sells : Sells (s, till) (t, live)) (tapped : e.event = .tapAddToCart)
    (step : s.step e = some s') : AddsApart (t, live) .addToCart ↔ AddsAsShown (s, till) e := by
  obtain ⟨time, event⟩ := e
  dsimp only at tapped
  subst tapped
  obtain ⟨top, rest, state, shape, shown, _⟩ := App.step_addToCart step
  have on_top : top ∈ s.stack := by simp [shape]
  have page : t.page = some ⟨state.product, state.quantity, till.built top.id⟩ :=
    sells.displays.page top on_top state shown
  have stocked := sells.laid.stacked.stocked (App.product_mem on_top shown)
  have price := demoProducts_priced _ stocked
  have apart : ∀ item ∈ t.globalCart, item.product.name = state.product.name →
      item.product.id = state.product.id := fun item member name => by
    rw [List.inj_on_of_nodup_map demoProducts_names (sells.stocked item member) stocked name]
  have guard : AddsAsShown (s, till) ⟨time, .tapAddToCart⟩ ↔
      till.built top.id = state.quantity := by
    simp [AddsAsShown, shape, shown, Page.quantity]
  rw [guard]
  simp only [AddsApart, page, ProductPage.totalPrice]
  constructor
  · intro allowed
    exact_mod_cast mul_left_cancel₀ price allowed.2
  · intro same
    exact ⟨apart, by rw [same]⟩

/-- The shop at its price list, for the state of the app. -/
def Sold (p : App × Till) : Prop := ∃ q, Sells p q ∧ Priced demoProducts q

theorem Sold.billed {p : App × Till} (sold : Sold p) : BilledAsShown (billed p) := by
  obtain ⟨⟨t, live⟩, sells, priced⟩ := sold
  have books : live = p.2.live := sells.live
  subst books
  exact (priced.billedAsShown demoProducts_ids).of_blank sells.cart

theorem Sold.step (sold : Sold (s, till)) (shown : AddsAsShown (s, till) e)
    (step : s.step e = some s') : Sold (s', Till.note s e s' till) := by
  obtain ⟨⟨t, live⟩, sells, priced⟩ := sold
  obtain ⟨fs, q, run, sells'⟩ := sells.step (K := AddsApart) (fun q f other => by
    cases f with
    | addToCart => exact absurd rfl other
    | _ => trivial) (fun tapped => (sells.addsApart_iff tapped step).mpr shown) step
  exact ⟨q, sells', run.invariant priced fun _ _ _ priced guard step =>
    priced.step demoProducts_ids guard step⟩

/-- An add that is billed as shown was tapped on a page that showed its quantity. -/
theorem Sold.addsAsShown (sold : Sold (s, till)) (step : s.step e = some s')
    (kept : BilledAsShown (CartX.billed (s', Till.note s e s' till))) : AddsAsShown (s, till) e := by
  by_cases tapped : e.event = .tapAddToCart
  · obtain ⟨⟨t, live⟩, sells, priced⟩ := sold
    rw [← sells.addsApart_iff tapped step]
    obtain ⟨time, event⟩ := e
    dsimp only at tapped
    subst tapped
    obtain ⟨top, rest, state, shape, shown, grown⟩ := App.step_addToCart step
    obtain ⟨t', added, _, cart, _⟩ := sells.exists_add (e := ⟨time, .tapAddToCart⟩) shape shown
      rfl grown
    exact addsApart_of_billed demoProducts_ids priced added (kept.of_blank cart.symm)
  · exact fun add => absurd add tapped

end Billing

/-- In the runs of the app whose adds are tapped on pages that show the selected quantity, and only
in those, the cart always has one entry for each product with a live add, and its total is the sum
of the totals the pages showed at those adds. -/
theorem app_bills_as_shown_iff (currentUser : Option Uid) (orders : List OrderDoc) (es : List Timed)
    (p : App × Till) :
    soldApp.Run AddsAsShown (App.init currentUser orders, {}) es p ↔
      soldApp.Run (fun p _ => BilledAsShown (billed p)) (App.init currentUser orders, {}) es p ∧
        BilledAsShown (billed p) := by
  apply Machine.Run.guarded_iff_of_kept (J := Sold)
  · exact ⟨({}, []), .init currentUser orders, by simp, by simp, by simp, by simp, by simp, by simp⟩
  · intro p sold
    exact sold.billed
  · rintro ⟨s, till⟩ e ⟨s', till'⟩ sold shown step
    obtain ⟨step, noted⟩ := Machine.observe_step_iff.mp step
    dsimp only at step noted
    rw [noted]
    exact sold.step shown step
  · rintro ⟨s, till⟩ e ⟨s', till'⟩ sold step kept
    obtain ⟨step, noted⟩ := Machine.observe_step_iff.mp step
    dsimp only at step noted
    rw [noted] at kept
    exact sold.addsAsShown step kept

end CartX
