import CartX.Properties.Steps
import Mathlib.Data.List.InsertIdx

/-!
# The identities of cart objects

What the app does never depends on which `CartItem` object it finds at a
position, only on its product and quantity. `blank` forgets the identities, in
the cart and in the rows of the cart page, and every turn of the event loop
does the same, up to identities, from a turn with its identities forgotten.
-/

namespace CartX

def CartItem.blank (item : CartItem) : CartItem := { item with ref := 0 }

def Cart.blank (cart : Cart) : Cart := cart.map CartItem.blank

def CartView.blank (view : CartView) : CartView :=
  { view with rows := view.rows.map fun row => (row.1, 0) }

def Page.blank : Page → Page
  | .cart view => .cart view.blank
  | page => page

def Route.blank (route : Route) : Route := { route with page := route.page.blank }

def Turn.blank (turn : Turn) : Turn :=
  { turn with stack := turn.stack.map Route.blank, globalCart := turn.globalCart.blank }

/-! ### Carts and pages -/

namespace Cart

@[simp] theorem length_blank (cart : Cart) : cart.blank.length = cart.length := by simp [blank]

@[simp] theorem cartTotal_blank (cart : Cart) : cart.blank.cartTotal = cart.cartTotal := by
  rw [cartTotal_eq_sum, cartTotal_eq_sum, blank, List.map_map]
  rfl

@[simp] theorem getElem?_blank (cart : Cart) (index : Nat) :
    cart.blank[index]? = cart[index]?.map CartItem.blank := by simp [blank]

@[simp] theorem blank_blank (cart : Cart) : cart.blank.blank = cart.blank := by
  simp only [blank, List.map_map]
  rfl

theorem blank_addToCart (cart : Cart) (ref : Nat) (product : Product) (quantity : Int) :
    (cart.addToCart ref product quantity).blank =
      (cart.blank.addToCart ref product quantity).blank := by
  induction cart with
  | nil => rfl
  -- the search compares names only
  | cons item rest ih =>
    have split : blank (item :: rest) = item.blank :: blank rest := rfl
    rw [split, addToCart_cons, addToCart_cons]
    by_cases same : item.product.name = product.name
    · rw [if_pos same, if_pos (show item.blank.product.name = product.name from same)]
      show _ :: _ = _ :: blank (blank rest)
      rw [blank_blank]
      rfl
    · rw [if_neg same, if_neg (show ¬ item.blank.product.name = product.name from same)]
      exact congrArg (item.blank :: ·) ih

theorem blank_removeItem (cart : Cart) (index : Nat) :
    cart.blank.removeItem index = (cart.removeItem index).map blank := by
  simp only [removeItem, length_blank]
  split
  · simp [blank, List.eraseIdx_map]
  · rfl

end Cart

@[simp] theorem CartView.build_blank (cart : Cart) : CartView.build cart.blank = .build cart := by
  simp [CartView.build]

@[simp] theorem Page.blank_blank (page : Page) : page.blank.blank = page.blank := by
  cases page with
  | cart view => simp [Page.blank, CartView.blank]
  | _ => rfl

@[simp] theorem Route.blank_blank (route : Route) : route.blank.blank = route.blank := by
  simp [Route.blank]

theorem CartView.blank_buildRow (view : CartView) (cart : Cart) (index : Nat) :
    (view.buildRow cart index).blank = (view.blank.buildRow cart.blank index).blank := by
  have others : (view.rows.filter fun row => row.1 != index).map (fun row => (row.1, 0)) =
      ((view.rows.map fun row => (row.1, 0)).filter fun row => row.1 != index).map
        fun row => (row.1, 0) := by
    rw [List.filter_map, List.map_map]
    rfl
  unfold CartView.buildRow
  rw [Cart.getElem?_blank]
  cases cart[index]? <;> simp [CartView.blank, others]

@[simp] theorem Page.navBar_blank (page : Page) : page.blank.navBar = page.navBar := by
  cases page <;> rfl

@[simp] theorem Page.shownProducts_blank (page : Page) :
    page.blank.shownProducts = page.shownProducts := by
  cases page <;> rfl

@[simp] theorem Page.ofNavIndex_blank (cart : Cart) (index : Nat) :
    Page.ofNavIndex cart.blank index = Page.ofNavIndex cart index := by
  rcases index with _ | _ | _ | _ | _ <;> simp [Page.ofNavIndex]

theorem Page.blank_apply (change : LocalUpdate) (page : Page) :
    (Page.apply change page).blank = (Page.apply change page.blank).blank := by
  cases page with
  | cart view => cases change <;> simp [Page.apply, Page.blank, CartView.blank]
  | _ => rfl

@[simp] theorem placeOrder_blank (user : Option Uid) (cart : Cart) (total : ℚ) (now : Nat) :
    placeOrder user cart.blank total now = placeOrder user cart total now := by
  have empty : cart.blank.isEmpty = cart.isEmpty := by cases cart <;> rfl
  simp [placeOrder, empty]

/-! ### Turns -/

namespace Turn

variable (turn : Turn) (time id : Nat) (user : Option Uid)

@[simp] theorem mounted_blank : turn.blank.mounted id = turn.mounted id := by
  simp [mounted, blank, List.any_map, Function.comp_def, Route.blank]

@[simp] theorem blank_blank : turn.blank.blank = turn.blank := by
  simp [blank, List.map_map, Function.comp_def]

theorem blank_setState {f g : Page → Page} (keeps : ∀ page, (f page).blank = (g page.blank).blank) :
    (turn.setState id f).blank = (turn.blank.setState id g).blank := by
  simp only [blank, setState, List.map_map, Cart.blank_blank]
  congr 1
  apply List.map_congr_left
  intro route _
  by_cases here : route.id = id <;> simp [Route.blank, here, keeps route.page]

theorem blank_edit {f g : Page → Page} (keeps : ∀ page, (f page).blank = (g page.blank).blank) :
    (turn.edit id f).blank = (turn.blank.edit id g).blank := by
  simp only [blank, edit, List.map_map, Cart.blank_blank]
  congr 1
  apply List.map_congr_left
  intro route _
  by_cases here : route.id = id <;> simp [Route.blank, here, keeps route.page]

theorem blank_pushReplacement (page : Page) :
    (turn.pushReplacement time page).blank = (turn.blank.pushReplacement time page).blank := by
  simp [blank, pushReplacement, List.map_tail, Function.comp_def]

theorem blank_pushAndRemoveUntil (page : Page) :
    (turn.pushAndRemoveUntil time page).blank = (turn.blank.pushAndRemoveUntil time page).blank := by
  simp [blank, pushAndRemoveUntil]

theorem blank_perform (effect : Effect) :
    (turn.perform time id effect).blank = (turn.blank.perform time id effect).blank := by
  cases effect with
  | setState update => exact turn.blank_setState id (Page.blank_apply update)
  | pushReplacement page => exact turn.blank_pushReplacement time _
  | pushAndRemoveUntil page => exact turn.blank_pushAndRemoveUntil time _
  | pop => simp [blank, perform, List.map_tail, Function.comp_def]
  | showSnackBar content => simp [perform]
  | showDialog => simp [blank, perform, Function.comp_def]
  | clearCart => simp [blank, perform, Function.comp_def]

theorem blank_applyEffect (effect : Effect) :
    (turn.applyEffect time id effect).blank = (turn.blank.applyEffect time id effect).blank := by
  unfold applyEffect
  rw [mounted_blank]
  split
  · simp
  · exact turn.blank_perform time id effect

theorem blank_effects (effects : List Effect) :
    (effects.foldl (applyEffect time id) turn).blank =
      (effects.foldl (applyEffect time id) turn.blank).blank := by
  -- effect by effect; forgetting in between changes nothing
  induction effects generalizing turn with
  | nil => simp
  | cons effect rest ih =>
    rw [List.foldl_cons, List.foldl_cons, ih, blank_applyEffect, ← ih]

theorem blank_begin (handler : Handler) :
    (turn.begin time id handler).blank = (turn.blank.begin time id handler).blank := by
  have same := turn.blank_effects time id handler.start.1
  simp only [blank, Turn.mk.injEq] at same
  simp only [begin, blank, same]

theorem blank_push (page : Page) :
    (turn.push time user page).blank = (turn.blank.push time user page).blank := by
  have pushed : ({ turn with stack := { id := time, page } :: turn.stack } : Turn).blank =
      ({ turn.blank with stack := { id := time, page } :: turn.blank.stack } : Turn).blank := by
    simp [blank, Function.comp_def]
  unfold push
  split <;> first | exact pushed | (rw [blank_begin, pushed, ← blank_begin])

/-- A tap does the same, up to identities, when the identities are forgotten. -/
theorem blank_tap (event : Event) (top : Route) :
    (turn.tap time user event top).map blank =
      (turn.blank.tap time user event top.blank).map blank := by
  obtain ⟨id, page, dirty⟩ := top
  cases event with
  -- the taps that read the cart or a page's rows come first
  | tapNav index =>
    simp only [tap, Route.blank, Page.navBar_blank]
    rw [show turn.blank.globalCart = turn.globalCart.blank from rfl, Page.ofNavIndex_blank]
    split
    · split
      · simp
      · simp [turn.blank_pushAndRemoveUntil time]
    · rfl
  | tapProduct product =>
    simp only [tap, Route.blank, Page.shownProducts_blank]
    split
    · simp [turn.blank_push time user]
    · rfl
  | buildRow index =>
    cases page with
    | cart view =>
      show Option.map blank (if dirty = false ∧ index < view.itemCount then
          some (turn.edit id fun _ => .cart (view.buildRow turn.globalCart index)) else none) =
        Option.map blank (if dirty = false ∧ index < view.itemCount then
          some (turn.blank.edit id fun _ => .cart (view.blank.buildRow turn.globalCart.blank index))
          else none)
      by_cases fits : dirty = false ∧ index < view.itemCount
      · rw [if_pos fits, if_pos fits]
        refine congrArg some (turn.blank_edit id fun _ => ?_)
        exact congrArg Page.cart (CartView.blank_buildRow view turn.globalCart index)
      · rw [if_neg fits, if_neg fits]
    | _ => rfl
  | tapDelete index =>
    cases page with
    | cart view =>
      have rows : (view.blank.rows.any fun row => row.1 == index) =
          view.rows.any fun row => row.1 == index := by
        simp [CartView.blank, List.any_map, Function.comp_def]
      simp only [tap, Route.blank, Page.blank, rows]
      rw [show turn.blank.globalCart = turn.globalCart.blank from rfl, Cart.blank_removeItem]
      split
      · cases turn.globalCart.removeItem index with
        | none => simp
        | some globalCart =>
          refine congrArg some ?_
          exact blank_setState { turn with globalCart } id fun page => (Page.blank_blank page).symm
      · rfl
    | _ => rfl
  | tapProceed =>
    cases page with
    | cart view =>
      simp only [tap, Route.blank, Page.blank]
      rw [show view.blank.itemCount = view.itemCount from rfl,
        show turn.blank.globalCart.cartTotal = turn.globalCart.cartTotal from
          turn.globalCart.cartTotal_blank]
      split
      · simp [turn.blank_push time user]
      · rfl
    | _ => rfl
  | tapAddToCart =>
    cases page with
    | product state =>
      refine congrArg some ?_
      simp only [blank, Turn.mk.injEq, and_true]
      refine ⟨by simp [Function.comp_def], ?_⟩
      exact Cart.blank_addToCart turn.globalCart time state.product state.quantity
    | _ => rfl
  | tapConfirm =>
    cases page with
    | checkout state =>
      refine congrArg some ?_
      rw [show turn.blank.globalCart = turn.globalCart.blank from rfl, placeOrder_blank]
      exact turn.blank_begin time id _
    | _ => rfl
  -- the others look at their own page and the signed-in user
  | tapLogin =>
    cases page with
    | login state =>
      simp only [tap, Route.blank, Page.blank]
      split
      · split
        · simp
        · simp [turn.blank_begin time id]
      · rfl
    | _ => rfl
  | tapHeart =>
    cases page with
    | product state =>
      cases user with
      | none => simp [tap, Route.blank, Page.blank]
      | some uid => exact congrArg some (turn.blank_begin time id _)
    | _ => rfl
  | tapCategory name =>
    cases page with
    | category =>
      simp only [tap, Route.blank, Page.blank]
      split
      · exact congrArg some (turn.blank_push time user _)
      · rfl
    | _ => rfl
  | tapMinus =>
    cases page with
    | product state =>
      simp only [tap, Route.blank, Page.blank]
      split
      · exact congrArg some (turn.blank_setState id fun _ => rfl)
      · rfl
    | _ => rfl
  | typeProfile =>
    cases page with
    | editProfile state =>
      simp only [tap, Route.blank, Page.blank]
      split
      · exact congrArg some (turn.blank_edit id fun _ => rfl)
      · rfl
    | _ => rfl
  | tapSave =>
    cases page with
    | editProfile state =>
      simp only [tap, Route.blank, Page.blank]
      split
      · exact congrArg some (turn.blank_begin time id _)
      · rfl
    | _ => rfl
  | splashTimeout =>
    cases page with
    | splash => exact congrArg some (turn.blank_pushReplacement time _)
    | _ => rfl
  | tapBackToHome =>
    cases page with
    | orderDialog => exact congrArg some (turn.blank_pushAndRemoveUntil time _)
    | _ => rfl
  | tapPlus | selectPayment =>
    cases page <;> first | rfl | exact congrArg some (turn.blank_setState id fun _ => rfl)
  | typeLogin =>
    cases page <;> first | rfl | exact congrArg some (turn.blank_edit id fun _ => rfl)
  | tapCreateAccount | tapSearch | tapMenu =>
    cases page <;> first | rfl | exact congrArg some (turn.blank_push time user _)
  | tapGetStarted | tapLogout =>
    cases page <;> first | rfl | exact congrArg some (turn.blank_begin time id _)
  | back | frame | answer => rfl

theorem blank_rebuildDirty : turn.rebuildDirty.blank = turn.blank.rebuildDirty.blank := by
  simp only [blank, rebuildDirty, List.map_map, Cart.blank_blank]
  congr 1
  apply List.map_congr_left
  intro route _
  by_cases dirty : route.dirty = true
  · cases page : route.page <;> simp [Route.blank, dirty, page, Page.rebuild, Page.blank]
  · simp [Route.blank, dirty]

end Turn

end CartX
