import CartX.Properties.BackStack
import CartX.Properties.Login

/-!
# The stacks of the app

Every page is opened from the page below it, replaces the whole stack, or is the
home page a sign-in puts in place of the signup page. The stacks this allows form
a small language (`Stacked`), and every stack of it is the stack of a state the
app can reach. What the pages take for granted about the pages below them is read
off the language: the tab their bar marks, and that the edit form lies over the
profile page.
-/

namespace CartX

/-- A page with its local state left out. -/
inductive Screen
  | splash
  | login
  | signup
  | home
  | category
  | productList (categoryFilter : Option String) (navIndex : Nat)
  | search (navIndex : Nat)
  | product (product : Product) (navIndex : Nat)
  | cart
  | checkout
  | orderDialog
  | profile
  | menu (item : MenuItem)
  deriving DecidableEq, Repr

def Page.screen : Page → Screen
  | .splash => .splash
  | .login _ => .login
  | .signup => .signup
  | .home => .home
  | .category => .category
  | .productList categoryFilter navIndex => .productList categoryFilter navIndex
  | .search navIndex => .search navIndex
  | .product state => .product state.product state.navIndex
  | .cart _ => .cart
  | .checkout _ => .checkout
  | .orderDialog => .orderDialog
  | .profile => .profile
  | .myOrders => .menu .myOrders
  | .wishlist => .menu .wishlist
  | .editProfile _ => .menu .editProfile
  | .settings => .menu .settings
  | .contactUs => .menu .contactUs

def screensOf (stack : List Route) : List Screen := stack.map fun route => route.page.screen

/-- What the navigator shows, topmost first. -/
def App.screens (s : App) : List Screen := screensOf s.stack

/-- The pages that are ever alone on the stack. -/
def Screen.isRoot : Screen → Bool
  | .splash | .login | .home | .category | .cart | .profile => true
  | _ => false

/-- The first screen is opened from the second. -/
inductive Over : Screen → Screen → Prop
  | signup : Over .signup .login
  | search : Over (.search 0) .home
  | productList (categoryName : String) (row : categoryName ∈ categoryNames) :
      Over (.productList (some categoryName) 1) .category
  | popular (product : Product) (listed : product ∈ popularProducts) :
      Over (.product product 0) .home
  | found (product : Product) (navIndex : Nat) (listed : product ∈ demoProducts) :
      Over (.product product navIndex) (.search navIndex)
  | listed (product : Product) (categoryFilter : Option String) (navIndex : Nat)
      (listed : product ∈ listedProducts demoProducts categoryFilter) :
      Over (.product product navIndex) (.productList categoryFilter navIndex)
  | wished (product : Product) (listed : product ∈ demoProducts) :
      Over (.product product 3) (.menu .wishlist)
  | menu (item : MenuItem) : Over (.menu item) .profile
  | checkout : Over .checkout .cart
  | ordered : Over .orderDialog .checkout
  -- a second order of the same checkout page succeeds
  | orderedAgain : Over .orderDialog .orderDialog

/-- The stacks of the app. -/
inductive Stacked : List Screen → Prop
  | root {screen : Screen} (root : screen.isRoot = true) : Stacked [screen]
  | onTop {above below : Screen} {rest : List Screen} (lies : Over above below)
      (stack : Stacked (below :: rest)) : Stacked (above :: below :: rest)
  -- the home page in place of the signup page, over the login page that signed in
  | signedIn : Stacked [.home, .login]

/-! ### Reading the language -/

namespace Stacked

variable {screen above below : Screen} {screens rest : List Screen}

theorem closed (stack : Stacked (above :: screen :: rest)) : Stacked (screen :: rest) := by
  cases stack with
  | onTop _ stack => exact stack
  | signedIn => exact .root rfl

theorem ne_nil (stack : Stacked screens) : screens ≠ [] := by
  cases stack <;> simp

theorem eq_root (root : screen.isRoot = true) (stack : Stacked (screen :: rest)) :
    rest = [] ∨ screen = .home ∧ rest = [.login] := by
  cases stack with
  | root => exact .inl rfl
  | onTop lies => cases lies <;> cases root
  | signedIn => exact .inr ⟨rfl, rfl⟩

/-- The edit form is always the topmost page. -/
theorem eq_editProfile (stack : Stacked screens) (within : .menu .editProfile ∈ screens) :
    screens = [.menu .editProfile, .profile] := by
  induction stack with
  | root root =>
    rw [List.mem_singleton] at within
    subst within
    cases root
  | signedIn => simp at within
  | @onTop above below rest lies stack ih =>
    -- nothing is opened from the form, so it is the page just opened
    by_cases lower : .menu .editProfile ∈ below :: rest
    · have form := ih lower
      rw [List.cons_eq_cons] at form
      rw [form.1] at lies
      cases lies
    · have here : .menu .editProfile = above := by simpa [lower] using within
      subst here
      cases lies
      rcases stack.eq_root rfl with rfl | ⟨home, _⟩
      · rfl
      · cases home

/-- Over a checkout page lie only success dialogs, and below it only the cart page. -/
theorem eq_checkout (stack : Stacked screens) (within : .checkout ∈ screens) :
    ∃ dialogs, screens = List.replicate dialogs .orderDialog ++ [.checkout, .cart] := by
  induction stack with
  | root root =>
    rw [List.mem_singleton] at within
    subst within
    cases root
  | signedIn => simp at within
  | @onTop above below rest lies stack ih =>
    by_cases lower : .checkout ∈ below :: rest
    · obtain ⟨dialogs, shape⟩ := ih lower
      -- the page over a dialog or over the checkout page is one more dialog
      have dialog : above = .orderDialog := by
        cases dialogs with
        | zero =>
          rw [List.replicate_zero, List.nil_append, List.cons_eq_cons] at shape
          rw [shape.1] at lies
          cases lies
          rfl
        | succ dialogs =>
          rw [List.replicate_succ, List.cons_append, List.cons_eq_cons] at shape
          rw [shape.1] at lies
          cases lies
          rfl
      exact ⟨dialogs + 1, by rw [dialog, shape, List.replicate_succ, List.cons_append]⟩
    · have here : .checkout = above := by simpa [lower] using within
      subst here
      cases lies
      rcases stack.eq_root rfl with rfl | ⟨home, _⟩
      · exact ⟨0, rfl⟩
      · cases home

/-- A success dialog lies over its checkout page. -/
theorem checkout_mem (stack : Stacked screens) (within : .orderDialog ∈ screens) :
    .checkout ∈ screens := by
  induction stack with
  | root root =>
    rw [List.mem_singleton] at within
    subst within
    cases root
  | signedIn => simp at within
  | @onTop above below rest lies stack ih =>
    by_cases lower : .orderDialog ∈ below :: rest
    · exact List.mem_cons_of_mem _ (ih lower)
    · have here : .orderDialog = above := by simpa [lower] using within
      subst here
      cases lies with
      | ordered => simp
      | orderedAgain => simp at lower

end Stacked

/-! ### The screens after an event -/

section Screens

variable {s s' : App} {turn turn' : Turn} {e : Timed}

theorem screensOf_setState (turn : Turn) {id : Nat} {update : Page → Page}
    (same : ∀ route ∈ turn.stack, route.id = id → (update route.page).screen = route.page.screen) :
    screensOf (turn.setState id update).stack = screensOf turn.stack := by
  simp only [screensOf, Turn.setState, List.map_map]
  apply List.map_congr_left
  intro route member
  by_cases here : route.id = id
  · simp [here, same route member here]
  · simp [here]

theorem screensOf_edit (turn : Turn) {id : Nat} {update : Page → Page}
    (same : ∀ route ∈ turn.stack, route.id = id → (update route.page).screen = route.page.screen) :
    screensOf (turn.edit id update).stack = screensOf turn.stack := by
  simp only [screensOf, Turn.edit, List.map_map]
  apply List.map_congr_left
  intro route member
  by_cases here : route.id = id
  · simp [here, same route member here]
  · simp [here]

theorem screensOf_rebuildDirty (turn : Turn) :
    screensOf turn.rebuildDirty.stack = screensOf turn.stack := by
  simp only [screensOf, Turn.rebuildDirty, List.map_map]
  apply List.map_congr_left
  intro route _
  by_cases dirty : route.dirty = true
  · cases shown : route.page <;> simp [dirty, shown, Page.rebuild, Page.screen]
  · simp [dirty]

@[simp] theorem Page.screen_apply (change : LocalUpdate) (page : Page) :
    (Page.apply change page).screen = page.screen := by
  cases change <;> cases page <;> rfl

theorem screensOf_begin (turn : Turn) (time id : Nat) (handler : Handler) :
    screensOf (turn.begin time id handler).stack = screensOf turn.stack := by
  rcases turn.begin_stack time id handler with same | busy
  · rw [same]
  · rw [busy]
    exact screensOf_setState turn fun route _ _ => Page.screen_apply _ _

/-- What a tap makes of the screens. -/
inductive Tapped (below : Screen) (before : List Screen) : List Screen → Prop
  | stayed : Tapped below before before
  | opened {above : Screen} (lies : Over above below) : Tapped below before (above :: before)
  | entered (splash : below = .splash) : Tapped below before (.login :: before.tail)
  | tab {screen : Screen} (root : screen.isRoot = true) (shop : screen ≠ .splash ∧ screen ≠ .login) :
      Tapped below before [screen]

theorem Tapped.pushed {time : Nat} {user : Option Uid} {page : Page} {below : Screen}
    (lies : Over page.screen below) :
    Tapped below (screensOf turn.stack) (screensOf (turn.push time user page).stack) := by
  rw [Turn.push_stack]
  exact .opened lies

theorem shownProducts_over {page : Page} {product : Product}
    (listed : product ∈ page.shownProducts.1) :
    Over (.product product page.shownProducts.2) page.screen := by
  cases page with
  | home => exact .popular product listed
  | productList categoryFilter navIndex => exact .listed product categoryFilter navIndex listed
  | search navIndex => exact .found product navIndex listed
  | wishlist => exact .wished product listed
  | _ => simp [Page.shownProducts] at listed

theorem tap_screens {time : Nat} {user : Option Uid} {event : Event} {top : Route}
    (unique : ∀ route ∈ turn.stack, route.id = top.id → route = top)
    (tapped : turn.tap time user event top = some turn') :
    Tapped top.page.screen (screensOf turn.stack) (screensOf turn'.stack) := by
  -- a `setState` or an edit of the topmost page leaves it the screen it is
  have restated {page : Page} (alike : page.screen = top.page.screen) :
      Tapped top.page.screen (screensOf turn.stack)
        (screensOf (turn.setState top.id fun _ => page).stack) := by
    rw [screensOf_setState turn fun route member here => by rw [unique route member here, alike]]
    exact .stayed
  have edited {page : Page} (alike : page.screen = top.page.screen) :
      Tapped top.page.screen (screensOf turn.stack)
        (screensOf (turn.edit top.id fun _ => page).stack) := by
    rw [screensOf_edit turn fun route member here => by rw [unique route member here, alike]]
    exact .stayed
  have begun (handler : Handler) : Tapped top.page.screen (screensOf turn.stack)
      (screensOf (turn.begin time top.id handler).stack) := by
    rw [screensOf_begin]
    exact .stayed
  -- one case per line of `Turn.tap`, in its order
  unfold Turn.tap at tapped
  split at tapped
  next shown =>
    cases tapped
    have entered : Tapped top.page.screen (screensOf turn.stack)
        (.login :: (screensOf turn.stack).tail) := .entered (by rw [shown]; rfl)
    simpa [screensOf, Turn.pushReplacement, Page.screen, List.map_tail] using entered
  next state shown =>
    split at tapped
    · split at tapped
      · cases tapped; exact .stayed
      · cases tapped; exact begun .login
    · cases tapped
  next shown => cases tapped; exact .pushed (by rw [shown]; exact .signup)
  next => cases tapped; exact begun .signup
  -- the bottom bar
  next index page shown =>
    split at tapped
    next selectedIndex page bar entry =>
      split at tapped
      · cases tapped; exact .stayed
      · cases tapped
        rcases ofNavIndex_cases entry with rfl | rfl | rfl | rfl <;>
          exact .tab (by rfl) (by simp [Page.screen])
    · cases tapped
  next shown => cases tapped; exact .pushed (by rw [shown]; exact .search)
  next shown =>
    split at tapped
    next row => cases tapped; exact .pushed (by rw [shown]; exact .productList _ row)
    · cases tapped
  next product page shown =>
    split at tapped
    next listed => cases tapped; exact .pushed (shownProducts_over listed)
    · cases tapped
  -- the product page
  next shown =>
    split at tapped
    · cases tapped; exact begun .toggleWishlist
    · cases tapped; exact .stayed
  next state shown => cases tapped; exact restated (by rw [shown]; rfl)
  next state shown =>
    split at tapped
    · cases tapped; exact restated (by rw [shown]; rfl)
    · cases tapped
  next => cases tapped; exact .stayed
  -- the cart page
  next view shown =>
    split at tapped
    · cases tapped; exact edited (by rw [shown]; rfl)
    · cases tapped
  next view shown =>
    split at tapped
    · split at tapped
      next globalCart removed =>
        cases tapped
        rw [screensOf_setState { turn with globalCart } fun _ _ _ => rfl]
        exact .stayed
      · cases tapped; exact .stayed
    · cases tapped
  next view shown =>
    split at tapped
    · cases tapped; exact .pushed (by rw [shown]; exact .checkout)
    · cases tapped
  -- the checkout page, the dialog and the profile pages
  next state shown => cases tapped; exact restated (by rw [shown]; rfl)
  next => cases tapped; exact begun _
  next => cases tapped; exact .tab rfl (by simp [Page.screen])
  next item shown =>
    cases tapped
    exact .pushed (by rw [shown]; cases item <;> exact .menu _)
  next => cases tapped; exact begun .logout
  next state shown => cases tapped; exact edited (by rw [shown]; rfl)
  next state shown =>
    split at tapped
    · cases tapped; exact edited (by rw [shown]; rfl)
    · cases tapped
  next =>
    split at tapped
    · cases tapped; exact begun .updateData
    · cases tapped
  next => cases tapped

/-- What an event makes of the screens. -/
inductive Rescreened (s : App) (event : Event) : List Screen → Prop
  | tapped {below : Screen} {rest after : List Screen} (shape : s.screens = below :: rest)
      (tapped : Tapped below s.screens after) : Rescreened s event after
  | stayed : Rescreened s event s.screens
  | back {top below : Screen} {rest : List Screen} (shape : s.screens = top :: below :: rest) :
      Rescreened s event (below :: rest)
  | loggedIn (call : Call) (outcome : Outcome) (answered : event = .answer call.id outcome)
      (member : call ∈ s.pending) (point : call.point = .signIn)
      (mounted : s.turn.mounted call.page = true) :
      Rescreened s event (.home :: s.screens.tail)
  | signedUp : Rescreened s event [.home]
  | loggedOut : Rescreened s event [.login]
  | saved (within : .menu .editProfile ∈ s.screens) : Rescreened s event s.screens.tail
  | ordered (within : .checkout ∈ s.screens) : Rescreened s event (.orderDialog :: s.screens)

theorem App.mem_screens {route : Route} (member : route ∈ s.stack) :
    route.page.screen ∈ s.screens :=
  List.mem_map.mpr ⟨route, member, rfl⟩

/-- The page of a mounted handler is one of the screens. -/
theorem owned_screen {call : Call} (wf : WellFormed s) (member : call ∈ s.pending)
    (mounted : s.turn.mounted call.page = true) :
    ∃ route ∈ s.stack, route.id = call.page ∧ call.point.owns route.page = true ∧
      route.page.screen ∈ s.screens := by
  obtain ⟨route, here, id⟩ := exists_route_of_mounted mounted
  exact ⟨route, here, id, wf.owned call member route here id, App.mem_screens here⟩

theorem Await.owns_editProfile {page : Page} (owns : Await.updateUser.owns page = true) :
    page.screen = .menu .editProfile := by
  cases page with
  | editProfile state => rfl
  | _ => cases owns

theorem Resumed.rescreened {call : Call} {outcome : Outcome} (wf : WellFormed s)
    (member : call ∈ s.pending) (resumed : Resumed s.turn s.now call outcome turn) :
    Rescreened s (.answer call.id outcome) (screensOf turn.stack) := by
  have updated (turn : Turn) (change : LocalUpdate) :
      screensOf (turn.setState call.page (Page.apply change)).stack = screensOf turn.stack :=
    screensOf_setState turn fun _ _ _ => Page.screen_apply _ _
  cases resumed with
  | nothing | created | orderedAway => exact .stayed
  | update change => rw [updated]; exact .stayed
  | loggedIn point ok mounted =>
    have home : screensOf (s.turn.pushReplacement s.now .home).stack = .home :: s.screens.tail := by
      simp [screensOf, Turn.pushReplacement, App.screens, Page.screen, List.map_tail]
    rw [updated, home]
    exact .loggedIn call outcome rfl member point mounted
  | signedUp => exact .signedUp
  | loggedOut => exact .loggedOut
  | saved point ok mounted =>
    obtain ⟨route, _, _, owned, within⟩ := owned_screen wf member mounted
    rw [Await.owns_editProfile (point ▸ owned)] at within
    have closed : screensOf (s.turn.setState call.page (Page.apply (.isLoading false))).stack.tail =
        s.screens.tail := by
      rw [screensOf, List.map_tail, ← screensOf, updated]
      rfl
    rw [closed]
    exact .saved within
  | ordered doc point ok mounted =>
    obtain ⟨route, _, _, owned, within⟩ := owned_screen wf member mounted
    obtain ⟨state, shown⟩ := Await.addOrder_owns (point ▸ owned)
    rw [shown] at within
    exact .ordered within

/-- A step is a frame, a Back, an answer, or a tap on the topmost page. -/
theorem App.step_kinds (step : s.step e = some s') :
    (e.event = .frame ∧ s'.stack = s.turn.rebuildDirty.stack) ∨
    (e.event = .back ∧ ∃ top, s.stack = top :: s'.stack ∧ s'.stack ≠ []) ∨
    (∃ id outcome, e.event = .answer id outcome) ∨
    ∃ top rest turn, s.stack = top :: rest ∧
      s.turn.tap e.time s.currentUser e.event top = some turn ∧
      s' = ({ s with now := e.time } : App).after turn := by
  obtain ⟨time, event⟩ := e
  unfold App.step at step
  split at step
  next later =>
    dsimp only at step ⊢
    split at step
    · cases step
      exact .inl ⟨rfl, rfl⟩
    · exact .inr (.inr (.inl ⟨_, _, rfl⟩))
    next top below rest shape =>
      cases step
      exact .inr (.inl ⟨rfl, top, shape, by simp⟩)
    · cases step
    next top rest _ _ _ _ shape =>
      obtain ⟨turn, tapped, rfl⟩ := Option.map_eq_some_iff.mp step
      exact .inr (.inr (.inr ⟨top, rest, turn, shape, tapped, rfl⟩))
    · cases step
  · cases step

/-- The screens after a step, from the state whose clock shows the event's time. -/
theorem App.step_rescreened (wf : WellFormed s) (step : s.step e = some s') :
    Rescreened { s with now := e.time } e.event s'.screens := by
  obtain ⟨later, _⟩ := App.step_cases step
  obtain ⟨ticked, _⟩ := wf.tick later
  rcases App.step_kinds step with ⟨_, built⟩ | ⟨_, top, shape, remain⟩ | ⟨id, outcome, answered⟩ |
    ⟨top, rest, turn, shape, tapped, rfl⟩
  · have same : s'.screens = s.screens := by
      rw [App.screens, built, screensOf_rebuildDirty]
      rfl
    rw [same]
    exact .stayed
  · obtain ⟨below, rest, stack⟩ := List.exists_cons_of_ne_nil remain
    have screens : s'.screens = below.page.screen :: screensOf rest := by
      rw [App.screens, stack]
      rfl
    have before : s.screens = top.page.screen :: below.page.screen :: screensOf rest := by
      rw [App.screens, shape, stack]
      rfl
    rw [screens]
    exact .back before
  · obtain ⟨time, event⟩ := e
    dsimp only at answered
    subst answered
    obtain ⟨call, turn, member, rfl, _, resumed, rfl⟩ := App.step_answered step
    exact Resumed.rescreened ticked member resumed
  · have unique : ∀ route ∈ s.stack, route.id = top.id → route = top := fun route member same =>
      route_unique wf.routeNames (by simp [shape]) member same
    have before : s.screens = top.page.screen :: screensOf rest := by
      rw [App.screens, shape]
      rfl
    exact .tapped before (tap_screens unique tapped)

end Screens

/-! ### Every stack is one of the language -/

/-- A sign-in whose page is there has no shop page over it. -/
def App.SigningIn (s : App) : Prop :=
  ∀ call ∈ s.pending, call.point = .signIn → s.turn.mounted call.page = true →
    s.kinds = [.login] ∨ s.kinds = [.signup, .login]

/-- What is kept about the stack. -/
structure Laid (s : App) : Prop where
  wf : WellFormed s
  flight : SingleFlight s
  stacked : Stacked s.screens
  signingIn : s.SigningIn

section Laid

variable {s s' : App} {e : Timed}

theorem Laid.init (currentUser : Option Uid) (orders : List OrderDoc) :
    Laid (App.init currentUser orders) where
  wf := .init currentUser orders
  flight := ⟨by simp [App.init, App.signIns], by simp [App.init]⟩
  stacked := .root rfl
  signingIn := by simp [App.SigningIn, App.init]

theorem App.screens_of_kinds (s : App) : (s.kinds = [.login] → s.screens = [.login]) ∧
    (s.kinds = [.signup, .login] → s.screens = [.signup, .login]) := by
  have login {page : Page} (kind : page.kind = .login) : page.screen = .login := by
    cases page <;> first | rfl | cases kind
  have signup {page : Page} (kind : page.kind = .signup) : page.screen = .signup := by
    cases page <;> first | rfl | cases kind
  constructor
  · intro kinds
    obtain ⟨top, stack, kind⟩ : ∃ top, s.stack = [top] ∧ top.page.kind = .login := by
      simpa [App.kinds, List.map_eq_singleton_iff] using kinds
    simp [App.screens, screensOf, stack, login kind]
  · intro kinds
    obtain ⟨top, rest, stack, kind, below⟩ := List.map_eq_cons_iff.mp kinds
    obtain ⟨bottom, rfl, kind'⟩ := List.map_eq_singleton_iff.mp below
    simp [App.screens, screensOf, stack, signup kind, login kind']

theorem Stacked.rescreened {event : Event} {after : List Screen} (stacked : Stacked s.screens)
    (signingIn : s.SigningIn) (changed : Rescreened s event after) : Stacked after := by
  cases changed with
  | tapped shape tapped =>
    cases tapped with
    | stayed => exact stacked
    | opened lies =>
      rw [shape] at stacked ⊢
      exact .onTop lies stacked
    -- the splash screen is alone
    | entered splash =>
      rw [shape, splash] at stacked
      rcases stacked.eq_root rfl with rfl | ⟨home, _⟩
      · rw [shape]
        exact .root rfl
      · cases home
    | tab root => exact .root root
  | stayed => exact stacked
  | back shape => exact (shape ▸ stacked).closed
  -- in place of the login page, or of the signup page over it
  | loggedIn call _ _ member point mounted =>
    have screens := s.screens_of_kinds
    rcases signingIn call member point mounted with login | signup
    · rw [screens.1 login]
      exact .root rfl
    · rw [screens.2 signup]
      exact .signedIn
  | signedUp | loggedOut => exact .root rfl
  | saved within =>
    rw [stacked.eq_editProfile within]
    exact .root rfl
  | ordered within =>
    obtain ⟨dialogs, shape⟩ := stacked.eq_checkout within
    rw [shape] at stacked ⊢
    cases dialogs with
    | zero => exact .onTop .ordered stacked
    | succ dialogs => exact .onTop .orderedAgain stacked

/-- A sign-in is sent by a tap on Login only. -/
theorem App.signIn_pending {call : Call} (step : s.step e = some s') (member : call ∈ s'.pending)
    (point : call.point = .signIn) : call ∈ s.pending ∨ e.event = .tapLogin := by
  obtain ⟨_, moved⟩ := App.step_cases step
  obtain ⟨time, event⟩ := e
  cases moved with
  | frame | back => exact .inl member
  | tap _ top rest turn shape move =>
    rcases List.mem_append.mp member with started | old
    · exact .inr (move.tapped_login rfl started point)
    · exact .inl old
  | answer other outcome turn _ _ _ resumed =>
    rcases List.mem_append.mp member with started | old
    · rcases resumed.started rfl with none | ⟨_, _, one, _⟩
      · simp [none] at started
      · simp_all
    · rw [App.commit_pending] at old
      exact .inl (List.mem_of_mem_filter old)

/-- Two pending sign-ins with their pages there are the same call. -/
theorem SigningIn.unique {call other : Call} (wf : WellFormed s) (flight : SingleFlight s)
    (signingIn : s.SigningIn) (member : call ∈ s.pending) (other_mem : other ∈ s.pending)
    (point : call.point = .signIn) (other_point : other.point = .signIn)
    (mounted : s.turn.mounted call.page = true) (other_mounted : s.turn.mounted other.page = true) :
    other = call := by
  obtain ⟨route, here, id⟩ := exists_route_of_mounted mounted
  obtain ⟨route', here', id'⟩ := exists_route_of_mounted other_mounted
  have login := login_kind wf member point here id
  have login' := login_kind wf other_mem other_point here' id'
  -- there is one login page
  have same : route' = route := by
    rcases signingIn call member point mounted with kinds | kinds
    · obtain ⟨top, stack, _⟩ := List.map_eq_singleton_iff.mp kinds
      simp_all
    · obtain ⟨top, rest, stack, kind, below⟩ := List.map_eq_cons_iff.mp kinds
      obtain ⟨bottom, rfl, _⟩ := List.map_eq_singleton_iff.mp below
      simp only [App.turn_stack, stack, List.mem_cons, List.not_mem_nil, or_false] at here here'
      rcases here with rfl | rfl
      · simp [login] at kind
      · rcases here' with rfl | rfl
        · simp [login'] at kind
        · rfl
  subst same
  have once := flight.once call.page
  have first : call ∈ s.signIns call.page := List.mem_filter.mpr ⟨member, by simp [point]⟩
  have second : other ∈ s.signIns call.page :=
    List.mem_filter.mpr ⟨other_mem, by simp [other_point, ← id, id']⟩
  obtain ⟨only, calls⟩ :=
    List.length_eq_one_iff.mp (Nat.le_antisymm once (List.length_pos_of_mem first))
  rw [calls, List.mem_singleton] at first second
  rw [first, second]

/-- No page is opened over a login page but the signup page, while no sign-in succeeds. -/
theorem Shifted.signingIn {event : Event} {after : List Route} {page : Nat}
    (shifted : Shifted s event after) (kinds : s.kinds = [.login] ∨ s.kinds = [.signup, .login])
    (older : page < s.now) (still : ∃ route ∈ after, route.id = page)
    (waiting : ∀ call outcome, event = .answer call.id outcome → call ∈ s.pending →
      call.point = .signIn → s.turn.mounted call.page = false) :
    (after.map fun route => route.page.kind) = [.login] ∨
      (after.map fun route => route.page.kind) = [.signup, .login] := by
  cases shifted with
  | revised pages => rw [revisions_kinds pages]; exact kinds
  | @closed top rest _ stack pages =>
    rw [revisions_kinds pages]
    simp only [App.kinds, stack, List.map_cons, List.cons_eq_cons, List.map_eq_nil_iff] at kinds
    rcases kinds with ⟨_, rfl⟩ | ⟨_, login⟩
    -- nothing would be left of the stack
    · obtain ⟨route, here, _⟩ := still
      cases pages
      simp at here
    · exact .inl login
  | @signup top rest state stack login =>
    rcases kinds with kinds | kinds
    · refine .inr ?_
      rw [List.map_cons, ← App.kinds, kinds]
      rfl
    · simp [App.kinds, stack, login, Page.kind] at kinds
  | opened page fresh shop within =>
    obtain ⟨route, here, shop⟩ := within
    have inside := App.shop_mem_kinds here shop
    rcases kinds with kinds | kinds <;> simp [kinds] at inside
  | @entered top rest stack splash =>
    rcases kinds with kinds | kinds <;> simp [App.kinds, stack, splash, Page.kind] at kinds
  | loggedIn call outcome answered member point _ mounted =>
    simp [waiting call outcome answered member point] at mounted
  | cleared =>
    obtain ⟨route, here, id⟩ := still
    rw [List.mem_singleton] at here
    subst here
    dsimp only at id
    omega

theorem SigningIn.step (wf : WellFormed s) (flight : SingleFlight s) (stacked : Stacked s.screens)
    (signingIn : s.SigningIn) (step : s.step e = some s') : s'.SigningIn := by
  intro call member point mounted
  rcases App.signIn_pending step member point with old | tapped
  · obtain ⟨later, _⟩ := App.step_cases step
    obtain ⟨_, aged⟩ := wf.tick later
    obtain ⟨route', here', id'⟩ := exists_route_of_mounted mounted
    rw [App.turn_stack] at here'
    -- the page of an older call was there before the step
    have before : s.turn.mounted call.page = true := by
      rcases (App.step_shifted wf step).routes here' with ⟨new, _⟩ | ⟨route, here, revision⟩
      · have := (aged.calls call old).2
        omega
      · simpa [Turn.mounted] using ⟨route, here, revision.id.symm.trans id'⟩
    refine (App.step_shifted wf step).signingIn (signingIn call old point before)
      (aged.calls call old).2 ⟨route', here', id'⟩ fun other outcome answered other_mem other_point => ?_
    by_contra also
    rw [Bool.not_eq_false] at also
    -- the sign-in that ends would be the one still pending
    have same := SigningIn.unique wf flight signingIn old other_mem point other_point before also
    obtain ⟨time, event⟩ := e
    dsimp only at answered
    subst answered same
    obtain ⟨ended, turn, ended_mem, name, _, resumed, rfl⟩ := App.step_answered step
    rw [App.after_pending, App.commit_pending, List.mem_append] at member
    rcases member with started | left
    · rcases resumed.started rfl with none | ⟨_, _, one, _⟩
      · simp [none] at started
      · simp_all
    · simp [App.settle, name] at left
  -- the login page that is tapped has nothing below it
  · obtain ⟨time, event⟩ := e
    dsimp only at tapped
    subst tapped
    obtain ⟨top, rest, state, stack, login, changed⟩ := App.step_tapLogin step
    have alone : s.kinds = [.login] := by
      have shape : s.screens = .login :: screensOf rest := by
        simp [App.screens, screensOf, stack, login, Page.screen]
      rw [shape] at stacked
      rcases stacked.eq_root rfl with none | ⟨home, _⟩
      · have empty : rest = [] := by simpa [screensOf] using none
        simp [App.kinds, stack, empty, login, Page.kind]
      · cases home
    rcases changed with ⟨_, rfl⟩ | ⟨_, _, pages⟩
    · exact .inl alone
    · refine .inl ?_
      rw [App.kinds, pages, Turn.setState_kinds]
      exact alone

theorem Laid.step (laid : Laid s) (step : s.step e = some s') : Laid s' where
  wf := laid.wf.step step
  flight := laid.flight.step laid.wf step
  stacked := Stacked.rescreened (s := { s with now := e.time }) laid.stacked laid.signingIn
    (App.step_rescreened laid.wf step)
  signingIn := SigningIn.step laid.wf laid.flight laid.stacked laid.signingIn step

theorem laid_of_run {G : App → Timed → Prop} {currentUser : Option Uid} {orders : List OrderDoc}
    {es : List Timed} (run : app.Run G (App.init currentUser orders) es s) : Laid s :=
  run.invariant (.init currentUser orders) fun _ _ _ laid _ step => laid.step step

end Laid

/-! ### Every stack of the language is reached -/

section Reaching

variable {s : App} {currentUser : Option Uid} {orders : List OrderDoc}

/-- A tap the topmost page takes is a step of the app. -/
theorem App.step_of_tap {event : Event} {top : Route} {rest : List Route} {turn : Turn}
    (shape : s.stack = top :: rest)
    (tapped : s.turn.tap (s.now + 1) s.currentUser event top = some turn) :
    s.step ⟨s.now + 1, event⟩ = some (({ s with now := s.now + 1 } : App).after turn) := by
  obtain ⟨now, user, stack, globalCart, pending, orders⟩ := s
  dsimp only at shape
  subst shape
  simp only [App.turn] at tapped
  cases event with
  | frame | back | answer => simp [Turn.tap] at tapped
  | _ => simp [App.step, App.turn, tapped]

/-- Orders of one checkout page that can succeed one after the other. -/
def App.Waiting (s : App) (page : Nat) (count : Nat) : Prop :=
  ∃ ids : List Nat, ids.Nodup ∧ ids.length = count ∧
    ∀ id ∈ ids, ∃ doc, ⟨id, page, .addOrder doc⟩ ∈ s.pending

/-- A state reached with the screens and a way on from each of them: the cart page was built over
a cart that is not empty, and the checkout page has orders waiting. -/
structure Reached (currentUser : Option Uid) (orders : List OrderDoc) (screens : List Screen)
    (count : Nat) (s : App) : Prop where
  run : ∃ es, app.Run Machine.Free (App.init currentUser orders) es s
  shown : s.screens = screens
  full : ∀ route ∈ s.stack, ∀ view, route.page = .cart view → 0 < view.itemCount
  waiting : ∀ route ∈ s.stack, route.page.screen = .checkout → s.Waiting route.id count

theorem reached_root {screen : Screen} (root : screen.isRoot = true) (count : Nat) :
    ∃ s, Reached currentUser orders [screen] count s := by
  have reached (events : List Event) (id : Nat) (page : Page) (shown : page.screen.isRoot = true)
      (full : ∀ view, page = .cart view → 0 < view.itemCount)
      (done : ∃ s, app.exec Machine.Free (App.init currentUser orders) (schedule events) = some s ∧
        s.stack = [{ id, page }]) :
      ∃ s, Reached currentUser orders [page.screen] count s := by
    obtain ⟨s, done, alone⟩ := done
    refine ⟨s, ⟨_, Machine.run_of_exec done⟩, by simp [App.screens, screensOf, alone], ?_, ?_⟩
    · simpa [alone] using full
    · intro route member checkout
      rw [alone, List.mem_singleton] at member
      rw [member] at checkout
      rw [checkout] at shown
      cases shown
  cases screen with
  | splash => exact reached [] 0 .splash rfl (by simp) ⟨_, rfl, rfl⟩
  | login => exact reached [.splashTimeout] 1 (.login {}) rfl (by simp) ⟨_, rfl, rfl⟩
  | home =>
    exact reached [.splashTimeout, .tapLogin, .answer 2 (.success (.user "A"))] 3 .home rfl (by simp)
      ⟨_, rfl, rfl⟩
  -- a tab of the home page
  | category =>
    exact reached [.splashTimeout, .tapLogin, .answer 2 (.success (.user "A")), .tapNav 1] 4
      .category rfl (by simp) ⟨_, rfl, rfl⟩
  | profile =>
    exact reached [.splashTimeout, .tapLogin, .answer 2 (.success (.user "A")), .tapNav 3] 4
      .profile rfl (by simp) ⟨_, rfl, rfl⟩
  | cart =>
    exact reached [.splashTimeout, .tapLogin, .answer 2 (.success (.user "A")), .tapProduct tomato,
      .tapAddToCart, .tapNav 2] 6 (.cart (.build [⟨5, tomato, 1⟩])) rfl (by simp [CartView.build])
      ⟨_, rfl, rfl⟩
  | _ => cases root

theorem reached_signedIn (count : Nat) : ∃ s, Reached currentUser orders [.home, .login] count s := by
  have done : ∃ s state, app.exec Machine.Free (App.init currentUser orders)
      (schedule [.splashTimeout, .tapLogin, .tapCreateAccount, .answer 2 (.success (.user "A"))]) =
        some s ∧ s.stack = [{ id := 4, page := .home }, { id := 1, page := .login state, dirty := true }] :=
    ⟨_, _, rfl, rfl⟩
  obtain ⟨s, state, done, stack⟩ := done
  refine ⟨s, ⟨_, Machine.run_of_exec done⟩, ?_, ?_, ?_⟩ <;>
    simp [App.screens, screensOf, stack, Page.screen]

/-- The tap that opens a page over another; the success dialog is not opened by a tap. -/
theorem Over.exists_tap {above below : Screen} (lies : Over above below)
    (tapped : above ≠ .orderDialog) (turn : Turn) (time : Nat) (user : Option Uid) {top : Route}
    (shown : top.page.screen = below)
    (full : ∀ view, top.page = .cart view → 0 < view.itemCount) :
    ∃ event page, page.screen = above ∧ page.isCart = false ∧
      turn.tap time user event top = some (turn.push time user page) := by
  obtain ⟨id, page, dirty⟩ := top
  dsimp only at shown full
  cases lies with
  | signup =>
    cases page <;> cases shown
    exact ⟨.tapCreateAccount, .signup, rfl, rfl, rfl⟩
  | search =>
    cases page <;> cases shown
    exact ⟨.tapSearch, .search 0, rfl, rfl, rfl⟩
  | productList categoryName row =>
    cases page <;> cases shown
    exact ⟨.tapCategory categoryName, .productList (some categoryName) 1, rfl, rfl,
      by simp [Turn.tap, row]⟩
  | popular product listed =>
    cases page <;> cases shown
    exact ⟨.tapProduct product, .product { product, navIndex := 0 }, rfl, rfl,
      by simp [Turn.tap, Page.shownProducts, listed]⟩
  | found product navIndex listed =>
    cases page <;> cases shown
    exact ⟨.tapProduct product, .product { product, navIndex }, rfl, rfl,
      by simp [Turn.tap, Page.shownProducts, listed]⟩
  | listed product categoryFilter navIndex listed =>
    cases page <;> cases shown
    exact ⟨.tapProduct product, .product { product, navIndex }, rfl, rfl,
      by simp [Turn.tap, Page.shownProducts, listed]⟩
  | wished product listed =>
    cases page <;> cases shown
    exact ⟨.tapProduct product, .product { product, navIndex := 3 }, rfl, rfl,
      by simp [Turn.tap, Page.shownProducts, listed]⟩
  | menu item =>
    cases page <;> cases shown
    exact ⟨.tapMenu item, .ofMenuItem item, by cases item <;> rfl, by cases item <;> rfl, rfl⟩
  -- Proceed is there because the page was built over a cart that is not empty
  | checkout =>
    cases page <;> cases shown
    exact ⟨.tapProceed, .checkout { totalAmount := turn.globalCart.cartTotal }, rfl, rfl,
      by simp [Turn.tap, full _ rfl]⟩
  | ordered | orderedAgain => exact absurd rfl tapped

theorem App.exists_top {below : Screen} {rest : List Screen} (shown : s.screens = below :: rest) :
    ∃ top others, s.stack = top :: others ∧ top.page.screen = below := by
  obtain ⟨top, others, stack, screen, _⟩ := List.map_eq_cons_iff.mp shown
  exact ⟨top, others, stack, screen⟩

theorem Reached.opened {above below : Screen} {rest : List Screen} {count : Nat}
    (reached : Reached currentUser orders (below :: rest) count s) (lies : Over above below)
    (tapped : above ≠ .orderDialog) :
    ∃ s', Reached currentUser orders (above :: below :: rest) 0 s' := by
  obtain ⟨top, others, stack, shown⟩ := App.exists_top reached.shown
  have on_top : top ∈ s.stack := by simp [stack]
  obtain ⟨event, page, screen, no_cart, tap⟩ :=
    lies.exists_tap tapped s.turn (s.now + 1) s.currentUser shown (reached.full top on_top)
  have step := App.step_of_tap stack tap
  obtain ⟨es, run⟩ := reached.run
  refine ⟨_, ⟨_, .snoc run trivial step⟩, ?_, ?_, fun _ _ _ => ⟨[], by simp⟩⟩
  · rw [App.screens, App.after_stack, Turn.push_stack, ← screen, ← reached.shown]
    rfl
  · intro route member view cart
    rw [App.after_stack, Turn.push_stack] at member
    rcases List.mem_cons.mp member with rfl | old
    · dsimp only at cart
      rw [cart] at no_cart
      cases no_cart
    · exact reached.full route old view cart

/-- Any number of taps on Confirm Order, none of them answered yet. -/
theorem Reached.confirmed {screens : List Screen} {top : Route} {rest : List Route}
    {state : CheckoutState} (count : Nat) (reached : Reached currentUser orders screens 0 s)
    (stack : s.stack = top :: rest) (shown : top.page = .checkout state) :
    ∃ s', s'.stack = s.stack ∧ (∃ es, app.Run Machine.Free (App.init currentUser orders) es s') ∧
      s'.Waiting top.id count := by
  induction count with
  | zero => exact ⟨s, rfl, reached.run, [], by simp⟩
  | succ count ih =>
    obtain ⟨s', stack', ⟨es, run⟩, ids, distinct, length, listed⟩ := ih
    have tapped : s'.turn.tap (s'.now + 1) s'.currentUser .tapConfirm top =
        some (s'.turn.begin (s'.now + 1) top.id (.placeOrder (placeOrder s'.currentUser
          s'.globalCart state.totalAmount (s'.now + 1)))) := by
      simp [Turn.tap, shown]
    have step := App.step_of_tap (stack'.trans stack) tapped
    refine ⟨_, ?_, ⟨_, .snoc run trivial step⟩, (s'.now + 1) :: ids, ?_, by simp [length], ?_⟩
    · exact stack'
    -- the new call is younger than the others
    · refine List.nodup_cons.mpr ⟨fun old => ?_, distinct⟩
      obtain ⟨doc, member⟩ := listed _ old
      have := ((wellFormed_of_run run).callAge _ member).1
      dsimp only at this
      omega
    · intro id member
      rw [App.after_pending, Turn.begin_started]
      rcases List.mem_cons.mp member with rfl | old
      · exact ⟨_, List.mem_append_left _ List.mem_cons_self⟩
      · obtain ⟨doc, pending⟩ := listed id old
        exact ⟨doc, List.mem_append_right _ pending⟩

/-- A pending order of a page that is there can succeed, which opens the dialog. -/
theorem App.exists_ordered {id page : Nat} {doc : OrderDoc} (wf : WellFormed s)
    (member : ⟨id, page, .addOrder doc⟩ ∈ s.pending) (mounted : s.turn.mounted page = true) :
    ∃ s', s.step ⟨s.now + 1, .answer id (.success .done)⟩ = some s' ∧
      s'.stack = { id := s.now + 1, page := .orderDialog } :: s.stack ∧
      s'.pending = s.pending.filter fun other => other.id != id := by
  have step := @App.step_answer s ⟨id, page, .addOrder doc⟩ (.success .done) wf member rfl
  refine ⟨_, step, ?_⟩
  obtain ⟨call, turn, listed, name, _, resumed, after⟩ := App.step_answered step
  cases call_unique wf.callNames member listed name
  rw [after]
  cases resumed with
  | nothing noOrder => exact absurd ⟨rfl, rfl⟩ noOrder
  | update _ noOrder => cases noOrder
  | ordered => exact ⟨rfl, by simp [App.settle]⟩
  | orderedAway _ _ _ away => exact absurd (away.symm.trans mounted) (by simp)
  | loggedIn point | created point | signedUp point | saved point | loggedOut point => cases point

/-- The orders still waiting once one has been answered. -/
theorem App.Waiting.answered {s' : App} {page id count : Nat} (waiting : s.Waiting page (count + 1))
    (pending : s'.pending = s.pending.filter fun other => other.id != id) : s'.Waiting page count := by
  obtain ⟨ids, distinct, length, listed⟩ := waiting
  have still {other : Nat} (member : other ∈ ids) (apart : other ≠ id) :
      ∃ doc, ⟨other, page, .addOrder doc⟩ ∈ s'.pending := by
    obtain ⟨doc, member⟩ := listed other member
    exact ⟨doc, by simpa [pending, member] using apart⟩
  by_cases own : id ∈ ids
  · refine ⟨ids.erase id, distinct.erase id, by simp [List.length_erase_of_mem own, length], ?_⟩
    intro other member
    obtain ⟨apart, member⟩ := (List.Nodup.mem_erase_iff distinct).mp member
    exact still member apart
  · refine ⟨ids.tail, distinct.tail, by simp [length], fun other member => ?_⟩
    exact still (List.mem_of_mem_tail member) fun same => own (same ▸ List.mem_of_mem_tail member)

theorem Reached.ordered {screens : List Screen} {count : Nat}
    (reached : Reached currentUser orders screens (count + 1) s) (within : .checkout ∈ screens) :
    ∃ s', Reached currentUser orders (.orderDialog :: screens) count s' := by
  obtain ⟨es, run⟩ := reached.run
  rw [← reached.shown] at within
  obtain ⟨route, here, checkout⟩ := List.mem_map.mp within
  obtain ⟨ids, _, length, listed⟩ := reached.waiting route here checkout
  obtain ⟨id, rest, rfl⟩ := List.exists_cons_of_length_eq_add_one length
  obtain ⟨doc, member⟩ := listed id List.mem_cons_self
  have mounted : s.turn.mounted route.id = true := by
    simpa [Turn.mounted] using ⟨route, here, rfl⟩
  obtain ⟨s', step, stack, pending⟩ := App.exists_ordered (wellFormed_of_run run) member mounted
  refine ⟨s', ⟨_, .snoc run trivial step⟩, ?_, ?_, ?_⟩
  · rw [App.screens, stack, ← reached.shown]
    rfl
  · intro other listed view cart
    rw [stack] at listed
    rcases List.mem_cons.mp listed with rfl | old
    · cases cart
    · exact reached.full other old view cart
  · intro other listed checkout
    rw [stack] at listed
    rcases List.mem_cons.mp listed with rfl | old
    · cases checkout
    · exact (reached.waiting other old checkout).answered pending

/-- A checkout page that has just been opened, with as many orders begun as wanted. -/
theorem Reached.begun {rest : List Screen} (count : Nat)
    (reached : Reached currentUser orders (.checkout :: .cart :: rest) 0 s)
    (stacked : Stacked (.cart :: rest)) :
    ∃ s', Reached currentUser orders (.checkout :: .cart :: rest) count s' := by
  obtain ⟨top, others, stack, shown⟩ := App.exists_top reached.shown
  obtain ⟨state, checkout⟩ : ∃ state, top.page = .checkout state := by
    cases page : top.page <;> simp [page, Page.screen] at shown
    exact ⟨_, rfl⟩
  obtain ⟨s', stack', run, waiting⟩ := reached.confirmed count stack checkout
  refine ⟨s', run, ?_, ?_, ?_⟩
  · rw [App.screens, stack']
    exact reached.shown
  · rw [stack']
    exact reached.full
  · intro route member checkout
    rw [stack', stack] at member
    rcases List.mem_cons.mp member with rfl | lower
    · exact waiting
    -- the cart page below is no checkout page
    · have screens : screensOf others = .cart :: rest := by
        have shown := reached.shown
        simp only [App.screens, screensOf, stack, List.map_cons, List.cons_eq_cons] at shown
        exact shown.2
      have within : .checkout ∈ screensOf others := List.mem_map.mpr ⟨route, lower, checkout⟩
      rw [screens] at within
      rcases stacked.eq_root rfl with rfl | ⟨home, _⟩
      · simp at within
      · cases home

theorem exists_reached {screens : List Screen} (stacked : Stacked screens) (count : Nat) :
    ∃ s, Reached currentUser orders screens count s := by
  -- a dialog takes one order more from the stack below it, so the count varies
  induction stacked generalizing count with
  | root root => exact reached_root root count
  | signedIn => exact reached_signedIn count
  | @onTop above below rest lies stack ih =>
    by_cases dialog : above = .orderDialog
    · subst dialog
      have within := (Stacked.onTop lies stack).checkout_mem List.mem_cons_self
      obtain ⟨s, reached⟩ := ih (count + 1)
      exact reached.ordered (by simpa using within)
    · obtain ⟨s, reached⟩ := ih 0
      obtain ⟨s', opened⟩ := reached.opened lies dialog
      by_cases checkout : above = .checkout
      · subst checkout
        cases lies
        exact opened.begun count stack
      -- no checkout page below any other page
      · refine ⟨s', opened.run, opened.shown, opened.full, fun route member shown => ?_⟩
        have within := App.mem_screens member
        rw [shown, opened.shown] at within
        obtain ⟨dialogs, shape⟩ := (Stacked.onTop lies stack).eq_checkout within
        cases dialogs with
        | zero => exact absurd (List.cons_eq_cons.mp shape).1 checkout
        | succ dialogs =>
          rw [List.replicate_succ, List.cons_append] at shape
          exact absurd (List.cons_eq_cons.mp shape).1 dialog

/-- The stacks of the language are exactly the stacks the app can have, whoever is signed in from
an earlier process and whatever orders exist. -/
theorem app_stacks_iff (currentUser : Option Uid) (orders : List OrderDoc)
    (screens : List Screen) :
    (∃ es s, app.Run Machine.Free (App.init currentUser orders) es s ∧ s.screens = screens) ↔
      Stacked screens := by
  constructor
  · rintro ⟨es, s, run, rfl⟩
    exact (laid_of_run run).stacked
  · intro stacked
    obtain ⟨s, reached⟩ := exists_reached stacked 0
    obtain ⟨es, run⟩ := reached.run
    exact ⟨es, s, run, reached.shown⟩

end Reaching

end CartX
