import CartX.Properties.Navigation
import CartX.Properties.Session

/-!
# The tabs

`CustomNavBar` does nothing on the tab it marks and clears the stack for any
other, and each page is told by its opener which tab to mark. Over every run the
pages on the stack agree on the tab, which is the one they were opened in; from
every page of the shop every tab is at most two taps away; and an edit form that is
being saved lies over the profile page.
-/

namespace CartX

/-- The tab a page of the shop belongs to. -/
def Screen.flow : Screen → Option Nat
  | .home => some 0
  | .category => some 1
  | .productList _ navIndex | .search navIndex | .product _ navIndex => some navIndex
  | .cart | .checkout | .orderDialog => some 2
  | .profile | .menu _ => some 3
  | .splash | .login | .signup => none

/-- The page a tab of `CustomNavBar` opens. -/
def Screen.ofTab : Nat → Option Screen
  | 0 => some .home
  | 1 => some .category
  | 2 => some .cart
  | 3 => some .profile
  | _ => none

/-- A page is opened in the flow of the page below it. -/
theorem Over.flow {above below : Screen} (lies : Over above below) : above.flow = below.flow := by
  cases lies <;> rfl

/-- A page that is opened from one tab's page only lies over that page. -/
theorem Stacked.over_root {above : Screen} {rest : List Screen} (stack : Stacked (above :: rest))
    (root : Screen) (only : ∀ below, Over above below → below = root) (inner : above.isRoot = false)
    (bottom : root.isRoot = true) (apart : root ≠ .home) : rest = [root] := by
  cases stack with
  | root own => simp [inner] at own
  | onTop lies stack =>
    cases only _ lies
    rcases stack.eq_root bottom with rfl | ⟨home, _⟩
    · rfl
    · exact absurd home apart
  | signedIn => cases inner

/-- The taps that leave a page. -/
def Event.leaves : Event → Bool
  | .back | .tapNav _ | .tapBackToHome => true
  | _ => false

/-- Nothing but the navigator and the clock has changed. -/
structure Untouched (s t : App) : Prop where
  currentUser : t.currentUser = s.currentUser
  globalCart : t.globalCart = s.globalCart
  pending : t.pending = s.pending
  orders : t.orders = s.orders

theorem Untouched.trans {s t u : App} (first : Untouched s t) (second : Untouched t u) :
    Untouched s u where
  currentUser := second.currentUser.trans first.currentUser
  globalCart := second.globalCart.trans first.globalCart
  pending := second.pending.trans first.pending
  orders := second.orders.trans first.orders

/-- At most `count` taps lead from `s` to the screen alone, and touch nothing else. -/
def Leads (s : App) (count : Nat) (screen : Screen) : Prop :=
  ∃ fs t, fs.length ≤ count ∧ (∀ e ∈ fs, e.event.leaves = true) ∧ app.Run Machine.Free s fs t ∧
    t.screens = [screen] ∧ Untouched s t

section Ways

variable {s t : App} {top : Route} {rest : List Route} {index : Nat} {screen : Screen}

theorem Leads.after {event : Event} {count : Nat} (leaves : event.leaves = true)
    (step : s.step ⟨s.now + 1, event⟩ = some t) (untouched : Untouched s t)
    (leads : Leads t count screen) : Leads s (count + 1) screen := by
  obtain ⟨fs, u, length, all, run, shown, later⟩ := leads
  exact ⟨⟨s.now + 1, event⟩ :: fs, u, by simpa using length, by simpa [leaves] using all,
    .cons trivial step run, shown, untouched.trans later⟩

theorem Leads.here (count : Nat) (shown : s.screens = [screen]) : Leads s count screen :=
  ⟨[], s, Nat.zero_le _, by simp, .nil, shown, rfl, rfl, rfl, rfl⟩

/-- A tab the bar does not mark opens its page alone. -/
theorem App.step_tapNav {selectedIndex : Nat} (stack : s.stack = top :: rest)
    (bar : top.page.navBar = some selectedIndex) (other : selectedIndex ≠ index)
    (tab : Screen.ofTab index = some screen) :
    ∃ t, s.step ⟨s.now + 1, .tapNav index⟩ = some t ∧ t.screens = [screen] ∧ Untouched s t := by
  obtain ⟨page, entry, shown⟩ : ∃ page, Page.ofNavIndex s.globalCart index = some page ∧
      page.screen = screen := by
    rcases index with _ | _ | _ | _ | _ <;> cases tab <;> exact ⟨_, rfl, rfl⟩
  have tapped : s.turn.tap (s.now + 1) s.currentUser (.tapNav index) top =
      some (s.turn.pushAndRemoveUntil (s.now + 1) page) := by
    simp [Turn.tap, bar, entry, other]
  refine ⟨_, App.step_of_tap stack tapped, ?_, rfl, rfl, rfl, rfl⟩
  rw [← shown]
  rfl

/-- From a page with a bar: one tap, or two for the tab it marks. -/
theorem leads_of_bar {selectedIndex : Nat} (stack : s.stack = top :: rest)
    (bar : top.page.navBar = some selectedIndex) (tab : Screen.ofTab index = some screen) :
    Leads s 2 screen := by
  by_cases other : selectedIndex = index
  -- over another tab
  · obtain ⟨between, middle, tab', apart, bar'⟩ : ∃ between middle,
        Screen.ofTab between = some middle ∧ selectedIndex ≠ between ∧
          ∀ page : Page, page.screen = middle → page.navBar = some between := by
      by_cases home : selectedIndex = 0
      · refine ⟨1, .category, rfl, by omega, fun page shown => ?_⟩
        cases page <;> first | rfl | cases shown
      · refine ⟨0, .home, rfl, home, fun page shown => ?_⟩
        cases page <;> first | rfl | cases shown
    obtain ⟨t, step, shown, untouched⟩ := App.step_tapNav stack bar apart tab'
    obtain ⟨top', rest', stack', screen'⟩ := App.exists_top shown
    obtain ⟨u, step', shown', untouched'⟩ := App.step_tapNav stack' (bar' _ screen')
      (fun same => apart (other.trans same.symm)) tab
    exact .after rfl step untouched (.after rfl step' untouched' (.here 0 shown'))
  · obtain ⟨t, step, shown, untouched⟩ := App.step_tapNav stack bar other tab
    exact .after rfl step untouched (.here 1 shown)

/-- From a tab's own page, alone on the stack. -/
theorem leads_of_root (root : Screen) (own : Nat) (shown : s.screens = [root])
    (tab' : Screen.ofTab own = some root) (tab : Screen.ofTab index = some screen) :
    Leads s 1 screen := by
  by_cases same : own = index
  · rw [same, tab] at tab'
    exact .here 1 (by rw [shown, Option.some.inj tab'])
  · obtain ⟨top, rest, stack, top_shown⟩ := App.exists_top shown
    have bar : top.page.navBar = some own := by
      rw [← top_shown] at tab'
      rcases own with _ | _ | _ | _ | _ <;> cases page : top.page <;>
        simp [page, Screen.ofTab, Page.screen] at tab' <;> rfl
    obtain ⟨t, step, shown', untouched⟩ := App.step_tapNav stack bar same tab
    exact .after rfl step untouched (.here 0 shown')

/-- Back from a page over a tab's own page. -/
theorem leads_of_back {above root : Screen} (shown : s.screens = [above, root]) (own : Nat)
    (tab' : Screen.ofTab own = some root) (tab : Screen.ofTab index = some screen) :
    Leads s 2 screen := by
  obtain ⟨top, others, stack, _, below⟩ := List.map_eq_cons_iff.mp shown
  obtain ⟨route, rfl, shown'⟩ := List.map_eq_singleton_iff.mp below
  have step : s.step ⟨s.now + 1, .back⟩ = some { s with now := s.now + 1, stack := [route] } := by
    simp [App.step, stack, App.after, App.turn]
  refine .after rfl step ⟨rfl, rfl, rfl, rfl⟩ (leads_of_root root own ?_ tab' tab)
  rw [← shown']
  rfl

/-- The success dialog's button leads to the home page. -/
theorem leads_of_dialog (stack : s.stack = top :: rest) (shown : top.page = .orderDialog)
    (tab : Screen.ofTab index = some screen) : Leads s 2 screen := by
  have tapped : s.turn.tap (s.now + 1) s.currentUser .tapBackToHome top =
      some (s.turn.pushAndRemoveUntil (s.now + 1) .home) := by
    simp [Turn.tap, shown]
  exact .after rfl (App.step_of_tap stack tapped) ⟨rfl, rfl, rfl, rfl⟩
    (leads_of_root .home 0 rfl rfl tab)

/-- Every tab is within two taps of every page of the shop. -/
theorem leads_of_stacked (stacked : Stacked s.screens) (stack : s.stack = top :: rest)
    (shop : top.page.isAuth = false) (tab : Screen.ofTab index = some screen) :
    Leads s 2 screen := by
  have screens : s.screens = top.page.screen :: screensOf rest := by
    rw [App.screens, stack]
    rfl
  rw [screens] at stacked
  cases bar : top.page.navBar with
  | some selectedIndex => exact leads_of_bar stack bar tab
  -- the dialog has a button; the checkout page and the profile's menu have a Back
  | none =>
    cases page : top.page with
    | orderDialog => exact leads_of_dialog stack page tab
    | checkout state =>
      rw [page] at stacked screens
      rw [stacked.over_root .cart (by rintro _ ⟨⟩; rfl) rfl rfl (by simp)] at screens
      exact leads_of_back screens 2 rfl tab
    | myOrders | wishlist | editProfile | settings | contactUs =>
      rw [page] at stacked screens
      rw [stacked.over_root .profile (by rintro _ ⟨⟩; rfl) rfl rfl (by simp)] at screens
      exact leads_of_back screens 3 rfl tab
    | splash | login | signup => simp [page, Page.isAuth] at shop
    | home | category | productList | search | product | cart | profile =>
      simp [page, Page.navBar] at bar

end Ways

/-- Wherever in the shop the app is and whatever is pending, every tab is at most two taps away,
and they change nothing but the navigator. -/
theorem tab_within_two_taps {currentUser : Option Uid} {orders : List OrderDoc} {es : List Timed}
    {s : App} {top : Route} {index : Nat} {screen : Screen}
    (run : app.Run Machine.Free (App.init currentUser orders) es s)
    (visible : s.stack.head? = some top) (shop : top.page.isAuth = false)
    (tab : Screen.ofTab index = some screen) :
    ∃ fs t, fs.length ≤ 2 ∧ (∀ e ∈ fs, e.event.leaves = true) ∧ app.Run Machine.Free s fs t ∧
      t.screens = [screen] ∧ Untouched s t := by
  obtain ⟨rest, stack⟩ := List.head?_eq_some_iff.mp visible
  exact leads_of_stacked (laid_of_run run).stacked stack shop tab

/-- From a checkout page with its order pending. -/
theorem profile_within_two_taps_of_checkout : ∃ s fs t, app.Run Machine.Free (App.init none [])
    (schedule [.splashTimeout, .tapLogin, .answer 2 (.success (.user "A")), .tapProduct tomato,
      .tapAddToCart, .tapNav 2, .tapProceed, .tapConfirm]) s ∧ s.screens = [.checkout, .cart] ∧
    fs.length ≤ 2 ∧ app.Run Machine.Free s fs t ∧ t.screens = [.profile] ∧ Untouched s t := by
  obtain ⟨s, run, shape⟩ := Machine.exists_run_of_exec app Machine.Free (App.init none [])
    (schedule [.splashTimeout, .tapLogin, .answer 2 (.success (.user "A")), .tapProduct tomato,
      .tapAddToCart, .tapNav 2, .tapProceed, .tapConfirm])
    (fun s => s.screens == [.checkout, .cart] && s.stack.head?.any fun top => !top.page.isAuth)
    (by decide +kernel)
  simp only [Bool.and_eq_true, beq_iff_eq, Option.any_eq_true, Bool.not_eq_true'] at shape
  obtain ⟨screens, top, visible, inShop⟩ := shape
  obtain ⟨fs, t, short, _, taps, reached, same⟩ :=
    tab_within_two_taps run visible inShop (show Screen.ofTab 3 = some .profile from rfl)
  exact ⟨s, fs, t, run, screens, short, taps, reached, same⟩

/-! ### Saving a profile -/

/-- While the edit form of a pending save is open, it lies over the profile page. -/
theorem App.form_over_profile {s : App} {call : Call} (laid : Laid s) (member : call ∈ s.pending)
    (point : call.point = .updateUser) (mounted : s.turn.mounted call.page = true) :
    ∃ form profile, s.stack = [form, profile] ∧ form.id = call.page ∧
      (∃ state, form.page = .editProfile state) ∧ profile.page = .profile ∧
      profile.id ≠ call.page := by
  obtain ⟨route, here, id, owned, within⟩ := owned_screen laid.wf member mounted
  rw [point] at owned
  rw [Await.owns_editProfile owned] at within
  have screens := laid.stacked.eq_editProfile within
  obtain ⟨form, others, stack, shown, below⟩ := List.map_eq_cons_iff.mp screens
  obtain ⟨profile, rfl, shown'⟩ := List.map_eq_singleton_iff.mp below
  -- the form is the page of the call, since the other page is the profile page
  have same : route = form := by
    rw [stack, List.mem_cons, List.mem_singleton] at here
    rcases here with rfl | rfl
    · rfl
    · rw [Await.owns_editProfile owned] at shown'
      cases shown'
  subst same
  have names := laid.wf.routeNames
  rw [stack] at names
  have apart : profile.id ≠ call.page := by
    have : profile.id < route.id := by simpa using names
    omega
  refine ⟨route, profile, stack, id, ?_, ?_, apart⟩
  · cases page : route.page <;> simp [page, Await.owns] at owned
    exact ⟨_, rfl⟩
  · cases page : profile.page with
    | profile => rfl
    | _ => simp [page, Page.screen] at shown'

end CartX
