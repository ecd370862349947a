import CartX.Properties.Isolation
import CartX.Properties.Settling
import CartX.Properties.Storefront
import CartX.Properties.Tabs

/-!
# The shop never closes

Whatever happened before, the app can still record an order. The calls that are
pending fail one by one, which changes no page but a login page that waits for one;
a frame enables its button; from the shop, two taps lead to the profile page and
Logout. So every state leads to a login page that can be used, and from there any
user can order any product of the catalogue.
-/

namespace CartX

/-- Further on, with the same cart and the same orders. -/
structure Onward (s t : App) : Prop where
  run : ∃ fs, app.Run Machine.Free s fs t
  globalCart : t.globalCart = s.globalCart
  orders : t.orders = s.orders

theorem Onward.trans {s t u : App} (first : Onward s t) (second : Onward t u) : Onward s u := by
  obtain ⟨fs, run⟩ := first.run
  obtain ⟨gs, run'⟩ := second.run
  exact ⟨⟨_, run.append run'⟩, second.globalCart.trans first.globalCart,
    second.orders.trans first.orders⟩

theorem Onward.single {s t : App} {e : Timed} (step : s.step e = some t)
    (globalCart : t.globalCart = s.globalCart) (orders : t.orders = s.orders) : Onward s t :=
  ⟨⟨_, .single trivial step⟩, globalCart, orders⟩

theorem Leads.onward {s : App} {count : Nat} {screen : Screen} (leads : Leads s count screen) :
    ∃ t, Onward s t ∧ t.screens = [screen] ∧ t.pending = s.pending := by
  obtain ⟨fs, t, _, _, run, shown, untouched⟩ := leads
  exact ⟨t, ⟨⟨fs, run⟩, untouched.globalCart, untouched.orders⟩, shown, untouched.pending⟩

/-- The login page is topmost and its button works. -/
structure App.AtLogin (s : App) (top : Route) (rest : List Route) (state : LoginState) : Prop where
  stack : s.stack = top :: rest
  shown : top.page = .login state
  idle : state.isLoading = false
  enabled : state.buttonEnabled = true

section Ways

variable {s : App}

/-- A pending call can fail, which leaves every page of its kind where it is. -/
theorem App.exists_failed {call : Call} (wf : WellFormed s) (member : call ∈ s.pending) :
    ∃ t, s.step ⟨s.now + 1, .answer call.id .exception⟩ = some t ∧ Onward s t ∧
      t.screens = s.screens ∧ t.pending = s.pending.filter fun other => other.id != call.id := by
  have ends : call.canEnd .exception = true := rfl
  have step := App.step_answer wf member ends
  have unchanged (s : App) : s.commit call.point .exception = s := by cases call.point <;> rfl
  refine ⟨_, step, .single step ?_ ?_, ?_, ?_⟩
  all_goals
    rw [unchanged, segment_failed _ _ _ rfl]
  · split <;> rfl
  · rfl
  · split
    · exact screensOf_setState _ fun route _ _ => Page.screen_apply _ _
    · rfl
  · split <;> rfl

/-- All pending calls can fail. -/
theorem exists_all_failed (wf : WellFormed s) :
    ∃ t, Onward s t ∧ t.screens = s.screens ∧ t.pending = [] := by
  -- by the number of pending calls; each failure takes one off the list
  generalize size : s.pending.length = n
  induction n using Nat.strong_induction_on generalizing s with
  | _ n ih =>
    cases pending : s.pending with
    | nil => exact ⟨s, ⟨⟨[], .nil⟩, rfl, rfl⟩, rfl, pending⟩
    | cons call rest =>
      have member : call ∈ s.pending := by simp [pending]
      obtain ⟨t, step, onward, screens, left⟩ := App.exists_failed wf member
      have fewer : t.pending.length < n := by
        rw [left, ← size]
        exact List.length_filter_lt_length_iff_exists.mpr ⟨call, member, by simp⟩
      obtain ⟨u, onward', screens', none_left⟩ := ih _ fewer (wf.step step) rfl
      exact ⟨u, onward.trans onward', screens'.trans screens, none_left⟩

variable {currentUser : Option Uid} {orders : List OrderDoc} {es : List Timed}

/-- Every state leads to one at rest, with the same pages. -/
theorem exists_rested (run : app.Run Machine.Free (App.init currentUser orders) es s) :
    ∃ t, Onward s t ∧ t.Rested ∧ t.screens = s.screens ∧ t.pending = [] := by
  obtain ⟨t, onward, screens, quiet⟩ := exists_all_failed (laid_of_run run).wf
  obtain ⟨fs, failed⟩ := onward.run
  have whole := run.append failed
  have rested := App.rested_refreshed (laid_of_run whole).flight (fresh_of_run whole) quiet (t.now + 1)
  exact ⟨_, onward.trans (.single (step_frame (Nat.lt_succ_self _)) rfl rfl), rested,
    (screensOf_rebuildDirty t.turn).trans screens, quiet⟩

/-- Logout leads from the profile page to a new login page. -/
theorem exists_logged_out (shown : s.screens = [.profile]) (quiet : s.pending = []) :
    ∃ t top, Onward s t ∧ t.AtLogin top [] {} ∧ t.pending = [] := by
  obtain ⟨route, stack, shown⟩ := List.map_eq_singleton_iff.mp shown
  obtain ⟨id, page, dirty⟩ := route
  obtain ⟨now, user, stack', globalCart, pending, orders⟩ := s
  dsimp only at stack shown quiet
  cases page <;> cases shown
  subst stack quiet
  have tapped : app.step ⟨now, user, [⟨id, .profile, dirty⟩], globalCart, [], orders⟩
      ⟨now + 1, .tapLogout⟩ = some ⟨now + 1, user, [⟨id, .profile, dirty⟩], globalCart,
        [⟨now + 1, id, .signOut⟩], orders⟩ := by
    simp [app, App.step, App.turn, App.after, Turn.tap, Turn.begin, Handler.start]
  have answered : app.step ⟨now + 1, user, [⟨id, .profile, dirty⟩], globalCart,
        [⟨now + 1, id, .signOut⟩], orders⟩ ⟨now + 2, .answer (now + 1) (.success .done)⟩ =
      some ⟨now + 2, none, [{ id := now + 2, page := .login {} }], globalCart, [], orders⟩ := by
    simp [app, App.step, App.turn, App.after, App.answer, App.segment, App.commit, resume,
      whenMounted, Call.canEnd, Await.expects, Turn.mounted, Turn.applyEffect, Effect.usesPage,
      Turn.perform, Turn.pushAndRemoveUntil, Page.ofDestination]
  exact ⟨_, _, ⟨⟨_, .cons trivial tapped (.single trivial answered)⟩, rfl, rfl⟩,
    ⟨rfl, rfl, rfl, rfl⟩, rfl⟩

/-- From the pages at rest a login page can be reached that works. -/
theorem exists_atLogin_of_rested (stacked : Stacked s.screens) (rested : s.Rested)
    (quiet : s.pending = []) :
    ∃ t top rest state, Onward s t ∧ t.AtLogin top rest state ∧ t.pending = [] := by
  obtain ⟨screen, others, screens⟩ := List.exists_cons_of_ne_nil stacked.ne_nil
  obtain ⟨top, rest, stack, _⟩ := App.exists_top screens
  by_cases shop : top.page.isAuth = false
  -- two taps to the profile page, and Logout
  · have tab : Screen.ofTab 3 = some .profile := rfl
    obtain ⟨t, onward, shown, same⟩ := (leads_of_stacked stacked stack shop tab).onward
    obtain ⟨u, new, onward', atLogin, none_left⟩ := exists_logged_out shown (same.trans quiet)
    exact ⟨u, new, [], {}, onward.trans onward', atLogin, none_left⟩
  cases page : top.page with
  | splash =>
    have tapped : s.turn.tap (s.now + 1) s.currentUser .splashTimeout top =
        some (s.turn.pushReplacement (s.now + 1) (.login {})) := by simp [Turn.tap, page]
    exact ⟨_, _, _, {}, .single (App.step_of_tap stack tapped) rfl rfl, ⟨rfl, rfl, rfl, rfl⟩, quiet⟩
  | login state =>
    have ready := rested.login top (by simp [stack]) state page
    exact ⟨s, top, rest, state, ⟨⟨[], .nil⟩, rfl, rfl⟩, ⟨stack, page, ready.1, ready.2⟩, quiet⟩
  -- the login page is below
  | signup =>
    have shown : s.screens = .signup :: screensOf rest := by simp [App.screens, screensOf, stack, page,
      Page.screen]
    rw [shown] at stacked
    have below : screensOf rest = [.login] :=
      stacked.over_root .login (by rintro _ ⟨⟩; rfl) rfl rfl (by simp)
    obtain ⟨login, rfl, isLogin⟩ := List.map_eq_singleton_iff.mp below
    obtain ⟨state, isLogin⟩ : ∃ state, login.page = .login state := by
      cases page : login.page <;> simp [page, Page.screen] at isLogin
      exact ⟨_, rfl⟩
    have step : s.step ⟨s.now + 1, .back⟩ = some { s with now := s.now + 1, stack := [login] } := by
      simp [App.step, stack, App.after, App.turn]
    have ready := rested.login login (by simp [stack]) state isLogin
    exact ⟨_, login, [], state, .single step rfl rfl, ⟨rfl, isLogin, ready.1, ready.2⟩, quiet⟩
  | _ => simp [page, Page.isAuth] at shop

/-- A login page that works lets any user in. -/
theorem exists_home {top : Route} {rest : List Route} {state : LoginState} (uid : Uid)
    (atLogin : s.AtLogin top rest state) (quiet : s.pending = []) :
    ∃ t home others, Onward s t ∧ t.stack = home :: others ∧ home.page = .home ∧
      t.currentUser = some uid ∧ t.pending = [] := by
  obtain ⟨stack, shown, idle, enabled⟩ := atLogin
  obtain ⟨id, page, dirty⟩ := top
  obtain ⟨now, user, stack', globalCart, pending, orders⟩ := s
  dsimp only at stack shown quiet
  subst stack shown quiet
  have tapped : app.step ⟨now, user, ⟨id, .login state, dirty⟩ :: rest, globalCart, [], orders⟩
      ⟨now + 1, .tapLogin⟩ = some ⟨now + 1, user,
        (Turn.setState ⟨⟨id, .login state, dirty⟩ :: rest, globalCart, []⟩ id
          (Page.apply (.isLoading true))).stack, globalCart, [⟨now + 1, id, .signIn⟩], orders⟩ := by
    simp [app, App.step, App.turn, App.after, Turn.tap, Turn.begin, Handler.start, idle, enabled,
      Turn.setState, Page.apply]
  -- the page that sent the sign-in is topmost, so it is there when the answer comes
  have waits : ∃ waiting others, (Turn.setState ⟨⟨id, .login state, dirty⟩ :: rest, globalCart, []⟩ id
      (Page.apply (.isLoading true))).stack = waiting :: others ∧ waiting.id = id := by
    exact ⟨_, _, rfl, by simp⟩
  obtain ⟨waiting, others, shape, rfl⟩ := waits
  rw [shape] at tapped
  have mounted : Turn.mounted ⟨waiting :: others, globalCart, []⟩ waiting.id = true := by
    simp [Turn.mounted]
  have answered : app.step ⟨now + 1, user, waiting :: others, globalCart,
        [⟨now + 1, waiting.id, .signIn⟩], orders⟩
      ⟨now + 2, .answer (now + 1) (.success (.user uid))⟩ = some ⟨now + 2, some uid,
        (Turn.setState ⟨{ id := now + 2, page := .home } :: others, globalCart, []⟩ waiting.id
          (Page.apply (.isLoading false))).stack, globalCart, [], orders⟩ := by
    simp [app, App.step, App.turn, App.after, App.answer, App.segment, App.commit, resume, mounted,
      whenMounted, loginFinally, Call.canEnd, Await.expects, Turn.applyEffect_of_mounted mounted,
      Turn.perform, Turn.pushReplacement, Page.ofDestination]
  refine ⟨_, _, _, ⟨⟨_, .cons trivial tapped (.single trivial answered)⟩, rfl, rfl⟩, rfl, ?_, rfl, rfl⟩
  dsimp only
  split <;> rfl

/-- From the home page, every product is found, opened and added. -/
theorem exists_added {home : Route} {rest : List Route} {product : Product}
    (stack : s.stack = home :: rest) (shown : home.page = .home) (listed : product ∈ demoProducts) :
    ∃ fs t top others, app.Run Machine.Free s fs t ∧ t.stack = top :: others ∧
      top.page.navBar = some 0 ∧ t.globalCart = s.globalCart.addToCart (s.now + 3) product 1 ∧
      t.currentUser = s.currentUser ∧ t.orders = s.orders := by
  obtain ⟨id, page, dirty⟩ := home
  obtain ⟨now, user, stack', cart, pending, orders⟩ := s
  dsimp only at stack shown ⊢
  subst stack shown
  have searched : app.step ⟨now, user, ⟨id, .home, dirty⟩ :: rest, cart, pending, orders⟩
      ⟨now + 1, .tapSearch⟩ = some ⟨now + 1, user,
        ⟨now + 1, .search 0, false⟩ :: ⟨id, .home, dirty⟩ :: rest, cart, pending, orders⟩ := by
    simp [app, App.step, App.turn, App.after, Turn.tap, Turn.push]
  -- for a signed-in user the page starts to load its heart
  obtain ⟨pending', opened⟩ : ∃ pending', app.step ⟨now + 1, user,
        ⟨now + 1, .search 0, false⟩ :: ⟨id, .home, dirty⟩ :: rest, cart, pending, orders⟩
      ⟨now + 2, .tapProduct product⟩ = some ⟨now + 2, user,
        ⟨now + 2, .product { product, navIndex := 0 }, false⟩ :: ⟨now + 1, .search 0, false⟩ ::
          ⟨id, .home, dirty⟩ :: rest, cart, pending', orders⟩ := by
    cases user with
    | none =>
      exact ⟨pending, by
        simp [app, App.step, App.turn, App.after, Turn.tap, Turn.push, Page.shownProducts, listed]⟩
    | some uid =>
      exact ⟨⟨now + 2, now + 2, .getWish⟩ :: pending, by
        simp [app, App.step, App.turn, App.after, Turn.tap, Turn.push, Turn.begin, Handler.start,
          Page.shownProducts, listed]⟩
  have added : app.step ⟨now + 2, user,
        ⟨now + 2, .product { product, navIndex := 0 }, false⟩ :: ⟨now + 1, .search 0, false⟩ ::
          ⟨id, .home, dirty⟩ :: rest, cart, pending', orders⟩
      ⟨now + 3, .tapAddToCart⟩ = some ⟨now + 3, user,
        ⟨now + 2, .product { product, navIndex := 0 }, false⟩ :: ⟨now + 1, .search 0, false⟩ ::
          ⟨id, .home, dirty⟩ :: rest, cart.addToCart (now + 3) product 1, pending', orders⟩ := by
    simp [app, App.step, App.turn, App.after, Turn.tap]
  exact ⟨_, _, _, _, .cons trivial searched (.cons trivial opened (.single trivial added)), rfl, rfl,
    rfl, rfl, rfl⟩

/-- From a page whose bar marks another tab, a cart that is not empty is ordered. -/
theorem exists_cart_ordered {top : Route} {rest : List Route} {selectedIndex : Nat}
    (stack : s.stack = top :: rest) (bar : top.page.navBar = some selectedIndex)
    (other : selectedIndex ≠ 2) (filled : s.globalCart ≠ []) :
    ∃ fs t, app.Run Machine.Free s fs t ∧ t.globalCart = [] ∧ t.orders = s.orders ++
      [placeOrder s.currentUser s.globalCart s.globalCart.cartTotal (s.now + 3)] := by
  obtain ⟨now, user, stack', cart, pending, orders⟩ := s
  dsimp only at stack filled ⊢
  subst stack
  have toCart : app.step ⟨now, user, top :: rest, cart, pending, orders⟩ ⟨now + 1, .tapNav 2⟩ =
      some ⟨now + 1, user, [⟨now + 1, .cart (.build cart), false⟩], cart, pending, orders⟩ := by
    simp [app, App.step, App.turn, App.after, Turn.tap, bar, other, Page.ofNavIndex,
      Turn.pushAndRemoveUntil]
  have counted : 0 < (CartView.build cart).itemCount := List.length_pos_iff.mpr filled
  have proceeded : app.step ⟨now + 1, user, [⟨now + 1, .cart (.build cart), false⟩], cart, pending,
        orders⟩ ⟨now + 2, .tapProceed⟩ = some ⟨now + 2, user,
        [⟨now + 2, .checkout { totalAmount := cart.cartTotal }, false⟩,
          ⟨now + 1, .cart (.build cart), false⟩], cart, pending, orders⟩ := by
    simp [app, App.step, App.turn, App.after, Turn.tap, Turn.push, counted]
  have confirmed : app.step ⟨now + 2, user,
        [⟨now + 2, .checkout { totalAmount := cart.cartTotal }, false⟩,
          ⟨now + 1, .cart (.build cart), false⟩], cart, pending, orders⟩ ⟨now + 3, .tapConfirm⟩ =
      some ⟨now + 3, user, [⟨now + 2, .checkout { totalAmount := cart.cartTotal }, false⟩,
          ⟨now + 1, .cart (.build cart), false⟩], cart,
        ⟨now + 3, now + 2, .addOrder (placeOrder user cart cart.cartTotal (now + 3))⟩ :: pending,
        orders⟩ := by
    simp [app, App.step, App.turn, App.after, Turn.tap, Turn.begin, Handler.start]
  have answered : app.step ⟨now + 3, user,
        [⟨now + 2, .checkout { totalAmount := cart.cartTotal }, false⟩,
          ⟨now + 1, .cart (.build cart), false⟩], cart,
        ⟨now + 3, now + 2, .addOrder (placeOrder user cart cart.cartTotal (now + 3))⟩ :: pending,
        orders⟩ ⟨now + 4, .answer (now + 3) (.success .done)⟩ = some ⟨now + 4, user,
        [⟨now + 4, .orderDialog, false⟩, ⟨now + 2, .checkout { totalAmount := cart.cartTotal }, false⟩,
          ⟨now + 1, .cart (.build cart), false⟩], [], pending.filter (fun call => call.id != now + 3),
        orders ++ [placeOrder user cart cart.cartTotal (now + 3)]⟩ := by
    simp [app, App.step, App.turn, App.after, App.answer, App.segment, App.commit, resume,
      whenMounted, Call.canEnd, Await.expects, Turn.mounted, Turn.applyEffect, Effect.usesPage,
      Turn.perform]
  exact ⟨_, _, .cons trivial toCart (.cons trivial proceeded (.cons trivial confirmed
    (.single trivial answered))), rfl, rfl⟩

end Ways

/-! ### The result -/

/-- In the cart a name stands for one product, so one more of it costs its price. -/
theorem cartTotal_added {currentUser : Option Uid} {orders : List OrderDoc} {es : List Timed}
    {s : App} {product : Product} (run : app.Run Machine.Free (App.init currentUser orders) es s)
    (listed : product ∈ demoProducts) (ref : Nat) :
    (s.globalCart.addToCart ref product 1).cartTotal = s.globalCart.cartTotal + product.price := by
  have own : ∀ item ∈ s.globalCart, item.product.name = product.name → item.product = product :=
    fun item member name =>
      List.inj_on_of_nodup_map demoProducts_names (stocked_of_run run item member) listed name
  rw [Cart.addToCart_total own, Int.cast_one, mul_one]

/-- From every state the app can reach, every user can still order every product of the catalogue:
some way on records one order more, for that user and with the price of the product added to what
is in the cart, and leaves the cart empty. -/
theorem exists_product_ordered {currentUser : Option Uid} {orders : List OrderDoc}
    {es : List Timed} {s : App} {product : Product}
    (run : app.Run Machine.Free (App.init currentUser orders) es s) (uid : Uid)
    (listed : product ∈ demoProducts) :
    ∃ fs t doc, app.Run Machine.Free s fs t ∧ t.orders = s.orders ++ [doc] ∧ doc.buyerId = uid ∧
      doc.amount = s.globalCart.cartTotal + product.price ∧ t.globalCart = [] := by
  -- to a login page that works
  obtain ⟨a, toRest, rested, screens, quiet⟩ := exists_rested run
  obtain ⟨b, top, rest, state, toLogin, atLogin, quiet⟩ :=
    exists_atLogin_of_rested (screens ▸ (laid_of_run run).stacked) rested quiet
  obtain ⟨c, home, others, toHome, stack, shown, user, _⟩ := exists_home uid atLogin quiet
  have onward := (toRest.trans toLogin).trans toHome
  obtain ⟨fs, before⟩ := onward.run
  -- and through the shop
  obtain ⟨gs, d, page, below, adding, stack, bar, cart, same, kept⟩ :=
    exists_added stack shown listed
  have filled : d.globalCart ≠ [] := cart ▸ Cart.addToCart_ne_nil _ _ _ _
  obtain ⟨hs, t, ordering, empty, recorded⟩ := exists_cart_ordered stack bar (by decide) filled
  rw [kept, onward.orders, same, user, cart, onward.globalCart] at recorded
  exact ⟨_, t, _, (before.append adding).append ordering, recorded, rfl,
    cartTotal_added run listed _, empty⟩

end CartX
