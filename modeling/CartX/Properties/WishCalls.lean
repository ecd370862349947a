import CartX.Model.Wishes
import CartX.Properties.Failures
import CartX.Properties.Isolation
import CartX.Properties.Storefront

/-!
# Calls to the wishlist documents

Inversion of the app's step function for the hearts: a tap opens a product page, whose
`initState` sends a get; or is a tap on the heart of one, which sends a write; or sends
nothing to the wishlist and opens no product page (`WishMove`). An event of the app with its
documents is one of these or the answer to a call (`Wishes.Moved`). In every run the
requests the server knows are the pending calls (`Wishes.Sent`).
-/

namespace CartX

def Await.isWish : Await → Bool
  | .getWish | .writeWish => true
  | _ => false

def Page.isProduct : Page → Bool
  | .product _ => true
  | _ => false

/-- The taps that send calls to wishlist documents. -/
def Event.sendsWish : Event → Bool
  | .tapProduct _ | .tapHeart => true
  | _ => false

/-! ### Taps -/

/-- A tap, by what it sends to the wishlist documents. -/
inductive WishMove (turn : Turn) (time : Nat) (currentUser : Option Uid) (top : Route) :
    Event → Turn → Prop
  | opens (product : Product) (navIndex : Nat) :
      WishMove turn time currentUser top (.tapProduct product)
        (turn.push time currentUser (.product { product, navIndex }))
  | toggles (state : ProductState) (uid : Uid) (shown : top.page = .product state)
      (signedIn : currentUser = some uid) :
      WishMove turn time currentUser top .tapHeart (turn.begin time top.id .toggleWishlist)
  | ignored (nobody : currentUser = none) : WishMove turn time currentUser top .tapHeart turn
  | other {event : Event} {turn' : Turn} (plain : event.sendsWish = false)
      (unsent : ∀ call ∈ turn'.started, call.point.isWish = false)
      (unopened : ∀ route ∈ turn'.stack, route.id = time → route.page.isProduct = false) :
      WishMove turn time currentUser top event turn'

theorem Turn.edit_names (turn : Turn) (id : Nat) (update : Page → Page) :
    (turn.edit id update).stack.map Route.id = turn.stack.map Route.id := by
  simp only [Turn.edit, List.map_map]
  apply List.map_congr_left
  intro route _
  by_cases here : route.id = id <;> simp [here]

section Taps

variable {turn turn' : Turn} {time : Nat} {currentUser : Option Uid} {event : Event} {top : Route}

theorem tap_wishes (none_yet : turn.started = []) (older : ∀ route ∈ turn.stack, route.id < time)
    (tapped : turn.tap time currentUser event top = some turn') :
    WishMove turn time currentUser top event turn' := by
  have old {stack : List Route} (ids : stack.map Route.id = turn.stack.map Route.id) :
      ∀ route ∈ stack, route.id = time → route.page.isProduct = false := by
    intro route member new
    have listed : route.id ∈ turn.stack.map Route.id := ids ▸ List.mem_map_of_mem member
    obtain ⟨before, before_mem, same⟩ := List.mem_map.mp listed
    have := older before before_mem
    omega
  -- what a tap that sends nothing to the wishlist can leave
  have kept (plain : event.sendsWish = false) {after : Turn} (unsent : after.started = [])
      (ids : after.stack.map Route.id = turn.stack.map Route.id) :
      WishMove turn time currentUser top event after :=
    .other plain (by simp [unsent]) (old ids)
  have begun (plain : event.sendsWish = false) (handler : Handler)
      (other : handler.start.2.isWish = false) :
      WishMove turn time currentUser top event (turn.begin time top.id handler) := by
    refine .other plain (by simp [none_yet, other]) (old ?_)
    rcases turn.begin_stack time top.id handler with same | busy
    · rw [same]
    · rw [busy, Turn.setState_names]
  have pushed (plain : event.sendsWish = false) (page : Page) (other : page.isProduct = false) :
      WishMove turn time currentUser top event (turn.push time currentUser page) := by
    refine .other plain ?_ ?_
    · intro call member
      unfold Turn.push at member
      split at member
      · cases other
      · rw [Turn.begin_started, none_yet, List.mem_singleton] at member
        rw [member]
        rfl
      · simp [none_yet] at member
    · intro route member new
      rw [Turn.push_stack, List.mem_cons] at member
      rcases member with rfl | below
      · exact other
      · exact old rfl route below new
  have cleared (plain : event.sendsWish = false) (page : Page) (other : page.isProduct = false) :
      WishMove turn time currentUser top event (turn.pushAndRemoveUntil time page) := by
    refine .other plain (by simp [none_yet]) fun route member _ => ?_
    rw [List.mem_singleton.mp member]
    exact other
  unfold Turn.tap at tapped
  split at tapped
  -- the splash timer
  · cases tapped
    refine .other rfl (by simp [none_yet]) fun route member new => ?_
    rcases List.mem_cons.mp member with rfl | below
    · rfl
    · exact old rfl route (List.mem_of_mem_tail below) new
  -- LoginPage and SignupPage
  · split at tapped
    · split at tapped
      · cases tapped; exact kept rfl none_yet rfl
      · cases tapped; exact begun rfl .login rfl
    · cases tapped
  · cases tapped; exact pushed rfl .signup rfl
  · cases tapped; exact begun rfl .signup rfl
  -- the bottom bar
  · split at tapped
    next selectedIndex next bar entry =>
      split at tapped
      · cases tapped; exact kept rfl none_yet rfl
      · cases tapped
        rcases ofNavIndex_cases entry with rfl | rfl | rfl | rfl <;> exact cleared rfl _ rfl
    · cases tapped
  -- the search field and the category rows
  · cases tapped; exact pushed rfl _ rfl
  · split at tapped
    · cases tapped; exact pushed rfl _ rfl
    · cases tapped
  -- a product card
  · split at tapped
    · cases tapped; exact .opens _ _
    · cases tapped
  -- the heart
  next shown =>
    split at tapped
    · cases tapped; exact .toggles _ _ shown rfl
    · cases tapped; exact .ignored rfl
  -- plus and minus, then Add to Cart
  · cases tapped; exact kept rfl none_yet (Turn.setState_names _ _ _)
  · split at tapped
    · cases tapped; exact kept rfl none_yet (Turn.setState_names _ _ _)
    · cases tapped
  · cases tapped; exact kept rfl none_yet rfl
  -- CartPage
  · split at tapped
    · cases tapped; exact kept rfl none_yet (Turn.edit_names _ _ _)
    · cases tapped
  · split at tapped
    · split at tapped
      · cases tapped; exact kept rfl none_yet (Turn.setState_names _ _ _)
      · cases tapped; exact kept rfl none_yet rfl
    · cases tapped
  · split at tapped
    · cases tapped; exact pushed rfl _ rfl
    · cases tapped
  -- CheckoutPage and its dialog
  · cases tapped; exact kept rfl none_yet (Turn.setState_names _ _ _)
  · cases tapped; exact begun rfl _ rfl
  · cases tapped; exact cleared rfl .home rfl
  -- ProfilePage
  next item _ => cases tapped; exact pushed rfl _ (by cases item <;> rfl)
  · cases tapped; exact begun rfl .logout rfl
  -- typing and Save Changes
  · cases tapped; exact kept rfl none_yet (Turn.edit_names _ _ _)
  · split at tapped
    · cases tapped; exact kept rfl none_yet (Turn.edit_names _ _ _)
    · cases tapped
  · split at tapped
    · cases tapped; exact begun rfl .updateData rfl
    · cases tapped
  · cases tapped

end Taps

/-! ### Steps -/

section Steps

variable {s s' : App} {e : Timed}

/-- A tap that is a step is a tap of the topmost page. -/
theorem App.step_tapped (tap : e.event.isTap = true) (step : s.step e = some s') :
    s.now < e.time ∧ ∃ top rest turn, s.stack = top :: rest ∧
      s.turn.tap e.time s.currentUser e.event top = some turn ∧
      s' = ({ s with now := e.time } : App).after turn := by
  obtain ⟨time, event⟩ := e
  have later := (App.step_cases step).1
  refine ⟨later, ?_⟩
  cases shape : s.stack with
  | nil => cases event <;> simp [App.step, shape] at step <;> cases tap
  | cons top rest =>
    rw [App.step_tap tap later shape] at step
    obtain ⟨turn, tapped, rfl⟩ := Option.map_eq_some_iff.mp step
    exact ⟨top, rest, turn, rfl, tapped, rfl⟩

theorem App.step_back {time : Nat} (step : s.step ⟨time, .back⟩ = some s') :
    ∃ top rest, s.stack = top :: rest ∧ s' = { s with now := time, stack := rest } := by
  obtain ⟨now, currentUser, stack, globalCart, pending, orders⟩ := s
  unfold App.step at step
  split at step
  · rcases stack with _ | ⟨top, _ | ⟨below, rest⟩⟩
    · cases step
    · cases step
    · cases step
      exact ⟨top, _, rfl, rfl⟩
  · cases step

theorem App.step_wishes (wf : WellFormed s) (tap : e.event.isTap = true)
    (step : s.step e = some s') :
    ∃ top rest turn, s.stack = top :: rest ∧ WishMove s.turn e.time s.currentUser top e.event turn ∧
      s' = ({ s with now := e.time } : App).after turn := by
  obtain ⟨later, top, rest, turn, shape, tapped, after⟩ := App.step_tapped tap step
  have older : ∀ route ∈ s.turn.stack, route.id < e.time := fun route member =>
    Nat.lt_of_le_of_lt (wf.routeAge route member) later
  exact ⟨top, rest, turn, shape, tap_wishes rfl older tapped, after⟩

/-- A handler that goes on opens no product page. -/
theorem Resumed.unopened {turn turn' : Turn} {time : Nat} {call : Call} {outcome : Outcome}
    {route : Route} (older : ∀ route ∈ turn.stack, route.id < time)
    (resumed : Resumed turn time call outcome turn') (member : route ∈ turn'.stack)
    (new : route.id = time) : route.page.isProduct = false := by
  have old {stack : List Route} (sub : ∀ id ∈ stack.map Route.id, id ∈ turn.stack.map Route.id)
      (listed : route ∈ stack) : route.page.isProduct = false := by
    obtain ⟨before, before_mem, same⟩ := List.mem_map.mp (sub _ (List.mem_map_of_mem listed))
    have := older before before_mem
    omega
  have named (page : Nat) (update : Page → Page) :
      ∀ id ∈ (turn.setState page update).stack.map Route.id, id ∈ turn.stack.map Route.id :=
    fun id listed => Turn.setState_names turn page update ▸ listed
  cases resumed with
  | nothing | created | orderedAway => exact old (fun _ => id) member
  | update => exact old (named _ _) member
  | saved =>
    exact old (fun id listed => named _ _ id ((List.tail_sublist _).map _ |>.subset listed)) member
  | loggedIn =>
    obtain ⟨before, listed, rfl⟩ := List.mem_map.mp member
    rcases List.mem_cons.mp listed with rfl | below
    · dsimp only
      split <;> rfl
    · have past := older before (List.mem_of_mem_tail below)
      split at new <;> exact absurd new past.ne
  | ordered =>
    rcases List.mem_cons.mp member with rfl | below
    · rfl
    · exact old (fun _ => id) below
  | signedUp | loggedOut =>
    rw [List.mem_singleton.mp member]
    rfl

theorem Revised.flag {event : Event} {route : Route} {state' : ProductState}
    (revised : Revised s event route (.product state')) :
    ∃ state, route.page = .product state ∧ state'.product = state.product ∧
      (state'.isWishlisted = state.isWishlisted ∨ ∃ call ∈ s.pending, ∃ outcome,
        event = .answer call.id outcome ∧ call.page = route.id) := by
  generalize after : Page.product state' = page at revised
  cases revised with
  | kept => exact ⟨state', after.symm, rfl, .inl rfl⟩
  | rebuilt =>
    cases shown : route.page <;> rw [shown] at after <;> cases after
    exact ⟨_, rfl, rfl, .inl rfl⟩
  | begun =>
    cases shown : route.page <;> rw [shown] at after <;> cases after
    exact ⟨_, rfl, rfl, .inl rfl⟩
  | resumed call outcome change answered member here =>
    obtain ⟨state, shown, product, _⟩ := Page.apply_product after.symm
    exact ⟨state, shown, product, .inr ⟨call, member, outcome, answered, here⟩⟩
  | restated _ _ restated =>
    generalize shown : route.page = before at restated
    cases restated <;> cases after <;> exact ⟨_, rfl, rfl, .inl rfl⟩
  | typed _ typed =>
    generalize route.page = before at typed
    cases typed <;> cases after
  | rowBuilt => cases after

/-- A product page after a step was opened by it, or it was there and its heart is as before unless
a call of its own was answered. -/
theorem App.step_product (wf : WellFormed s) (step : s.step e = some s') {route' : Route}
    {state' : ProductState} (member : route' ∈ s'.stack) (shown : route'.page = .product state') :
    (route'.id = e.time ∧ ∃ product navIndex, e.event = .tapProduct product ∧
      state' = { product, navIndex }) ∨
    ∃ route ∈ s.stack, ∃ state, route.id = route'.id ∧ route.page = .product state ∧
      state'.product = state.product ∧
      (state'.isWishlisted = state.isWishlisted ∨ ∃ call ∈ s.pending, ∃ outcome,
        e.event = .answer call.id outcome ∧ call.page = route.id) := by
  have older : ∀ route ∈ s.turn.stack, route.id < e.time := fun route listed =>
    Nat.lt_of_le_of_lt (wf.routeAge route listed) (App.step_cases step).1
  have isProduct : route'.page.isProduct = true := by rw [shown]; rfl
  rcases (App.step_shifted wf step).routes member with ⟨new, _⟩ | ⟨route, old, revision⟩
  · refine .inl ⟨new, ?_⟩
    dsimp only at new
    have not_old (listed : route' ∈ s.stack) : False := by
      have := older route' listed
      omega
    cases tap : e.event.isTap with
    | true =>
      obtain ⟨top, rest, turn, shape, move, rfl⟩ := App.step_wishes wf tap step
      generalize event : e.event = event at move
      cases move with
      | opens product navIndex =>
        rw [App.after_stack, Turn.push_stack, List.mem_cons] at member
        rcases member with rfl | below
        · cases shown
          exact ⟨product, navIndex, rfl, rfl⟩
        · exact absurd below not_old
      | toggles | ignored => exact absurd member not_old
      | other _ _ unopened => simp [unopened route' member new] at isProduct
    | false =>
      obtain ⟨time, event⟩ := e
      cases event with
      | frame =>
        rw [step_frame_iff step] at member
        obtain ⟨before, listed, rfl⟩ := List.mem_map.mp member
        exact absurd ((Route.refresh_id _ _).symm.trans new) (older before listed).ne
      | back =>
        obtain ⟨_, _, shape, rfl⟩ := App.step_back step
        exact absurd (by rw [shape]; exact List.mem_cons_of_mem _ member) not_old
      | answer id outcome =>
        obtain ⟨call, turn, _, rfl, _, resumed, rfl⟩ := App.step_answered step
        simp [resumed.unopened older member new] at isProduct
      | _ => cases tap
  · have revised := revision.page
    rw [shown] at revised
    obtain ⟨state, page, product, flag⟩ := revised.flag
    exact .inr ⟨route, old, state, revision.id.symm, page, product, flag⟩

/-- A product page that stays on the stack. -/
theorem App.step_stays (wf : WellFormed s) (step : s.step e = some s') {route route' : Route}
    {state : ProductState} (old : route ∈ s.stack) (shown : route.page = .product state)
    (member : route' ∈ s'.stack) (same : route'.id = route.id) :
    ∃ state', route'.page = .product state' ∧ state'.product = state.product ∧
      (state'.isWishlisted = state.isWishlisted ∨ ∃ call ∈ s.pending, ∃ outcome,
        e.event = .answer call.id outcome ∧ call.page = route.id) := by
  have past : route.id < e.time := Nat.lt_of_le_of_lt (wf.routeAge route old) (App.step_cases step).1
  have unique {other : Route} (listed : other ∈ s.stack) (id : other.id = route'.id) : other = route :=
    route_unique wf.routeNames old listed (id.trans same)
  obtain ⟨new, restacked, _⟩ := App.step_restacked wf step
  have stays : Await.getWish.owns route'.page = true := by
    rcases restacked.routes member with ⟨page, _, rfl⟩ | ⟨before, listed, id, similar⟩
    · dsimp only at same
      omega
    · rw [← similar.owns, unique listed id, shown]
      rfl
  obtain ⟨state', shown'⟩ : ∃ state', route'.page = .product state' := by
    cases page : route'.page <;> rw [page] at stays <;> first | exact ⟨_, rfl⟩ | cases stays
  rcases App.step_product wf step member shown' with ⟨new, _⟩ | ⟨before, listed, state₀, id, shown₀, rest⟩
  · omega
  · obtain rfl := unique listed id
    rw [shown] at shown₀
    cases shown₀
    exact ⟨state', shown', rest⟩

end Steps

/-! ### The app with its documents -/

/-- The pending call behind a request. -/
def WishGet.toCall (get : WishGet) : Call := ⟨get.call, get.owner, .getWish⟩

def WishPut.toCall (put : WishPut) : Call := ⟨put.call, put.owner, .writeWish⟩

namespace Wishes

/-- The calls to wishlist documents that are pending. -/
def calls (s : App) : List Call := s.pending.filter fun call => call.point.isWish

/-- An event of the app, by what it does to the documents' calls. -/
inductive Moved (w : Wishes) (e : Timed) (app : App) : Wishes → Prop
  | opened (product : Product) (navIndex : Nat) (uid : Uid) (event : e.event = .tapProduct product)
      (user : w.app.currentUser = some uid)
      (stack : app.stack =
        { id := e.time, page := .product { product, navIndex } } :: w.app.stack)
      (pending : calls app = ⟨e.time, e.time, .getWish⟩ :: calls w.app) :
      Moved w e app { w with app, server := w.server.get e.time e.time ⟨uid, product.id⟩ }
  | toggled (top : Route) (rest : List Route) (state : ProductState) (uid : Uid)
      (event : e.event = .tapHeart) (user : w.app.currentUser = some uid)
      (shape : w.app.stack = top :: rest) (shown : top.page = .product state)
      (stack : app.stack = w.app.stack)
      (pending : calls app = ⟨e.time, top.id, .writeWish⟩ :: calls w.app) :
      Moved w e app { w with
        app
        server := w.server.put e.time top.id ⟨uid, state.product.id⟩
          (toggleWishlist state.isWishlisted).leaves }
  | answered (call : Call) (outcome : Outcome) (event : e.event = .answer call.id outcome)
      (member : call ∈ w.app.pending) (ends : call.canEnd outcome = true)
      (answers : w.Answers e.event)
      (pending : calls app = (calls w.app).filter fun other => other.id != call.id) :
      Moved w e app { app, server := w.server.forget call.id, loaded := w.loads e.event }
  | other (unanswered : ∀ id outcome, e.event ≠ .answer id outcome)
      (nobody : e.event.sendsWish = true → w.app.currentUser = none)
      (pending : calls app = calls w.app) : Moved w e app { w with app }

theorem app_cases {w w' : Wishes} {e : Timed} (wf : WellFormed w.app)
    (step : w.step (.app e) = some w') :
    ∃ app, w.app.step e = some app ∧ Moved w e app w' := by
  simp only [Wishes.step] at step
  split at step
  next answers =>
    obtain ⟨app, moved, rfl⟩ := Option.map_eq_some_iff.mp step
    refine ⟨app, moved, ?_⟩
    obtain ⟨time, event⟩ := e
    cases tap : event.isTap with
    | true =>
      obtain ⟨top, rest, turn, shape, move, rfl⟩ := App.step_wishes wf tap moved
      dsimp only at shape move
      cases move with
      | opens product navIndex =>
        cases user : w.app.currentUser with
        | some uid =>
          have served : w.served ⟨time, .tapProduct product⟩ =
              w.server.get time time ⟨uid, product.id⟩ := by simp [Wishes.served, user]
          rw [served]
          exact .opened product navIndex uid rfl user (by simp)
            (by simp [calls, Turn.push, Handler.start, Await.isWish])
        | none =>
          have served : w.served ⟨time, .tapProduct product⟩ = w.server := by
            simp [Wishes.served, user]
          rw [served]
          exact .other (by simp) (fun _ => user) (by simp [calls, Turn.push])
      | toggles state uid shown signedIn =>
        have served : w.served ⟨time, .tapHeart⟩ = w.server.put time top.id ⟨uid, state.product.id⟩
            (toggleWishlist state.isWishlisted).leaves := by
          obtain ⟨id, page, dirty⟩ := top
          dsimp only at shown
          subst shown
          simp [Wishes.served, signedIn, shape]
        rw [served]
        exact .toggled top rest state uid rfl signedIn shape shown rfl
          (by simp [calls, Handler.start, Await.isWish])
      | ignored nobody =>
        have served : w.served ⟨time, .tapHeart⟩ = w.server := by simp [Wishes.served, nobody]
        rw [served]
        exact .other (by simp) (fun _ => nobody) rfl
      | other plain unsent =>
        have unanswered : ∀ id outcome, event ≠ .answer id outcome := by
          rintro id outcome rfl
          cases tap
        have served : w.served ⟨time, event⟩ = w.server := by
          cases event <;> first | rfl | exact absurd rfl (unanswered _ _) | cases plain
        have loads : w.loads event = w.loaded := by
          cases event <;> first | rfl | exact absurd rfl (unanswered _ _)
        rw [served, loads]
        exact .other unanswered (by simp [plain]) (by simpa [calls] using unsent)
    | false =>
      cases event with
      | frame =>
        rw [step_frame_iff moved]
        exact .other (by simp) (by simp [Event.sendsWish]) rfl
      | back =>
        obtain ⟨_, _, _, rfl⟩ := App.step_back moved
        exact .other (by simp) (by simp [Event.sendsWish]) rfl
      | answer id outcome =>
        obtain ⟨call, turn, member, rfl, ends, resumed, rfl⟩ := App.step_answered moved
        refine .answered call outcome rfl member ends answers ?_
        have none : turn.started.filter (fun call => call.point.isWish) = [] := by
          rcases resumed.started rfl with none | ⟨_, _, one, _⟩
          · simp [none]
          · simp [one, Await.isWish]
        rw [calls, App.after_pending, App.commit_pending, List.filter_append, none, calls,
          List.filter_comm]
        rfl
      | _ => cases tap
  · cases step

/-- The calls the server knows are the pending ones. -/
structure Sent (w : Wishes) : Prop where
  laid : Laid w.app
  gets : w.server.gets.map WishGet.toCall =
    ((calls w.app).filter fun call => call.point == .getWish).reverse
  puts : w.server.puts.map WishPut.toCall =
    ((calls w.app).filter fun call => call.point == .writeWish).reverse
  past : ∀ id ∈ w.loaded, id ≤ w.app.now

section Sent

variable {w w' : Wishes} {call : Call}

theorem Sent.init (currentUser : Option Uid) (orders : List OrderDoc) (docs : WishPath → Bool) :
    (Wishes.init currentUser orders docs).Sent :=
  ⟨.init currentUser orders, rfl, rfl, by simp [Wishes.init]⟩

theorem Sent.get_iff (sent : w.Sent) (point : call.point = .getWish) :
    call ∈ w.app.pending ↔ ∃ get ∈ w.server.gets, WishGet.toCall get = call := by
  rw [← List.mem_map, sent.gets]
  simp [calls, point, Await.isWish]

theorem Sent.put_iff (sent : w.Sent) (point : call.point = .writeWish) :
    call ∈ w.app.pending ↔ ∃ put ∈ w.server.puts, WishPut.toCall put = call := by
  rw [← List.mem_map, sent.puts]
  simp [calls, point, Await.isWish]

theorem Sent.get_pending (sent : w.Sent) {get : WishGet} (asked : get ∈ w.server.gets) :
    WishGet.toCall get ∈ w.app.pending :=
  (sent.get_iff rfl).mpr ⟨get, asked, rfl⟩

theorem Sent.put_pending (sent : w.Sent) {put : WishPut} (written : put ∈ w.server.puts) :
    WishPut.toCall put ∈ w.app.pending :=
  (sent.put_iff rfl).mpr ⟨put, written, rfl⟩

/-- No two requests have one name. -/
theorem Sent.names (sent : w.Sent) :
    (w.server.gets.map (·.call)).Nodup ∧ (w.server.puts.map (·.call)).Nodup := by
  have named (point : Await) :
      (((calls w.app).filter fun call => call.point == point).map Call.id).reverse.Nodup := by
    have sub : (((calls w.app).filter fun call => call.point == point).map Call.id).Sublist
        (w.app.pending.map Call.id) := (List.filter_sublist.trans List.filter_sublist).map _
    rw [List.nodup_reverse]
    exact (sent.laid.wf.callNames.sublist sub).imp Nat.ne_of_gt
  have gets := named .getWish
  have puts := named .writeWish
  rw [← List.map_reverse, ← sent.gets, List.map_map] at gets
  rw [← List.map_reverse, ← sent.puts, List.map_map] at puts
  exact ⟨gets, puts⟩

/-- A get and a write are different calls. -/
theorem Sent.apart (sent : w.Sent) {get : WishGet} {put : WishPut} (asked : get ∈ w.server.gets)
    (written : put ∈ w.server.puts) : get.call ≠ put.call := by
  intro same
  have first := sent.get_pending asked
  have second := sent.put_pending written
  have equal := call_unique sent.laid.wf.callNames second first same
  simp [WishGet.toCall, WishPut.toCall] at equal

theorem Sent.answers_get (sent : w.Sent) {get : WishGet} {outcome : Outcome}
    (asked : get ∈ w.server.gets) (fits : WishGet.endsWith get outcome = true) :
    w.Answers (.answer get.call outcome) := by
  refine ⟨fun other listed same => ?_, fun put listed same => ?_⟩
  · rw [List.inj_on_of_nodup_map sent.names.1 listed asked same]
    exact fits
  · exact absurd same.symm (sent.apart asked listed)

theorem Sent.answers_put (sent : w.Sent) {put : WishPut} {outcome : Outcome}
    (written : put ∈ w.server.puts) (fits : WishPut.endsWith put outcome = true) :
    w.Answers (.answer put.call outcome) := by
  refine ⟨fun get listed same => ?_, fun other listed same => ?_⟩
  · exact absurd same (sent.apart listed written)
  · rw [List.inj_on_of_nodup_map sent.names.2 listed written same]
    exact fits

/-- Nothing is known of a page that is still to be opened. -/
theorem Sent.fresh {time : Nat} (sent : w.Sent) (later : w.app.now < time) :
    time ∉ w.loaded ∧ w.server.getsOf time = [] ∧ w.server.putsOf time = [] := by
  refine ⟨fun listed => absurd (sent.past _ listed) (Nat.not_le.mpr later),
    List.filter_eq_nil_iff.mpr fun get listed => ?_, List.filter_eq_nil_iff.mpr fun put listed => ?_⟩
  · have pending := sent.get_pending listed
    simpa [WishGet.toCall] using (Nat.lt_of_le_of_lt (sent.laid.wf.callAge _ pending).2 later).ne
  · have pending := sent.put_pending listed
    simpa [WishPut.toCall] using (Nat.lt_of_le_of_lt (sent.laid.wf.callAge _ pending).2 later).ne

theorem Sent.step {e : WishesEvent} (sent : w.Sent) (step : w.step e = some w') : w'.Sent := by
  cases e with
  | reads call =>
    obtain ⟨server, read, rfl⟩ := Option.map_eq_some_iff.mp step
    obtain rfl := Documents.Server.reads_eq_some read
    refine ⟨sent.laid, ?_, sent.puts, sent.past⟩
    rw [← sent.gets, List.map_map]
    refine List.map_congr_left fun get _ => ?_
    simp only [Function.comp_apply, Documents.Get.reading]
    split <;> rfl
  | takesEffect path ok =>
    obtain ⟨server, decided, rfl⟩ := Option.map_eq_some_iff.mp step
    obtain ⟨⟨value, puts⟩, found, rfl⟩ := Option.map_eq_some_iff.mp decided
    refine ⟨sent.laid, sent.gets, ?_, sent.past⟩
    have same := congrArg (List.map fun name : Nat × Nat => (⟨name.1, name.2, .writeWish⟩ : Call))
      (Documents.resolve_calls found)
    simp only [List.map_map] at same
    exact same.trans sent.puts
  | app e =>
    obtain ⟨app, moved, change⟩ := app_cases sent.laid.wf step
    have laid := sent.laid.step moved
    have later : w.app.now ≤ app.now := by
      rw [App.step_now moved]
      exact (App.step_cases moved).1.le
    have past : ∀ id ∈ w.loaded, id ≤ app.now := fun id listed => (sent.past id listed).trans later
    cases change with
    | opened product navIndex uid _ _ _ pending =>
      refine ⟨laid, ?_, ?_, past⟩
      · simpa [pending, Documents.Server.get] using ⟨sent.gets, rfl⟩
      · simpa [pending, Documents.Server.get] using sent.puts
    | toggled top rest state uid _ _ _ _ _ pending =>
      refine ⟨laid, ?_, ?_, past⟩
      · simpa [pending, Documents.Server.put] using sent.gets
      · simpa [pending, Documents.Server.put] using ⟨sent.puts, rfl⟩
    | answered call outcome event member _ _ pending =>
      refine ⟨laid, ?_, ?_, fun id listed => ?_⟩
      · rw [pending, List.filter_comm, ← List.filter_reverse, ← sent.gets, List.filter_map]
        rfl
      · rw [pending, List.filter_comm, ← List.filter_reverse, ← sent.puts, List.filter_map]
        rfl
      · have owners : id ∈ w.loaded ∨ ∃ get ∈ w.server.gets, get.owner = id := by
          rw [event] at listed
          cases outcome with
          | success response =>
            rcases List.mem_append.mp listed with new | old
            · obtain ⟨get, ended, owner⟩ := List.mem_map.mp new
              exact .inr ⟨get, List.mem_of_mem_filter ended, owner⟩
            · exact .inl old
          | _ => exact .inl listed
        rcases owners with old | ⟨get, known, rfl⟩
        · exact past id old
        · have pending := sent.get_pending known
          exact (sent.laid.wf.callAge _ pending).2.trans later
    | other _ _ pending => exact ⟨laid, by rw [pending]; exact sent.gets, by rw [pending]; exact sent.puts, past⟩

end Sent

end Wishes

end CartX
