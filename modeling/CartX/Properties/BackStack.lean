import CartX.Properties.Pages

/-!
# Back never leads from the shop to the login pages

The pages before the shop (splash, login, signup) open each other with
different navigation calls, and their handlers end when another page may be on
top. `_signup` clears the stack; `_login` calls `pushReplacement`, which replaces
whatever is topmost: a sign-in that succeeds while the signup page is open over
its login page leaves that login page under the home page. The runs in which
every sign-in succeeds on top are exactly the runs that keep the login pages out
from under the shop.
-/

namespace CartX

/-- No splash, login or signup page lies below a shop page. -/
def App.LeadsBackToShop (s : App) : Prop :=
  s.stack.Pairwise fun above below => above.page.isAuth = false → below.page.isAuth = false

instance (s : App) : Decidable s.LeadsBackToShop := inferInstanceAs (Decidable (List.Pairwise _ _))

/-- The call is answered with success. -/
def Event.completes : Event → Call → Bool
  | .answer id outcome, call => call.id == id && outcome.succeeded
  | _, _ => false

theorem Event.completes_iff {event : Event} {call : Call} : event.completes call = true ↔
    ∃ outcome, event = .answer call.id outcome ∧ outcome.succeeded = true := by
  cases event with
  | answer id outcome =>
    simp only [Event.completes, Bool.and_eq_true, beq_iff_eq]
    constructor
    · rintro ⟨rfl, ok⟩
      exact ⟨outcome, rfl, ok⟩
    · rintro ⟨_, same, ok⟩
      cases same
      exact ⟨rfl, ok⟩
  | _ => simp [Event.completes]

/-- A sign-in succeeds only while its login page is the topmost page, or gone. -/
def LogsInOnTop (s : App) (e : Timed) : Prop :=
  ∀ call ∈ s.pending, call.point = .signIn → e.event.completes call = true →
    ∀ route ∈ s.stack, route.id = call.page → s.stack.head? = some route

instance (s : App) (e : Timed) : Decidable (LogsInOnTop s e) :=
  inferInstanceAs (Decidable (∀ call ∈ _, _))

/-! ### The shape of the stack -/

inductive PageKind
  | splash
  | login
  | signup
  | shop
  deriving DecidableEq, Repr

def Page.kind : Page → PageKind
  | .splash => .splash
  | .login _ => .login
  | .signup => .signup
  | _ => .shop

def App.kinds (s : App) : List PageKind := s.stack.map fun route => route.page.kind

/-- Shop pages over nothing or over one login page. -/
inductive ShopStack : List PageKind → Prop
  | empty : ShopStack []
  | login : ShopStack [.login]
  | shop {rest : List PageKind} (below : ShopStack rest) : ShopStack (.shop :: rest)

/-- The stacks the app can have: a signup page is always over the login page alone. -/
def StackShape (kinds : List PageKind) : Prop :=
  ShopStack kinds ∨ kinds = [.splash] ∨ kinds = [.signup, .login]

theorem Page.kind_eq_shop {page : Page} : page.kind = .shop ↔ page.isAuth = false := by
  cases page <;> simp [Page.kind, Page.isAuth]

/-- No `setState` turns a page into another kind of page. -/
theorem Page.apply_kind (change : LocalUpdate) (page : Page) :
    (Page.apply change page).kind = page.kind := by
  cases change <;> cases page <;> rfl

theorem Restated.kind {event : Event} {page page' : Page} (restated : Restated event page page') :
    page'.kind = page.kind := by
  cases restated <;> rfl

theorem Typed.kind {page page' : Page} (typed : Typed page page') : page'.kind = page.kind := by
  cases typed <;> rfl

theorem Revised.kind {s : App} {event : Event} {route : Route} {page : Page}
    (revised : Revised s event route page) : page.kind = route.page.kind := by
  cases revised with
  | kept => rfl
  | rebuilt => cases route.page <;> rfl
  | begun => exact Page.apply_kind _ _
  | restated _ _ restated => exact restated.kind
  | typed _ typed => exact typed.kind
  | rowBuilt _ _ shown => rw [shown]; rfl
  | resumed _ _ change => exact Page.apply_kind change _

theorem revisions_kinds {s : App} {event : Event} {before after : List Route}
    (pages : List.Forall₂ (Revision s event) before after) :
    (after.map fun route => route.page.kind) = before.map fun route => route.page.kind := by
  induction pages with
  | nil => rfl
  | cons first _ ih => simp [ih, first.page.kind]

theorem App.leadsBackToShop_iff (s : App) :
    s.LeadsBackToShop ↔ s.kinds.Pairwise fun above below => above = .shop → below = .shop := by
  simp only [App.LeadsBackToShop, App.kinds, List.pairwise_map, Page.kind_eq_shop]

theorem ShopStack.tail {kinds : List PageKind} (stack : ShopStack kinds) : ShopStack kinds.tail := by
  cases stack with
  | empty => exact .empty
  | login => exact .empty
  | shop below => exact below

/-- A login page is the bottom of the stack. -/
theorem ShopStack.eq_login {rest : List PageKind} (stack : ShopStack (.login :: rest)) :
    rest = [] := by
  cases stack; rfl

/-- Where nothing but shop pages lies below a shop page, all pages of a stack with one are. -/
theorem ShopStack.all_shop {kinds : List PageKind} (stack : ShopStack kinds)
    (within : .shop ∈ kinds) (leads : kinds.Pairwise fun above below => above = .shop → below = .shop) :
    ∀ kind ∈ kinds, kind = .shop := by
  cases stack with
  | empty | login => simp at within
  | shop below =>
    intro kind member
    rcases List.mem_cons.mp member with rfl | member
    · rfl
    · exact List.rel_of_pairwise_cons leads member rfl

section Step

variable {s s' : App} {event : Event} {e : Timed} {after : List Route}

theorem App.shop_mem_kinds {route : Route} (member : route ∈ s.stack)
    (shop : route.page.isAuth = false) : .shop ∈ s.kinds :=
  List.mem_map.mpr ⟨route, member, Page.kind_eq_shop.mpr shop⟩

theorem StackShape.shopStack {kinds : List PageKind} (shape : StackShape kinds)
    (within : .shop ∈ kinds) : ShopStack kinds := by
  rcases shape with stack | rfl | rfl
  · exact stack
  · simp at within
  · simp at within

theorem StackShape.shifted (shape : StackShape s.kinds) (shifted : Shifted s event after) :
    StackShape (after.map fun route => route.page.kind) := by
  cases shifted with
  | revised pages => rw [revisions_kinds pages]; exact shape
  | @closed top rest _ stack pages =>
    have split : s.kinds = top.page.kind :: rest.map fun route => route.page.kind := by
      simp [App.kinds, stack]
    rw [revisions_kinds pages]
    rcases shape with shops | splash | signup
    · rw [split] at shops
      exact .inl shops.tail
    · rw [split, List.cons_eq_cons] at splash
      rw [splash.2]
      exact .inl .empty
    · rw [split, List.cons_eq_cons] at signup
      rw [signup.2]
      exact .inl .login
  -- the login page under the signup page has nothing below it
  | @signup top rest state stack login =>
    have split : s.kinds = .login :: rest.map fun route => route.page.kind := by
      simp [App.kinds, stack, login, Page.kind]
    refine .inr (.inr ?_)
    rw [List.map_cons, ← App.kinds, split]
    rcases shape with shops | splash | signup
    · rw [split] at shops
      rw [shops.eq_login]
      rfl
    · simp [split] at splash
    · simp [split] at signup
  | opened page _ shop within =>
    obtain ⟨route, member, other⟩ := within
    have stack := shape.shopStack (s.shop_mem_kinds member other)
    rw [List.map_cons, Page.kind_eq_shop.mpr shop]
    exact .inl stack.shop
  | @entered top rest stack splash =>
    have split : s.kinds = .splash :: rest.map fun route => route.page.kind := by
      simp [App.kinds, stack, splash, Page.kind]
    rw [split] at shape
    rcases shape with shops | splash | signup
    · cases shops
    · rw [List.cons_eq_cons] at splash
      rw [List.map_cons, splash.2]
      exact .inl .login
    · simp at signup
  | @loggedIn rest call _ _ _ _ _ _ pages =>
    rw [List.map_cons, revisions_kinds pages, List.map_tail, ← App.kinds]
    rcases shape with shops | splash | signup
    · exact .inl shops.tail.shop
    · rw [splash]
      exact .inl (.shop .empty)
    · rw [signup]
      exact .inl (.shop .login)
  | cleared page _ auth =>
    cases kind : page.isAuth with
    | true => rw [auth kind]; exact .inl .login
    | false =>
      rw [List.map_singleton, Page.kind_eq_shop.mpr kind]
      exact .inl (.shop .empty)

theorem login_kind {call : Call} {route : Route} (wf : WellFormed s) (member : call ∈ s.pending)
    (point : call.point = .signIn) (here : route ∈ s.stack) (id : route.id = call.page) :
    route.page.kind = .login := by
  have owned := wf.owned call member route here id
  rw [point] at owned
  obtain ⟨state, page⟩ := Await.signIn_owns owned
  rw [page]
  rfl

theorem Turn.setState_kinds (turn : Turn) (id : Nat) (change : LocalUpdate) :
    ((turn.setState id (Page.apply change)).stack.map fun route => route.page.kind) =
      turn.stack.map fun route => route.page.kind := by
  simp only [Turn.setState, List.map_map]
  apply List.map_congr_left
  intro route _
  by_cases here : route.id = id
  · simp [here, Page.apply_kind]
  · simp [here]

/-- A step with every sign-in on top keeps the login pages out from under the shop. -/
theorem App.LeadsBackToShop.step (wf : WellFormed s) (shape : StackShape s.kinds)
    (leads : s.LeadsBackToShop) (guard : LogsInOnTop s e) (step : s.step e = some s') :
    s'.LeadsBackToShop := by
  have kinds := s.leadsBackToShop_iff.mp leads
  rw [App.leadsBackToShop_iff]
  have shifted := App.step_shifted wf step
  unfold App.kinds
  generalize s'.stack = after at shifted
  cases shifted with
  | revised pages => rw [revisions_kinds pages]; exact kinds
  | closed stack pages =>
    dsimp only at stack
    rw [App.kinds, stack, List.map_cons] at kinds
    rw [revisions_kinds pages]
    exact kinds.tail
  | signup stack login => exact List.pairwise_cons.mpr ⟨by simp [Page.kind], kinds⟩
  -- over a stack with a shop page in it, which has no others
  | opened page _ shop within =>
    obtain ⟨route, member, other⟩ := within
    have inside := App.shop_mem_kinds member other
    have all := (shape.shopStack inside).all_shop inside kinds
    exact List.pairwise_cons.mpr ⟨fun kind member _ => all kind member, kinds⟩
  | entered stack splash =>
    dsimp only at stack
    rw [App.kinds, stack, List.map_cons] at kinds
    exact List.pairwise_cons.mpr ⟨by simp [Page.kind], kinds.tail⟩
  -- the replaced page is the login page, which was alone
  | loggedIn call outcome answered member point ok mounted pages =>
    obtain ⟨route, here, id⟩ := exists_route_of_mounted mounted
    have top : s.stack.head? = some route :=
      guard call member point (Event.completes_iff.mpr ⟨outcome, answered, ok⟩) route here id
    obtain ⟨rest, stack⟩ := List.head?_eq_some_iff.mp top
    have login := login_kind wf member point here id
    have alone : rest.map (fun route => route.page.kind) = [] := by
      rw [App.kinds, stack, List.map_cons, login] at shape
      rcases shape with shops | splash | signup
      · exact shops.eq_login
      · simp at splash
      · simp at signup
    rw [List.map_cons, revisions_kinds pages, stack, List.tail_cons, alone]
    exact List.pairwise_singleton _ _
  | cleared page => exact List.pairwise_singleton _ _

/-- A sign-in that succeeds under another page leaves its login page under the home page. -/
theorem login_stays_below (wf : WellFormed s) (below : ¬ LogsInOnTop s e)
    (step : s.step e = some s') : ¬ s'.LeadsBackToShop := by
  obtain ⟨time, event⟩ := e
  simp only [LogsInOnTop, not_forall] at below
  obtain ⟨call, member, point, completes, route, here, id, covered⟩ := below
  obtain ⟨outcome, rfl, ok⟩ := Event.completes_iff.mp completes
  obtain ⟨other, turn, other_mem, same, _, resumed, rfl⟩ := App.step_answered step
  cases call_unique wf.callNames other_mem member same.symm
  have mounted : s.turn.mounted call.page = true := by
    simpa [Turn.mounted] using ⟨route, here, id⟩
  cases resumed with
  | nothing _ _ away => simp [away point] at mounted
  | update _ _ _ failed => simp [ok] at failed; exact absurd point failed
  | loggedIn =>
    intro leads
    -- the login page is among the routes that stay
    have kept : route ∈ s.stack.tail := by
      cases stack : s.stack with
      | nil => simp [stack] at here
      | cons top rest =>
        rw [stack, List.mem_cons] at here
        rcases here with rfl | old
        · exact absurd (by rw [stack]; rfl) covered
        · exact old
    rw [App.leadsBackToShop_iff] at leads
    rw [App.kinds, App.after_stack, Turn.setState_kinds] at leads
    have shop := List.rel_of_pairwise_cons leads
      (List.mem_map.mpr ⟨route, kept, login_kind wf member point here id⟩) rfl
    cases shop
  | created point' | signedUp point' | saved point' | ordered _ point' | orderedAway _ point'
  | loggedOut point' => simp [point] at point'

end Step

/-! ### The result -/

/-- The runs whose sign-ins all succeed on the topmost login page, or after it is gone, are the
runs that never have a splash, login or signup page below a shop page. -/
theorem leads_back_to_shop_iff (currentUser : Option Uid) (orders : List OrderDoc)
    (es : List Timed) (s : App) :
    app.Run LogsInOnTop (App.init currentUser orders) es s ↔
      app.Run (fun a _ => a.LeadsBackToShop) (App.init currentUser orders) es s ∧
        s.LeadsBackToShop := by
  refine Machine.Run.guarded_iff_always (I := fun a : App => WellFormed a ∧ StackShape a.kinds)
    ⟨.init currentUser orders, .inr (.inl rfl)⟩ (List.pairwise_singleton _ _) ?_ ?_
  · rintro a e b ⟨wf, shape⟩ step
    have ticked : StackShape ({ a with now := e.time } : App).kinds := shape
    exact ⟨wf.step step, ticked.shifted (App.step_shifted wf step)⟩
  · rintro a e b ⟨wf, shape⟩ leads step
    constructor
    · intro guard
      exact leads.step wf shape guard step
    · intro kept
      by_contra below
      exact login_stays_below wf below step kept

/-- A visit to the signup page and back before the sign-in succeeds. -/
theorem leads_back_to_shop_waiting : ∃ s, app.Run LogsInOnTop (App.init none [])
    (schedule [.splashTimeout, .tapLogin, .tapCreateAccount, .back,
      .answer 2 (.success (.user "A"))]) s ∧ s.LeadsBackToShop := by
  obtain ⟨s, run, _⟩ := Machine.exists_run_of_exec app LogsInOnTop (App.init none [])
    (schedule [.splashTimeout, .tapLogin, .tapCreateAccount, .back,
      .answer 2 (.success (.user "A"))])
    (fun s => s.stack == [{ id := 5, page := .home }]) (by decide +kernel)
  exact ⟨s, run, ((leads_back_to_shop_iff none [] _ s).mp run).2⟩

/-- The sign-in succeeds while the signup page is open: Back on the home page then leads to the
login page. -/
theorem signup_visit_leaves_login_page :
    ¬ ∀ (currentUser : Option Uid) (orders : List OrderDoc) (es : List Timed) (s : App),
      app.Run Machine.Free (App.init currentUser orders) es s → s.LeadsBackToShop := by
  intro all
  obtain ⟨s, run, below⟩ := Machine.exists_run_of_exec app Machine.Free (App.init none [])
    (schedule [.splashTimeout, .tapLogin, .tapCreateAccount, .answer 2 (.success (.user "A"))])
    (fun s => !decide s.LeadsBackToShop) (by decide +kernel)
  simp only [Bool.not_eq_true', decide_eq_false_iff_not] at below
  exact below (all none [] _ s run)

end CartX
