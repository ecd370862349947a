import CartX.Properties.HeartPages
import CartX.Properties.PageSessions

/-!
# The hearts of the app

`heart_agrees_of_settled` of the whole app: other pages, other users and the rest of the
app's calls may act in between. Two conditions join that of the single page. A product
page opened while a write to its document is in flight may read the document of before,
and a page that outlives its session writes the next user's document.

The converse carries a run of the single heart back: every reply it receives there,
Firestore can give here (`Shows.realised`).
-/

namespace CartX

/-- Opening a product page does not change the session. -/
theorem App.step_tapProduct_user {s s' : App} {e : Timed} {product : Product}
    (event : e.event = .tapProduct product) (step : s.step e = some s') :
    s'.currentUser = s.currentUser := by
  by_contra changed
  obtain ⟨call, _, outcome, _, answered, _⟩ := App.step_switched step changed
  rw [event] at answered
  cases answered

namespace Wishes

/-! ### Careful runs -/

/-- The page's load has ended and, if it succeeded, no write of the page took or may take effect. -/
def Settled (w : Wishes) (page : Nat) : Prop :=
  w.server.getsOf page = [] ∧
    (page ∈ w.loaded → ∀ put ∈ w.server.putsOf page, put.ended = some false)

instance (w : Wishes) (page : Nat) : Decidable (w.Settled page) :=
  inferInstanceAs (Decidable (_ ∧ (_ → ∀ put ∈ _, _)))

/-- The heart is tapped only when it is settled. -/
def TapsSettled (w : Wishes) (event : Event) : Prop :=
  event = .tapHeart → ∀ top ∈ w.app.stack.head?, w.Settled top.id

instance (w : Wishes) (event : Event) : Decidable (w.TapsSettled event) :=
  inferInstanceAs (Decidable (_ → ∀ top ∈ _, _))

/-- A product page is opened only when no write to its document is in flight. -/
def OpensQuiet (w : Wishes) : Event → Prop
  | .tapProduct product => ∀ put ∈ w.server.puts, put.ended = none →
      w.app.currentUser = some put.path.uid → put.path.id ≠ product.id
  | _ => True

instance (w : Wishes) (event : Event) : Decidable (w.OpensQuiet event) := by
  unfold OpensQuiet
  split <;> infer_instance

def Careful (w : Wishes) : WishesEvent → Prop
  | .app e => SwitchesOutside w.app e ∧ w.OpensQuiet e.event ∧ w.TapsSettled e.event
  | _ => True

instance (w : Wishes) : (e : WishesEvent) → Decidable (w.Careful e)
  | .app _ => inferInstanceAs (Decidable (_ ∧ _ ∧ _))
  | .reads _ => inferInstanceAs (Decidable True)
  | .takesEffect _ _ => inferInstanceAs (Decidable True)

/-- Only Firestore acts: it reads, applies and rejects, and its answers arrive. -/
def Replies (_ : Wishes) (event : WishesEvent) : Prop :=
  ∀ e, event = .app e → ∃ id outcome, e.event = .answer id outcome

/-- Every product page that has loaded and has no call pending shows whether the document of its
product in the current user's wishlist exists. -/
def Agrees (w : Wishes) : Prop :=
  ∀ route ∈ w.app.stack, ∀ state, route.page = .product state → route.id ∈ w.loaded →
    (∀ call ∈ w.app.pending, call.page ≠ route.id) →
    ∃ uid, w.app.currentUser = some uid ∧ state.isWishlisted = w.server.docs ⟨uid, state.product.id⟩

/-- Each product page opened by a user is a heart that was tapped when settled; a page opened by
nobody has no heart. -/
structure Hearts (w : Wishes) : Prop where
  sent : w.Sent
  shown : ∀ route ∈ w.app.stack, ∀ state, route.page = .product state →
    ∀ uid, w.app.currentUser = some uid → ∃ docExists es h,
      heart.Run Heart.TapsSettled (Heart.init docExists) es h ∧
        w.Shows route.id ⟨uid, state.product.id⟩ h
  nobody : ∀ route ∈ w.app.stack, ∀ state, route.page = .product state →
    w.app.currentUser = none → route.id ∉ w.loaded ∧ w.server.getsOf route.id = []

section Runs

variable {w w' : Wishes} {page : Nat} {path : WishPath} {h : Heart} {e : WishesEvent}

theorem Shows.load_none_iff (shows : w.Shows page path h) :
    w.server.getsOf page = [] ↔ h.load = none := by
  obtain ⟨call, load⟩ := shows.load
  rw [load]
  cases h.load <;> simp

theorem Shows.settled_iff (shows : w.Shows page path h) : w.Settled page ↔ h.Settled := by
  have rejected : ∀ put : WishPut, put.ended = some false ↔ (WishPut.write put).status = .rejected := by
    intro put
    rcases ended : put.ended with _ | _ | _ <;> simp [WishPut.write, ended]
  simp only [Settled, Heart.Settled, shows.load_none_iff, shows.loaded, decide_eq_true_eq, shows.writes,
    List.forall_mem_map, rejected]

/-- A product page after an event was opened by it, or was there in the same session. -/
theorem Sent.carried (sent : w.Sent) (careful : w.Careful e) (step : w.step e = some w')
    {route' : Route} {state' : ProductState} (member : route' ∈ w'.app.stack)
    (shown : route'.page = .product state') :
    (∃ e₀ product navIndex, e = .app e₀ ∧ e₀.event = .tapProduct product ∧ route'.id = e₀.time ∧
      state' = { product, navIndex }) ∨
    ∃ route ∈ w.app.stack, ∃ state, route.id = route'.id ∧ route.page = .product state ∧
      state'.product = state.product ∧ w'.app.currentUser = w.app.currentUser := by
  cases e with
  | reads call =>
    obtain ⟨server, _, rfl⟩ := Option.map_eq_some_iff.mp step
    exact .inr ⟨route', member, state', rfl, shown, rfl, rfl⟩
  | takesEffect path ok =>
    obtain ⟨server, _, rfl⟩ := Option.map_eq_some_iff.mp step
    exact .inr ⟨route', member, state', rfl, shown, rfl, rfl⟩
  | app e₀ =>
    obtain ⟨app, moved, change⟩ := app_cases sent.laid.wf step
    have same : w'.app = app := by cases change <;> rfl
    rw [same] at member ⊢
    rcases App.step_product sent.laid.wf moved member shown with
      ⟨new, product, navIndex, event, rfl⟩ | ⟨route, old, state, id, before, product, _⟩
    · exact .inl ⟨e₀, product, navIndex, rfl, event, new, rfl⟩
    · have past : route'.id ≠ e₀.time := by
        rw [← id]
        exact (Nat.lt_of_le_of_lt (sent.laid.wf.routeAge route old) (App.step_cases moved).1).ne
      have own : OwnPages (w.app, fun _ => w.app.currentUser) := fun _ _ _ => rfl
      have owner := (switchesOutside_iff sent.laid own moved).mp careful.1 route' member
        (by rw [shown]; rfl)
      dsimp only at owner
      rw [noteOpeners_old past] at owner
      exact .inr ⟨route, old, state, id, before, product, owner.symm⟩

/-- A page without a get stays without one. -/
theorem Sent.unasked (sent : w.Sent) (step : w.step e = some w') (past : page ≤ w.app.now)
    (unloaded : page ∉ w.loaded) (none : w.server.getsOf page = []) :
    page ∉ w'.loaded ∧ w'.server.getsOf page = [] := by
  have owners : ∀ get ∈ w.server.gets, get.owner ≠ page := by
    simpa [Documents.Server.getsOf] using none
  cases e with
  | reads call =>
    obtain ⟨server, read, rfl⟩ := Option.map_eq_some_iff.mp step
    refine ⟨unloaded, ?_⟩
    rw [Documents.Server.getsOf_reads read, none]
    rfl
  | takesEffect path ok =>
    obtain ⟨server, decided, rfl⟩ := Option.map_eq_some_iff.mp step
    obtain ⟨_, _, rfl⟩ := Option.map_eq_some_iff.mp decided
    exact ⟨unloaded, none⟩
  | app e₀ =>
    obtain ⟨app, moved, change⟩ := app_cases sent.laid.wf step
    cases change with
    | opened =>
      have new : e₀.time ≠ page := (Nat.lt_of_le_of_lt past (App.step_cases moved).1).ne'
      refine ⟨unloaded, ?_⟩
      simpa [Documents.Server.getsOf, Documents.Server.get, new] using owners
    | toggled | other => exact ⟨unloaded, none⟩
    | answered call outcome event =>
      constructor
      · rw [event]
        cases outcome with
        | success response =>
          intro listed
          rcases List.mem_append.mp listed with new | old
          · obtain ⟨get, ended, owned⟩ := List.mem_map.mp new
            exact owners get (List.mem_of_mem_filter ended) owned
          · exact unloaded old
        | _ => exact unloaded
      · rw [Documents.Server.getsOf_forget fun get listed owned => absurd owned (owners get listed)]
        exact none

/-- A page opened by a user is a fresh heart. -/
theorem Sent.opened_shows {e₀ : Timed} {product : Product} {uid : Uid} (sent : w.Sent)
    (event : e₀.event = .tapProduct product) (quiet : w.OpensQuiet e₀.event)
    (step : w.step (.app e₀) = some w') (user : w'.app.currentUser = some uid) :
    ∃ docExists, w'.Shows e₀.time ⟨uid, product.id⟩ (Heart.init docExists) := by
  obtain ⟨app, moved, change⟩ := app_cases sent.laid.wf step
  have session := App.step_tapProduct_user event moved
  cases change with
  | opened product' navIndex uid' event' user' stack =>
    rw [event] at event'
    cases event'
    rw [session, user'] at user
    cases user
    have decided : ∀ put ∈ w.server.puts, put.path = ⟨uid, product.id⟩ → put.ended ≠ none := by
      intro put listed here undecided
      rw [event] at quiet
      exact quiet put listed undecided (by rw [here]; exact user') (by rw [here])
    exact ⟨_, shows_opened sent moved stack decided⟩
  | toggled _ _ _ _ event' | answered _ _ event' =>
    rw [event] at event'
    cases event'
  | other _ nobody =>
    rw [session, nobody (by rw [event]; rfl)] at user
    cases user

/-- A page opened by nobody sends no get. -/
theorem Sent.opened_unasked {e₀ : Timed} {product : Product} (sent : w.Sent)
    (event : e₀.event = .tapProduct product) (step : w.step (.app e₀) = some w')
    (nobody : w'.app.currentUser = none) :
    e₀.time ∉ w'.loaded ∧ w'.server.getsOf e₀.time = [] := by
  obtain ⟨app, moved, change⟩ := app_cases sent.laid.wf step
  obtain ⟨unloaded, unasked, _⟩ := sent.fresh (App.step_cases moved).1
  have session := App.step_tapProduct_user event moved
  cases change with
  | opened _ _ uid _ user =>
    rw [session, user] at nobody
    cases nobody
  | toggled _ _ _ _ event' | answered _ _ event' =>
    rw [event] at event'
    cases event'
  | other => exact ⟨unloaded, unasked⟩

/-- A careful event steps the heart of a page that it leaves open, and taps it only when settled. -/
theorem Shows.step_careful (sent : w.Sent) (shows : w.Shows page path h)
    (user : w.app.currentUser = some path.uid) (careful : w.Careful e) (step : w.step e = some w')
    (still : w'.app.turn.mounted page = true) :
    ∃ fs h', heart.Run Heart.TapsSettled h fs h' ∧ w'.Shows page path h' := by
  refine shows.step (K := Heart.TapsSettled) (fun h f no_tap tap => absurd tap no_tap) sent step
    still ?_
  rintro time uid rfl user'
  rw [user] at user'
  cases user'
  obtain ⟨top, rest, _, shape, here, _⟩ := shows.on_top sent
  refine ⟨rfl, fun _ => shows.settled_iff.mp ?_⟩
  rw [← here]
  exact careful.2.2 rfl top (by rw [shape]; rfl)

theorem Hearts.step (hearts : w.Hearts) (careful : w.Careful e) (step : w.step e = some w') :
    w'.Hearts := by
  refine ⟨hearts.sent.step step, ?_, ?_⟩
  · intro route' member state' shown uid user
    rcases hearts.sent.carried careful step member shown with
      ⟨e₀, product, navIndex, rfl, event, new, rfl⟩ | ⟨route, old, state, id, before, product, session⟩
    · obtain ⟨docExists, shows⟩ := hearts.sent.opened_shows event careful.2.1 step user
      rw [new]
      exact ⟨docExists, [], _, .nil, shows⟩
    · rw [session] at user
      obtain ⟨docExists, es, h, run, shows⟩ := hearts.shown route old state before uid user
      have still : w'.app.turn.mounted route.id = true := by
        simpa [Turn.mounted] using ⟨route', member, id.symm⟩
      obtain ⟨fs, h', more, shows'⟩ := shows.step_careful hearts.sent user careful step still
      rw [id, ← product] at shows'
      exact ⟨docExists, _, h', run.append more, shows'⟩
  · intro route' member state' shown nobody
    rcases hearts.sent.carried careful step member shown with
      ⟨e₀, product, navIndex, rfl, event, new, rfl⟩ | ⟨route, old, state, id, before, product, session⟩
    · rw [new]
      exact hearts.sent.opened_unasked event step nobody
    · rw [session] at nobody
      obtain ⟨unloaded, none⟩ := hearts.nobody route old state before nobody
      rw [← id]
      exact hearts.sent.unasked step (hearts.sent.laid.wf.routeAge route old) unloaded none

/-- No call of the page is pending exactly if none of its heart is. -/
theorem Shows.idle_iff (sent : w.Sent) (shows : w.Shows page path h) :
    (∀ call ∈ w.app.pending, call.page ≠ page) ↔ h.load = none ∧ h.writes = [] := by
  rw [← shows.load_none_iff, shows.writes, List.map_eq_nil_iff]
  constructor
  · intro idle
    refine ⟨List.filter_eq_nil_iff.mpr fun get listed => ?_,
      List.filter_eq_nil_iff.mpr fun put listed => ?_⟩
    · have pending := sent.get_pending listed
      simpa [WishGet.toCall] using idle _ pending
    · have pending := sent.put_pending listed
      simpa [WishPut.toCall] using idle _ pending
  · rintro ⟨unasked, unwritten⟩ call member rfl
    obtain ⟨route, old, state, id, shown, _⟩ := shows.flag
    have owned := sent.laid.wf.owned call member route old id
    rw [shown] at owned
    cases point : call.point with
    | getWish =>
      obtain ⟨get, listed, rfl⟩ := (sent.get_iff point).mp member
      have mine : get ∈ w.server.getsOf get.owner := List.mem_filter.mpr ⟨listed, by simp⟩
      exact absurd (unasked ▸ mine) List.not_mem_nil
    | writeWish =>
      obtain ⟨put, listed, rfl⟩ := (sent.put_iff point).mp member
      have mine : put ∈ w.server.putsOf put.owner := List.mem_filter.mpr ⟨listed, by simp⟩
      exact absurd (unwritten ▸ mine) List.not_mem_nil
    | _ =>
      rw [point] at owned
      cases owned

theorem Hearts.agrees (hearts : w.Hearts) : w.Agrees := by
  intro route member state shown loaded idle
  cases user : w.app.currentUser with
  | none => exact absurd loaded (hearts.nobody route member state shown user).1
  | some uid =>
    obtain ⟨docExists, es, h, run, shows⟩ := hearts.shown route member state shown uid user
    obtain ⟨ended, done⟩ := (shows.idle_iff hearts.sent).mp idle
    obtain ⟨other, other_mem, state', id, shown', _, flag⟩ := shows.flag
    obtain rfl := route_unique hearts.sent.laid.wf.routeNames member other_mem id
    rw [shown] at shown'
    cases shown'
    have agrees := (Heart.sound_of_run run).agrees ended done shows.mounted
      (by rw [shows.loaded]; exact decide_eq_true loaded)
    exact ⟨uid, rfl, by rw [flag, agrees, shows.doc]⟩

/-- Where the page and its document agree, so does the heart. -/
theorem Shows.agrees (sent : w.Sent) (shows : w.Shows page path h)
    (user : w.app.currentUser = some path.uid) (agrees : w.Agrees) : h.Agrees := by
  intro ended done _ loaded
  obtain ⟨route, member, state, rfl, shown, product, flag⟩ := shows.flag
  rw [shows.loaded, decide_eq_true_eq] at loaded
  obtain ⟨uid, user', same⟩ := agrees route member state shown loaded
    ((shows.idle_iff sent).mpr ⟨ended, done⟩)
  rw [user] at user'
  cases user'
  rw [← flag, same, shows.doc, product]

/-! ### Every heart is one of the app -/

theorem step_app {e : Timed} {app : App} (answers : w.Answers e.event)
    (moved : w.app.step e = some app) :
    w.step (.app e) = some { app, server := w.served e, loaded := w.loads e.event } := by
  rw [Wishes.step, if_pos answers, moved]
  rfl

/-- A pending call to a document can end as the server has it. -/
theorem Sent.exists_answer {call : Call} {outcome : Outcome} (sent : w.Sent)
    (member : call ∈ w.app.pending) (wish : call.point.isWish = true)
    (ends : call.canEnd outcome = true) (answers : w.Answers (.answer call.id outcome)) :
    ∃ app, w.app.step ⟨w.app.now + 1, .answer call.id outcome⟩ = some app ∧
      w.step (.app ⟨w.app.now + 1, .answer call.id outcome⟩) = some
        { app, server := w.server.forget call.id, loaded := w.loads (.answer call.id outcome) } ∧
      app.currentUser = w.app.currentUser := by
  have moved := App.step_answer sent.laid.wf member ends
  refine ⟨_, moved, ?_, ?_⟩
  · exact step_app answers moved
  · obtain ⟨id, page, point⟩ := call
    cases point <;> first | (cases outcome <;> rfl) | cases wish

/-- The page's get can end with each outcome it can have. -/
theorem Shows.exists_load_end {read : Option Bool} (outcome : Outcome) (sent : w.Sent)
    (shows : w.Shows page path h) (loading : h.load = some read)
    (fits : ∀ call, WishGet.endsWith ⟨call, page, path, read⟩ outcome = true)
    (expected : ∀ response, outcome = .success response → Await.getWish.expects response = true) :
    ∃ e w' h', Replies w e ∧ w.step e = some w' ∧ w'.app.currentUser = w.app.currentUser ∧
      h.step (if outcome.succeeded then .loadSucceeds else .loadFails) = some h' ∧
      w'.Shows page path h' := by
  obtain ⟨call, load⟩ := shows.load
  rw [loading] at load
  have known : ⟨call, page, path, read⟩ ∈ w.server.gets :=
    List.mem_of_mem_filter (load ▸ List.mem_singleton_self _ : _ ∈ w.server.getsOf page)
  have member : ⟨call, page, .getWish⟩ ∈ w.app.pending := sent.get_pending known
  have ends : Call.canEnd ⟨call, page, .getWish⟩ outcome = true := by
    cases outcome with
    | success response => exact expected response rfl
    | _ => rfl
  obtain ⟨app, moved, step, same⟩ :=
    sent.exists_answer member rfl ends (sent.answers_get known (fits call))
  obtain ⟨h', ended, shows'⟩ := shows.load_ends sent load (fits call) moved
  exact ⟨_, _, h', by rintro _ ⟨⟩; exact ⟨_, _, rfl⟩, step, same, ended, shows'⟩

/-- A write of the page whose fate is decided can end so. -/
theorem Shows.exists_write_end {index : Nat} {put : WishPut} (outcome : Outcome) (sent : w.Sent)
    (shows : w.Shows page path h) (found : (w.server.putsOf page)[index]? = some put)
    (fits : WishPut.endsWith put outcome = true)
    (ends : Call.canEnd (WishPut.toCall put) outcome = true) :
    ∃ e w' h', Replies w e ∧ w.step e = some w' ∧ w'.app.currentUser = w.app.currentUser ∧
      h.step (.writeEnds index) = some h' ∧ w'.Shows page path h' := by
  have known := List.mem_of_mem_filter (List.mem_of_getElem? found)
  have member : WishPut.toCall put ∈ w.app.pending := sent.put_pending known
  obtain ⟨app, moved, step, same⟩ :=
    sent.exists_answer member rfl ends (sent.answers_put known fits)
  obtain ⟨h', ended, shows'⟩ := shows.write_ends sent found fits ends moved
  exact ⟨_, _, h', by rintro _ ⟨⟩; exact ⟨_, _, rfl⟩, step, same, ended, shows'⟩

/-- The server can read the document for a get of the page that is unread. -/
theorem Shows.exists_read (shows : w.Shows page path h) (unread : h.load = some none) :
    ∃ e w' h', Replies w e ∧ w.step e = some w' ∧ w'.app.currentUser = w.app.currentUser ∧
      h.step .read = some h' ∧ w'.Shows page path h' := by
  obtain ⟨call, load⟩ := shows.load
  rw [unread] at load
  have known : ⟨call, page, path, none⟩ ∈ w.server.gets :=
    List.mem_of_mem_filter (load ▸ List.mem_singleton_self _ : _ ∈ w.server.getsOf page)
  obtain ⟨server, read⟩ := Documents.Server.exists_reads known rfl
  have moved : w.step (.reads call) = some { w with server } := congrArg (Option.map _) read
  obtain ⟨also, shows'⟩ := shows.reads load moved
  exact ⟨_, _, _, by simp [Replies], moved, rfl, also, shows'⟩

/-- The server can decide the first undecided write to the page's document either way. -/
theorem Shows.exists_takesEffect {write : WishWrite} (ok : Bool) (shows : w.Shows page path h)
    (listed : write ∈ h.writes) (issued : write.status = .issued) :
    ∃ e w' h', Replies w e ∧ w.step e = some w' ∧ w'.app.currentUser = w.app.currentUser ∧
      h.step (.takesEffect ok) = some h' ∧ w'.Shows page path h' := by
  rw [shows.writes] at listed
  obtain ⟨put, mine, rfl⟩ := List.mem_map.mp listed
  obtain ⟨known, owned⟩ := List.mem_filter.mp mine
  have here := shows.own put known (by simpa using owned)
  obtain ⟨server, decided⟩ :=
    Documents.Server.exists_takesEffect known here ((WishPut.write_issued put).mp issued) ok
  have moved : w.step (.takesEffect path ok) = some { w with server } :=
    congrArg (Option.map _) decided
  obtain ⟨g, also, shows'⟩ := shows.takesEffect moved
  exact ⟨_, _, g, by simp [Replies], moved, rfl, also, shows'⟩

theorem Shows.realised {f : HeartEvent} {h' : Heart} (sent : w.Sent) (shows : w.Shows page path h)
    (user : w.app.currentUser = some path.uid) (no_tap : f ≠ .tap) (step : h.step f = some h')
    (still : h'.mounted = true) :
    ∃ e w', Replies w e ∧ w.step e = some w' ∧ w'.app.currentUser = some path.uid ∧
      w'.Shows page path h' := by
  -- the heart's step is the only one the event can be
  have reached (found : ∃ e w' g, Replies w e ∧ w.step e = some w' ∧
      w'.app.currentUser = w.app.currentUser ∧ h.step f = some g ∧ w'.Shows page path g) :
      ∃ e w', Replies w e ∧ w.step e = some w' ∧ w'.app.currentUser = some path.uid ∧
        w'.Shows page path h' := by
    obtain ⟨e, w', g, reply, moved, same, also, shows'⟩ := found
    rw [also] at step
    cases step
    exact ⟨e, w', reply, moved, same.trans user, shows'⟩
  apply reached
  cases f with
  | tap => exact absurd rfl no_tap
  | read =>
    simp only [Heart.step] at step
    split at step
    next unread => exact shows.exists_read unread
    · cases step
  | loadSucceeds =>
    simp only [Heart.step] at step
    split at step
    next value loading =>
      exact shows.exists_load_end (.success (.wish value)) sent loading
        (fun _ => by simp [WishGet.endsWith]) (by rintro _ ⟨⟩; rfl)
    · cases step
  | loadFails =>
    simp only [Heart.step] at step
    split at step
    next read loading =>
      exact shows.exists_load_end .exception sent loading (fun _ => rfl) (by simp)
    · cases step
  | takesEffect ok =>
    have issued {status : WriteStatus} {call : WishCall} {writes : List WishWrite}
        (found : Heart.resolveFirst status h.writes = some (call, writes)) :
        ∃ write ∈ h.writes, write.status = .issued := by
      obtain ⟨front, back, shape, _⟩ := Heart.resolveFirst_eq_some found
      exact ⟨⟨call, .issued⟩, by rw [shape]; simp, rfl⟩
    have inFlight : ∃ write ∈ h.writes, write.status = .issued := by
      cases ok <;> simp only [Heart.step] at step <;> split at step
      next found => exact issued found
      next => cases step
      next found => exact issued found
      next => cases step
    obtain ⟨write, listed, status⟩ := inFlight
    exact shows.exists_takesEffect ok listed status
  | writeEnds index =>
    have ended {call : WishCall} {status : WriteStatus}
        (found : h.writes[index]? = some ⟨call, status⟩) :
        ∃ put, (w.server.putsOf page)[index]? = some put ∧ WishPut.write put = ⟨call, status⟩ := by
      rw [shows.writes, List.getElem?_map] at found
      exact Option.map_eq_some_iff.mp found
    simp only [Heart.step] at step
    split at step
    next found =>
      obtain ⟨put, listed, write⟩ := ended found
      have applied : put.ended = some true := by
        rcases decided : put.ended with _ | _ | _ <;> simp [WishPut.write, decided] at write ⊢
      exact shows.exists_write_end (.success .done) sent listed
        (by simp [WishPut.endsWith, applied, Outcome.succeeded]) rfl
    next found =>
      obtain ⟨put, listed, write⟩ := ended found
      have rejected : put.ended = some false := by
        rcases decided : put.ended with _ | _ | _ <;> simp [WishPut.write, decided] at write ⊢
      exact shows.exists_write_end .exception sent listed
        (by simp [WishPut.endsWith, rejected, Outcome.succeeded]) rfl
    · cases step
  | leave =>
    simp only [Heart.step] at step
    split at step <;> cases step
    cases still

theorem perform_mounted (h : Heart) (effects : List Effect) :
    (h.perform effects).mounted = h.mounted := by
  fun_induction h.perform effects with
  | case1 => rfl
  | case2 _ _ _ ih | case3 _ _ ih | case4 _ _ _ _ _ ih => exact ih

/-- A page that was left stays left. -/
theorem mounted_of_step {f : HeartEvent} {h' : Heart} (step : h.step f = some h')
    (still : h'.mounted = true) : h.mounted = true := by
  cases f with
  | tap => exact (Heart.step_tap step).1
  | takesEffect ok =>
    cases ok <;> simp only [Heart.step] at step <;> split at step <;> cases step <;> exact still
  | leave =>
    simp only [Heart.step] at step
    split at step <;> cases step
    cases still
  | _ =>
    simp only [Heart.step] at step
    split at step <;> cases step <;> first | exact still | (rw [perform_mounted] at still; exact still)

/-- A heart that shows a page of the current user, as long as its page is open. -/
def Realises (page : Nat) (path : WishPath) (h : Heart) (w : Wishes) : Prop :=
  h.mounted = true → w.Sent ∧ w.app.currentUser = some path.uid ∧ w.Shows page path h

theorem heart_realised :
    heart.Simulates wishes Heart.NoTap Replies (Realises page path) := by
  intro h f h' w realises no_tap step
  by_cases still : h'.mounted = true
  · obtain ⟨sent, user, shows⟩ := realises (mounted_of_step step still)
    obtain ⟨e, w', reply, moved, user', shows'⟩ := shows.realised sent user no_tap step still
    exact ⟨[e], w', .single reply moved, fun _ => ⟨sent.step moved, user', shows'⟩⟩
  · exact ⟨[], w, .nil, fun mounted => absurd mounted still⟩

theorem Hearts.init (currentUser : Option Uid) (orders : List OrderDoc) (docs : WishPath → Bool) :
    (Wishes.init currentUser orders docs).Hearts := by
  have no_product : ∀ route ∈ (Wishes.init currentUser orders docs).app.stack,
      ∀ state, route.page ≠ .product state := by
    intro route member state
    obtain rfl := List.mem_singleton.mp member
    cases currentUser <;> simp
  exact ⟨.init currentUser orders docs,
    fun route member state shown => absurd shown (no_product route member state),
    fun route member state shown => absurd shown (no_product route member state)⟩

/-- After an unsettled tap the page's heart can come to disagree, and the app answers step for step. -/
theorem Hearts.disagrees_of_tap_unsettled {time : Nat} (hearts : w.Hearts)
    (step : w.step (.app ⟨time, .tapHeart⟩) = some w') (unsettled : ¬ w.TapsSettled .tapHeart) :
    ∃ fs w'', wishes.Run Replies w' fs w'' ∧ ¬ w''.Agrees := by
  obtain ⟨top, head, open_page⟩ : ∃ top, w.app.stack.head? = some top ∧ ¬ w.Settled top.id := by
    simpa [TapsSettled] using unsettled
  have member := List.mem_of_head? head
  obtain ⟨app, moved, change⟩ := app_cases hearts.sent.laid.wf step
  obtain ⟨_, top', rest, turn, shape, tapped, rfl⟩ := App.step_tapped rfl moved
  have same_user : w'.app.currentUser = w.app.currentUser := by cases change <;> rfl
  rw [shape] at head
  cases head
  obtain ⟨state, shown⟩ : ∃ state, top.page = .product state := by
    cases page : top.page <;> simp [Turn.tap, page] at tapped ⊢
  cases user : w.app.currentUser with
  | none =>
    -- nobody's heart has nothing pending and has not loaded
    obtain ⟨unloaded, unasked⟩ := hearts.nobody top member state shown user
    exact absurd ⟨unasked, fun loaded => absurd loaded unloaded⟩ open_page
  | some uid =>
    obtain ⟨docExists, es, h, run, shows⟩ := hearts.shown top member state shown uid user
    obtain ⟨beat, shows'⟩ := shows.tapped hearts.sent user step
    obtain ⟨fs, m, beats, disagree⟩ := (Heart.sound_of_run run).disagrees_of_tap_unsettled beat
      (fun settled => open_page (shows.settled_iff.mpr settled))
    have sent := hearts.sent.step step
    obtain ⟨gs, w'', replies, realises⟩ := Machine.Run.simulated heart_realised
      (fun _ => ⟨sent, same_user.trans user, shows'⟩) beats
    refine ⟨gs, w'', replies, fun agrees => disagree fun ended done mounted => ?_⟩
    obtain ⟨sent', user', shows''⟩ := realises mounted
    exact shows''.agrees sent' user' agrees ended done mounted

end Runs

end Wishes

end CartX
