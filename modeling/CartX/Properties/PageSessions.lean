import CartX.Machine.Observer
import CartX.Properties.Navigation
import CartX.Properties.OrderHistory

/-!
# The session a page was opened in

A page of the shop reads the signed-in user when it is opened and again at each
tap: the stream of `MyOrdersPage` is that of the user who opened it, Confirm Order
files under the user of the tap. The two are the same as long as the session does
not change under an open page. A sign-in or an account creation that ends late, on
a page that is gone, changes it; so does a sign-out whose `ProfilePage` is gone.
The runs without such answers are exactly the runs in which every page of the shop
belongs to the session.
-/

namespace CartX

/-- Who was signed in when each route was opened. -/
abbrev Openers := Nat → Option Uid

/-- The routes an event opens are named by its time. -/
def noteOpeners (_ : App) (e : Timed) (t : App) (openers : Openers) : Openers :=
  fun id => if id = e.time then t.currentUser else openers id

/-- Every page of the shop on the stack was opened in the session that is current. -/
def OwnPages (p : App × Openers) : Prop :=
  ∀ route ∈ p.1.stack, route.page.isAuth = false → p.2 route.id = p.1.currentUser

/-- No page of the shop is on the stack. -/
def App.Closed (s : App) : Prop := ∀ route ∈ s.stack, route.page.isAuth = true

instance (s : App) : Decidable s.Closed := inferInstanceAs (Decidable (∀ route ∈ _, _))

/-- The session changes only while no page of the shop is open, or by a sign-out whose page is
there to clear the stack. -/
def SwitchesOutside (s : App) (e : Timed) : Prop :=
  ∀ call ∈ s.pending, e.event.completes call = true →
    (call.point = .signIn ∨ call.point = .createUser → s.currentUser = e.event.uid ∨ s.Closed) ∧
    (call.point = .signOut → s.currentUser = none ∨ s.turn.mounted call.page = true ∨ s.Closed)

instance (s : App) (e : Timed) : Decidable (SwitchesOutside s e) :=
  inferInstanceAs (Decidable (∀ call ∈ _, _))

section Step

variable {s s' : App} {e : Timed} {openers : Openers}

/-- A page of the shop that stays on the stack was one before. -/
theorem Revision.isAuth {event : Event} {route route' : Route} (revision : Revision s event route route') :
    route'.page.isAuth = route.page.isAuth := by
  have kind := revision.page.kind
  cases shop : route.page.isAuth with
  | false => rw [← Page.kind_eq_shop, kind, Page.kind_eq_shop, shop]
  | true =>
    by_contra other
    rw [Bool.not_eq_true, ← Page.kind_eq_shop, kind, Page.kind_eq_shop, shop] at other
    cases other

theorem noteOpeners_old {id : Nat} (older : id ≠ e.time) : noteOpeners s e s' openers id = openers id :=
  if_neg older

theorem noteOpeners_new (s s' : App) (e : Timed) (openers : Openers) :
    noteOpeners s e s' openers e.time = s'.currentUser := if_pos rfl

/-- While the session stays, so do the owners. -/
theorem OwnPages.stays (wf : WellFormed s) (own : OwnPages (s, openers))
    (step : s.step e = some s') (same : s'.currentUser = s.currentUser) :
    OwnPages (s', noteOpeners s e s' openers) := by
  obtain ⟨later, _⟩ := App.step_cases step
  obtain ⟨_, aged⟩ := wf.tick later
  intro route' member shop
  dsimp only
  rcases (App.step_shifted wf step).routes member with ⟨new, _⟩ | ⟨route, old, revision⟩
  · rw [new]
    exact noteOpeners_new s s' e openers
  · rw [revision.id, noteOpeners_old (Nat.ne_of_lt (aged.routes route old)), same]
    exact own route old (revision.isAuth.symm.trans shop)

/-- Where the session changes, the owners agree with it exactly if no older page is left. -/
theorem ownPages_iff_of_switched (wf : WellFormed s) (own : OwnPages (s, openers))
    (step : s.step e = some s') (changed : s'.currentUser ≠ s.currentUser) :
    OwnPages (s', noteOpeners s e s' openers) ↔
      ∀ route ∈ s'.stack, route.page.isAuth = false → route.id = e.time := by
  obtain ⟨later, _⟩ := App.step_cases step
  obtain ⟨_, aged⟩ := wf.tick later
  constructor
  · intro own' route' member shop
    rcases (App.step_shifted wf step).routes member with ⟨new, _⟩ | ⟨route, old, revision⟩
    · exact new
    · have before := own route old (revision.isAuth.symm.trans shop)
      have after := own' route' member shop
      dsimp only at after before
      rw [revision.id, noteOpeners_old (Nat.ne_of_lt (aged.routes route old)), before] at after
      exact absurd after.symm changed
  · intro new route' member shop
    dsimp only
    rw [new route' member shop]
    exact noteOpeners_new s s' e openers

theorem App.commit_switched (s : App) {point : Await} {outcome : Outcome} (id : Nat)
    (changed : (s.commit point outcome).currentUser ≠ s.currentUser) :
    outcome.succeeded = true ∧
      ((point = .signIn ∨ point = .createUser) ∧
          (s.commit point outcome).currentUser = (Event.answer id outcome).uid ∨
        point = .signOut ∧ (s.commit point outcome).currentUser = none) := by
  cases outcome with
  | success response =>
    cases point <;> cases response <;> first
      | exact absurd rfl changed
      | simp [App.commit, Event.uid, Outcome.succeeded]
  | _ => cases point <;> exact absurd rfl changed

/-- What changes the session, and what it leaves on the stack. -/
theorem App.step_switched (step : s.step e = some s')
    (changed : s'.currentUser ≠ s.currentUser) :
    ∃ call ∈ s.pending, ∃ outcome turn, e.event = .answer call.id outcome ∧
      outcome.succeeded = true ∧ Resumed s.turn e.time call outcome turn ∧ s'.stack = turn.stack ∧
      ((call.point = .signIn ∨ call.point = .createUser) ∧ s'.currentUser = e.event.uid ∨
        call.point = .signOut ∧ s'.currentUser = none) := by
  obtain ⟨_, moved⟩ := App.step_cases step
  obtain ⟨time, event⟩ := e
  cases moved with
  | frame | back | tap => exact absurd rfl changed
  | answer call outcome turn member _ ends resumed =>
    refine ⟨call, member, outcome, turn, rfl, ?_⟩
    rw [App.after_currentUser] at changed ⊢
    obtain ⟨ok, session⟩ := App.commit_switched _ call.id changed
    exact ⟨ok, resumed, rfl, session⟩

/-- The name of a route and whether its page comes before the shop. -/
def Route.mark (route : Route) : Nat × Bool := (route.id, route.page.isAuth)

theorem Turn.setState_marks (turn : Turn) (id : Nat) (change : LocalUpdate) :
    (turn.setState id (Page.apply change)).stack.map Route.mark = turn.stack.map Route.mark := by
  simp only [Turn.setState, List.map_map]
  apply List.map_congr_left
  intro route _
  by_cases here : route.id = id
  · simp [Route.mark, here, (Page.apply_similar change route.page).auth]
  · simp [here]

/-- The pages of the shop after an answer that changes the session. -/
theorem new_pages_iff {call : Call} {outcome : Outcome} {turn : Turn} (laid : Laid s)
    (later : s.now < e.time) (member : call ∈ s.pending) (ok : outcome.succeeded = true)
    (resumed : Resumed s.turn e.time call outcome turn)
    (point : call.point = .signIn ∨ call.point = .createUser ∨ call.point = .signOut) :
    (∀ route ∈ turn.stack, route.page.isAuth = false → route.id = e.time) ↔
      s.Closed ∨ call.point = .signOut ∧ s.turn.mounted call.page = true := by
  have older (route : Route) (here : route ∈ s.stack) : route.id ≠ e.time :=
    Nat.ne_of_lt (Nat.lt_of_le_of_lt (laid.wf.routeAge route here) later)
  -- with the same pages on the stack, the pages of the shop are older than the answer
  have unchanged (stack : List Route) (same : stack.map Route.mark = s.stack.map Route.mark) :
      (∀ route ∈ stack, route.page.isAuth = false → route.id = e.time) ↔ s.Closed := by
    have marks : (∀ route ∈ stack, route.page.isAuth = false → route.id = e.time) ↔
        ∀ mark ∈ stack.map Route.mark, mark.2 = false → mark.1 = e.time := by
      simp [Route.mark]
    rw [marks, same]
    constructor
    · intro new route here
      by_contra shop
      exact older route here (new _ (List.mem_map_of_mem here) (by simpa [Route.mark] using shop))
    · intro closed mark listed shop
      obtain ⟨route, here, rfl⟩ := List.mem_map.mp listed
      exact absurd (closed route here) (by simpa [Route.mark] using shop)
  cases resumed with
  | nothing _ stranded =>
    rw [App.turn_stack, unchanged _ rfl]
    constructor
    · exact .inl
    · rintro (closed | ⟨out, mounted⟩)
      · exact closed
      · simp [stranded out ok] at mounted
  | created created =>
    rw [App.turn_stack, unchanged _ rfl]
    simp [created]
  -- the login page and at most the signup page were there, so the home page is the only one
  | loggedIn signIn _ mounted =>
    have closed : s.Closed := by
      intro route here
      have kinds := laid.signingIn call member signIn mounted
      have listed : route.page.kind ∈ s.kinds := List.mem_map.mpr ⟨route, here, rfl⟩
      by_contra shop
      rw [Bool.not_eq_true, ← Page.kind_eq_shop] at shop
      rw [shop] at listed
      rcases kinds with kinds | kinds <;> simp [kinds] at listed
    refine ⟨fun _ => .inl closed, fun _ route here shop => ?_⟩
    have away : call.page ≠ e.time :=
      Nat.ne_of_lt (Nat.lt_of_le_of_lt (laid.wf.callAge call member).2 later)
    rw [Turn.pushReplacement_setState away] at here
    rcases List.mem_cons.mp here with rfl | below
    · rfl
    · obtain ⟨old, old_mem, mark⟩ := List.mem_map.mp
        (Turn.setState_marks _ _ _ ▸ List.mem_map_of_mem (f := Route.mark) below)
      have auth := closed old (List.mem_of_mem_tail old_mem)
      have same : old.page.isAuth = route.page.isAuth := congrArg Prod.snd mark
      simp [← same, auth] at shop
  | loggedOut out _ mounted =>
    simp [Turn.pushAndRemoveUntil, out, mounted]
  | update change _ noSignOut =>
    rw [unchanged _ (s.turn.setState_marks call.page change)]
    simp [noSignOut]
  | signedUp other | saved other | ordered _ other | orderedAway _ other => simp [other] at point

/-- The session after a sign-in, an account creation or a sign-out has succeeded. -/
theorem App.step_session {call : Call} {outcome : Outcome} {time : Nat} (wf : WellFormed s)
    (member : call ∈ s.pending) (ok : outcome.succeeded = true)
    (step : s.step ⟨time, .answer call.id outcome⟩ = some s') :
    (call.point = .signIn ∨ call.point = .createUser →
      s'.currentUser = (Event.answer call.id outcome).uid) ∧
    (call.point = .signOut → s'.currentUser = none) := by
  obtain ⟨other, turn, other_mem, same, ends, _, rfl⟩ := App.step_answered step
  cases call_unique wf.callNames member other_mem same
  rw [App.after_currentUser]
  cases outcome with
  | success response =>
    constructor
    · rintro (point | point) <;> cases response <;>
        simp_all [Call.canEnd, Await.expects, App.commit, Event.uid]
    · intro point
      simp [point, App.commit]
  | _ => cases ok

/-- A step keeps the pages in the session exactly if the session changes outside the shop. -/
theorem switchesOutside_iff (laid : Laid s) (own : OwnPages (s, openers))
    (step : s.step e = some s') :
    SwitchesOutside s e ↔ OwnPages (s', noteOpeners s e s' openers) := by
  obtain ⟨time, event⟩ := e
  by_cases same : s'.currentUser = s.currentUser
  · refine ⟨fun _ => own.stays laid.wf step same, fun _ call member completed => ?_⟩
    obtain ⟨outcome, answered, ok⟩ := Event.completes_iff.mp completed
    dsimp only at answered
    subst answered
    obtain ⟨signedIn, signedOut⟩ := App.step_session laid.wf member ok step
    exact ⟨fun point => .inl (same.symm.trans (signedIn point)),
      fun point => .inl (same.symm.trans (signedOut point))⟩
  · rw [ownPages_iff_of_switched laid.wf own step same]
    obtain ⟨call, member, outcome, turn, answered, ok, resumed, stack, session⟩ :=
      App.step_switched step same
    have later := (App.step_cases step).1
    have points : call.point = .signIn ∨ call.point = .createUser ∨ call.point = .signOut := by
      rcases session with ⟨signIn | created, _⟩ | ⟨out, _⟩
      · exact .inl signIn
      · exact .inr (.inl created)
      · exact .inr (.inr out)
    rw [stack, new_pages_iff laid later member ok resumed points]
    dsimp only at answered
    subst answered
    constructor
    · intro outside
      obtain ⟨entering, leaving⟩ := outside call member (Event.completes_iff.mpr ⟨outcome, rfl, ok⟩)
      rcases session with ⟨point, user⟩ | ⟨out, nobody⟩
      · exact .inl ((entering point).resolve_left fun old => same (user.trans old.symm))
      · rcases leaving out with old | mounted | closed
        · exact absurd (nobody.trans old.symm) same
        · exact .inr ⟨out, mounted⟩
        · exact .inl closed
    · intro allowed other other_mem completed
      obtain ⟨outcome', answered, _⟩ := Event.completes_iff.mp completed
      simp only [Event.answer.injEq] at answered
      cases call_unique laid.wf.callNames member other_mem answered.1.symm
      rcases allowed with closed | ⟨out, mounted⟩
      · exact ⟨fun _ => .inr closed, fun _ => .inr (.inr closed)⟩
      · exact ⟨by simp [out], fun _ => .inr (.inl mounted)⟩

end Step

/-! ### The result -/

end CartX
