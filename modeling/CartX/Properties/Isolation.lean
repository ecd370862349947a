import CartX.Properties.Identities
import CartX.Properties.OrderBook

/-!
# Two sessions in one process

`globalCart` belongs to the process and outlives the session: logging out
neither empties it nor waits for pending orders, whose success empties it later.
The next user therefore finds the last one's cart, or loses the own one to the
last one's order. `isolated_iff` says that these are the only two ways in which
one session reaches into the next.
-/

namespace CartX

/-- Calls of other users than `b`: orders of theirs, and what their pages load and store. Calls
about the session itself are everybody's. -/
def Call.isForeign (b : Uid) (call : Call) : Bool :=
  match call.point with
  | .signIn | .createUser | .setUser | .signOut => false
  | .addOrder doc => doc.buyerId != b
  | .getUser | .updateUser | .getWish | .writeWish => true

/-- The calls that are not left over, at `s`, from other users than `b`. -/
def App.knows (b : Uid) (s : App) (id : Nat) : Bool :=
  decide (s.now < id) || s.pending.any fun call => call.id == id && !call.isForeign b

/-- The events that two runs from states like `s` have in common: all but the answers to calls
left over from other users. -/
def App.shares (b : Uid) (s : App) (e : Timed) : Bool :=
  match e.event with
  | .answer id _ => s.knows b id
  | _ => true

/-- The total a cart page shows, if it shows one. -/
def Page.shownTotal : Page → Option ℚ
  | .cart view => if view.itemCount = 0 then none else some view.total
  | _ => none

/-- What `b` can tell two states apart by. -/
structure SameView (b : Uid) (s s' : App) : Prop where
  cart : s.globalCart.map (fun item => (item.product, item.quantity)) =
    s'.globalCart.map fun item => (item.product, item.quantity)
  total : s.stack.filterMap (fun route => route.page.shownTotal) =
    s'.stack.filterMap fun route => route.page.shownTotal
  orders : (s.orders.filter fun doc => doc.buyerId == b).map (fun doc => (doc.amount, doc.itemSummary)) =
    (s'.orders.filter fun doc => doc.buyerId == b).map fun doc => (doc.amount, doc.itemSummary)

/-! ### The part of a state that matters to a user -/

/-- The state without the clock, the identities of cart objects, the unknown calls and the orders
of others. -/
def App.view (known : Nat → Bool) (b : Uid) (s : App) : App where
  now := 0
  currentUser := s.currentUser
  stack := s.stack.map Route.blank
  globalCart := s.globalCart.blank
  pending := s.pending.filter fun call => known call.id
  orders := s.orders.filter fun doc => doc.buyerId == b

section View

variable {known : Nat → Bool} {b : Uid} {s s' t t' : App} {e : Timed}

theorem Page.shownTotal_blank (page : Page) : page.blank.shownTotal = page.shownTotal := by
  cases page <;> rfl

theorem sameView_of_view (same : s.view known b = s'.view known b) : SameView b s s' := by
  simp only [App.view, App.mk.injEq, true_and] at same
  obtain ⟨_, stack, cart, _, orders⟩ := same
  refine ⟨?_, ?_, by rw [orders]⟩
  · have := congrArg (List.map fun item => (item.product, item.quantity)) cart
    simpa [Cart.blank, Function.comp_def, CartItem.blank] using this
  · have := congrArg (List.filterMap fun route : Route => route.page.shownTotal) stack
    simpa [List.filterMap_map, Function.comp_def, Route.blank, Page.shownTotal_blank] using this

theorem view_after {turn turn' : Turn} (base : s.view known b = s'.view known b)
    (same : turn.blank = turn'.blank) :
    (s.after turn).view known b = (s'.after turn').view known b := by
  simp only [App.view, App.mk.injEq, true_and] at base
  simp only [Turn.blank, Turn.mk.injEq] at same
  simp [App.view, App.after, List.filter_append, base, same]

theorem view_view : (s.view known b).view known b = s.view known b := by
  simp [App.view, Function.comp_def]

theorem view_commit (point : Await) (outcome : Outcome) :
    ((s.view known b).commit point outcome).view known b =
      (s.commit point outcome).view known b := by
  cases outcome with
  | success response =>
    cases point <;> cases response <;>
      simp [App.commit, App.view, Function.comp_def, List.filter_append]
  | _ => cases point <;> exact view_view

theorem view_segment (time : Nat) (call : Call) (outcome : Outcome) :
    ((s.view known b).segment time call outcome).blank = (s.segment time call outcome).blank := by
  have same := s.turn.blank_effects time call.page
    (resume call.point (s.turn.mounted call.page) outcome).1
  have turn : (s.view known b).turn = s.turn.blank := rfl
  unfold App.segment
  simp only [turn, Turn.mounted_blank]
  split
  · simp only [Turn.blank, Turn.mk.injEq] at same ⊢
    simp [same]
  · exact same.symm

theorem view_commit_congr (base : s.view known b = s'.view known b) (point : Await)
    (outcome : Outcome) :
    (s.commit point outcome).view known b = (s'.commit point outcome).view known b := by
  rw [← view_commit, base, view_commit]

theorem view_segment_congr (base : s.view known b = s'.view known b) (time : Nat) (call : Call)
    (outcome : Outcome) : (s.segment time call outcome).blank = (s'.segment time call outcome).blank := by
  rw [← @view_segment known b s, base, view_segment]

/-- The events of the topmost page. -/
def Event.isTap : Event → Bool
  | .frame | .back | .answer _ _ => false
  | _ => true

theorem App.step_tap {event : Event} {time : Nat} {top : Route} {rest : List Route}
    (tap : event.isTap = true) (later : s.now < time) (shape : s.stack = top :: rest) :
    s.step ⟨time, event⟩ = (s.turn.tap time s.currentUser event top).map
      ({ s with now := time } : App).after := by
  obtain ⟨now, currentUser, stack, globalCart, pending, orders⟩ := s
  dsimp only at shape later
  subst shape
  cases event <;> first | (simp only [App.step, later, if_true]; rfl) | cases tap

theorem find?_known {pending : List Call} {id : Nat} (shared : known id = true) :
    (pending.filter fun call => known call.id).find? (fun call => call.id == id) =
      pending.find? fun call => call.id == id := by
  rw [List.find?_filter]
  congr 1
  funext call
  by_cases here : call.id = id <;> simp [here, shared]

/-- What a shared event does to the part that matters depends on that part only. -/
theorem view_step (step : s.step e = some t)
    (shared : ∀ id outcome, e.event = .answer id outcome → known id = true) :
    ∃ u, (s.view known b).step e = some u ∧ u.view known b = t.view known b := by
  obtain ⟨time, event⟩ := e
  have later : s.now < time := (App.step_cases step).1
  have enabled : (s.view known b).now < time := Nat.zero_lt_of_lt later
  have ticked : ({ s.view known b with now := time } : App).view known b =
      ({ s with now := time } : App).view known b := by
    show (s.view known b).view known b = s.view known b
    exact view_view
  -- taps go through `blank_tap`; frames, Back and answers are their own cases
  by_cases tap : event.isTap = true
  · cases shape : s.stack with
    | nil => cases event <;> simp [App.step, shape, later, Event.isTap] at step tap
    | cons top rest =>
      have shape' : (s.view known b).stack = top.blank :: rest.map Route.blank := by
        simp [App.view, shape]
      rw [App.step_tap tap later shape] at step
      obtain ⟨turn, tapped, rfl⟩ := Option.map_eq_some_iff.mp step
      have same := s.turn.blank_tap time s.currentUser event top
      rw [tapped] at same
      obtain ⟨turn', tapped', blank⟩ := Option.map_eq_some_iff.mp same.symm
      refine ⟨({ s.view known b with now := time } : App).after turn', ?_, view_after ticked blank⟩
      rw [App.step_tap tap enabled shape']
      exact Option.map_eq_some_iff.mpr ⟨turn', tapped', rfl⟩
  · unfold App.step at step ⊢
    rw [if_pos later] at step
    rw [if_pos enabled]
    cases event with
    | frame =>
      cases step
      exact ⟨_, rfl, view_after ticked (Turn.blank_rebuildDirty s.turn).symm⟩
    | back =>
      rcases shape : s.stack with _ | ⟨top, _ | ⟨below, rest⟩⟩
      · simp [shape] at step
      · simp [shape] at step
      · simp only [shape, Option.some.injEq] at step
        subst step
        have shape' : (s.view known b).stack =
            top.blank :: below.blank :: rest.map Route.blank := by simp [App.view, shape]
        simp only [shape']
        refine ⟨_, rfl, view_after ?_ ?_⟩
        · simp [App.view, Function.comp_def]
        · simp [Turn.blank, App.turn, App.view, Function.comp_def]
    -- a shared answer ends a known call, which both states have
    | answer id outcome =>
      have known_id := shared id outcome rfl
      simp only [App.answer] at step ⊢
      rw [show (s.view known b).pending = s.pending.filter fun call => known call.id from rfl,
        find?_known known_id]
      split at step
      · cases step
      next call found =>
        split at step
        next ends =>
          cases step
          simp only [ends, if_true]
          have base : ({ s.view known b with
              now := time
              pending := (s.pending.filter fun call => known call.id).filter fun other =>
                other.id != id } : App).view known b =
              ({ s with
                now := time
                pending := s.pending.filter fun other => other.id != id } : App).view known b := by
            simp [App.view, Function.comp_def, Bool.and_comm]
          exact ⟨_, rfl, view_after (view_commit_congr base _ _) (view_segment_congr base _ _ _)⟩
        · cases step
    | _ => exact absurd rfl tap

/-! ### Answers to unknown calls -/

/-- The handlers whose ends change nothing but their own page. -/
def Await.isLocal : Await → Bool
  | .getUser | .updateUser | .getWish | .writeWish => true
  | _ => false

/-- The unknown calls belong to pages that are gone, and none is an order. -/
def Quiet (known : Nat → Bool) (s : App) : Prop :=
  ∀ call ∈ s.pending, known call.id = false →
    call.point.isLocal = true ∧ s.turn.mounted call.page = false

theorem commit_of_local {point : Await} (here : point.isLocal = true) (outcome : Outcome) :
    s.commit point outcome = s := by
  cases outcome <;> cases point <;> first | rfl | cases here

theorem Resumed.of_local {turn turn' : Turn} {time : Nat} {call : Call} {outcome : Outcome}
    (here : call.point.isLocal = true) (away : turn.mounted call.page = false)
    (resumed : Resumed turn time call outcome turn') : turn' = turn := by
  cases resumed with
  | nothing => rfl
  | update change => exact Turn.setState_of_unmounted away _
  | saved _ _ mounted => simp [away] at mounted
  | loggedIn point | created point | signedUp point | ordered _ point | orderedAway _ point
  | loggedOut point => simp [point, Await.isLocal] at here

/-- The answer to an unknown call changes nothing that matters. -/
theorem Quiet.view_answer {time id : Nat} {outcome : Outcome} (quiet : Quiet known s)
    (unknown : known id = false) (step : s.step ⟨time, .answer id outcome⟩ = some t) :
    t.view known b = s.view known b := by
  obtain ⟨call, turn, member, rfl, _, resumed, rfl⟩ := App.step_answered step
  obtain ⟨here, away⟩ := quiet call member unknown
  rw [commit_of_local here, resumed.of_local here away]
  -- the answered call was not among the known ones
  have rest : (s.pending.filter fun other => other.id != call.id).filter (fun call => known call.id) =
      s.pending.filter fun call => known call.id := by
    rw [List.filter_filter]
    refine List.filter_congr fun other _ => ?_
    by_cases same : other.id = call.id <;> simp [same, unknown]
  simp only [App.view, App.after, App.settle, App.turn, List.nil_append, rest]

theorem Quiet.step (quiet : Quiet known s) (wf : WellFormed s)
    (recent : ∀ id, s.now < id → known id = true) (step : s.step e = some t) : Quiet known t := by
  have later := (App.step_cases step).1
  intro call member unknown
  -- an old unknown call stays away from every page; a new call is known
  rcases App.step_pending step member with old | new
  · obtain ⟨here, away⟩ := quiet call old unknown
    refine ⟨here, ?_⟩
    by_contra mounted
    rw [Bool.not_eq_false] at mounted
    obtain ⟨route, route_mem, at_page⟩ := exists_route_of_mounted mounted
    obtain ⟨new, restacked, _⟩ := App.step_restacked wf step
    rcases restacked.routes route_mem with ⟨_, _, rfl⟩ | ⟨before, before_mem, id, _⟩
    · have := (wf.callAge call old).2
      dsimp only at at_page
      omega
    · have still : s.turn.mounted call.page = true := by
        simpa [Turn.mounted] using ⟨before, before_mem, id.trans at_page⟩
      simp [away] at still
  · rw [new, recent e.time later] at unknown
    cases unknown

/-- Two states that differ in nothing that matters, now or later. -/
structure Alike (known : Nat → Bool) (b : Uid) (s s' : App) : Prop where
  view : s.view known b = s'.view known b
  wf : WellFormed s
  wf' : WellFormed s'
  quiet : Quiet known s
  quiet' : Quiet known s'
  recent : ∀ id, s.now < id → known id = true
  recent' : ∀ id, s'.now < id → known id = true

theorem recent_step (recent : ∀ id, s.now < id → known id = true) (step : s.step e = some t) :
    ∀ id, t.now < id → known id = true := by
  have later := (App.step_cases step).1
  have now := App.step_now step
  exact fun id after => recent id (by omega)

theorem Alike.symm (alike : Alike known b s s') : Alike known b s' s :=
  ⟨alike.view.symm, alike.wf', alike.wf, alike.quiet', alike.quiet, alike.recent', alike.recent⟩

theorem Alike.apart {time id : Nat} {outcome : Outcome} (alike : Alike known b s s')
    (unknown : known id = false) (step : s.step ⟨time, .answer id outcome⟩ = some t) :
    Alike known b t s' :=
  { alike with
    view := (alike.quiet.view_answer unknown step).trans alike.view
    wf := alike.wf.step step
    quiet := alike.quiet.step alike.wf alike.recent step
    recent := recent_step alike.recent step }

theorem Alike.together (alike : Alike known b s s') (step : s.step e = some t)
    (step' : s'.step e = some t')
    (shared : ∀ id outcome, e.event = .answer id outcome → known id = true) :
    Alike known b t t' := by
  -- both steps follow the step of the common view
  obtain ⟨u, moved, same⟩ := view_step (b := b) step shared
  obtain ⟨u', moved', same'⟩ := view_step (b := b) step' shared
  rw [alike.view, moved'] at moved
  cases moved
  exact ⟨same.symm.trans same', alike.wf.step step, alike.wf'.step step',
    alike.quiet.step alike.wf alike.recent step, alike.quiet'.step alike.wf' alike.recent' step',
    recent_step alike.recent step, recent_step alike.recent' step'⟩

end View

/-- Two runs from like states that share all events but answers to unknown calls stay alike. -/
theorem Alike.runs {b : Uid} {s₀ s s' t t' : App} {es es' : List Timed}
    (alike : Alike (s₀.knows b) b s s') (left : app.Run Machine.Free s es t)
    (right : app.Run Machine.Free s' es' t')
    (same : es.filter (s₀.shares b) = es'.filter (s₀.shares b)) : Alike (s₀.knows b) b t t' := by
  -- the events not shared are answers to unknown calls
  have unknown {e : Timed} (apart : s₀.shares b e = false) :
      ∃ time id outcome, e = ⟨time, .answer id outcome⟩ ∧ s₀.knows b id = false := by
    obtain ⟨time, event⟩ := e
    cases event with
    | answer id outcome => exact ⟨time, id, outcome, rfl, apart⟩
    | _ => cases apart
  -- private answers change nothing that matters, shared events do the same on both sides
  refine Machine.Run.lockstep left right same alike ?_ ?_ ?_
  · intro a a' e t alike apart step
    obtain ⟨time, id, outcome, rfl, unknown⟩ := unknown apart
    exact alike.apart unknown step
  · intro a a' e t alike apart step
    obtain ⟨time, id, outcome, rfl, unknown⟩ := unknown apart
    exact (alike.symm.apart unknown step).symm
  · intro a a' e t t' alike shared step step'
    refine alike.together step step' fun id outcome answered => ?_
    obtain ⟨time, event⟩ := e
    dsimp only at answered
    subst answered
    exact shared

/-! ### After a completed logout -/

/-- The state right after a `_logout` that ran to its end: the sign-out succeeded and the login
page was opened. -/
def LoggedOut (s : App) : Prop :=
  ∃ currentUser orders es before call,
    app.Run Machine.Free (App.init currentUser orders) es before ∧ call ∈ before.pending ∧
    call.point = .signOut ∧ before.turn.mounted call.page = true ∧
    app.step before ⟨s.now, .answer call.id (.success .done)⟩ = some s

/-- Apart from the cart and the calls left over from other users, the two states are the same
to `b`. -/
structure Agree (b : Uid) (s s' : App) : Prop where
  now : s.now = s'.now
  calls : s.pending.filter (fun call => !call.isForeign b) =
    s'.pending.filter fun call => !call.isForeign b
  orders : s.orders.filter (fun doc => doc.buyerId == b) =
    s'.orders.filter fun doc => doc.buyerId == b

/-- Nobody but `b` is signed in. -/
def OnlyUser (b : Uid) (s : App) (_ : Timed) : Prop :=
  s.currentUser = none ∨ s.currentUser = some b

instance (b : Uid) (s : App) (e : Timed) : Decidable (OnlyUser b s e) :=
  inferInstanceAs (Decidable (_ ∨ _))

/-- In the sessions of `b` that follow, with the same taps and the same answers to all calls but
those left over from other users, `b` sees the same. -/
def Isolated (b : Uid) (s s' : App) : Prop :=
  ∀ es es' t t', app.Run (OnlyUser b) s es t → app.Run (OnlyUser b) s' es' t' →
    es.filter (s.shares b) = es'.filter (s.shares b) → t.currentUser = some b → SameView b t t'

/-- No order of another user is pending. -/
def App.NoForeignOrder (b : Uid) (s : App) : Prop :=
  ∀ call ∈ s.pending, call.point.isOrder = true → call.isForeign b = false

instance (b : Uid) (s : App) : Decidable (s.NoForeignOrder b) :=
  inferInstanceAs (Decidable (∀ call ∈ _, _))

section LoggedOut

variable {b : Uid} {s s' : App}

theorem LoggedOut.facts (out : LoggedOut s) : WellFormed s ∧ s.currentUser = none ∧
    s.stack = [{ id := s.now, page := .login {} }] ∧ ∀ call ∈ s.pending, call.page < s.now := by
  obtain ⟨currentUser, orders, es, before, call, run, member, point, mounted, step⟩ := out
  have wf := wellFormed_of_run run
  refine ⟨wf.step step, ?_⟩
  obtain ⟨_, aged⟩ := wf.tick (App.step_cases step).1
  generalize s.now = time at step aged ⊢
  obtain ⟨other, turn, other_mem, same, _, resumed, rfl⟩ := App.step_answered step
  cases call_unique wf.callNames member other_mem same
  cases resumed with
  | loggedOut =>
    refine ⟨by rw [point]; rfl, rfl, fun other pending => (aged.calls other ?_).2⟩
    rw [App.after_pending, App.commit_pending] at pending
    exact List.mem_of_mem_filter (show other ∈ before.pending.filter _ from pending)
  | nothing _ stranded =>
    exact absurd ((stranded point rfl).symm.trans mounted) (by simp)
  | update _ _ noSignOut => exact absurd point noSignOut
  | loggedIn other | created other | signedUp other | saved other | ordered _ other
  | orderedAway _ other => simp [point] at other

/-- Of the calls pending at `s`, the known ones are those that are not foreign. -/
theorem knows_of_pending (wf : WellFormed s) {call : Call} (member : call ∈ s.pending) :
    s.knows b call.id = !call.isForeign b := by
  have old : ¬ s.now < call.id := Nat.not_lt.mpr (wf.callAge call member).1
  rw [App.knows, decide_eq_false old, Bool.false_or]
  -- names are unique, so the lookup finds this very call
  cases foreign : call.isForeign b with
  | false => exact List.any_eq_true.mpr ⟨call, member, by simp [foreign]⟩
  | true =>
    refine List.any_eq_false.mpr fun other other_mem both => ?_
    obtain ⟨same, own⟩ := Bool.and_eq_true_iff.mp both
    rw [call_unique wf.callNames member other_mem (by simpa using same)] at own
    simp [foreign] at own

theorem Agree.knows (agree : Agree b s s') : s.knows b = s'.knows b := by
  funext id
  have any (pending : List Call) : (pending.any fun call => call.id == id && !call.isForeign b) =
      (pending.filter fun call => !call.isForeign b).any fun call => call.id == id := by
    simp [List.any_filter, Bool.and_comm]
  rw [App.knows, App.knows, any, any, agree.calls, agree.now]

theorem filter_knows (wf : WellFormed s) :
    s.pending.filter (fun call => s.knows b call.id) = s.pending.filter fun call => !call.isForeign b :=
  List.filter_congr fun _ member => knows_of_pending wf member

theorem quiet_of_loggedOut (out : LoggedOut s) (none_left : s.NoForeignOrder b) :
    Quiet (s.knows b) s := by
  obtain ⟨wf, _, stack, older⟩ := out.facts
  intro call member unknown
  rw [knows_of_pending wf member, Bool.not_eq_false'] at unknown
  constructor
  · have noOrder : call.point.isOrder = false := by
      by_contra order
      simp [none_left call member (by simpa using order)] at unknown
    revert unknown noOrder
    cases point : call.point <;> simp [Call.isForeign, point, Await.isLocal, Await.isOrder]
  · have := older call member
    simpa [Turn.mounted, stack] using Nat.ne_of_gt this

theorem alike_of_loggedOut (out : LoggedOut s) (out' : LoggedOut s') (agree : Agree b s s')
    (none_left : s.NoForeignOrder b) (none_left' : s'.NoForeignOrder b)
    (same : s.globalCart.map (fun item => (item.product, item.quantity)) =
      s'.globalCart.map fun item => (item.product, item.quantity)) :
    Alike (s.knows b) b s s' := by
  obtain ⟨wf, user, stack, _⟩ := out.facts
  obtain ⟨wf', user', stack', _⟩ := out'.facts
  have cart : s.globalCart.blank = s'.globalCart.blank := by
    have := congrArg (List.map fun entry : Product × Int => (⟨0, entry.1, entry.2⟩ : CartItem)) same
    rw [List.map_map, List.map_map] at this
    exact this
  have calls : s.pending.filter (fun call => s.knows b call.id) =
      s'.pending.filter fun call => s.knows b call.id := by
    rw [filter_knows wf, agree.knows, filter_knows wf', agree.calls]
  have recent {r : App} (id : Nat) (later : r.now < id) : r.knows b id = true := by
    simp [App.knows, later]
  refine ⟨?_, wf, wf', quiet_of_loggedOut out none_left, ?_, recent, ?_⟩
  · simp only [App.view, user, user', stack, stack', agree.now, cart, calls, agree.orders]
  · rw [agree.knows]
    exact quiet_of_loggedOut out' none_left'
  · rw [agree.knows]
    exact recent

/-! ### What the next user runs into -/

theorem Cart.addToCart_ne_nil (cart : Cart) (ref : Nat) (product : Product) (quantity : Int) :
    cart.addToCart ref product quantity ≠ [] := by
  rcases cart.addToCart_cases ref product quantity with ⟨_, _, _, _, _, _, added⟩ | ⟨_, added⟩ <;>
    simp [added]

/-- `b` signs in. -/
def signsIn (b : Uid) (now : Nat) : List Timed :=
  [⟨now + 1, .tapLogin⟩, ⟨now + 2, .answer (now + 1) (.success (.user b))⟩]

/-- `b` puts a tomato into the cart. -/
def addsTomato (now : Nat) : List Timed :=
  [⟨now + 1, .tapProduct tomato⟩, ⟨now + 2, .tapAddToCart⟩]

theorem exists_signsIn (b : Uid) (out : LoggedOut s) :
    ∃ t, app.Run (OnlyUser b) s (signsIn b s.now) t ∧ t.globalCart = s.globalCart ∧
      t.currentUser = some b ∧ t.now = s.now + 2 ∧ t.pending = s.pending ∧
      t.stack = [{ id := s.now + 2, page := .home }] := by
  obtain ⟨wf, user, stack, _⟩ := out.facts
  have fresh : ∀ call ∈ s.pending, call.id ≠ s.now + 1 := fun call member => by
    have := (wf.callAge call member).1
    omega
  obtain ⟨now, currentUser, stack', globalCart, pending, orders⟩ := s
  dsimp only at user stack fresh ⊢
  subst user stack
  have rest : pending.filter (fun other => other.id != now + 1) = pending :=
    List.filter_eq_self.mpr fun call member => by simpa using fresh call member
  have tapped : app.step ⟨now, none, [{ id := now, page := .login {} }], globalCart, pending, orders⟩
      ⟨now + 1, .tapLogin⟩ = some ⟨now + 1, none,
        [{ id := now, page := .login { isLoading := true }, dirty := true }], globalCart,
        ⟨now + 1, now, .signIn⟩ :: pending, orders⟩ := by
    simp [app, App.step, App.turn, App.after, Turn.tap, Turn.begin, Handler.start, Turn.setState,
      Page.apply]
  have answered : app.step ⟨now + 1, none,
        [{ id := now, page := .login { isLoading := true }, dirty := true }], globalCart,
        ⟨now + 1, now, .signIn⟩ :: pending, orders⟩
      ⟨now + 2, .answer (now + 1) (.success (.user b))⟩ = some ⟨now + 2, some b,
        [{ id := now + 2, page := .home }], globalCart, pending, orders⟩ := by
    simp [app, App.step, App.turn, App.after, App.answer, App.segment, App.commit, resume,
      whenMounted, loginFinally, Call.canEnd, Await.expects, Turn.mounted, Turn.applyEffect,
      Turn.perform, Turn.pushReplacement, Turn.setState, Page.ofDestination, rest]
  exact ⟨_, .cons (.inl rfl) tapped (.single (.inl rfl) answered), rfl, rfl, rfl,
    rfl, rfl⟩

theorem exists_addsTomato {id : Nat} (user : s.currentUser = some b)
    (stack : s.stack = [{ id, page := .home }]) :
    ∃ t, app.Run (OnlyUser b) s (addsTomato s.now) t ∧ t.globalCart ≠ [] ∧
      t.currentUser = some b ∧ ∀ call ∈ s.pending, call ∈ t.pending := by
  have listed : tomato ∈ popularProducts := List.mem_filterMap.mpr ⟨0, by simp, rfl⟩
  obtain ⟨now, currentUser, stack', globalCart, pending, orders⟩ := s
  dsimp only at user stack ⊢
  subst user stack
  have opened : app.step ⟨now, some b, [{ id, page := .home }], globalCart, pending, orders⟩
      ⟨now + 1, .tapProduct tomato⟩ = some ⟨now + 1, some b,
        [{ id := now + 1, page := .product { product := tomato, navIndex := 0 } },
          { id, page := .home }], globalCart, ⟨now + 1, now + 1, .getWish⟩ :: pending, orders⟩ := by
    simp [app, App.step, App.turn, App.after, Turn.tap, Turn.push, Turn.begin, Handler.start,
      Page.shownProducts, listed]
  have added : app.step ⟨now + 1, some b,
        [{ id := now + 1, page := .product { product := tomato, navIndex := 0 } },
          { id, page := .home }], globalCart, ⟨now + 1, now + 1, .getWish⟩ :: pending, orders⟩
      ⟨now + 2, .tapAddToCart⟩ = some ⟨now + 2, some b,
        [{ id := now + 1, page := .product { product := tomato, navIndex := 0 } },
          { id, page := .home }], globalCart.addToCart (now + 2) tomato 1,
        ⟨now + 1, now + 1, .getWish⟩ :: pending, orders⟩ := by
    simp [app, App.step, App.turn, App.after, Turn.tap]
  exact ⟨_, .cons (.inr rfl) opened (.single (.inr rfl) added),
    Cart.addToCart_ne_nil _ _ _ _, rfl, fun call member => List.mem_cons_of_mem _ member⟩

/-- `b` signs in and puts a tomato into the cart. -/
theorem exists_filled (b : Uid) (out : LoggedOut s) :
    ∃ t, app.Run (OnlyUser b) s (signsIn b s.now ++ addsTomato (s.now + 2)) t ∧
      t.globalCart ≠ [] ∧ t.currentUser = some b ∧ ∀ call ∈ s.pending, call ∈ t.pending := by
  obtain ⟨t, signed, _, user, now, pending, stack⟩ := exists_signsIn b out
  obtain ⟨u, added, full, user', kept⟩ := exists_addsTomato user stack
  rw [now] at added
  exact ⟨u, signed.append added, full, user', pending ▸ kept⟩

/-- An order pending from before succeeds, and the tomato is gone. -/
theorem exists_emptied (b : Uid) (out : LoggedOut s) {call : Call} (member : call ∈ s.pending)
    (order : call.point.isOrder = true) :
    ∃ time t, app.Run (OnlyUser b) s (signsIn b s.now ++ addsTomato (s.now + 2) ++
        [⟨time, .answer call.id (.success .done)⟩]) t ∧
      t.globalCart = [] ∧ t.currentUser = some b := by
  obtain ⟨t, run, _, user, kept⟩ := exists_filled b out
  have wf : WellFormed t := run.invariant out.facts.1 fun _ _ _ wf _ step => wf.step step
  obtain ⟨doc, point⟩ := call.point.eq_addOrder order
  have ends : call.canEnd (.success .done) = true := by simp [Call.canEnd, point, Await.expects]
  have step := App.step_answer wf (kept call member) ends
  refine ⟨t.now + 1, _, run.snoc (.inr user) step, ?_, ?_⟩
  · have cart := (segment_cases (({ t with now := t.now + 1 } : App).settle call.id)
      (({ t with now := t.now + 1 } : App).settle call.id).now call (.success .done)).cart
    simpa [order, Outcome.succeeded] using cart
  · rw [point]
    exact user

end LoggedOut

/-! ### The result -/

/-- After completed logouts, `b` is isolated from what was done before them exactly when both
runs leave the same entries in the cart and no order of another user pending. -/
theorem isolated_iff (b : Uid) (s s' : App) (out : LoggedOut s) (out' : LoggedOut s')
    (agree : Agree b s s') :
    Isolated b s s' ↔
      s.globalCart.map (fun item => (item.product, item.quantity)) =
        s'.globalCart.map (fun item => (item.product, item.quantity)) ∧
      s.NoForeignOrder b ∧ s'.NoForeignOrder b := by
  constructor
  · intro isolated
    have hidden {r : App} (wf : WellFormed r) (knows : s.knows b = r.knows b) {call : Call}
        (member : call ∈ r.pending) (foreign : call.isForeign b = true) (time : Nat) :
        s.shares b ⟨time, .answer call.id (.success .done)⟩ = false := by
      show s.knows b call.id = false
      rw [knows, knows_of_pending wf member, foreign]
      rfl
    refine ⟨?_, ?_, ?_⟩
    · obtain ⟨t, run, cart, user, _⟩ := exists_signsIn b out
      obtain ⟨t', run', cart', _⟩ := exists_signsIn b out'
      rw [← agree.now] at run'
      rw [← cart, ← cart']
      exact (isolated _ _ t t' run run' rfl user).cart
    · intro call member order
      by_contra foreign
      rw [Bool.not_eq_false] at foreign
      obtain ⟨time, t, run, empty, user⟩ := exists_emptied b out member order
      obtain ⟨t', run', full, _⟩ := exists_filled b out'
      rw [← agree.now] at run'
      have same := (isolated _ _ t t' run run'
        (by simp [List.filter_append, hidden out.facts.1 rfl member foreign]) user).cart
      rw [empty] at same
      exact full (by simpa using same.symm)
    · intro call member order
      by_contra foreign
      rw [Bool.not_eq_false] at foreign
      obtain ⟨t, run, full, user, _⟩ := exists_filled b out
      obtain ⟨time, t', run', empty, _⟩ := exists_emptied b out' member order
      rw [← agree.now] at run'
      have same := (isolated _ _ t t' run run'
        (by simp [List.filter_append, hidden out'.facts.1 agree.knows member foreign]) user).cart
      rw [empty] at same
      exact full (by simpa using same)
  · rintro ⟨cart, none_left, none_left'⟩ es es' t t' run run' same _
    have alike := alike_of_loggedOut out out' agree none_left none_left' cart
    exact sameView_of_view (alike.runs run.free run'.free same).view

/-- A logout at the end of an execution. -/
theorem loggedOut_of_exec {es : List Timed} {time id : Nat} {test : App → Bool}
    (passes : (app.exec Machine.Free (App.init none []) es).any (fun before =>
      (before.pending.any fun call => call.id == id && call.point == .signOut &&
        before.turn.mounted call.page) &&
      (app.step before ⟨time, .answer id (.success .done)⟩).any test) = true) :
    ∃ s, LoggedOut s ∧ test s = true := by
  obtain ⟨before, run, passes⟩ := Machine.exists_run_of_exec _ _ _ _ _ passes
  simp only [Bool.and_eq_true, List.any_eq_true, beq_iff_eq, Option.any_eq_true] at passes
  obtain ⟨⟨call, member, ⟨rfl, point⟩, mounted⟩, s, step, passes⟩ := passes
  have now : s.now = time := App.step_now step
  exact ⟨s, ⟨none, [], es, before, call, run, member, point, mounted, by rw [now]; exact step⟩, passes⟩

/-- User A signs in, opens the tomato's page, perhaps adds it, and taps Logout. -/
def visitOfA (adds : Bool) : List Timed :=
  schedule [.splashTimeout, .tapLogin, .answer 2 (.success (.user "A")), .tapProduct tomato] ++
    (if adds then [⟨5, .tapAddToCart⟩] else []) ++ [⟨6, .tapNav 3⟩, ⟨7, .tapLogout⟩]

/-- User A signs in, puts two tomatoes into the cart, at once or one by one, and taps Logout. -/
def visitForTwo (oneByOne : Bool) : List Timed :=
  schedule ([.splashTimeout, .tapLogin, .answer 2 (.success (.user "A")), .tapProduct tomato] ++
    [if oneByOne then .tapAddToCart else .tapPlus, .tapAddToCart, .tapNav 3, .tapLogout])

/-- B is isolated from which of the two A did: the cart holds one object or another, of the same
product and quantity. -/
theorem isolated_after_two_tomatoes : ∃ s s', LoggedOut s ∧ LoggedOut s' ∧
    s.globalCart ≠ s'.globalCart ∧ Isolated "B" s s' := by
  obtain ⟨s, out, passes⟩ := @loggedOut_of_exec (visitForTwo true) 9 8
    (fun s => s.now == 9 && s.pending == [⟨4, 4, .getWish⟩] && s.orders == [] &&
      s.globalCart == [⟨5, tomato, 2⟩]) (by decide +kernel)
  obtain ⟨s', out', passes'⟩ := @loggedOut_of_exec (visitForTwo false) 9 8
    (fun s => s.now == 9 && s.pending == [⟨4, 4, .getWish⟩] && s.orders == [] &&
      s.globalCart == [⟨6, tomato, 2⟩]) (by decide +kernel)
  simp only [Bool.and_eq_true, beq_iff_eq] at passes passes'
  obtain ⟨⟨⟨now, pending⟩, orders⟩, cart⟩ := passes
  obtain ⟨⟨⟨now', pending'⟩, orders'⟩, cart'⟩ := passes'
  have agree : Agree "B" s s' :=
    ⟨now.trans now'.symm, by rw [pending, pending'], by rw [orders, orders']⟩
  have none_left {r : App} (pending : r.pending = [⟨4, 4, .getWish⟩]) : r.NoForeignOrder "B" := by
    intro call member order
    rw [pending, List.mem_singleton] at member
    rw [member] at order
    cases order
  refine ⟨s, s', out, out', ?_, (isolated_iff "B" s s' out out' agree).mpr
    ⟨by rw [cart, cart']; rfl, none_left pending, none_left pending'⟩⟩
  rw [cart, cart']
  decide +kernel

/-- A leaves a tomato in the cart in one run and nothing in the other: B finds it there. -/
theorem next_user_finds_cart :
    ¬ ∀ (b : Uid) (s s' : App), LoggedOut s → LoggedOut s' → Agree b s s' → Isolated b s s' := by
  intro all
  obtain ⟨s, out, passes⟩ := @loggedOut_of_exec (visitOfA true) 8 7
    (fun s => s.now == 8 && s.pending == [⟨4, 4, .getWish⟩] && s.orders == [] &&
      (app.exec (OnlyUser "B") s (signsIn "B" 8)).any fun t =>
        t.currentUser == some "B" && t.globalCart.length == 1) (by decide +kernel)
  obtain ⟨s', out', passes'⟩ := @loggedOut_of_exec (visitOfA false) 8 7
    (fun s => s.now == 8 && s.pending == [⟨4, 4, .getWish⟩] && s.orders == [] &&
      (app.exec (OnlyUser "B") s (signsIn "B" 8)).any fun t => t.globalCart.length == 0)
    (by decide +kernel)
  simp only [Bool.and_eq_true, beq_iff_eq] at passes passes'
  obtain ⟨⟨⟨now, pending⟩, orders⟩, passes⟩ := passes
  obtain ⟨⟨⟨now', pending'⟩, orders'⟩, passes'⟩ := passes'
  obtain ⟨t, run, found⟩ := Machine.exists_run_of_exec _ _ _ _ _ passes
  obtain ⟨t', run', empty⟩ := Machine.exists_run_of_exec _ _ _ _ _ passes'
  simp only [Bool.and_eq_true, beq_iff_eq] at found empty
  have agree : Agree "B" s s' :=
    ⟨now.trans now'.symm, by rw [pending, pending'], by rw [orders, orders']⟩
  have same := (all "B" s s' out out' agree _ _ t t' run run' rfl found.1).cart
  have := congrArg List.length same
  simp only [List.length_map] at this
  omega

end CartX
