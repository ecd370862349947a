import CartX.Properties.CartRows
import CartX.Properties.Pages

/-!
# What a page shows without having been marked

`setState` marks a page and the next frame rebuilds the marked ones; nothing else
is rebuilt. A page that is not marked still shows what building it now would show:
whatever changes its own state marks it, and the only page whose build reads
something else is the cart page. That one falls behind when an order completes,
and only then, so what it misses is that the cart is empty.
-/

namespace CartX

/-- What an event other than a frame leaves on the stack. -/
inductive Marked (time : Nat) (before : List Route) (route : Route) : Prop
  | opened (new : route.id = time)
  | kept (old : route ∈ before)
  | marked (dirty : route.dirty = true)
  -- the controllers and the rows of the cart change without a rebuild
  | typed (old : Route) (member : old ∈ before) (typed : Typed old.page route.page)
      (dirty : route.dirty = old.dirty)
  | row (member : ∃ old ∈ before, old.id = route.id) (shows : route.page.isCart = true)

section Marked

variable {s s' : App} {e : Timed} {route : Route} {turn turn' : Turn} {time : Nat}

theorem Turn.setState_marked {id : Nat} {update : Page → Page}
    (member : route ∈ (turn.setState id update).stack) : Marked time turn.stack route := by
  obtain ⟨old, old_mem, rfl⟩ := List.mem_map.mp member
  by_cases here : old.id = id
  · exact .marked (by simp [here])
  · exact .kept (by simpa [here] using old_mem)

theorem Turn.begin_marked {begun id : Nat} {handler : Handler}
    (member : route ∈ (turn.begin begun id handler).stack) : Marked time turn.stack route := by
  rcases turn.begin_stack begun id handler with same | busy
  · exact .kept (same ▸ member)
  · rw [busy] at member
    exact Turn.setState_marked member

theorem Move.marked {user : Option Uid} {top : Route} {event : Event}
    (unique : ∀ route ∈ turn.stack, route.id = top.id → route = top) (on_top : top ∈ turn.stack)
    (move : Move turn time user top event turn') (member : route ∈ turn'.stack) :
    Marked time turn.stack route := by
  have pushed {page : Page} (member : route ∈ (turn.push time user page).stack) :
      Marked time turn.stack route := by
    rw [Turn.push_stack, List.mem_cons] at member
    rcases member with rfl | old
    · exact .opened rfl
    · exact .kept old
  cases move with
  | stay | add | deleteThrows => exact .kept member
  | begin | confirm => exact Turn.begin_marked member
  | openPage | proceed => exact pushed member
  | nav =>
    rw [Turn.pushAndRemoveUntil, List.mem_singleton] at member
    exact .opened (by rw [member])
  | enter =>
    rcases List.mem_cons.mp member with rfl | old
    · exact .opened rfl
    · exact .kept (List.mem_of_mem_tail old)
  | restate => exact Turn.setState_marked member
  | delete _ _ globalCart => exact @Turn.setState_marked route { turn with globalCart } _ _ _ member
  | type page _ _ _ typed =>
    obtain ⟨old, old_mem, rfl⟩ := List.mem_map.mp member
    by_cases here : old.id = top.id
    · rw [if_pos here]
      exact .typed top on_top typed (by rw [unique old old_mem here])
    · exact .kept (by simpa [here] using old_mem)
  | buildRow =>
    obtain ⟨old, old_mem, rfl⟩ := List.mem_map.mp member
    by_cases here : old.id = top.id
    · rw [if_pos here]
      exact .row ⟨old, old_mem, rfl⟩ rfl
    · exact .kept (by simpa [here] using old_mem)

theorem Resumed.marked {call : Call} {outcome : Outcome}
    (resumed : Resumed turn time call outcome turn') (member : route ∈ turn'.stack) :
    Marked time turn.stack route := by
  cases resumed with
  | nothing | created | orderedAway => exact .kept member
  | update => exact Turn.setState_marked member
  | loggedIn =>
    obtain ⟨old, old_mem, rfl⟩ := List.mem_map.mp member
    by_cases here : old.id = call.page
    · exact .marked (by simp [here])
    · rcases List.mem_cons.mp old_mem with rfl | below
      · exact .opened (by simp [here])
      · exact .kept (by simpa [here] using List.mem_of_mem_tail below)
  | signedUp | loggedOut =>
    rw [Turn.pushAndRemoveUntil, List.mem_singleton] at member
    exact .opened (by rw [member])
  | saved => exact Turn.setState_marked (List.mem_of_mem_tail member)
  | ordered =>
    rcases List.mem_cons.mp member with rfl | old
    · exact .opened rfl
    · exact .kept old

theorem App.step_marked (wf : WellFormed s) (step : s.step e = some s') (unframed : e.event ≠ .frame)
    (member : route ∈ s'.stack) : Marked e.time s.stack route := by
  obtain ⟨_, moved⟩ := App.step_cases step
  obtain ⟨time, event⟩ := e
  cases moved with
  | frame => exact absurd rfl unframed
  | back top below rest shape =>
    dsimp only at shape
    exact .kept (by rw [shape]; exact List.mem_cons_of_mem _ member)
  | tap _ top rest _ shape move =>
    have on_top : top ∈ s.stack := by
      dsimp only at shape
      simp [shape]
    exact move.marked (fun route member same => route_unique wf.routeNames on_top member same) on_top
      member
  | answer _ _ _ _ _ _ resumed => exact resumed.marked member

end Marked

/-! ### Up to date -/

/-- The page shows what building it now would show; rows of the cart page are built later. -/
def Route.UpToDate (globalCart : Cart) (route : Route) : Prop :=
  match route.page with
  | .cart view => view.itemCount = globalCart.length ∧ view.total = globalCart.cartTotal
  | page => page.rebuild globalCart = page

theorem Route.upToDate_cart {globalCart : Cart} {route : Route} {view : CartView}
    (shown : route.page = .cart view) : route.UpToDate globalCart ↔
      view.itemCount = globalCart.length ∧ view.total = globalCart.cartTotal := by
  rw [Route.UpToDate, shown]

theorem Route.upToDate_other {globalCart : Cart} {route : Route} (other : route.page.isCart = false) :
    route.UpToDate globalCart ↔ route.page.rebuild globalCart = route.page := by
  cases shown : route.page <;> simp_all [Route.UpToDate, Page.isCart]

section Rebuild

variable {page page' : Page} {globalCart : Cart}

/-- No build but the cart page's reads the cart. -/
theorem Page.rebuild_other (globalCart globalCart' : Cart) (other : page.isCart = false) :
    page.rebuild globalCart = page.rebuild globalCart' := by
  cases page <;> first | rfl | cases other

theorem Page.rebuild_rebuild : (page.rebuild globalCart).rebuild globalCart = page.rebuild globalCart := by
  cases page <;> rfl

theorem Page.rebuild_fresh (fresh : page.isFresh = true) (other : page.isCart = false) :
    page.rebuild globalCart = page := by
  cases page with
  | login state | editProfile state =>
    simp only [Page.isFresh, beq_iff_eq] at fresh
    simp [Page.rebuild, fresh]
  | product state =>
    obtain ⟨product, navIndex, quantity, wished, minus⟩ := state
    simp only [Page.isFresh, Bool.and_eq_true, beq_iff_eq, Bool.not_eq_true'] at fresh
    simp [Page.rebuild, fresh]
  | cart view => cases other
  | _ => rfl

theorem Typed.not_cart (typed : Typed page page') : page.isCart = false := by
  cases typed <;> rfl

/-- Typing changes nothing that a build reads. -/
theorem Typed.rebuild (typed : Typed page page') (same : page.rebuild globalCart = page) :
    page'.rebuild globalCart = page' := by
  cases typed with
  | login state =>
    have built := congrArg LoginState.buttonEnabled (Page.login.inj same)
    simp only at built
    simp [Page.rebuild, built]
  | profile state =>
    have built := congrArg EditProfileState.formShown (Page.editProfile.inj same)
    simp only at built
    simp [Page.rebuild, built]

end Rebuild

/-- Every page that is not marked is up to date, or is a cart page over a cart an order emptied. -/
def App.Fresh (s : App) : Prop :=
  ∀ route ∈ s.stack, route.dirty = false →
    route.UpToDate s.globalCart ∨ route.page.isCart = true ∧ s.globalCart = []

section Step

variable {s s' : App} {e : Timed} {route : Route} {view : CartView}

theorem CartView.buildRow_counts (view : CartView) (globalCart : Cart) (index : Nat) :
    (view.buildRow globalCart index).itemCount = view.itemCount ∧
      (view.buildRow globalCart index).total = view.total := by
  unfold CartView.buildRow
  split <;> exact ⟨rfl, rfl⟩

/-- A cart page that a step leaves as it was stays up to date until an order empties the cart. -/
theorem App.Fresh.cart_kept (wf : WellFormed s) (step : s.step e = some s') (old : route ∈ s.stack)
    (shown : route.page = .cart view)
    (quiet : ∀ index, e.event = .tapDelete index → s.globalCart.length ≤ index)
    (before : route.UpToDate s.globalCart ∨ s.globalCart = []) :
    route.UpToDate s'.globalCart ∨ s'.globalCart = [] := by
  cases App.step_cart step with
  | same keeps => rwa [keeps]
  | added top rest state shape top_shown =>
    exact (not_added_under_cart wf old shown shape top_shown).elim
  | deleted top rest view index _ _ _ tapped removed =>
    have outside := quiet index tapped
    have inside := Cart.removeItem_isSome_iff.mp (by rw [removed]; rfl)
    omega
  | cleared _ _ empty => exact .inr empty

theorem App.Fresh.cart (wf : WellFormed s) (fresh : s.Fresh) (step : s.step e = some s')
    (member : route ∈ s'.stack) (clean : route.dirty = false) (shown : route.page = .cart view) :
    route.UpToDate s'.globalCart ∨ s'.globalCart = [] := by
  cases App.step_rows wf step member shown with
  | built keeps built =>
    refine .inl ((Route.upToDate_cart shown).mpr ?_)
    rw [keeps, built]
    exact ⟨rfl, rfl⟩
  | kept old _ quiet =>
    exact App.Fresh.cart_kept wf step old shown quiet ((fresh route old clean).imp_right And.right)
  -- the rows do not count
  | row before index old tapped _ built =>
    have counts := before.buildRow_counts s.globalCart index
    have kept := App.Fresh.cart_kept wf step old rfl (by simp [tapped])
      ((fresh _ old clean).imp_right And.right)
    refine kept.imp_left fun same => ?_
    rw [Route.upToDate_cart shown, built, counts.1, counts.2]
    exact (Route.upToDate_cart rfl).mp same
  | deleted _ _ _ marked => simp [clean] at marked

theorem App.Fresh.step (wf : WellFormed s) (fresh : s.Fresh) (step : s.step e = some s') :
    s'.Fresh := by
  intro route member clean
  cases cart : route.page.isCart with
  | true =>
    obtain ⟨view, shown⟩ := Page.eq_cart cart
    exact (fresh.cart wf step member clean shown).imp_right fun empty => ⟨rfl, empty⟩
  | false =>
    refine .inl ((Route.upToDate_other cart).mpr ?_)
    -- from what the page showed before, whatever the cart was
    have carried {old : Route} (old_mem : old ∈ s.stack) (unmarked : old.dirty = false)
        (other : old.page.isCart = false) : old.page.rebuild s'.globalCart = old.page := by
      rcases fresh old old_mem unmarked with same | ⟨is_cart, _⟩
      · rw [Page.rebuild_other _ s.globalCart other]
        exact (Route.upToDate_other other).mp same
      · simp [other] at is_cart
    by_cases framed : e.event = .frame
    · obtain ⟨time, event⟩ := e
      dsimp only at framed
      subst framed
      obtain ⟨_, moved⟩ := App.step_cases step
      cases moved with
      | frame =>
        obtain ⟨old, old_mem, rfl⟩ := List.mem_map.mp member
        cases dirty : old.dirty with
        | true =>
          rw [if_pos rfl]
          exact Page.rebuild_rebuild
        | false =>
          simp only [dirty, Bool.false_eq_true, if_false] at cart ⊢
          exact carried old_mem dirty cart
      | tap _ _ _ _ _ _ other => exact absurd rfl other
    · obtain ⟨later, _⟩ := App.step_cases step
      obtain ⟨_, aged⟩ := wf.tick later
      cases App.step_marked wf step framed member with
      | opened new =>
        rcases (App.step_shifted wf step).routes member with ⟨_, initial⟩ | ⟨old, old_mem, revision⟩
        · exact Page.rebuild_fresh initial cart
        · have := aged.routes old old_mem
          have := revision.id
          dsimp only at *
          omega
      | kept old => exact carried old clean cart
      | marked dirty => simp [clean] at dirty
      | typed old old_mem typed dirty =>
        exact typed.rebuild (carried old_mem (dirty.symm.trans clean) typed.not_cart)
      | row _ shows => simp [cart] at shows

end Step

theorem fresh_of_run {G : App → Timed → Prop} {currentUser : Option Uid} {orders : List OrderDoc}
    {es : List Timed} {s : App} (run : app.Run G (App.init currentUser orders) es s) : s.Fresh := by
  have both : WellFormed s ∧ s.Fresh :=
    run.invariant (I := fun s : App => WellFormed s ∧ s.Fresh)
      ⟨.init currentUser orders, by simp [App.Fresh, App.init, Route.UpToDate, Page.rebuild]⟩
      fun _ _ _ both _ step => ⟨both.1.step step, both.2.step both.1 step⟩
  exact both.2

end CartX
