import CartX.Properties.Reordering
import CartX.Properties.WishCalls
import CartX.Properties.Wishlist

/-!
# A product page and its heart

The heart of `Wishlist.lean` is one page with one document. Here it is found again in the
whole app: a product page of the signed-in user, together with the document of its
product, goes through the states of a heart, as long as the page is open and nobody else
writes the document. `Shows` is the relation between the two; each event of the app or of
the server is either a step of the heart or leaves it alone (`Shows.step`).
-/

namespace CartX

/-- The write as the heart of `Wishlist.lean` keeps it. -/
def WishPut.write (put : WishPut) : WishWrite where
  call := if put.value then .set else .delete
  status :=
    match put.ended with
    | none => .issued
    | some true => .applied
    | some false => .rejected

theorem WishPut.write_leaves (put : WishPut) : (WishPut.write put).call.leaves = put.value := by
  cases value : put.value <;> simp [WishPut.write, value, WishCall.leaves]

theorem WishPut.write_issued (put : WishPut) :
    (WishPut.write put).status = .issued ↔ put.ended = none := by
  rcases ended : put.ended with _ | _ | _ <;> simp [WishPut.write, ended]

/-- The product page and its document behave as the heart: the document is written by this page
only, and the page's calls are to this document only. -/
structure Wishes.Shows (w : Wishes) (page : Nat) (path : WishPath) (h : Heart) : Prop where
  mounted : h.mounted = true
  flag : ∃ route ∈ w.app.stack, ∃ state, route.id = page ∧ route.page = .product state ∧
    state.product.id = path.id ∧ state.isWishlisted = h.isWishlisted
  doc : h.docExists = w.server.docs path
  load : ∃ call, w.server.getsOf page = (h.load.map fun read => ⟨call, page, path, read⟩).toList
  loaded : h.loaded = decide (page ∈ w.loaded)
  writes : h.writes = (w.server.putsOf page).map WishPut.write
  own : ∀ put ∈ w.server.puts, put.owner = page → put.path = path
  alone : ∀ put ∈ w.server.puts, put.path = path → put.ended = none → put.owner = page

namespace Wishes

section Shows

variable {w w' : Wishes} {page : Nat} {path : WishPath} {h : Heart}

/-! ### Events of the server -/

theorem Shows.load_eq {call : Nat} {read : Option Bool} (shows : w.Shows page path h)
    (pending : w.server.getsOf page = [⟨call, page, path, read⟩]) : h.load = some read := by
  obtain ⟨other, load⟩ := shows.load
  rw [pending] at load
  cases loading : h.load with
  | none => simp [loading] at load
  | some read' =>
    simp only [loading, Option.map_some, Option.toList_some, List.cons.injEq,
      Documents.Get.mk.injEq] at load
    rw [load.1.2.2.2]

theorem Shows.reads {call : Nat} (shows : w.Shows page path h)
    (unread : w.server.getsOf page = [⟨call, page, path, none⟩])
    (step : w.step (.reads call) = some w') :
    h.step .read = some { h with load := some (some h.docExists) } ∧
      w'.Shows page path { h with load := some (some h.docExists) } := by
  obtain ⟨server, read, rfl⟩ := Option.map_eq_some_iff.mp step
  have mine := Documents.Server.getsOf_reads read page
  obtain rfl := Documents.Server.reads_eq_some read
  refine ⟨by simp [Heart.step, shows.load_eq unread], { shows with load := ⟨call, ?_⟩ }⟩
  rw [mine, unread]
  simp [Documents.Get.reading, shows.doc]

/-- A get of another page reads, or the page's own does not. -/
theorem Shows.reads_other {call : Nat} (shows : w.Shows page path h)
    (other : ∀ get ∈ w.server.getsOf page, ¬(get.call = call ∧ get.read.isNone = true))
    (step : w.step (.reads call) = some w') : w'.Shows page path h := by
  obtain ⟨server, read, rfl⟩ := Option.map_eq_some_iff.mp step
  have mine := Documents.Server.getsOf_reads read page
  obtain rfl := Documents.Server.reads_eq_some read
  have same : (w.server.getsOf page).map (Documents.Get.reading w.server.docs call) =
      w.server.getsOf page := by
    conv_rhs => rw [← List.map_id (w.server.getsOf page)]
    exact List.map_congr_left fun get listed => if_neg (other get listed)
  rw [same] at mine
  exact { shows with load := by rw [mine]; exact shows.load }

/-- Deciding a write leaves the page alone with its document. -/
theorem Shows.resolved {other : WishPath} {ok value : Bool} {puts : List WishPut}
    (shows : w.Shows page path h)
    (found : Documents.resolve other ok w.server.puts = some (value, puts)) :
    (∀ put ∈ puts, put.owner = page → put.path = path) ∧
      ∀ put ∈ puts, put.path = path → put.ended = none → put.owner = page := by
  constructor
  · intro put' listed owned
    obtain ⟨put, member, owner, at_path, _⟩ := Documents.mem_resolve found listed
    rw [at_path]
    exact shows.own put member (owner.symm.trans owned)
  · intro put' listed here undecided
    obtain ⟨put, member, owner, at_path, was⟩ := Documents.mem_resolve found listed
    rw [owner]
    exact shows.alone put member (at_path.symm.trans here) (was undecided)

theorem Shows.takesEffect {ok : Bool} (shows : w.Shows page path h)
    (step : w.step (.takesEffect path ok) = some w') :
    ∃ h', h.step (.takesEffect ok) = some h' ∧ w'.Shows page path h' := by
  obtain ⟨server, decided, rfl⟩ := Option.map_eq_some_iff.mp step
  obtain ⟨⟨value, puts⟩, found, rfl⟩ := Option.map_eq_some_iff.mp decided
  obtain ⟨front, put, back, mine, undecided, rfl, older, mine'⟩ :=
    Documents.resolve_own shows.own shows.alone found
  have issued : WishPut.write put = ⟨(WishPut.write put).call, .issued⟩ := by
    simp [WishPut.write, undecided]
  have writes : h.writes = front.map WishPut.write ++
      ⟨(WishPut.write put).call, .issued⟩ :: back.map WishPut.write := by
    rw [shows.writes, Documents.Server.putsOf, mine, List.map_append, List.map_cons, ← issued]
  have ended : ∀ write ∈ front.map WishPut.write, write.status ≠ .issued := by
    intro write listed
    obtain ⟨earlier, member, rfl⟩ := List.mem_map.mp listed
    exact fun issued => older earlier member ((WishPut.write_issued earlier).mp issued)
  obtain ⟨own, alone⟩ := shows.resolved found
  cases ok with
  | true =>
    refine ⟨{ h with
      writes := front.map WishPut.write ++
        ⟨(WishPut.write put).call, .applied⟩ :: back.map WishPut.write
      docExists := (WishPut.write put).call.leaves }, ?_, ?_⟩
    · simp only [Heart.step, writes, Heart.resolveFirst_append ended]
    · refine { shows with doc := ?_, writes := ?_, own, alone }
      · simp [WishPut.write_leaves]
      · simp only [Documents.Server.putsOf, mine', List.map_append, List.map_cons]
        rfl
  | false =>
    refine ⟨{ h with
      writes := front.map WishPut.write ++
        ⟨(WishPut.write put).call, .rejected⟩ :: back.map WishPut.write }, ?_, ?_⟩
    · simp only [Heart.step, writes, Heart.resolveFirst_append ended]
    · refine { shows with doc := ?_, writes := ?_, own, alone }
      · simpa using shows.doc
      · simp only [Documents.Server.putsOf, mine', List.map_append, List.map_cons]
        rfl

theorem Shows.takesEffect_other {other : WishPath} {ok : Bool} (shows : w.Shows page path h)
    (apart : other ≠ path) (step : w.step (.takesEffect other ok) = some w') :
    w'.Shows page path h := by
  obtain ⟨server, decided, rfl⟩ := Option.map_eq_some_iff.mp step
  obtain ⟨⟨value, puts⟩, found, rfl⟩ := Option.map_eq_some_iff.mp decided
  have mine : puts.filter (fun put => put.owner == page) = w.server.putsOf page :=
    Documents.resolve_other (fun put listed owned => by rw [shows.own put listed owned]; exact apart.symm)
      found
  obtain ⟨own, alone⟩ := shows.resolved found
  refine { shows with doc := ?_, writes := ?_, own, alone }
  · cases ok <;> simp [shows.doc, apart.symm]
  · rw [shows.writes]
    exact congrArg _ mine.symm

/-! ### Events of the app -/

theorem Shows.on_top (sent : w.Sent) (shows : w.Shows page path h) :
    ∃ top rest state, w.app.stack = top :: rest ∧ top.id = page ∧ top.page = .product state ∧
      state.product.id = path.id ∧ state.isWishlisted = h.isWishlisted := by
  obtain ⟨route, member, state, here, shown, product, flag⟩ := shows.flag
  have head := sent.laid.product_head member shown
  cases shape : w.app.stack with
  | nil => simp [shape] at head
  | cons top rest =>
    rw [shape, List.head?_cons] at head
    cases head
    exact ⟨route, rest, state, rfl, here, shown, product, flag⟩

theorem Shows.tapped {time : Nat} (sent : w.Sent) (shows : w.Shows page path h)
    (user : w.app.currentUser = some path.uid)
    (step : w.step (.app ⟨time, .tapHeart⟩) = some w') :
    h.step .tap = some h.tapped ∧ w'.Shows page path h.tapped := by
  refine ⟨by simp [Heart.step, shows.mounted, Heart.tapped], ?_⟩
  obtain ⟨app, moved, change⟩ := app_cases sent.laid.wf step
  cases change with
  | opened _ _ _ event | answered _ _ event => cases event
  | other _ nobody =>
    rw [nobody rfl] at user
    cases user
  | toggled top rest state uid _ user' shape shown stack =>
    obtain ⟨top', rest', state', shape', rfl, shown', product, flag⟩ := shows.on_top sent
    rw [shape] at shape'
    cases shape'
    rw [shown] at shown'
    cases shown'
    rw [user] at user'
    cases user'
    rw [product]
    refine { shows with flag := ?_, writes := ?_, own := ?_, alone := ?_ }
    · exact ⟨top, by simp [stack, shape], state, rfl, shown, product, flag⟩
    · have new : WishPut.write ⟨time, top.id, path, (toggleWishlist state.isWishlisted).leaves, none⟩ =
          ⟨toggleWishlist h.isWishlisted, .issued⟩ := by
        rw [flag]
        cases h.isWishlisted <;> rfl
      simp [Heart.tapped, Documents.Server.putsOf, Documents.Server.put, shows.writes, ← new]
    · intro put listed owned
      rcases List.mem_append.mp listed with old | new
      · exact shows.own put old owned
      · rw [List.mem_singleton.mp new]
    · intro put listed here undecided
      rcases List.mem_append.mp listed with old | new
      · exact shows.alone put old here undecided
      · rw [List.mem_singleton.mp new]

/-- The heart on the screen after an event that answers no call of the page. -/
theorem Shows.flag_kept {e : Timed} {app : App} (sent : w.Sent) (shows : w.Shows page path h)
    (moved : w.app.step e = some app) (still : app.turn.mounted page = true)
    (others : ∀ call ∈ w.app.pending, ∀ outcome, e.event = .answer call.id outcome →
      call.page ≠ page) :
    ∃ route ∈ app.stack, ∃ state, route.id = page ∧ route.page = .product state ∧
      state.product.id = path.id ∧ state.isWishlisted = h.isWishlisted := by
  obtain ⟨route, old, state, rfl, shown, product, flag⟩ := shows.flag
  obtain ⟨route', member, here⟩ := exists_route_of_mounted still
  obtain ⟨state', shown', product', kept | ⟨call, pending, outcome, event, own⟩⟩ :=
    App.step_stays sent.laid.wf moved old shown member here
  · exact ⟨route', member, state', here, shown', by rw [product', product], kept.trans flag⟩
  · exact absurd own (others call pending outcome event)

/-- Ending a call leaves the page alone with its document. -/
theorem Shows.forgotten (shows : w.Shows page path h) (call : Nat) :
    (∀ put ∈ (w.server.forget call).puts, put.owner = page → put.path = path) ∧
      ∀ put ∈ (w.server.forget call).puts, put.path = path → put.ended = none → put.owner = page :=
  ⟨fun put listed => shows.own put (List.mem_of_mem_filter listed),
    fun put listed => shows.alone put (List.mem_of_mem_filter listed)⟩

/-- An answer to another page's call leaves the page's calls. -/
theorem Shows.answered_other {e : Timed} {app : App} {call : Call} {outcome : Outcome} (sent : w.Sent)
    (shows : w.Shows page path h) (moved : w.app.step e = some app)
    (still : app.turn.mounted page = true) (event : e.event = .answer call.id outcome)
    (member : call ∈ w.app.pending) (other : call.page ≠ page) :
    Shows { app, server := w.server.forget call.id, loaded := w.loads e.event } page path h := by
  have unique {call' : Call} (pending : call' ∈ w.app.pending) (owned : call'.page = page) :
      call'.id ≠ call.id := fun same =>
    other (call_unique sent.laid.wf.callNames member pending same ▸ owned)
  have gets : ∀ get ∈ w.server.gets, get.owner = page → get.call ≠ call.id := fun get listed owned =>
    unique (sent.get_pending listed) owned
  have puts : ∀ put ∈ w.server.puts, put.owner = page → put.call ≠ call.id := fun put listed owned =>
    unique (sent.put_pending listed) owned
  have loaded : page ∈ w.loads e.event ↔ page ∈ w.loaded := by
    rw [event]
    cases outcome with
    | success response =>
      refine ⟨fun listed => ?_, fun listed => List.mem_append_right _ listed⟩
      rcases List.mem_append.mp listed with new | old
      · obtain ⟨get, ended, owned⟩ := List.mem_map.mp new
        obtain ⟨known, named⟩ := List.mem_filter.mp ended
        exact absurd (by simpa using named) (gets get known owned)
      · exact old
    | _ => rfl
  obtain ⟨own, alone⟩ := shows.forgotten call.id
  refine { shows with flag := ?_, load := ?_, loaded := ?_, writes := ?_, own, alone }
  · refine shows.flag_kept sent moved still fun call' pending outcome' event' => ?_
    rw [event, Event.answer.injEq] at event'
    exact fun owned => unique pending owned event'.1.symm
  · rw [Documents.Server.getsOf_forget gets]
    exact shows.load
  · simp [shows.loaded, loaded]
  · rw [Documents.Server.putsOf_forget puts]
    exact shows.writes

/-! ### Answers to the page's own calls -/

/-- What the answer makes of the flag. -/
def answeredFlag (call : Call) (outcome : Outcome) (flag : Bool) : Bool :=
  match call.point, outcome with
  | .getWish, .success (.wish exists_) => exists_
  | .writeWish, .success _ => !flag
  | _, _ => flag

theorem Shows.flag_answered {time : Nat} {app : App} {call : Call} {outcome : Outcome} (sent : w.Sent)
    (shows : w.Shows page path h) (member : call ∈ w.app.pending) (wish : call.point.isWish = true)
    (here : call.page = page) (ends : call.canEnd outcome = true)
    (moved : w.app.step ⟨time, .answer call.id outcome⟩ = some app) :
    ∃ route ∈ app.stack, ∃ state, route.id = page ∧ route.page = .product state ∧
      state.product.id = path.id ∧ state.isWishlisted = answeredFlag call outcome h.isWishlisted := by
  obtain ⟨route, old, state, id, shown, product, flag⟩ := shows.flag
  have inPlace : Answer.InPlace ⟨call, outcome⟩ := by
    refine ⟨ends, fun _ => ?_⟩
    cases point : call.point <;> simp [point, Await.isWish] at wish <;> rfl
  have stack : app.stack = w.app.stack.map (Answer.update ⟨call, outcome⟩) := by
    rw [App.step_segment sent.laid.wf member moved]
    exact congrArg Turn.stack (inPlace.segment w.app time)
  refine ⟨_, by rw [stack]; exact List.mem_map_of_mem old, ?_⟩
  obtain ⟨callId, callPage, point⟩ := call
  dsimp only at here wish
  subst here
  cases point with
  | getWish =>
    cases outcome with
    | success response =>
      cases response with
      | wish exists_ =>
        exact ⟨{ state with isWishlisted := exists_ },
          by simp [Answer.update, Answer.change?, Route.update, id, shown, Page.apply, product, answeredFlag]⟩
      | _ => cases ends
    | _ => exact ⟨state, by simp [Answer.update, Answer.change?, id, shown, product, answeredFlag, flag]⟩
  | writeWish =>
    cases outcome with
    | success response =>
      exact ⟨{ state with isWishlisted := !state.isWishlisted },
        by simp [Answer.update, Answer.change?, Route.update, id, shown, Page.apply, product,
          answeredFlag, flag]⟩
    | _ => exact ⟨state, by simp [Answer.update, Answer.change?, id, shown, product, answeredFlag, flag]⟩
  | _ => cases wish

theorem Shows.load_ends {time call : Nat} {read : Option Bool} {app : App} {outcome : Outcome}
    (sent : w.Sent) (shows : w.Shows page path h)
    (pending : w.server.getsOf page = [⟨call, page, path, read⟩])
    (answers : WishGet.endsWith ⟨call, page, path, read⟩ outcome = true)
    (moved : w.app.step ⟨time, .answer call outcome⟩ = some app) :
    ∃ h', h.step (if outcome.succeeded then .loadSucceeds else .loadFails) = some h' ∧
      Shows { app, server := w.server.forget call, loaded := w.loads (.answer call outcome) }
        page path h' := by
  have load := shows.load_eq pending
  have known : ⟨call, page, path, read⟩ ∈ w.server.gets :=
    List.mem_of_mem_filter (pending ▸ List.mem_singleton_self _ : _ ∈ w.server.getsOf page)
  have member : ⟨call, page, .getWish⟩ ∈ w.app.pending :=
    sent.get_pending known
  have returned : ∀ response, outcome = .success response →
      ∃ value, read = some value ∧ response = .wish value := by
    rintro response rfl
    obtain ⟨value, found, same⟩ := Option.map_eq_some_iff.mp (beq_iff_eq.mp answers)
    exact ⟨value, found, same.symm⟩
  have ends : Call.canEnd ⟨call, page, .getWish⟩ outcome = true := by
    cases outcome with
    | success response =>
      obtain ⟨value, _, rfl⟩ := returned response rfl
      rfl
    | _ => rfl
  -- the page's writes are other calls
  have puts : ∀ put ∈ w.server.puts, put.owner = page → put.call ≠ call := fun put listed _ =>
    (sent.apart known listed).symm
  have none_left : (w.server.forget call).getsOf page = [] := by
    rw [Documents.Server.getsOf, Documents.Server.forget, List.filter_comm]
    exact (congrArg _ pending).trans (by simp)
  obtain ⟨own, alone⟩ := shows.forgotten call
  have flag := shows.flag_answered sent member rfl rfl ends moved
  have writes : h.writes = ((w.server.forget call).putsOf page).map WishPut.write := by
    rw [Documents.Server.putsOf_forget puts]
    exact shows.writes
  cases outcome with
  | success response =>
    obtain ⟨value, rfl, rfl⟩ := returned response rfl
    refine ⟨{ h with load := none, loaded := true, isWishlisted := value },
      by simp [Heart.step, load, Outcome.succeeded, shows.mounted], ?_⟩
    have loaded : page ∈ w.loads (.answer call (.success (.wish value))) :=
      List.mem_append_left _ (List.mem_map.mpr ⟨_, List.mem_filter.mpr ⟨known, by simp⟩, rfl⟩)
    exact { shows with flag, load := ⟨0, none_left⟩, loaded := by simp [loaded], writes, own, alone }
  | _ =>
    have ended : h.step .loadFails = some { h with load := none } := by
      rw [Heart.step, load]
      rfl
    exact ⟨{ h with load := none }, ended,
      { shows with flag, load := ⟨0, none_left⟩, writes, own, alone }⟩

theorem Shows.write_ends {time index : Nat} {put : WishPut} {app : App} {outcome : Outcome}
    (sent : w.Sent) (shows : w.Shows page path h)
    (found : (w.server.putsOf page)[index]? = some put)
    (answers : WishPut.endsWith put outcome = true)
    (ends : Call.canEnd (WishPut.toCall put) outcome = true)
    (moved : w.app.step ⟨time, .answer put.call outcome⟩ = some app) :
    ∃ h', h.step (.writeEnds index) = some h' ∧
      Shows { app, server := w.server.forget put.call, loaded := w.loads (.answer put.call outcome) }
        page path h' := by
  have listed := List.mem_of_getElem? found
  obtain ⟨known, owned⟩ := List.mem_filter.mp listed
  rw [beq_iff_eq] at owned
  have member : WishPut.toCall put ∈ w.app.pending := sent.put_pending known
  -- the page's get is another call
  have gets : ∀ get ∈ w.server.gets, get.call ≠ put.call := fun get listed => sent.apart listed known
  have loaded : w.loads (.answer put.call outcome) = w.loaded := by
    have none : w.server.gets.filter (fun get => get.call == put.call) = [] :=
      List.filter_eq_nil_iff.mpr fun get listed => by simpa using gets get listed
    cases outcome with
    | success response => simp [Wishes.loads, none]
    | _ => rfl
  have names : ((w.server.putsOf page).map (·.call)).Nodup :=
    sent.names.2.sublist (List.filter_sublist.map _)
  have left : (w.server.forget put.call).putsOf page = (w.server.putsOf page).eraseIdx index := by
    rw [← Documents.filter_call_eq_eraseIdx names found, Documents.Server.putsOf,
      Documents.Server.forget, List.filter_comm]
    rfl
  have writes : h.writes.eraseIdx index =
      ((w.server.forget put.call).putsOf page).map WishPut.write := by
    rw [left, shows.writes, List.eraseIdx_map]
  have write : h.writes[index]? = some (WishPut.write put) := by
    rw [shows.writes, List.getElem?_map, found]
    rfl
  obtain ⟨own, alone⟩ := shows.forgotten put.call
  have kept : (w.server.forget put.call).getsOf page = w.server.getsOf page :=
    Documents.Server.getsOf_forget fun get listed _ => gets get listed
  have load := shows.load
  rw [← kept] at load
  have flag := shows.flag_answered sent member rfl owned ends moved
  have ended : put.ended = some outcome.succeeded := beq_iff_eq.mp answers
  refine ⟨{ h with
    writes := h.writes.eraseIdx index
    isWishlisted := answeredFlag (WishPut.toCall put) outcome h.isWishlisted }, ?_,
    { shows with flag, load, loaded := by rw [loaded]; exact shows.loaded, writes, own, alone }⟩
  cases outcome with
  | success response =>
    have applied : WishPut.write put = ⟨(WishPut.write put).call, .applied⟩ := by
      simp [WishPut.write, ended, Outcome.succeeded]
    rw [applied] at write
    simp [Heart.step, write, shows.mounted, answeredFlag, WishPut.toCall]
  | _ =>
    have rejected : WishPut.write put = ⟨(WishPut.write put).call, .rejected⟩ := by
      simp [WishPut.write, ended, Outcome.succeeded]
    rw [rejected] at write
    simp [Heart.step, write, answeredFlag, WishPut.toCall]

/-- The page's get, if it is pending. -/
theorem Shows.loading (shows : w.Shows page path h) :
    w.server.getsOf page = [] ∨ ∃ call read, w.server.getsOf page = [⟨call, page, path, read⟩] := by
  obtain ⟨call, load⟩ := shows.load
  cases loading : h.load with
  | none => exact .inl (by rw [load, loading]; rfl)
  | some read => exact .inr ⟨call, read, by rw [load, loading]; rfl⟩

/-- The answer to a call of the page itself. -/
theorem Shows.answered_own {e : Timed} {app : App} {call : Call} {outcome : Outcome} (sent : w.Sent)
    (shows : w.Shows page path h) (moved : w.app.step e = some app)
    (event : e.event = .answer call.id outcome) (member : call ∈ w.app.pending)
    (own : call.page = page) (ends : call.canEnd outcome = true) (answers : w.Answers e.event) :
    ∃ f h', f ≠ .tap ∧ h.step f = some h' ∧
      Shows { app, server := w.server.forget call.id, loaded := w.loads e.event } page path h' := by
  obtain ⟨route, old, state, rfl, shown, _⟩ := shows.flag
  obtain ⟨time, _⟩ := e
  dsimp only at event
  subst event
  have owned := sent.laid.wf.owned call member route old own.symm
  rw [shown] at owned
  cases point : call.point with
  | getWish =>
    obtain ⟨get, known, rfl⟩ := (sent.get_iff point).mp member
    have mine : get ∈ w.server.getsOf route.id := List.mem_filter.mpr ⟨known, beq_iff_eq.mpr own⟩
    rcases shows.loading with none | ⟨id, read, pending⟩
    · simp [none] at mine
    · rw [pending, List.mem_singleton] at mine
      subst mine
      obtain ⟨h', step, shows'⟩ := shows.load_ends sent pending (answers.1 _ known rfl) moved
      exact ⟨_, h', by split <;> simp, step, shows'⟩
  | writeWish =>
    obtain ⟨put, known, rfl⟩ := (sent.put_iff point).mp member
    have mine : put ∈ w.server.putsOf route.id := List.mem_filter.mpr ⟨known, beq_iff_eq.mpr own⟩
    obtain ⟨index, found⟩ := List.mem_iff_getElem?.mp mine
    obtain ⟨h', step, shows'⟩ := shows.write_ends sent found (answers.2 put known rfl) ends moved
    exact ⟨_, h', by simp, step, shows'⟩
  | _ =>
    rw [point] at owned
    cases owned

/-- What happens to a product page that stays open happens to its heart. -/
theorem Shows.step {K : Heart → HeartEvent → Prop} {e : WishesEvent}
    (others : ∀ h f, f ≠ .tap → K h f) (sent : w.Sent) (shows : w.Shows page path h)
    (step : w.step e = some w') (still : w'.app.turn.mounted page = true)
    (tap : ∀ time uid, e = .app ⟨time, .tapHeart⟩ → w.app.currentUser = some uid →
      uid = path.uid ∧ K h .tap) :
    ∃ fs h', heart.Run K h fs h' ∧ w'.Shows page path h' := by
  cases e with
  | reads call =>
    rcases shows.loading with none | ⟨id, read, pending⟩
    · exact ⟨[], h, .nil, shows.reads_other (by simp [none]) step⟩
    · by_cases own : id = call ∧ read.isNone = true
      · obtain ⟨rfl, unread⟩ := own
        rw [Option.isNone_iff_eq_none] at unread
        subst unread
        obtain ⟨read, shows'⟩ := shows.reads pending step
        exact ⟨[.read], _, .single (others _ _ (by simp)) read, shows'⟩
      · exact ⟨[], h, .nil, shows.reads_other (by simpa [pending] using own) step⟩
  | takesEffect other ok =>
    by_cases here : other = path
    · subst here
      obtain ⟨h', effect, shows'⟩ := shows.takesEffect step
      exact ⟨_, h', .single (others _ _ (by simp)) effect, shows'⟩
    · exact ⟨[], h, .nil, shows.takesEffect_other here step⟩
  | app e =>
    obtain ⟨app, moved, change⟩ := app_cases sent.laid.wf step
    cases change with
    | opened product navIndex uid _ _ stack =>
      -- nothing is opened over a product page
      obtain ⟨top, rest, state, shape, here, shown, _⟩ := shows.on_top sent
      have past : top.id < e.time := Nat.lt_of_le_of_lt
        (sent.laid.wf.routeAge top (by simp [shape])) (App.step_cases moved).1
      have opened : { id := e.time, page := .product { product, navIndex } } ∈ app.stack := by
        rw [stack]
        exact List.mem_cons_self
      have same := (sent.laid.step moved).product_unique opened rfl (by rw [stack, shape]; simp) shown
      exact absurd (congrArg Route.id same) past.ne
    | toggled top rest state uid event user =>
      obtain ⟨time, _⟩ := e
      dsimp only at event
      subst event
      obtain ⟨rfl, allowed⟩ := tap time uid rfl user
      obtain ⟨tapped, shows'⟩ := shows.tapped sent user step
      exact ⟨[.tap], _, .single allowed tapped, shows'⟩
    | answered call outcome event member ends answers =>
      by_cases own : call.page = page
      · obtain ⟨f, h', no_tap, ended, shows'⟩ :=
          shows.answered_own sent moved event member own ends answers
        exact ⟨[f], h', .single (others _ _ no_tap) ended, shows'⟩
      · exact ⟨[], h, .nil, shows.answered_other sent moved still event member own⟩
    | other unanswered =>
      have flag := shows.flag_kept sent moved still
        fun call _ outcome event => absurd event (unanswered call.id outcome)
      exact ⟨[], h, .nil, { shows with flag }⟩

/-- A new product page, whose document nobody is about to write. -/
theorem shows_opened {e : Timed} {app : App} {product : Product} {navIndex : Nat} {uid : Uid}
    (sent : w.Sent) (moved : w.app.step e = some app)
    (stack : app.stack = { id := e.time, page := .product { product, navIndex } } :: w.app.stack)
    (quiet : ∀ put ∈ w.server.puts, put.path = ⟨uid, product.id⟩ → put.ended ≠ none) :
    Shows { w with app, server := w.server.get e.time e.time ⟨uid, product.id⟩ } e.time
      ⟨uid, product.id⟩ (Heart.init (w.server.docs ⟨uid, product.id⟩)) := by
  obtain ⟨unloaded, unasked, unwritten⟩ := sent.fresh (App.step_cases moved).1
  have puts : ∀ put ∈ w.server.puts, put.owner ≠ e.time := by
    simpa [Documents.Server.putsOf] using unwritten
  constructor
  · rfl
  · exact ⟨_, by rw [stack]; exact List.mem_cons_self, _, rfl, rfl, rfl, rfl⟩
  · rfl
  · refine ⟨e.time, ?_⟩
    have split : (w.server.get e.time e.time ⟨uid, product.id⟩).getsOf e.time =
        w.server.getsOf e.time ++ [⟨e.time, e.time, ⟨uid, product.id⟩, none⟩] := by
      simp [Documents.Server.getsOf, Documents.Server.get]
    rw [split, unasked]
    rfl
  · simp [Heart.init, unloaded]
  · exact (congrArg (List.map WishPut.write) unwritten).symm
  · exact fun put listed owned => absurd owned (puts put listed)
  · exact fun put listed here undecided => absurd undecided (quiet put listed here)

end Shows

end Wishes

end CartX
