import CartX.Properties.Orders
import CartX.Properties.OrderHistory
import CartX.Properties.Settling
import CartX.Properties.Storefront

/-!
# The orders that are filed

The app only adds to the `orders` collection. An order is dated by the tap that
placed it, and two taps never share a time; its summary counts the entries of the
cart, which are different products of the catalogue, so there are at most as many.
-/

namespace CartX

/-- The summaries of orders over a catalogue of this size. -/
def Summarises (size : Nat) (itemSummary : String) : Prop :=
  itemSummary = "Order Details" ∨
    ∃ count, 1 ≤ count ∧ count ≤ size ∧ itemSummary = toString count ++ " Items Ordered"

/-- What is kept of the attempts that are recorded or may be; `es` is what happened so far. -/
structure Stamped (es : List Timed) (s : App) (book : Book) : Prop where
  dates : (book.live.map fun a => a.doc.orderDate).Nodup
  past : ∀ a ∈ book.live, a.doc.orderDate ≤ s.now
  taps : ∀ a ∈ book.live, ⟨a.doc.orderDate, .tapConfirm⟩ ∈ es
  summaries : ∀ a ∈ book.live, Summarises demoProducts.length a.doc.itemSummary

theorem placeOrder_summary (user : Option Uid) {globalCart : Cart} {size : Nat} (amount : ℚ)
    (now : Nat) (fits : globalCart.length ≤ size) :
    Summarises size (placeOrder user globalCart amount now).itemSummary := by
  cases globalCart with
  | nil => exact .inl rfl
  | cons item rest => exact .inr ⟨_, Nat.succ_pos _, fits, rfl⟩

/-- A step begins an attempt, or moves or drops some. -/
theorem Book.step_live (book : Book) (event : BookEvent) :
    (book.step event).live.Subperm book.live ∨ ∃ attempt,
      event = .begin attempt.call attempt.user attempt.doc ∧
        (book.step event).live = attempt :: book.live := by
  cases event with
  | add | other => exact .inl (.refl _)
  | delete index =>
    simp only [Book.step, Book.delete]
    split <;> exact .inl (.refl _)
  | begin call user doc => exact .inr ⟨_, rfl, rfl⟩
  | settle call recorded => exact .inl (book.settle_live_subperm call recorded)

section Run

variable {currentUser : Option Uid} {orders : List OrderDoc} {es : List Timed} {s t : App}

/-- The entries of the cart are different products of the catalogue. -/
theorem cart_length_le (run : app.Run Machine.Free (App.init currentUser orders) es s) :
    s.globalCart.length ≤ demoProducts.length := by
  obtain ⟨_, _, _, refines⟩ := refines_of_app_run run
  have within : s.globalCart.map (fun item => item.product.name) ⊆ demoProducts.map Product.name := by
    intro name listed
    obtain ⟨item, member, rfl⟩ := List.mem_map.mp listed
    exact List.mem_map_of_mem (stocked_of_run run item member)
  simpa using (List.subperm_of_subset refines.nodup within).length_le

theorem App.step_orders {e : Timed} (step : s.step e = some t) : s.orders <+: t.orders := by
  obtain ⟨time, event⟩ := e
  obtain ⟨_, moved⟩ := App.step_cases step
  cases moved with
  | answer call outcome turn =>
    rw [App.after_orders]
    rcases (({ s with now := time } : App).settle call.id).commit_orders call.point outcome with
      ⟨doc, _, _, filed⟩ | ⟨_, same⟩
    · exact ⟨[doc], filed.symm⟩
    · exact ⟨[], (List.append_nil _).trans same.symm⟩
  | _ => exact List.prefix_rfl

/-- An attempt that begins is dated later than all others. -/
theorem Stamped.step {book : Book} {e : Timed} (stamped : Stamped es s book)
    (fits : s.globalCart.length ≤ demoProducts.length) (step : s.step e = some t) :
    Stamped (es ++ [e]) t (book.step (s.bookEvent e)) := by
  have later : s.now < t.now := by
    rw [App.step_now step]
    exact (App.step_cases step).1
  rcases book.step_live (s.bookEvent e) with fewer | ⟨attempt, begun, more⟩
  · obtain ⟨kept, same, sub⟩ := fewer
    have old : ∀ a ∈ (book.step (s.bookEvent e)).live, a ∈ book.live :=
      fun a member => sub.subset (same.symm.subset member)
    refine ⟨?_, fun a member => ?_, fun a member => ?_,
      fun a member => stamped.summaries a (old a member)⟩
    · exact (same.map _).nodup_iff.mp (stamped.dates.sublist (sub.map _))
    · exact (stamped.past a (old a member)).trans later.le
    · exact List.mem_append_left _ (stamped.taps a (old a member))
  · obtain ⟨tapped, _, amount, doc⟩ := bookEvent_eq_begin begun
    have dated : attempt.doc.orderDate = t.now := by
      rw [doc, App.step_now step]
      rfl
    refine ⟨?_, fun a member => ?_, fun a member => ?_, fun a member => ?_⟩
    · rw [more, List.map_cons, List.nodup_cons]
      refine ⟨fun taken => ?_, stamped.dates⟩
      obtain ⟨a, member, same⟩ := List.mem_map.mp taken
      have earlier := stamped.past a member
      rw [dated] at same
      omega
    · rw [more] at member
      rcases List.mem_cons.mp member with rfl | old
      · exact dated.le
      · exact (stamped.past a old).trans later.le
    · rw [more] at member
      rcases List.mem_cons.mp member with rfl | old
      · rw [dated, App.step_now step, ← tapped]
        exact List.mem_append_right _ (List.mem_singleton_self e)
      · exact List.mem_append_left _ (stamped.taps a old)
    · rw [more] at member
      rcases List.mem_cons.mp member with rfl | old
      · exact doc ▸ placeOrder_summary _ amount e.time fits
      · exact stamped.summaries a old

theorem stamped_of_run {p : App × Book}
    (run : bookedApp.Run Machine.Free (App.init currentUser orders, {}) es p) :
    Stamped es p.1 p.2 := by
  induction run with
  | nil =>
    exact ⟨List.nodup_nil, by simp [Book.live], by simp [Book.live], by simp [Book.live]⟩
  | @snoc es e p q prior _ step ih =>
    obtain ⟨moved, entered⟩ := Machine.observe_step_iff.mp step
    rw [entered]
    exact ih.step (cart_length_le prior.unobserved) moved

end Run

/-! ### The result -/

/-- In every run: the orders there are stay as they are and in their places, and those the app adds
come each from a tap on Confirm Order of its own, which dates it, and say "Order Details" or how many
of the products of the catalogue were in the cart. -/
theorem filed_orders_stamped {currentUser : Option Uid} {orders : List OrderDoc} {es : List Timed}
    {s : App} (run : app.Run Machine.Free (App.init currentUser orders) es s) :
    (∃ filed, s.orders = orders ++ filed ∧ (filed.map OrderDoc.orderDate).Nodup ∧
      ∀ doc ∈ filed, ⟨doc.orderDate, .tapConfirm⟩ ∈ es ∧
        Summarises demoProducts.length doc.itemSummary) ∧
    ∀ fs t, app.Run Machine.Free s fs t → s.orders <+: t.orders := by
  refine ⟨?_, fun fs t more => ?_⟩
  · obtain ⟨book, booked⟩ : ∃ book, bookedApp.Run (fun p e => Machine.Free p.1 e)
        (App.init currentUser orders, {}) es (s, book) := run.observed ({} : Book)
    have stamped := stamped_of_run booked
    refine ⟨book.recorded.map Attempt.doc, (tracks_of_run booked).2.recorded, ?_, fun doc member => ?_⟩
    · rw [List.map_map]
      exact stamped.dates.sublist ((List.sublist_append_right _ _).map _)
    · obtain ⟨a, recorded, rfl⟩ := List.mem_map.mp member
      have live : a ∈ book.live := List.mem_append_right _ recorded
      exact ⟨stamped.taps a live, stamped.summaries a live⟩
  · exact more.invariant (I := fun t : App => s.orders <+: t.orders) List.prefix_rfl
      fun _ _ _ ahead _ step => ahead.trans (App.step_orders step)

/-- Two taps on Confirm Order file two orders, dated apart. -/
theorem double_tap_filed_orders_stamped : ∃ s first second, app.Run Machine.Free (App.init none [])
      (schedule [.splashTimeout, .tapLogin, .answer 2 (.success (.user "A")), .tapProduct tomato,
        .tapAddToCart, .tapNav 2, .tapProceed, .tapConfirm, .tapConfirm,
        .answer 9 (.success .done), .answer 8 (.success .done)]) s ∧
    s.orders = [first, second] ∧ first.orderDate ≠ second.orderDate := by
  obtain ⟨s, run, two⟩ := Machine.exists_run_of_exec app Machine.Free (App.init none [])
    (schedule [.splashTimeout, .tapLogin, .answer 2 (.success (.user "A")), .tapProduct tomato,
      .tapAddToCart, .tapNav 2, .tapProceed, .tapConfirm, .tapConfirm,
      .answer 9 (.success .done), .answer 8 (.success .done)])
    (fun s => s.orders.length == 2) (by decide +kernel)
  obtain ⟨first, second, orders⟩ := List.length_eq_two.mp (eq_of_beq two)
  obtain ⟨⟨filed, all, apart, _⟩, _⟩ := filed_orders_stamped run
  rw [List.nil_append, orders] at all
  subst all
  exact ⟨s, first, second, run, orders, by simpa using apart⟩

/-! ### Orders that are filed while the user does nothing -/

/-- The documents of the pending orders. -/
def App.pendingDocs (s : App) : List OrderDoc := (s.pending.filterMap Call.order?).map Prod.snd

/-- The order that the call of this name is about. -/
def App.orderOf (s : App) (id : Nat) : Option OrderDoc :=
  ((s.pending.find? fun call => call.id == id).bind Call.order?).map Prod.snd

/-- The orders pending in `s` whose calls these events answer, with success or without. -/
def App.answeredDocs (s : App) (ok : Bool) (events : List Timed) : List OrderDoc :=
  events.filterMap fun e =>
    match e.event with
    | .answer id outcome => if outcome.succeeded = ok then s.orderOf id else none
    | _ => none

/-- From `s` on, the orders `filed` were recorded and `refused` were not; with the first recorded
one the cart was cleared. All orders that were pending are accounted for. -/
structure Files (s t : App) (filed refused : List OrderDoc) : Prop where
  orders : t.orders = s.orders ++ filed
  accounted : (filed ++ refused ++ t.pendingDocs).Perm s.pendingDocs
  cart : t.globalCart = if filed = [] then s.globalCart else []

/-- While the user waits no order is placed: the calls pending are those of before, or the second
call of a sign-up. -/
def Awaited (s t : App) : Prop :=
  ∀ call ∈ t.pending, call ∈ s.pending ∨ s.now < call.id ∧ call.point = .setUser

section Waiting

variable {s t u : App} {e : Timed} {filed refused : List OrderDoc}

/-- An answered call and the ones left are those of before. -/
theorem settle_perm {pending : List Call} {call : Call}
    (names : (pending.map Call.id).Pairwise (· > ·)) (member : call ∈ pending) :
    (call :: pending.filter fun other => other.id != call.id).Perm pending := by
  obtain ⟨front, back, rfl⟩ := List.append_of_mem member
  have apart : ∀ other ∈ front ++ back, other.id ≠ call.id := by
    have nodup : ((front ++ call :: back).map Call.id).Nodup := names.imp Nat.ne_of_gt
    have moved : ((call :: (front ++ back)).map Call.id).Nodup :=
      (List.perm_middle.map Call.id).nodup_iff.mp nodup
    exact fun other listed same =>
      (List.nodup_cons.mp moved).1 (List.mem_map.mpr ⟨other, listed, same⟩)
  have kept : (front ++ call :: back).filter (fun other => other.id != call.id) = front ++ back := by
    rw [List.filter_append, List.filter_cons_of_neg (by simp), ← List.filter_append]
    exact List.filter_eq_self.mpr fun other listed => by simpa using apart other listed
  rw [kept]
  exact List.perm_middle.symm

theorem Awaited.step (awaited : Awaited s t) (past : s.now ≤ t.now) (waits : Waits t e)
    (step : t.step e = some u) : Awaited s u := by
  obtain ⟨time, event⟩ := e
  cases event with
  | frame =>
    rw [step_frame_iff step]
    exact awaited
  | answer id outcome =>
    have later := (App.step_cases step).1
    obtain ⟨call, turn, _, rfl, _, resumed, rfl⟩ := App.step_answered step
    intro other listed
    rw [App.after_pending, App.commit_pending, List.mem_append] at listed
    rcases listed with new | old
    · rcases resumed.started rfl with none | ⟨_, _, one, _⟩
      · simp [none] at new
      · rw [one, List.mem_singleton] at new
        rw [new]
        exact .inr ⟨Nat.lt_of_le_of_lt past later, rfl⟩
    · exact awaited other (List.mem_of_mem_filter old)
  | _ => cases waits

/-- The orders that are pending now were so in `s`, under the same names. -/
theorem Awaited.orderOf (wf : WellFormed s) (awaited : Awaited s t) {call : Call}
    (member : call ∈ t.pending) : s.orderOf call.id = call.order?.map Prod.snd := by
  rcases awaited call member with old | ⟨new, point⟩
  · rw [App.orderOf, find?_name (wf.callNames.imp Nat.ne_of_gt) old]
    rfl
  · have unknown : s.pending.find? (fun other => other.id == call.id) = none := by
      refine List.find?_eq_none.mpr fun other listed same => ?_
      have age := (wf.callAge other listed).1
      have : other.id = call.id := by simpa using same
      omega
    simp [App.orderOf, unknown, Call.order?, point]

theorem answeredDocs_answer {time id : Nat} {outcome : Outcome} (ok : Bool) :
    s.answeredDocs ok [⟨time, .answer id outcome⟩] =
      if outcome.succeeded = ok then (s.orderOf id).toList else [] := by
  by_cases ends : outcome.succeeded = ok
  · rw [if_pos ends]
    cases order : s.orderOf id <;> simp [App.answeredDocs, ends, order]
  · simp [App.answeredDocs, ends]

theorem accounted_filed {rest pending : List OrderDoc} {doc : OrderDoc}
    (before : (doc :: rest).Perm pending) :
    (filed ++ [doc] ++ refused ++ rest).Perm (filed ++ refused ++ pending) := by
  have moved : (doc :: (refused ++ rest)).Perm (refused ++ pending) :=
    List.perm_middle.symm.trans (before.append_left refused)
  simpa using moved.append_left filed

theorem accounted_refused {rest pending : List OrderDoc} {doc : OrderDoc}
    (before : (doc :: rest).Perm pending) :
    (filed ++ (refused ++ [doc]) ++ rest).Perm (filed ++ refused ++ pending) := by
  simpa using before.append_left (filed ++ refused)

/-- An answer moves the order it is about, if it is about one, from the pending orders to the filed or
to the refused ones. -/
theorem Files.step (files : Files s t filed refused) (wf : WellFormed s) (wf' : WellFormed t)
    (awaited : Awaited s t) (waits : Waits t e) (step : t.step e = some u) :
    Files s u (filed ++ s.answeredDocs true [e]) (refused ++ s.answeredDocs false [e]) := by
  obtain ⟨time, event⟩ := e
  cases event with
  | frame =>
    rw [step_frame_iff step]
    simp only [App.answeredDocs, List.filterMap_cons_none, List.filterMap_nil, List.append_nil]
    exact ⟨files.orders, files.accounted, files.cart⟩
  | answer id outcome =>
    obtain ⟨call, turn, member, rfl, _, resumed, rfl⟩ := App.step_answered step
    have left : App.pendingDocs (((({ t with now := time } : App).settle call.id).commit call.point
        outcome).after turn) =
        ((t.pending.filter fun other => other.id != call.id).filterMap Call.order?).map Prod.snd := by
      simp [App.pendingDocs, App.settle, resumed.started_order rfl]
    have before := ((settle_perm wf'.callNames member).filterMap Call.order?).map Prod.snd
    have cart := resumed.cart
    rw [answeredDocs_answer, answeredDocs_answer, awaited.orderOf wf member]
    rcases (({ t with now := time } : App).settle call.id).commit_orders call.point outcome with
      ⟨doc, point, ok, recorded⟩ | ⟨unrecorded, same⟩
    · have order : call.order? = some (call.id, doc) := order?_eq_some_iff.mpr ⟨rfl, point⟩
      rw [List.filterMap_cons_some order, List.map_cons, ← left] at before
      simp only [ok, order, if_true, Option.map_some, Option.toList_some, Bool.true_eq_false,
        if_false, List.append_nil]
      refine ⟨?_, (accounted_filed before).trans files.accounted, ?_⟩
      · rw [App.after_orders, recorded, App.settle_orders, ← List.append_assoc, ← files.orders]
      · simpa [point, ok, Await.isOrder] using cart
    · rw [if_neg unrecorded] at cart
      have unfiled : s.orders ++ filed = App.orders _ := files.orders.symm.trans same.symm
      cases order : call.order? with
      | none =>
        rw [List.filterMap_cons_none order, ← left] at before
        simp only [Option.map_none, Option.toList_none, ite_self, List.append_nil]
        exact ⟨unfiled.symm, (before.append_left _).trans files.accounted, cart.trans files.cart⟩
      | some entry =>
        obtain ⟨_, point⟩ := order?_eq_some_iff.mp order
        have failed : outcome.succeeded = false := by
          simpa [point, Await.isOrder] using unrecorded
        rw [List.filterMap_cons_some order, List.map_cons, ← left] at before
        simp only [failed, Option.map_some, Option.toList_some, Bool.false_eq_true, if_false, if_true,
          List.append_nil]
        exact ⟨unfiled.symm, (accounted_refused before).trans files.accounted, cart.trans files.cart⟩
  | _ => cases waits

/-- From every state the app can reach, while the user does nothing: the orders that are filed are
those whose calls are answered with success, in the order of the answers; each order that was pending
is filed, refused or still pending, exactly once; and the cart is as it was until the first of them
clears it. -/
theorem waiting_files_pending_orders {currentUser : Option Uid} {orders : List OrderDoc}
    {es waiting : List Timed} {s t : App}
    (run : app.Run Machine.Free (App.init currentUser orders) es s) (wait : app.Run Waits s waiting t) :
    Files s t (s.answeredDocs true waiting) (s.answeredDocs false waiting) ∧
      (s.pendingDocs.map OrderDoc.orderDate).Nodup := by
  have wf := wellFormed_of_run run
  constructor
  · have invariant : s.now ≤ t.now ∧ WellFormed t ∧ Awaited s t ∧
        Files s t (s.answeredDocs true waiting) (s.answeredDocs false waiting) := by
      induction wait with
      | nil =>
        refine ⟨le_rfl, wf, fun call member => .inl member, ?_, .refl _, rfl⟩
        exact (List.append_nil _).symm
      | @snoc es e t u _ waits step ih =>
        obtain ⟨past, wf', awaited, files⟩ := ih
        have later : t.now < u.now := by
          rw [App.step_now step]
          exact (App.step_cases step).1
        refine ⟨past.trans later.le, wf'.step step, awaited.step past waits step, ?_⟩
        simpa [App.answeredDocs] using files.step wf wf' awaited waits step
    exact invariant.2.2.2
  -- the pending orders are dated apart
  · obtain ⟨book, booked⟩ : ∃ book, bookedApp.Run (fun p e => Machine.Free p.1 e)
        (App.init currentUser orders, {}) es (s, book) := run.observed ({} : Book)
    have pending : s.pendingDocs = book.inFlight.map Attempt.doc := by
      rw [App.pendingDocs, ← (tracks_of_run booked).2.inFlight, List.map_map]
      rfl
    rw [pending, List.map_map]
    exact (stamped_of_run booked).dates.sublist ((List.sublist_append_left _ _).map _)

end Waiting

/-- Two orders are pending; one is filed, the other fails. -/
theorem one_of_two_orders_filed : ∃ s t, app.Run Machine.Free (App.init none [])
      (schedule [.splashTimeout, .tapLogin, .answer 2 (.success (.user "A")), .tapProduct tomato,
        .tapAddToCart, .tapNav 2, .tapProceed, .tapConfirm, .tapConfirm]) s ∧
    app.Run Waits s [⟨10, .answer 9 (.success .done)⟩, ⟨11, .answer 8 .exception⟩] t ∧
    s.pendingDocs.length = 2 ∧ s.orderOf 9 ≠ none ∧ t.orders = (s.orderOf 9).toList ∧
    t.globalCart = [] := by
  obtain ⟨s, run, ends⟩ := Machine.exists_run_of_exec app Machine.Free (App.init none [])
    (schedule [.splashTimeout, .tapLogin, .answer 2 (.success (.user "A")), .tapProduct tomato,
      .tapAddToCart, .tapNav 2, .tapProceed, .tapConfirm, .tapConfirm])
    (fun s => s.orders == [] && s.pendingDocs.length == 2 && s.orderOf 9 != none &&
      (s.step ⟨10, .answer 9 (.success .done)⟩).any fun between =>
        (between.step ⟨11, .answer 8 .exception⟩).isSome) (by decide +kernel)
  simp only [Bool.and_eq_true, beq_iff_eq, bne_iff_ne, Option.any_eq_true,
    Option.isSome_iff_exists] at ends
  obtain ⟨⟨⟨none_yet, two⟩, known⟩, between, first, t, second⟩ := ends
  have wait : app.Run Waits s [⟨10, .answer 9 (.success .done)⟩, ⟨11, .answer 8 .exception⟩] t :=
    .cons rfl first (.single rfl second)
  have files := (waiting_files_pending_orders run wait).1
  have one : s.answeredDocs true [⟨10, .answer 9 (.success .done)⟩, ⟨11, .answer 8 .exception⟩] =
      (s.orderOf 9).toList := by
    cases order : s.orderOf 9 <;> simp [App.answeredDocs, Outcome.succeeded, order]
  have all := files.orders
  rw [none_yet, List.nil_append, one] at all
  have cart := files.cart
  rw [one, if_neg (by simpa using known)] at cart
  exact ⟨s, t, run, wait, two, known, all, cart⟩

end CartX
