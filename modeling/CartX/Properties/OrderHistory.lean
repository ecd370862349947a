import CartX.Model.Listings
import CartX.Properties.OrderBook

/-!
# The order history

`_placeOrder` files an order under the uid of the session it begins in, and under
`"unknown"` where there is none; `MyOrdersPage` looks for the uid of its own session,
and for `""` where there is none. The two agree for every signed-in user, whenever
the order is recorded and whoever is signed in by then. An order begun with nobody
signed in is listed for nobody.
-/

namespace CartX

/-- A uid is neither of the texts that stand for a missing user. -/
def RealUser (user : Option Uid) : Prop := user ≠ some "" ∧ user ≠ some "unknown"

instance (user : Option Uid) : Decidable (RealUser user) := inferInstanceAs (Decidable (_ ∧ _))

/-- The uid Firebase answers a sign-in or a signup with. -/
def Event.uid : Event → Option Uid
  | .answer _ (.success (.user uid)) => some uid
  | _ => none

/-- Firebase signs in real uids only. -/
def RealUids (_ : App × Book) (e : Timed) : Prop := ∀ uid ∈ e.event.uid, RealUser (some uid)

instance (p : App × Book) (e : Timed) : Decidable (RealUids p e) :=
  inferInstanceAs (Decidable (∀ uid ∈ _, _))

/-- An order with the session its `_placeOrder` call began in. -/
abbrev Filed := Option Uid × OrderDoc

structure Filed.Submitted (order : Filed) : Prop where
  real : RealUser order.1
  buyer : order.2.buyerId = order.1.getD "unknown"

/-- The recorded orders: those from before, then the book's. -/
def Book.filed (earlier : List Filed) (book : Book) : List Filed :=
  earlier ++ book.recorded.map fun attempt => (attempt.user, attempt.doc)

/-- The history opened in the session `viewer` lists exactly the orders begun in that session, each
with the amount, date and summary it was submitted with. -/
structure ListsOwn (viewer : Option Uid) (orders : List OrderDoc) (filed : List Filed) : Prop where
  docs : (myOrders viewer orders).Perm
    ((filed.filter fun order => decide (order.1 = viewer)).map Prod.snd)
  rows : (orderRows viewer orders).Perm
    ((filed.filter fun order => decide (order.1 = viewer)).map fun order =>
      ⟨order.2.amount, order.2.orderDate, order.2.itemSummary⟩)

/-! ### Writer and reader -/

theorem ListsOwn.of_eq {viewer : Option Uid} {orders : List OrderDoc} {filed : List Filed}
    (same : myOrders viewer orders =
      (filed.filter fun order => decide (order.1 = viewer)).map Prod.snd) :
    ListsOwn viewer orders filed := by
  constructor
  · rw [same]
  · rw [orderRows, same, List.map_map]
    exact List.Perm.of_eq rfl

/-- A signed-in viewer's key is the key of the orders begun by that user, and of no others. -/
theorem myOrders_signedIn {uid : Uid} (viewer : RealUser (some uid)) {filed : List Filed}
    (submitted : ∀ order ∈ filed, order.Submitted) :
    myOrders (some uid) (filed.map Prod.snd) =
      (filed.filter fun order => decide (order.1 = some uid)).map Prod.snd := by
  rw [myOrders, List.filter_map]
  congr 1
  apply List.filter_congr
  intro order member
  obtain ⟨user, doc⟩ := order
  have buyer := (submitted _ member).buyer
  dsimp only at buyer
  cases user with
  | some other => simp [OrderDoc.data, buyer, beq_eq_decide]
  -- the key "unknown" is nobody's uid
  | none =>
    have apart : ¬ "unknown" = uid := fun same => viewer.2 (by rw [same])
    simp [OrderDoc.data, buyer, apart]

/-- Nobody's key is the key of no order. -/
theorem myOrders_signedOut {filed : List Filed} (submitted : ∀ order ∈ filed, order.Submitted) :
    myOrders none (filed.map Prod.snd) = [] := by
  rw [myOrders, List.filter_eq_nil_iff]
  intro doc member
  obtain ⟨⟨user, doc⟩, listed, rfl⟩ := List.mem_map.mp member
  have buyer := (submitted _ listed).buyer
  have real := (submitted _ listed).real
  dsimp only at buyer real
  cases user with
  | some other =>
    have apart : other ≠ "" := fun same => real.1 (by rw [same])
    simp [OrderDoc.data, buyer, apart]
  -- written under "unknown", asked for under ""
  | none => simp [OrderDoc.data, buyer]

theorem listsOwn_iff {viewer : Option Uid} (real : RealUser viewer) {filed : List Filed}
    (submitted : ∀ order ∈ filed, order.Submitted) :
    ListsOwn viewer (filed.map Prod.snd) filed ↔
      (viewer = none → ∀ order ∈ filed, order.1 ≠ none) := by
  cases viewer with
  | some uid => exact iff_of_true (.of_eq (myOrders_signedIn real submitted)) (by simp)
  | none =>
    constructor
    -- an order begun by nobody is missing from the empty list
    · intro lists _ order member begun
      have docs := lists.docs
      rw [myOrders_signedOut submitted, List.nil_perm, List.map_eq_nil_iff, List.filter_eq_nil_iff] at docs
      exact docs order member (by simp [begun])
    · intro begun
      apply ListsOwn.of_eq
      rw [myOrders_signedOut submitted, List.filter_eq_nil_iff.mpr, List.map_nil]
      intro order member
      simpa using begun rfl order member

/-! ### Sessions over a run -/

/-- The session and the orders of a run in which only real uids sign in. -/
structure Sessions (p : App × Book) : Prop where
  current : RealUser p.1.currentUser
  attempts : ∀ attempt, attempt ∈ p.2.inFlight ∨ attempt ∈ p.2.recorded →
    Filed.Submitted (attempt.user, attempt.doc)

theorem step_currentUser_real {s s' : App} {book : Book} {e : Timed} (current : RealUser s.currentUser)
    (guard : RealUids (s, book) e) (step : s.step e = some s') : RealUser s'.currentUser := by
  obtain ⟨_, moved⟩ := App.step_cases step
  obtain ⟨time, event⟩ := e
  cases moved with
  | frame | back | tap => exact current
  | answer call outcome =>
    rw [App.after_currentUser]
    -- a sign-in or a new account brings its uid, a sign-out brings none
    unfold App.commit
    split
    · exact guard _ rfl
    · exact guard _ rfl
    · exact ⟨by simp, by simp⟩
    · exact current
    · exact current

theorem placeOrder_submitted {currentUser : Option Uid} (real : RealUser currentUser)
    (globalCart : Cart) (totalAmount : ℚ) (now : Nat) :
    Filed.Submitted (currentUser, placeOrder currentUser globalCart totalAmount now) :=
  ⟨real, rfl⟩

/-- An attempt in the book was there before or has just begun. -/
theorem Book.mem_step {book : Book} {event : BookEvent} {attempt : Attempt}
    (member : attempt ∈ (book.step event).inFlight ∨ attempt ∈ (book.step event).recorded) :
    (attempt ∈ book.inFlight ∨ attempt ∈ book.recorded) ∨
      event = .begin attempt.call attempt.user attempt.doc := by
  cases event with
  | add | other => exact .inl member
  | delete index =>
    simp only [Book.step, Book.delete] at member
    split at member
    · exact .inl member
    · exact .inl member
  | begin call user doc =>
    rcases member with flying | old
    · rcases List.mem_cons.mp flying with rfl | old
      · exact .inr rfl
      · exact .inl (.inl old)
    · exact .inl (.inr old)
  -- a settled order leaves the orders in flight, and is recorded if it succeeded
  | settle call recorded =>
    simp only [Book.step, Book.settle] at member
    split at member
    next settled found =>
      have flew : settled ∈ book.inFlight := List.mem_of_find?_eq_some found
      split at member
      · rcases member with flying | done
        · exact .inl (.inl (List.mem_of_mem_filter flying))
        · rcases List.mem_append.mp done with old | new
          · exact .inl (.inr old)
          · rw [List.mem_singleton] at new
            exact .inl (.inl (new ▸ flew))
      · exact .inl (member.imp_left List.mem_of_mem_filter)
    · exact .inl member

theorem Sessions.step {p q : App × Book} {e : Timed} (sessions : Sessions p) (guard : RealUids p e)
    (step : bookedApp.step p e = some q) : Sessions q := by
  obtain ⟨moved, entered⟩ := Machine.observe_step_iff.mp step
  refine ⟨step_currentUser_real sessions.current guard moved, fun attempt member => ?_⟩
  rw [entered] at member
  rcases Book.mem_step member with old | begun
  · exact sessions.attempts attempt old
  · obtain ⟨_, user, totalAmount, doc⟩ := bookEvent_eq_begin begun
    rw [user, doc]
    exact placeOrder_submitted sessions.current _ _ _

/-! ### The result -/

/-- Whatever the sessions and orders of a run, the history opened in a session lists exactly the
recorded orders begun in it, unless nobody is signed in and some recorded order was begun with
nobody signed in. -/
theorem order_history_iff {currentUser : Option Uid} {earlier : List Filed} {es : List Timed}
    {s : App} {book : Book} (real : RealUser currentUser)
    (submitted : ∀ order ∈ earlier, order.Submitted)
    (run : bookedApp.Run RealUids (App.init currentUser (earlier.map Prod.snd), {}) es (s, book))
    {viewer : Option Uid} (session : RealUser viewer) :
    ListsOwn viewer s.orders (book.filed earlier) ↔
      (viewer = none → ∀ order ∈ book.filed earlier, order.1 ≠ none) := by
  have sessions : Sessions (s, book) := run.invariant (I := Sessions) ⟨real, by simp⟩
    fun _ _ _ sessions guard step => sessions.step guard step
  have stored : s.orders = (book.filed earlier).map Prod.snd := by
    rw [(tracks_of_run run).2.recorded, Book.filed, List.map_append, List.map_map]
    rfl
  rw [stored]
  refine listsOwn_iff session fun order member => ?_
  rcases List.mem_append.mp member with old | new
  · exact submitted order old
  · obtain ⟨attempt, recorded, rfl⟩ := List.mem_map.mp new
    exact sessions.attempts attempt (.inr recorded)

/-- A's order is recorded after A has logged out; it is listed for A, and not for B. -/
theorem order_history_recorded_late : ∃ s book, bookedApp.Run RealUids (App.init none [], {})
    (schedule [.splashTimeout, .tapLogin, .answer 2 (.success (.user "A")), .tapProduct tomato,
      .tapAddToCart, .tapNav 2, .tapProceed, .tapConfirm, .back, .tapNav 3, .tapLogout,
      .answer 11 (.success .done), .answer 8 (.success .done)]) (s, book) ∧
    s.orders ≠ [] ∧ ListsOwn (some "A") s.orders (book.filed []) ∧
    ListsOwn (some "B") s.orders (book.filed []) := by
  obtain ⟨⟨s, book⟩, run, recorded⟩ := Machine.exists_run_of_exec bookedApp RealUids
    (App.init none [], {})
    (schedule [.splashTimeout, .tapLogin, .answer 2 (.success (.user "A")), .tapProduct tomato,
      .tapAddToCart, .tapNav 2, .tapProceed, .tapConfirm, .back, .tapNav 3, .tapLogout,
      .answer 11 (.success .done), .answer 8 (.success .done)])
    (fun p => p.1.orders != [] && p.1.currentUser == none) (by decide +kernel)
  simp only [Bool.and_eq_true, bne_iff_ne] at recorded
  refine ⟨s, book, run, recorded.1, ?_, ?_⟩
  · exact (order_history_iff (by decide) (by simp) run (by decide)).mpr (by simp)
  · exact (order_history_iff (by decide) (by simp) run (by decide)).mpr (by simp)

/-- Logged out in the shop, somebody orders and opens the history: it is empty. -/
theorem signed_out_order_is_not_listed :
    ¬ ∀ (currentUser : Option Uid) (es : List Timed) (s : App) (book : Book), RealUser currentUser →
      bookedApp.Run RealUids (App.init currentUser [], {}) es (s, book) →
      ListsOwn s.currentUser s.orders (book.filed []) := by
  intro all
  obtain ⟨⟨s, book⟩, run, opened⟩ := Machine.exists_run_of_exec bookedApp RealUids
    (App.init none [], {})
    (schedule [.splashTimeout, .tapLogin, .answer 2 (.success (.user "A")), .tapNav 3, .tapLogout,
      .tapNav 0, .answer 5 (.success .done), .tapProduct tomato, .tapAddToCart, .tapNav 2,
      .tapProceed, .tapConfirm, .answer 12 (.success .done), .tapBackToHome, .tapNav 3,
      .tapMenu .myOrders])
    (fun p => p.1.currentUser == none && (p.1.stack.map Route.page).head? == some .myOrders &&
      (myOrders none p.1.orders).isEmpty && p.2.recorded.any fun attempt => attempt.user == none)
    (by decide +kernel)
  simp only [Bool.and_eq_true, beq_iff_eq, List.isEmpty_iff, List.any_eq_true] at opened
  obtain ⟨⟨⟨nobody, _⟩, empty⟩, attempt, recorded, begun⟩ := opened
  have docs := (all none _ s book (by decide) run).docs
  rw [nobody, empty, List.nil_perm, List.map_eq_nil_iff, List.filter_eq_nil_iff] at docs
  exact docs (attempt.user, attempt.doc)
    (List.mem_append_right _ (List.mem_map.mpr ⟨attempt, recorded, rfl⟩)) (by simp [begun])

end CartX
