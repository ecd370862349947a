import CartX.Model.Signup
import Mathlib.Data.List.Perm.Basic

/-!
# Accounts and their documents

When no `_signup` is pending, the accounts and documents should be those of the
attempts that succeeded and nothing else. They are, exactly when every `set` of a
`users` document succeeded and the form was, each time an account was created,
still the submitted one (`signup_all_or_nothing_iff`): there is no undoing of an
account whose document could not be written, and the document is taken from the
form after the first request, not at the tap.
-/

namespace CartX

/-- The document holds the attempt's uid and the submitted form's fields. -/
def SignupRecord.Wrote (r : SignupRecord) (doc : UserDoc) : Prop :=
  ∃ now, doc = r.submitted.userDoc r.uid now

def SignupRecord.account (r : SignupRecord) : Account := r.submitted.account r.uid

/-- The store is the one at the start together with what the attempts `done` make of it. -/
structure AllOrNothing (start store : Store) (done : List SignupRecord) : Prop where
  accounts : store.accounts.Perm (start.accounts ++ done.map SignupRecord.account)
  documents : ∀ r ∈ done, ∃ doc, store.users r.uid = some doc ∧ r.Wrote doc
  untouched : ∀ uid, uid ∉ done.map SignupRecord.uid → store.users uid = start.users uid

/-- The document made of either form is the same. -/
def SignupForm.SameFields (form other : SignupForm) : Prop :=
  trim form.name = trim other.name ∧ trim form.phone = trim other.phone ∧
    trim form.address = trim other.address ∧ trim form.email = trim other.email

instance (form other : SignupForm) : Decidable (form.SameFields other) :=
  inferInstanceAs (Decidable (_ ∧ _ ∧ _ ∧ _))

/-- Of the answer to a call: a `set` does not fail, and an account is created only while its page's
form has the submitted fields. -/
def SignupCall.Completes (call : SignupCall) (form : SignupForm) (outcome : Outcome) : Prop :=
  match call.stage with
  | .creating => outcome.succeeded = true → form.SameFields call.submitted
  | .writing _ _ => outcome.succeeded = true

instance : (call : SignupCall) → (form : SignupForm) → (outcome : Outcome) →
    Decidable (call.Completes form outcome)
  | ⟨_, _, .creating⟩, _, _ => inferInstanceAs (Decidable (_ → _))
  | ⟨_, _, .writing _ _⟩, _, _ => inferInstanceAs (Decidable (_ = _))

def Completes (p : Signup × List SignupRecord) : SignupEvent → Prop
  | .answer index _ outcome =>
    ∀ call ∈ p.1.calls[index]?, ∀ page ∈ p.1.pages[call.page]?, call.Completes page.form outcome
  | _ => True

instance : (p : Signup × List SignupRecord) → (e : SignupEvent) → Decidable (Completes p e)
  | _, .answer _ _ _ => inferInstanceAs (Decidable (∀ call ∈ _, ∀ page ∈ _, _))
  | _, .opens | _, .edit _ _ | _, .tapGetStarted _ | _, .leave _ => inferInstanceAs (Decidable True)

theorem SignupForm.wrote_iff {form : SignupForm} {r : SignupRecord} {now : Nat} :
    r.Wrote (form.userDoc r.uid now) ↔ form.SameFields r.submitted := by
  constructor
  · rintro ⟨now', same⟩
    simp only [SignupForm.userDoc, UserDoc.mk.injEq, true_and] at same
    exact ⟨same.1, same.2.1, same.2.2.1, same.2.2.2.1⟩
  · rintro ⟨name, phone, address, email⟩
    exact ⟨now, by simp only [SignupForm.userDoc, name, phone, address, email]⟩

/-! ### What a step can do -/

/-- The pending `set` of a call, with the attempt it belongs to. -/
def SignupCall.write? (call : SignupCall) : Option (SignupRecord × UserDoc) :=
  match call.stage with
  | .creating => none
  | .writing uid doc => some (⟨uid, call.submitted⟩, doc)

namespace Signup

variable {s : Signup}

def writing (s : Signup) : List (SignupRecord × UserDoc) := s.calls.filterMap SignupCall.write?

@[simp] theorem perform_store (effects : List Effect) : (s.perform effects).store = s.store := by
  fun_induction perform s effects <;> simp_all

@[simp] theorem perform_calls (effects : List Effect) : (s.perform effects).calls = s.calls := by
  fun_induction perform s effects <;> simp_all

@[simp] theorem perform_writing (effects : List Effect) :
    (s.perform effects).writing = s.writing := by
  simp [writing]

theorem writing_split {index : Nat} {call : SignupCall} (found : s.calls[index]? = some call) :
    ∃ front back, s.writing = front ++ (call.write?.toList ++ back) ∧
      (s.calls.eraseIdx index).filterMap SignupCall.write? = front ++ back ∧
      ∀ other : SignupCall, (s.calls.set index other).filterMap SignupCall.write? =
        front ++ (other.write?.toList ++ back) := by
  obtain ⟨inside, rfl⟩ := List.getElem?_eq_some_iff.mp found
  have split (call : SignupCall) (front back : List SignupCall) :
      (front ++ call :: back).filterMap SignupCall.write? =
        front.filterMap SignupCall.write? ++
          (call.write?.toList ++ back.filterMap SignupCall.write?) := by
    cases here : call.write? <;> simp [here]
  refine ⟨(s.calls.take index).filterMap SignupCall.write?,
    (s.calls.drop (index + 1)).filterMap SignupCall.write?, ?_, ?_, fun other => ?_⟩
  · rw [← split, List.getElem_cons_drop, List.take_append_drop, writing]
  · rw [List.eraseIdx_eq_take_drop_succ, List.filterMap_append]
  · rw [← split, List.set_eq_take_append_cons_drop, if_pos inside]

/-- What a step makes of the store, the pending `set`s and the attempts done. -/
inductive Change (p : Signup × List SignupRecord) (e : SignupEvent)
    (q : Signup × List SignupRecord) : Prop
  | silent (store : q.1.store = p.1.store) (writing : q.1.writing = p.1.writing)
      (done : q.2 = p.2) (completes : Completes p e)
  | created (r : SignupRecord) (doc : UserDoc) (front back : List (SignupRecord × UserDoc))
      (before : p.1.writing = front ++ back) (after : q.1.writing = front ++ (r, doc) :: back)
      (new : r.uid ∉ p.1.store.accounts.map Account.uid)
      (store : q.1.store = p.1.store.create r.account) (done : q.2 = p.2)
      (completes : Completes p e ↔ r.Wrote doc)
  | recorded (r : SignupRecord) (doc : UserDoc) (front back : List (SignupRecord × UserDoc))
      (before : p.1.writing = front ++ (r, doc) :: back) (after : q.1.writing = front ++ back)
      (store : q.1.store = p.1.store.set r.uid doc) (done : q.2 = p.2 ++ [r])
      (completes : Completes p e)
  | lost (r : SignupRecord) (doc : UserDoc) (front back : List (SignupRecord × UserDoc))
      (before : p.1.writing = front ++ (r, doc) :: back) (after : q.1.writing = front ++ back)
      (store : q.1.store = p.1.store) (done : q.2 = p.2) (incomplete : ¬ Completes p e)

theorem settle_change {t : Signup} {done : List SignupRecord} {index now : Nat} {call : SignupCall}
    {page : SignupPage} {outcome : Outcome} (called : s.calls[index]? = some call)
    (opened : s.pages[call.page]? = some page)
    (settled : s.settle index call page now outcome = some t) :
    Change (s, done) (.answer index now outcome)
      (t, noteSuccess s (.answer index now outcome) t done) := by
  obtain ⟨number, submitted, stage⟩ := call
  obtain ⟨front, back, before, erased, replaced⟩ := writing_split called
  have completes : Completes (s, done) (.answer index now outcome) ↔
      SignupCall.Completes ⟨number, submitted, stage⟩ page.form outcome := by
    simp [Completes, called, opened]
  -- the call waits for its account or for its document
  cases stage with
  | creating =>
    cases outcome with
    | success response =>
      cases response with
      | user uid =>
        simp only [settle] at settled
        split at settled
        next admitted =>
          cases settled
          -- the answer completes the attempt if the form still has the submitted fields
          refine .created ⟨uid, submitted⟩ (page.form.userDoc uid now) front back before
            (replaced _) ?_ rfl rfl ?_
          · simp only [Store.admits, List.all_eq_true, Bool.and_eq_true, bne_iff_ne] at admitted
            simp only [List.mem_map, not_exists, not_and]
            exact fun account member => (admitted account member).2
          · rw [completes, SignupForm.wrote_iff (r := ⟨uid, submitted⟩)]
            simp [SignupCall.Completes, Outcome.succeeded]
        · cases settled
      | done => cases settled
      | wish _ => cases settled
      | profile _ => cases settled
    | authException message =>
      cases settled
      exact .silent (by simp) (by rw [perform_writing]; exact erased.trans before.symm) rfl
        (completes.mpr nofun)
    | exception =>
      cases settled
      exact .silent (by simp) (by rw [perform_writing]; exact erased.trans before.symm) rfl
        (completes.mpr nofun)
  | writing uid doc =>
    cases outcome with
    | success response =>
      cases response with
      | done =>
        cases settled
        refine .recorded ⟨uid, submitted⟩ doc front back before
          (by rw [perform_writing]; exact erased) (by simp) ?_ (completes.mpr rfl)
        simp [noteSuccess, called]
      | user _ => cases settled
      | wish _ => cases settled
      | profile _ => cases settled
    | authException message =>
      cases settled
      exact .lost ⟨uid, submitted⟩ doc front back before (by rw [perform_writing]; exact erased)
        (by simp) rfl (completes.not.mpr nofun)
    | exception =>
      cases settled
      exact .lost ⟨uid, submitted⟩ doc front back before (by rw [perform_writing]; exact erased)
        (by simp) rfl (completes.not.mpr nofun)

theorem step_change {t : Signup} {e : SignupEvent} (done : List SignupRecord)
    (step : s.step e = some t) : Change (s, done) e (t, noteSuccess s e t done) := by
  cases e with
  | opens =>
    simp only [Signup.step] at step
    split at step
    · cases step
    · cases step; exact .silent rfl rfl rfl trivial
  | edit page form =>
    simp only [Signup.step] at step
    split at step
    · cases step; exact .silent rfl rfl rfl trivial
    · cases step
  -- a new call has nothing to write yet
  | tapGetStarted page =>
    simp only [Signup.step] at step
    split at step
    · cases step
      exact .silent rfl (by simp [writing, SignupCall.write?]) rfl trivial
    · cases step
  | leave page =>
    simp only [Signup.step] at step
    split at step
    · cases step; exact .silent rfl rfl rfl trivial
    · cases step
  | answer index now outcome =>
    simp only [Signup.step, Option.bind_eq_bind, Option.bind_eq_some_iff] at step
    obtain ⟨call, called, page, opened, settled⟩ := step
    exact settle_change called opened settled

end Signup

open Signup

theorem signup_change {p q : Signup × List SignupRecord} {e : SignupEvent}
    (step : signup.step p e = some q) : Change p e q := by
  obtain ⟨moved, noted⟩ := Machine.observe_step_iff.mp step
  have change := step_change p.2 moved
  rwa [← noted] at change

/-! ### Attempts and accounts -/

/-- The attempts that have an account and are not known to have failed. -/
def attempts (p : Signup × List SignupRecord) : List SignupRecord :=
  p.1.writing.map Prod.fst ++ p.2

/-- What every run keeps: the accounts are those of the start, of the attempts, and of attempts
that failed after their account was created. -/
structure Accounted (start : Store) (p : Signup × List SignupRecord) : Prop where
  accounts : ∃ lost, p.1.store.accounts.Perm
    (start.accounts ++ ((attempts p).map SignupRecord.account ++ lost))
  distinct : ((attempts p).map SignupRecord.uid).Nodup
  untouched : ∀ uid, uid ∉ p.2.map SignupRecord.uid → p.1.store.users uid = start.users uid

/-- No attempt has failed after its account was created, and every document written or about to be
is the submitted one. -/
structure Complete (start : Store) (p : Signup × List SignupRecord) : Prop where
  accounts : p.1.store.accounts.Perm (start.accounts ++ (attempts p).map SignupRecord.account)
  pending : ∀ w ∈ p.1.writing, w.1.Wrote w.2
  documents : ∀ r ∈ p.2, ∃ doc, p.1.store.users r.uid = some doc ∧ r.Wrote doc

section Attempts

variable {start : Store} {p q : Signup × List SignupRecord} {e : SignupEvent}

theorem attempts_middle {r : SignupRecord} {doc : UserDoc}
    {front back : List (SignupRecord × UserDoc)} (shape : p.1.writing = front ++ (r, doc) :: back) :
    (attempts p).Perm (r :: ((front ++ back).map Prod.fst ++ p.2)) := by
  rw [attempts, shape]
  simp only [List.map_append, List.map_cons, List.append_assoc, List.cons_append]
  exact List.perm_middle

theorem wrote_middle {r : SignupRecord} {doc : UserDoc}
    {front back : List (SignupRecord × UserDoc)} (shape : p.1.writing = front ++ (r, doc) :: back) :
    (∀ w ∈ p.1.writing, w.1.Wrote w.2) ↔
      (∀ w ∈ front ++ back, w.1.Wrote w.2) ∧ r.Wrote doc := by
  rw [shape, List.forall_mem_append, List.forall_mem_cons, List.forall_mem_append]
  tauto

theorem attempts_created {r : SignupRecord} {doc : UserDoc}
    {front back : List (SignupRecord × UserDoc)} (before : p.1.writing = front ++ back)
    (after : q.1.writing = front ++ (r, doc) :: back) (done : q.2 = p.2) :
    (attempts q).Perm (r :: attempts p) := by
  have grown := attempts_middle after
  rwa [← before, done] at grown

theorem attempts_recorded {r : SignupRecord} {doc : UserDoc}
    {front back : List (SignupRecord × UserDoc)}
    (before : p.1.writing = front ++ (r, doc) :: back) (after : q.1.writing = front ++ back)
    (done : q.2 = p.2 ++ [r]) : (attempts q).Perm (attempts p) := by
  refine .trans ?_ (attempts_middle before).symm
  rw [attempts, after, done, ← List.append_assoc]
  exact List.perm_append_singleton r _

theorem attempts_lost {r : SignupRecord} {doc : UserDoc}
    {front back : List (SignupRecord × UserDoc)}
    (before : p.1.writing = front ++ (r, doc) :: back) (after : q.1.writing = front ++ back)
    (done : q.2 = p.2) : (attempts p).Perm (r :: attempts q) :=
  attempts_created after before done.symm

theorem Accounted.has_account (accounted : Accounted start p) {r : SignupRecord}
    (member : r ∈ attempts p) : r.uid ∈ p.1.store.accounts.map Account.uid := by
  obtain ⟨lost, accounts⟩ := accounted.accounts
  have found : r.account ∈ p.1.store.accounts :=
    accounts.mem_iff.mpr (by simp [List.mem_map_of_mem member])
  exact List.mem_map_of_mem (f := Account.uid) found

theorem Accounted.step (accounted : Accounted start p) (change : Change p e q) :
    Accounted start q := by
  obtain ⟨lost, accounts⟩ := accounted.accounts
  cases change with
  | silent store writing done completes =>
    have same : attempts q = attempts p := by rw [attempts, attempts, writing, done]
    exact ⟨⟨lost, by rwa [store, same]⟩, by rw [same]; exact accounted.distinct,
      by rw [store, done]; exact accounted.untouched⟩
  -- the new attempt's uid is nobody's yet
  | created r doc front back before after new store done completes =>
    have grown := attempts_created before after done
    refine ⟨⟨lost, ?_⟩, ?_, by rw [store, done]; exact accounted.untouched⟩
    · rw [store, Store.create]
      have := grown.map SignupRecord.account
      grind
    · refine (grown.map _).nodup_iff.mpr (List.nodup_cons.mpr ⟨fun member => ?_, accounted.distinct⟩)
      obtain ⟨other, member, same⟩ := List.mem_map.mp member
      exact new (same ▸ accounted.has_account member)
  -- the attempt moves from the pending to the done ones
  | recorded r doc front back before after store done completes =>
    have same := attempts_recorded before after done
    refine ⟨⟨lost, ?_⟩, (same.map _).nodup_iff.mpr accounted.distinct, fun uid absent => ?_⟩
    · rw [store, Store.set]
      have := same.map SignupRecord.account
      grind
    · rw [done, List.map_append, List.mem_append, not_or] at absent
      have other : uid ≠ r.uid := by simpa using absent.2
      rw [store]
      exact (Function.update_of_ne other _ _).trans (accounted.untouched uid absent.1)
  -- its account stays, without an attempt
  | lost r doc front back before after store done incomplete =>
    have shrunk := attempts_lost before after done
    refine ⟨⟨r.account :: lost, ?_⟩, ?_, by rw [store, done]; exact accounted.untouched⟩
    · rw [store]
      have := shrunk.map SignupRecord.account
      grind
    · exact ((shrunk.map _).nodup_iff.mp accounted.distinct).of_cons

/-- A step ends complete exactly when it starts so and the answer it brings, if any, completes. -/
theorem Accounted.complete_iff (accounted : Accounted start p) (change : Change p e q) :
    Complete start q ↔ Complete start p ∧ Completes p e := by
  cases change with
  | silent store writing done completes =>
    have same : attempts q = attempts p := by rw [attempts, attempts, writing, done]
    constructor
    · rintro ⟨accounts, pending, documents⟩
      rw [store, same] at accounts
      rw [writing] at pending
      rw [store, done] at documents
      exact ⟨⟨accounts, pending, documents⟩, completes⟩
    · rintro ⟨⟨accounts, pending, documents⟩, _⟩
      exact ⟨by rwa [store, same], by rwa [writing], by rwa [store, done]⟩
  | created r doc front back before after new store done completes =>
    have grown := (attempts_created before after done).map SignupRecord.account
    -- one account and one attempt more on either side
    have accounts_iff : q.1.store.accounts.Perm
        (start.accounts ++ (attempts q).map SignupRecord.account) ↔
        p.1.store.accounts.Perm (start.accounts ++ (attempts p).map SignupRecord.account) := by
      rw [store, Store.create]
      refine Iff.trans ?_ (List.perm_cons r.account)
      have left := List.perm_append_singleton r.account p.1.store.accounts
      have right : (start.accounts ++ (attempts q).map SignupRecord.account).Perm
          (r.account :: (start.accounts ++ (attempts p).map SignupRecord.account)) :=
        (grown.append_left _).trans List.perm_middle
      exact ⟨fun perm => left.symm.trans (perm.trans right),
        fun perm => left.trans (perm.trans right.symm)⟩
    have pending_iff := wrote_middle after
    rw [← before] at pending_iff
    rw [completes]
    constructor
    · rintro ⟨accounts, pending, documents⟩
      rw [store, done] at documents
      exact ⟨⟨accounts_iff.mp accounts, (pending_iff.mp pending).1, documents⟩,
        (pending_iff.mp pending).2⟩
    · rintro ⟨⟨accounts, pending, documents⟩, wrote⟩
      exact ⟨accounts_iff.mpr accounts, pending_iff.mpr ⟨pending, wrote⟩, by rwa [store, done]⟩
  | recorded r doc front back before after store done completes =>
    have same := (attempts_recorded before after done).map SignupRecord.account
    have pending_iff := wrote_middle before
    rw [← after] at pending_iff
    -- the set touches no other attempt's document
    have other : ∀ r' ∈ p.2, q.1.store.users r'.uid = p.1.store.users r'.uid := by
      intro r' member
      have distinct := ((attempts_middle before).map SignupRecord.uid).nodup_iff.mp accounted.distinct
      have apart : r'.uid ≠ r.uid := fun same => (List.nodup_cons.mp distinct).1
        (same ▸ List.mem_map_of_mem (List.mem_append_right _ member))
      rw [store]
      exact Function.update_of_ne apart _ _
    have here : q.1.store.users r.uid = some doc := by
      rw [store]
      exact Function.update_self _ _ _
    constructor
    · rintro ⟨accounts, pending, documents⟩
      rw [done, List.forall_mem_append] at documents
      obtain ⟨doc', found, wrote⟩ := documents.2 r (List.mem_singleton_self r)
      cases here.symm.trans found
      refine ⟨⟨?_, pending_iff.mpr ⟨pending, wrote⟩, fun r' member => ?_⟩, completes⟩
      · rw [store] at accounts
        exact accounts.trans (same.append_left _)
      · rw [← other r' member]
        exact documents.1 r' member
    · rintro ⟨⟨accounts, pending, documents⟩, _⟩
      refine ⟨?_, (pending_iff.mp pending).1, ?_⟩
      · rw [store]
        exact accounts.trans (same.append_left _).symm
      · rw [done, List.forall_mem_append, List.forall_mem_singleton]
        refine ⟨fun r' member => ?_, doc, here, (pending_iff.mp pending).2⟩
        rw [other r' member]
        exact documents r' member
  | lost r doc front back before after store done incomplete =>
    refine iff_of_false (fun complete => ?_) fun both => incomplete both.2
    -- there is an account too many, now and ever after
    obtain ⟨lost, accounts⟩ := accounted.accounts
    have shrunk := (attempts_lost before after done).length_eq
    have expected := complete.accounts.length_eq
    have found := accounts.length_eq
    rw [store] at expected
    simp only [List.length_append, List.length_map, List.length_cons] at shrunk expected found
    omega

theorem Accounted.init : Accounted start ({ store := start }, []) :=
  ⟨⟨[], by simp [attempts, writing]⟩, by simp [attempts, writing], fun _ _ => rfl⟩

theorem Complete.init : Complete start ({ store := start }, []) :=
  ⟨by simp [attempts, writing], by simp [writing], by simp⟩

/-- With nothing pending, to be complete is all there is to show. -/
theorem Accounted.allOrNothing_iff (accounted : Accounted start p) (quiet : p.1.calls = []) :
    AllOrNothing start p.1.store p.2 ↔ Complete start p := by
  have none_writing : p.1.writing = [] := by rw [writing, quiet, List.filterMap_nil]
  have all_done : attempts p = p.2 := by rw [attempts, none_writing, List.map_nil, List.nil_append]
  constructor
  · rintro ⟨accounts, documents, _⟩
    exact ⟨by rwa [all_done], by simp [none_writing], documents⟩
  · rintro ⟨accounts, _, documents⟩
    exact ⟨by rwa [all_done] at accounts, documents, accounted.untouched⟩

/-- Only the accounts of the start and of the attempts done stand in a new account's way. -/
theorem AllOrNothing.admits_iff {store : Store} {done : List SignupRecord}
    (all : AllOrNothing start store done) (account : Account) :
    store.admits account = true ↔ start.admits account = true ∧
      ∀ r ∈ done, r.account.email ≠ account.email ∧ r.uid ≠ account.uid := by
  have same : store.admits account =
      (start.accounts ++ done.map SignupRecord.account).all
        fun other => other.email != account.email && other.uid != account.uid :=
    all.accounts.all_eq
  rw [same, List.all_append, Bool.and_eq_true, List.all_map]
  refine and_congr_right fun _ => ?_
  simp only [List.all_eq_true, Function.comp_apply, Bool.and_eq_true, bne_iff_ne]
  exact Iff.rfl

end Attempts

/-- Whenever no `_signup` is pending, the accounts and documents are those of the start and of the
attempts that succeeded, exactly when every answer so far let its attempt complete; and then a form
is turned down only for the sake of these accounts. -/
theorem signup_all_or_nothing_iff (start : Store) (es : List SignupEvent)
    (p : Signup × List SignupRecord)
    (run : signup.Run Machine.Free ({ store := start }, []) es p) (quiet : p.1.calls = []) :
    (AllOrNothing start p.1.store p.2 ↔ signup.Run Completes ({ store := start }, []) es p) ∧
    (AllOrNothing start p.1.store p.2 → ∀ (form : SignupForm) (uid : Uid),
      p.1.store.admits (form.account uid) = true ↔ start.admits (form.account uid) = true ∧
        ∀ r ∈ p.2, trim r.submitted.email ≠ trim form.email ∧ r.uid ≠ uid) := by
  refine ⟨?_, fun all form uid => all.admits_iff (form.account uid)⟩
  have keeps (a : Signup × List SignupRecord) (e : SignupEvent) (b : Signup × List SignupRecord)
      (accounted : Accounted start a) (step : signup.step a e = some b) : Accounted start b :=
    accounted.step (signup_change step)
  have accounted : Accounted start p :=
    run.invariant Accounted.init fun a e b ih _ step => keeps a e b ih step
  have guarded : signup.Run Completes ({ store := start }, []) es p ↔
      signup.Run Machine.Free ({ store := start }, []) es p ∧ Complete start p :=
    Machine.Run.guarded_iff_ends Accounted.init Complete.init keeps
      fun _ _ _ accounted step => accounted.complete_iff (signup_change step)
  rw [accounted.allOrNothing_iff quiet, guarded]
  exact (and_iff_right run).symm

/-- A form with blanks around its fields. -/
def sampleForm : SignupForm where
  name := " A "
  phone := "017"
  address := "Dhaka"
  email := "a@cartx.com "
  password := "secret"

/-- Get Started tapped twice: the second call fails, the first one completes. -/
theorem signup_all_or_nothing_twice : ∃ p, signup.Run Completes ({ store := {} }, [])
    [.opens, .edit 0 sampleForm, .tapGetStarted 0, .tapGetStarted 0,
      .answer 0 4 (.success (.user "u")), .answer 1 5 (.authException none),
      .answer 0 6 (.success .done)] p ∧ AllOrNothing {} p.1.store p.2 ∧ p.2.length = 1 := by
  obtain ⟨p, run, ended⟩ := Machine.exists_run_of_exec signup Completes ({ store := {} }, [])
    [.opens, .edit 0 sampleForm, .tapGetStarted 0, .tapGetStarted 0,
      .answer 0 4 (.success (.user "u")), .answer 1 5 (.authException none),
      .answer 0 6 (.success .done)] (fun p => p.1.calls == [] && p.2.length == 1)
    (by decide +kernel)
  simp only [Bool.and_eq_true, beq_iff_eq] at ended
  exact ⟨p, run, (signup_all_or_nothing_iff {} _ p run.free ended.1).1.mpr run, ended.2⟩

/-- The `set` fails after the account was created: the account stays, and takes the email. -/
theorem failed_set_leaves_account :
    ¬ ∀ (start : Store) (es : List SignupEvent) (p : Signup × List SignupRecord),
      signup.Run Machine.Free ({ store := start }, []) es p → p.1.calls = [] →
        AllOrNothing start p.1.store p.2 := by
  intro all
  obtain ⟨p, run, ended⟩ := Machine.exists_run_of_exec signup Machine.Free ({ store := {} }, [])
    [.opens, .edit 0 sampleForm, .tapGetStarted 0, .answer 0 3 (.success (.user "u")),
      .answer 0 4 .exception]
    (fun p => p.1.calls == [] && p.2 == [] && p.1.store.accounts.length == 1) (by decide +kernel)
  simp only [Bool.and_eq_true, beq_iff_eq] at ended
  have size := (all {} _ p run ended.1.1).accounts.length_eq
  simp [ended] at size

end CartX
