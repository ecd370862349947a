import CartX.Model.Profiles
import CartX.Properties.Signup

/-!
# Users with and without a profile

A document is made by the `set` of a signup and by nothing else, and it is never
taken away. So a user whose `set` failed has no document for good: there is no second
signup under that email, and a save needs a document to update. A user with a document
sees what they saved last: no `set` comes after the document is there.
-/

namespace CartX

open Signup

/-! ### What a step does to the store -/

/-- What a step makes of the accounts and the documents. -/
inductive Profiles.Stored (s : Profiles) (e : ProfileEvent) (t : Profiles) : Prop
  | kept (same : t.signup = s.signup)
  | signup (event : SignupEvent) (is : e = .signup event) (step : s.signup.step event = some t.signup)
  | updated (index form : Nat) (uid : Uid) (doc : UserDoc) (name phone address : String)
      (accepted : e = .ends index true)
      (called : s.calls[index]? = some ⟨form, some uid, .update name phone address, none⟩)
      (found : s.signup.store.users uid = some doc)
      (saved : t.signup = (s.write uid doc name phone address).signup)

theorem Profiles.step_stored {s t : Profiles} {e : ProfileEvent} (step : s.step e = some t) :
    s.Stored e t := by
  cases e with
  | signup event =>
    obtain ⟨signup, moved, rfl⟩ := Option.map_eq_some_iff.mp step
    exact .signup event rfl moved
  | ends index accepted =>
    simp only [Profiles.step] at step
    split at step
    next form user request called =>
      cases step
      cases accepted with
      | false => exact .kept rfl
      | true =>
        -- only an update of a document that is there changes it
        cases request with
        | get => exact .kept rfl
        | update name phone address =>
          cases user with
          | none => exact .kept rfl
          | some uid =>
            cases found : s.signup.store.users uid with
            | none => exact .kept (by simp [Profiles.serve, found])
            | some doc =>
              exact .updated index form uid doc name phone address rfl called found
                (by simp [Profiles.serve, found, Profiles.write])
    · cases step
  | _ =>
    simp only [Profiles.step] at step
    split at step
    all_goals first
      | cases step; exact .kept rfl
      | split at step <;> cases step <;> exact .kept rfl
      | cases step

/-! ### Documents and accounts -/

section Store

variable {store : Store} {account other : Account} {uid : Uid}

theorem Store.account?_create_of_some (found : store.account? uid = some account) :
    (store.create other).account? uid = some account := by
  rw [Store.account?] at found
  rw [Store.account?, Store.create, List.find?_append, found, Option.some_or]

theorem Store.account?_create_new (new : account.uid ∉ store.accounts.map Account.uid) :
    (store.create account).account? account.uid = some account := by
  have absent : store.accounts.find? (fun other => other.uid == account.uid) = none := by
    rw [List.find?_eq_none]
    intro other member same
    exact new (eq_of_beq same ▸ List.mem_map_of_mem member)
  rw [Store.account?, Store.create, List.find?_append, absent]
  simp

theorem Store.mem_of_account? (found : store.account? uid = some account) :
    account ∈ store.accounts ∧ account.uid = uid :=
  ⟨List.mem_of_find?_eq_some found,
    by simpa using List.find?_some (show store.accounts.find? _ = some account from found)⟩

end Store

/-- Documents are of accounts. -/
def Store.Owned (store : Store) : Prop :=
  ∀ uid doc, store.users uid = some doc → uid ∈ store.accounts.map Account.uid

/-- Documents are of accounts, and every `set` that is pending is for one account without. -/
structure Documented (s : Signup) : Prop where
  owned : s.store.Owned
  pending : ∀ w ∈ s.writing, s.store.account? w.1.uid = some w.1.account ∧ s.store.users w.1.uid = none
  distinct : (s.writing.map fun w => w.1.uid).Nodup

/-- The account has no document, and no `set` is pending for it. -/
structure Undocumented (account : Account) (s : Signup) : Prop where
  found : s.store.account? account.uid = some account
  missing : s.store.users account.uid = none
  unwritten : ∀ w ∈ s.writing, w.1.uid ≠ account.uid

section Change

variable {s t : Signup} {e : SignupEvent} {done done' : List SignupRecord} {account : Account}

theorem writing_sublist {front back : List (SignupRecord × UserDoc)} {w : SignupRecord × UserDoc}
    (before : s.writing = front ++ w :: back) (after : t.writing = front ++ back) :
    t.writing.Sublist s.writing := by
  rw [after, before]
  exact List.Sublist.append_left (List.sublist_cons_self _ _) _

theorem Documented.change (documented : Documented s) (change : Change (s, done) e (t, done')) :
    Documented t := by
  obtain ⟨owned, pending, distinct⟩ := documented
  cases change with
  | silent store writing =>
    dsimp only at store writing
    rw [← store] at owned pending
    rw [← writing] at pending distinct
    exact ⟨owned, pending, distinct⟩
  | created r doc front back before after new store =>
    dsimp only at before after new store
    have fresh : s.store.users r.uid = none := by
      cases found : s.store.users r.uid with
      | none => rfl
      | some doc => exact absurd (owned r.uid doc found) new
    have others : ∀ w ∈ s.writing, w.1.uid ≠ r.uid := by
      intro w member same
      obtain ⟨listed, uid⟩ := Store.mem_of_account? (pending w member).1
      exact new (List.mem_map.mpr ⟨_, listed, uid.trans same⟩)
    have split : t.writing.Perm ((r, doc) :: s.writing) := by
      rw [after, before]
      exact List.perm_middle
    refine ⟨fun uid doc found => ?_, fun w member => ?_, ?_⟩
    · rw [store] at found ⊢
      rw [Store.create, List.map_append]
      exact List.mem_append_left _ (owned uid doc found)
    · rw [store]
      rcases List.mem_cons.mp (split.subset member) with rfl | old
      · exact ⟨Store.account?_create_new new, fresh⟩
      · exact ⟨Store.account?_create_of_some (pending w old).1, (pending w old).2⟩
    · refine (split.map _).nodup_iff.mpr (List.nodup_cons.mpr ⟨fun taken => ?_, distinct⟩)
      obtain ⟨w, member, same⟩ := List.mem_map.mp taken
      exact others w member same
  | recorded r doc front back before after store =>
    dsimp only at before after store
    have split : s.writing.Perm ((r, doc) :: t.writing) := by
      rw [after, before]
      exact List.perm_middle
    have apart := List.nodup_cons.mp ((split.map fun w => w.1.uid).nodup_iff.mp distinct)
    refine ⟨fun uid doc' found => ?_, fun w member => ?_, apart.2⟩
    · rw [store] at found ⊢
      by_cases same : uid = r.uid
      · obtain ⟨listed, own⟩ := Store.mem_of_account? (pending (r, doc) (by simp [before])).1
        exact List.mem_map.mpr ⟨_, listed, own.trans same.symm⟩
      · exact owned uid doc' (by simpa [Store.set, same] using found)
    · have other : w.1.uid ≠ r.uid := fun same =>
        apart.1 (List.mem_map.mpr ⟨w, member, same⟩)
      rw [store]
      obtain ⟨found, none_yet⟩ := pending w (split.symm.subset (List.mem_cons_of_mem _ member))
      exact ⟨found, by simpa [Store.set, other] using none_yet⟩
  | lost r doc front back before after store =>
    dsimp only at before after store
    have sub := writing_sublist before after
    rw [← store] at owned pending
    exact ⟨owned, fun w member => pending w (sub.subset member), distinct.sublist (sub.map _)⟩

theorem Undocumented.change (lost : Undocumented account s)
    (change : Change (s, done) e (t, done')) : Undocumented account t := by
  obtain ⟨found, missing, unwritten⟩ := lost
  cases change with
  | silent store writing =>
    dsimp only at store writing
    rw [← store] at found missing
    rw [← writing] at unwritten
    exact ⟨found, missing, unwritten⟩
  -- the uid is taken, so it is not given to another account
  | created r doc front back before after new store =>
    dsimp only at before after new store
    have other : r.uid ≠ account.uid := fun same =>
      new (same ▸ List.mem_map_of_mem (Store.mem_of_account? found).1)
    refine ⟨by rw [store]; exact Store.account?_create_of_some found, by rw [store]; exact missing, ?_⟩
    intro w member
    rw [after] at member
    rcases List.mem_cons.mp (List.perm_middle.subset member) with rfl | old
    · exact other
    · exact unwritten w (by rw [before]; exact old)
  | recorded r doc front back before after store =>
    dsimp only at before after store
    have other : account.uid ≠ r.uid := (unwritten (r, doc) (by simp [before])).symm
    exact ⟨by rw [store]; exact found, by rw [store]; simpa [Store.set, other] using missing,
      fun w member => unwritten w ((writing_sublist before after).subset member)⟩
  | lost r doc front back before after store =>
    dsimp only at before after store
    exact ⟨by rw [store]; exact found, by rw [store]; exact missing,
      fun w member => unwritten w ((writing_sublist before after).subset member)⟩

/-- Documents are not taken away. -/
theorem Signup.Change.missing {uid : Uid} (change : Change (s, done) e (t, done'))
    (missing : t.store.users uid = none) : s.store.users uid = none := by
  cases change with
  | silent store | created _ _ _ _ _ _ _ store | lost _ _ _ _ _ _ store =>
    dsimp only at store
    rw [store] at missing
    exact missing
  | recorded r doc front back before after store =>
    dsimp only at store
    rw [store] at missing
    by_cases same : uid = r.uid
    · simp [Store.set, same] at missing
    · simpa [Store.set, same] using missing

end Change

section Step

variable {s t : Profiles} {e : ProfileEvent} {account : Account} {uid : Uid}

theorem Documented.step (documented : Documented s.signup) (step : s.step e = some t) :
    Documented t.signup := by
  cases Profiles.step_stored step with
  | kept same => rwa [same]
  | signup event _ step => exact documented.change (step_change [] step)
  | updated _ _ uid doc _ _ _ _ _ found saved =>
    obtain ⟨owned, pending, distinct⟩ := documented
    rw [saved]
    refine ⟨fun other doc' found' => ?_, fun w member => ⟨(pending w member).1, ?_⟩, distinct⟩
    · by_cases same : other = uid
      · exact same ▸ owned uid doc found
      · exact owned other doc' (by simpa [Profiles.write, Store.set, same] using found')
    -- what is pending is for others
    · have other : w.1.uid ≠ uid := fun same => by
        simpa [same, found] using (pending w member).2
      simpa [Profiles.write, Store.set, other] using (pending w member).2

theorem Undocumented.step (lost : Undocumented account s.signup) (step : s.step e = some t) :
    Undocumented account t.signup := by
  cases Profiles.step_stored step with
  | kept same => rwa [same]
  | signup event _ step => exact lost.change (step_change [] step)
  | updated _ _ uid doc _ _ _ _ _ found saved =>
    have other : account.uid ≠ uid := fun same => by
      simpa [same, found] using lost.missing
    rw [saved]
    exact ⟨lost.found, by simpa [Profiles.write, Store.set, other] using lost.missing, lost.unwritten⟩

theorem Profiles.step_missing (step : s.step e = some t) (missing : t.signup.store.users uid = none) :
    s.signup.store.users uid = none := by
  cases Profiles.step_stored step with
  | kept same => rwa [same] at missing
  | signup event _ step => exact (step_change [] step).missing missing
  | updated _ _ other doc _ _ _ _ _ found saved =>
    rw [saved] at missing
    by_cases same : uid = other
    · simp [Profiles.write, Store.set, same] at missing
    · simpa [Profiles.write, Store.set, same] using missing

end Step

/-! ### What a step does to the forms and the calls -/

namespace Profiles

/-- What a step makes of a form. -/
inductive Reformed (s : Profiles) (e : ProfileEvent) (index : Nat) (form : ProfileForm) : Prop
  | opened (new : index = s.forms.length) (blank : form = {})
  | kept (old : ProfileForm) (was : s.forms[index]? = some old)
      (unsaved : ∀ user, e ≠ .tapSave index user)
      (loading : form.state.isLoading = old.state.isLoading) (mounted : form.mounted = old.mounted)
  | saving (user : Option Uid) (tapped : e = .tapSave index user)
      (loading : form.state.isLoading = true) (mounted : form.mounted = true)
  | left (old : ProfileForm) (was : s.forms[index]? = some old) (leaves : e = .leave index)
      (loading : form.state.isLoading = old.state.isLoading)
  | resumed (old : ProfileForm) (was : s.forms[index]? = some old)
      (unsaved : ∀ user, e ≠ .tapSave index user) (call : ProfileCall) (outcome : Outcome)
      (member : call ∈ s.calls) (own : call.form = index) (ended : call.ended = some outcome)
      (goes : form = old.perform (CartX.resume call.request.await old.mounted outcome).1)

/-- What a step makes of a call. -/
inductive Recalled (s : Profiles) (e : ProfileEvent) (call : ProfileCall) : Prop
  | kept (old : call ∈ s.calls)
  | loading (get : call.request = .get) (waits : call.ended = none)
  | saving (tapped : e = .tapSave call.form call.user) (waits : call.ended = none)
  | ended (old : { call with ended := none } ∈ s.calls) (accepted : Bool)
      (outcome : call.ended = some (if accepted then (s.serve call.user call.request).1 else .exception))

variable {s t : Profiles} {e : ProfileEvent} {index : Nat} {form : ProfileForm} {call : ProfileCall}

theorem served_forms (s : Profiles) (user : Option Uid) (request : ProfileRequest) (accepted : Bool) :
    (if accepted then s.serve user request else (.exception, s)).2.forms = s.forms := by
  cases accepted with
  | false => rfl
  | true =>
    cases request with
    | get => rfl
    | update =>
      cases user with
      | none => rfl
      | some uid =>
        simp only [if_true, serve]
        split <;> rfl

theorem Reformed.of_set {other : Nat} {old new : ProfileForm} (was : s.forms[other]? = some old)
    (shown : (s.forms.set other new)[index]? = some form)
    (unsaved : other ≠ index → ∀ user, e ≠ .tapSave index user)
    (here : index = other → form = new → s.Reformed e index form) : s.Reformed e index form := by
  by_cases same : other = index
  · subst same
    rw [List.getElem?_set_self (List.getElem?_eq_some_iff.mp was).1] at shown
    exact here rfl (Option.some.inj shown).symm
  · rw [List.getElem?_set_ne same] at shown
    exact .kept form shown (unsaved same) rfl rfl

theorem step_forms (step : s.step e = some t) (shown : t.forms[index]? = some form) :
    s.Reformed e index form := by
  cases e with
  | signup event =>
    obtain ⟨signup, _, rfl⟩ := Option.map_eq_some_iff.mp step
    exact .kept form shown nofun rfl rfl
  | opens user =>
    simp only [Profiles.step] at step
    split at step
    · cases step
    · cases step
      by_cases inside : index < s.forms.length
      · rw [List.getElem?_append_left inside] at shown
        exact .kept form shown nofun rfl rfl
      · rw [List.getElem?_append_right (Nat.le_of_not_lt inside), List.getElem?_singleton] at shown
        split at shown
        next last => exact .opened (by omega) (Option.some.inj shown).symm
        · cases shown
  | edit other name phone address =>
    simp only [Profiles.step] at step
    split at step
    next state was =>
      split at step
      · cases step
        exact .of_set was shown (fun _ => nofun) fun same new =>
          .kept _ (same ▸ was) nofun (by rw [new]) (by rw [new])
      · cases step
    · cases step
  | tapSave other user =>
    simp only [Profiles.step] at step
    split at step
    next state was =>
      split at step
      · cases step
        have elsewhere (apart : other ≠ index) : ∀ user', ProfileEvent.tapSave other user ≠
            .tapSave index user' := fun _ same => apart (ProfileEvent.tapSave.inj same).1
        exact .of_set was shown elsewhere fun same new =>
          .saving user (by rw [same]) (by rw [new]; rfl) (by rw [new]; rfl)
      · cases step
    · cases step
  | frame other =>
    simp only [Profiles.step] at step
    split at step
    next state was =>
      cases step
      exact .of_set was shown (fun _ => nofun) fun same new =>
        .kept _ (same ▸ was) nofun (by rw [new]) (by rw [new])
    · cases step
  | leave other =>
    simp only [Profiles.step] at step
    split at step
    next state was =>
      cases step
      exact .of_set was shown (fun _ => nofun) fun same new =>
        .left _ (same ▸ was) (by rw [same]) (by rw [new])
    · cases step
  | ends other accepted =>
    simp only [Profiles.step] at step
    split at step
    next number user request called =>
      cases step
      exact .kept form (served_forms s user request accepted ▸ shown) nofun rfl rfl
    · cases step
  | resumes other =>
    simp only [Profiles.step] at step
    split at step
    next number user request outcome called =>
      cases step
      dsimp only [Profiles.resume] at shown
      rw [List.getElem?_modify] at shown
      obtain ⟨old, was, new⟩ := Option.map_eq_some_iff.mp shown
      by_cases own : number = index
      · rw [if_pos own] at new
        exact .resumed old was nofun _ outcome (List.mem_of_getElem? called) own rfl new.symm
      · rw [if_neg own] at new
        exact .kept old was nofun (by rw [← new]) (by rw [← new])
    · cases step

theorem step_calls (step : s.step e = some t) (member : call ∈ t.calls) : s.Recalled e call := by
  cases e with
  | signup event =>
    obtain ⟨signup, _, rfl⟩ := Option.map_eq_some_iff.mp step
    exact .kept member
  | opens user =>
    simp only [Profiles.step] at step
    split at step
    · cases step
    · cases step
      dsimp only at member
      split at member
      · rcases List.mem_append.mp member with old | new
        · exact .kept old
        · rw [List.mem_singleton.mp new]
          exact .loading rfl rfl
      · exact .kept member
  | tapSave other user =>
    simp only [Profiles.step] at step
    split at step
    · split at step
      · cases step
        rcases List.mem_append.mp member with old | new
        · exact .kept old
        · rw [List.mem_singleton.mp new]
          exact .saving rfl rfl
      · cases step
    · cases step
  | ends other accepted =>
    simp only [Profiles.step] at step
    split at step
    next number user request called =>
      cases step
      rcases List.mem_or_eq_of_mem_set member with old | rfl
      · exact .kept old
      · refine .ended (List.mem_of_getElem? called) accepted ?_
        cases accepted <;> rfl
    · cases step
  | resumes other =>
    simp only [Profiles.step] at step
    split at step
    · cases step
      exact .kept (List.mem_of_mem_eraseIdx member)
    · cases step
  | _ =>
    simp only [Profiles.step] at step
    split at step
    all_goals first
      | cases step; exact .kept member
      | split at step <;> cases step <;> exact .kept member
      | cases step

/-- Forms are not taken away, and a save is of one there is. -/
theorem step_length (step : s.step e = some t) : s.forms.length ≤ t.forms.length ∧
    ∀ index user, e = .tapSave index user → index < s.forms.length := by
  constructor
  · cases e with
    | signup event =>
      obtain ⟨signup, _, rfl⟩ := Option.map_eq_some_iff.mp step
      exact Nat.le_refl _
    | ends index accepted =>
      simp only [Profiles.step] at step
      split at step
      next form user request called =>
        cases step
        exact (congrArg List.length (served_forms s user request accepted)).ge
      · cases step
    | _ =>
      simp only [Profiles.step] at step
      split at step
      all_goals first
        | cases step; simp [Profiles.resume]
        | split at step <;> cases step <;> simp
        | cases step
  · rintro index user rfl
    simp only [Profiles.step] at step
    split at step
    next state was => exact (List.getElem?_eq_some_iff.mp was).1
    · cases step

end Profiles

/-! ### Users without a document -/

/-- Nobody else saved the form. -/
def SavedBy (uid : Uid) (index : Nat) (es : List ProfileEvent) : Prop :=
  ∀ user, .tapSave index user ∈ es → user = some uid

/-- What every run keeps for a user without a document; `es` is what happened so far. -/
structure Neglected (uid : Uid) (es : List ProfileEvent) (s : Profiles) : Prop where
  calls : ∀ call ∈ s.calls, call.user = some uid → ∀ outcome ∈ call.ended, ∀ mounted,
    (resume call.request.await mounted outcome).1 = []
  tapped : ∀ call ∈ s.calls, call.request ≠ .get → .tapSave call.form call.user ∈ es
  inside : ∀ index user, .tapSave index user ∈ es → index < s.forms.length
  forms : ∀ index form, s.forms[index]? = some form → SavedBy uid index es →
    (form.mounted = false → .leave index ∈ es) ∧
      (.tapSave index (some uid) ∈ es → form.state.isLoading = true)

section Neglected

variable {s t : Profiles} {e : ProfileEvent} {es : List ProfileEvent} {uid : Uid}

/-- What `_loadCurrentData` finds does not touch the flag. -/
theorem ProfileForm.perform_load (form : ProfileForm) (outcome : Outcome) :
    (form.perform (resume .getUser form.mounted outcome).1).state.isLoading = form.state.isLoading ∧
      (form.perform (resume .getUser form.mounted outcome).1).mounted = form.mounted := by
  obtain ⟨mounted, state⟩ := form
  cases outcome with
  | success response =>
    cases response with
    | profile data =>
      cases data with
      | none => exact ⟨rfl, rfl⟩
      | some data => cases mounted <;> exact ⟨rfl, rfl⟩
    | _ => exact ⟨rfl, rfl⟩
  | _ => exact ⟨rfl, rfl⟩

theorem Neglected.step (neglected : Neglected uid es s) (missing : s.signup.store.users uid = none)
    (step : s.step e = some t) : Neglected uid (es ++ [e]) t := by
  refine ⟨fun call member own outcome ended mounted => ?_, fun call member save => ?_,
    fun index user tapped => ?_, fun index form shown saved => ?_⟩
  -- a request that ends finds nothing to read and nothing to update
  · cases Profiles.step_calls step member with
    | kept old => exact neglected.calls call old own outcome ended mounted
    | loading _ waits | saving _ waits => simp [waits] at ended
    | ended old accepted served =>
      rw [served, Option.mem_some_iff] at ended
      subst ended
      cases accepted with
      | false => cases request : call.request <;> rfl
      | true =>
        cases request : call.request with
        | get => simp [Profiles.serve, Store.profile, own, missing, ProfileRequest.await, resume]
        | update => simp [Profiles.serve, own, missing, ProfileRequest.await, resume]
  · cases Profiles.step_calls step member with
    | kept old => exact List.mem_append_left _ (neglected.tapped call old save)
    | loading get => exact absurd get save
    | saving tapped => exact List.mem_append_right _ (by simp [tapped])
    | ended old =>
      exact List.mem_append_left _ (neglected.tapped ⟨call.form, call.user, call.request, none⟩ old save)
  · obtain ⟨longer, here⟩ := Profiles.step_length step
    rcases List.mem_append.mp tapped with before | now
    · exact (neglected.inside index user before).trans_le longer
    · exact (here index user (List.mem_singleton.mp now).symm).trans_le longer
  · have before : SavedBy uid index es := fun user tapped => saved user (List.mem_append_left _ tapped)
    have later {event : ProfileEvent} (past : event ∈ es) : event ∈ es ++ [e] :=
      List.mem_append_left _ past
    have earlier {event : ProfileEvent} (tapped : event ∈ es ++ [e]) (other : e ≠ event) : event ∈ es := by
      rcases List.mem_append.mp tapped with before | now
      · exact before
      · exact absurd (List.mem_singleton.mp now).symm other
    cases Profiles.step_forms step shown with
    | opened new blank =>
      have never : .tapSave index (some uid) ∉ es ++ [e] := fun tapped => by
        have inside := neglected.inside index (some uid) (earlier tapped fun now =>
          (((Profiles.step_length step).2 index (some uid) now).ne new).elim)
        exact inside.ne new
      exact ⟨by simp [blank], fun tapped => absurd tapped never⟩
    | kept old was unsaved loading mounted =>
      obtain ⟨left, busy⟩ := neglected.forms index old was before
      exact ⟨fun gone => later (left (mounted ▸ gone)),
        fun tapped => loading.trans (busy (earlier tapped (unsaved _)))⟩
    | saving user tapped loading mounted => exact ⟨by simp [mounted], fun _ => loading⟩
    | left old was leaves loading =>
      have busy := (neglected.forms index old was before).2
      exact ⟨fun _ => by simp [leaves],
        fun tapped => loading.trans (busy (earlier tapped (by simp [leaves])))⟩
    | resumed old was unsaved call outcome member own ended goes =>
      obtain ⟨left, busy⟩ := neglected.forms index old was before
      have same : form.state.isLoading = old.state.isLoading ∧ form.mounted = old.mounted := by
        rw [goes]
        cases request : call.request with
        | get => exact ProfileForm.perform_load old outcome
        -- the save was this user's, so it failed
        | update name phone address =>
          have tapped := neglected.tapped call member (by simp [request])
          have user := before call.user (own ▸ tapped)
          have nothing := neglected.calls call member user outcome (by simp [ended]) old.mounted
          rw [request] at nothing
          rw [nothing]
          exact ⟨rfl, rfl⟩
      exact ⟨fun gone => later (left (same.2 ▸ gone)),
        fun tapped => same.1.trans (busy (earlier tapped (unsaved _)))⟩

/-- The `set` of a signup has failed. -/
theorem Undocumented.of_failed {s t : Signup} {index page now : Nat} {submitted : SignupForm}
    {doc : UserDoc} {outcome : Outcome} (documented : Documented s)
    (called : s.calls[index]? = some ⟨page, submitted, .writing uid doc⟩)
    (failed : outcome.succeeded = false) (step : s.step (.answer index now outcome) = some t) :
    Undocumented (submitted.account uid) t := by
  simp only [Signup.step, Option.bind_eq_bind, Option.bind_eq_some_iff] at step
  obtain ⟨call, called', form, _, settled⟩ := step
  cases called.symm.trans called'
  obtain ⟨front, back, before, erased, _⟩ := writing_split called
  have left : t.store = s.store ∧ t.writing = front ++ back := by
    cases outcome with
    | success => cases failed
    | _ =>
      cases settled
      exact ⟨by simp, by rw [perform_writing]; exact erased⟩
  have split : s.writing.Perm ((⟨uid, submitted⟩, doc) :: t.writing) := by
    rw [before, left.2]
    exact List.perm_middle
  obtain ⟨found, missing⟩ := documented.pending _ (split.symm.subset List.mem_cons_self)
  -- no other `set` is for this uid
  have apart := List.nodup_cons.mp ((split.map fun w => w.1.uid).nodup_iff.mp documented.distinct)
  exact ⟨by rw [left.1]; exact found, by rw [left.1]; exact missing,
    fun w listed same => apart.1 (List.mem_map.mpr ⟨w, listed, same⟩)⟩

end Neglected

/-! ### The results -/

/-- A user with an account but no document, as the app treats them; `es` is what happened. -/
structure Stranded (account : Account) (es : List ProfileEvent) (s : Profiles) : Prop where
  greeting : nameToShow (some (s.signup.store.profile (some account.uid))) = "Guest"
  header : userName (some (s.signup.store.profile (some account.uid))) = "User Name"
  email : s.signup.store.emailOf (some account.uid) = account.email
  /-- There is no other account for the email. -/
  taken : ∀ other : Account, other.email = account.email → s.signup.store.admits other = false
  /-- Loads and saves come back with nothing to do. -/
  idle : ∀ call ∈ s.calls, call.user = some account.uid → ∀ outcome ∈ call.ended, ∀ mounted,
    (resume call.request.await mounted outcome).1 = []
  /-- A form this user alone saved is closed by leaving it only, and busy until then. -/
  busy : ∀ index form, s.forms[index]? = some form → SavedBy account.uid index es →
    (form.mounted = false → .leave index ∈ es) ∧
      (.tapSave index (some account.uid) ∈ es → form.state.isLoading = true)

/-- The pages show the saved texts, and a form that loads them is filled with them. -/
structure Shows (uid : Uid) (name phone address : String) (s : Profiles) : Prop where
  greeting : nameToShow (some (s.signup.store.profile (some uid))) = name
  header : userName (some (s.signup.store.profile (some uid))) = name
  filled : ∀ form : ProfileForm, form.mounted = true →
    form.perform (resume .getUser form.mounted (s.serve (some uid) .get).1).1 =
      { form with state := { form.state with name, phone, address } }

section Run

variable {start : Store} {es fs : List ProfileEvent} {s p q r : Profiles} {uid : Uid} {doc : UserDoc}

theorem documented_of_run {G : Profiles → ProfileEvent → Prop} (documented : Documented s.signup)
    (run : profiles.Run G s es p) : Documented p.signup :=
  run.invariant (I := fun s : Profiles => Documented s.signup) documented
    fun _ _ _ documented _ step => documented.step step

theorem Store.Owned.documented (owned : start.Owned) : Documented { store := start } :=
  ⟨owned, by simp [writing], by simp [writing]⟩

theorem neglected_of_run (run : profiles.Run Machine.Free { signup := { store := start } } es s)
    (missing : s.signup.store.users uid = none) : Neglected uid es s := by
  induction run with
  | nil => exact ⟨by simp, by simp, by simp, by simp⟩
  | snoc prior _ step ih =>
    have before := Profiles.step_missing step missing
    exact (ih before).step before step

theorem Undocumented.stranded {account : Account} (lost : Undocumented account s.signup)
    (neglected : Neglected account.uid es s) : Stranded account es s := by
  have nothing : s.signup.store.profile (some account.uid) = none := by
    simp [Store.profile, lost.missing]
  refine ⟨by rw [nothing]; rfl, by rw [nothing]; rfl, by simp [Store.emailOf, lost.found], ?_,
    neglected.calls, neglected.forms⟩
  intro other same
  rw [Store.admits, List.all_eq_false]
  exact ⟨account, (Store.mem_of_account? lost.found).1, by simp [same]⟩

/-- A user whose document could not be written at the signup never has one: from then on, whatever is
tapped and answered, the home page greets a guest, the profile page has no name, no second account can
be made for the email, and every save leaves its form busy until it is left. -/
theorem lost_document_is_final {index page now : Nat} {submitted : SignupForm} {outcome : Outcome}
    (owned : start.Owned) (run : profiles.Run Machine.Free { signup := { store := start } } es p)
    (called : p.signup.calls[index]? = some ⟨page, submitted, .writing uid doc⟩)
    (failed : outcome.succeeded = false)
    (step : p.step (.signup (.answer index now outcome)) = some q)
    (later : profiles.Run Machine.Free q fs r) :
    Stranded (submitted.account uid) (es ++ [.signup (.answer index now outcome)] ++ fs) r := by
  have documented := documented_of_run owned.documented run
  obtain ⟨signup, moved, answered⟩ := Option.map_eq_some_iff.mp step
  have lost : Undocumented (submitted.account uid) q.signup := by
    rw [← answered]
    exact .of_failed documented called failed moved
  have still : Undocumented (submitted.account uid) r.signup :=
    later.invariant (I := fun s : Profiles => Undocumented (submitted.account uid) s.signup) lost
      fun _ _ _ lost _ step => lost.step step
  have answeredRun : profiles.Run Machine.Free { signup := { store := start } }
      (es ++ [.signup (.answer index now outcome)]) q := run.snoc trivial step
  exact still.stranded (neglected_of_run (answeredRun.append later) still.missing)

/-- The form of the user whose document was lost, after a save. -/
theorem save_without_document_stays_busy : ∃ p q r, profiles.Run Machine.Free { signup := { store := {} } }
      [.signup .opens, .signup (.edit 0 sampleForm), .signup (.tapGetStarted 0),
        .signup (.answer 0 1 (.success (.user "A")))] p ∧
    p.step (.signup (.answer 0 2 .exception)) = some q ∧
    profiles.Run Machine.Free q [.opens (some "A"), .ends 0 true, .resumes 0, .edit 0 "A" "017" "Dhaka",
      .tapSave 0 (some "A"), .ends 0 true, .resumes 0, .frame 0] r ∧
    ∃ form, r.forms[0]? = some form ∧ form.mounted = true ∧ form.state.isLoading = true := by
  obtain ⟨p, run, shape⟩ := Machine.exists_run_of_exec profiles Machine.Free { signup := { store := {} } }
    [.signup .opens, .signup (.edit 0 sampleForm), .signup (.tapGetStarted 0),
      .signup (.answer 0 1 (.success (.user "A")))]
    (fun p => p.signup.calls[0]? == some ⟨0, sampleForm, .writing "A" (sampleForm.userDoc "A" 1)⟩ &&
      (p.step (.signup (.answer 0 2 .exception))).any fun q =>
        (profiles.exec Machine.Free q [.opens (some "A"), .ends 0 true, .resumes 0,
          .edit 0 "A" "017" "Dhaka", .tapSave 0 (some "A"), .ends 0 true, .resumes 0, .frame 0]).any
          fun r => r.forms[0]?.any fun form => form.mounted) (by decide +kernel)
  simp only [Bool.and_eq_true, beq_iff_eq, Option.any_eq_true] at shape
  obtain ⟨called, q, step, r, done, form, shown, mounted⟩ := shape
  have later := Machine.run_of_exec done
  have owned : ({} : Store).Owned := by simp [Store.Owned]
  have stranded := lost_document_is_final owned run called rfl step later
  have alone : SavedBy "A" 0 ([.signup .opens, .signup (.edit 0 sampleForm), .signup (.tapGetStarted 0),
      .signup (.answer 0 1 (.success (.user "A")))] ++ [.signup (.answer 0 2 .exception)] ++
      [.opens (some "A"), .ends 0 true, .resumes 0, .edit 0 "A" "017" "Dhaka", .tapSave 0 (some "A"),
        .ends 0 true, .resumes 0, .frame 0]) := by
    intro user tapped
    simpa using tapped
  exact ⟨p, q, r, run, step, later, form, shown, mounted,
    (stranded.busy 0 form shown alone).2 (by simp [SignupForm.account])⟩

/-- No other save of this user takes effect. -/
def NoOtherSave (uid : Uid) (s : Profiles) : ProfileEvent → Prop
  | .ends index true => ∀ call ∈ s.calls[index]?, call.user = some uid → call.request = .get
  | _ => True

instance (uid : Uid) (s : Profiles) : (e : ProfileEvent) → Decidable (NoOtherSave uid s e)
  | .ends _ true => inferInstanceAs (Decidable (∀ call ∈ _, _ → _))
  | .ends _ false | .signup _ | .opens _ | .edit _ _ _ _ | .tapSave _ _ | .frame _ | .leave _
  | .resumes _ => inferInstanceAs (Decidable True)

theorem Documented.spared {e : ProfileEvent} {t : Profiles} (documented : Documented s.signup)
    (found : s.signup.store.users uid = some doc) (spares : NoOtherSave uid s e) (step : s.step e = some t) :
    t.signup.store.users uid = some doc := by
  cases Profiles.step_stored step with
  | kept same => rwa [same]
  | updated index form other _ _ _ _ accepted called _ saved =>
    have apart : uid ≠ other := by
      rintro rfl
      rw [accepted] at spares
      cases spares _ called rfl
    rw [saved]
    simpa [Profiles.write, Store.set, apart] using found
  | signup event _ moved =>
    cases step_change [] moved with
    | silent store | created _ _ _ _ _ _ _ store | lost _ _ _ _ _ _ store =>
      dsimp only at store
      rw [store]
      exact found
    -- a `set` that is pending is for a user without a document
    | recorded r doc' front back before after store =>
      dsimp only at before store
      have none_yet := (documented.pending (r, doc') (by simp [before])).2
      have apart : uid ≠ r.uid := fun same => by simp [← same, found] at none_yet
      rw [store]
      simpa [Store.set, apart] using found

theorem shows_of_users {name phone address : String}
    (found : s.signup.store.users uid = some { doc with name, phone, address }) :
    Shows uid name phone address s := by
  have read : s.signup.store.profile (some uid) = some ⟨some name, some phone, some address⟩ := by
    simp [Store.profile, found, UserDoc.data]
  refine ⟨by rw [read]; rfl, by rw [read]; rfl, fun form mounted => ?_⟩
  obtain ⟨_, state⟩ := form
  dsimp only at mounted
  subst mounted
  simp only [Profiles.serve, read]
  rfl

/-- What a save wrote is what the user sees: until another save of theirs takes effect, and whatever
others sign up and save meanwhile, the home page and the profile page show the name that was saved,
and every form that loads the document is filled with the three saved texts. The rest of the document
is as the signup set it. -/
theorem saved_profile_is_shown {index form : Nat} {name phone address : String} (owned : start.Owned)
    (run : profiles.Run Machine.Free { signup := { store := start } } es p)
    (called : p.calls[index]? = some ⟨form, some uid, .update name phone address, none⟩)
    (found : p.signup.store.users uid = some doc)
    (step : p.step (.ends index true) = some q) (later : profiles.Run (NoOtherSave uid) q fs r) :
    Shows uid name phone address r ∧
      r.signup.store.users uid = some { doc with name, phone, address } := by
  have documented := (documented_of_run owned.documented run).step step
  have saved : q.signup.store.users uid = some { doc with name, phone, address } := by
    simp only [Profiles.step, called, Profiles.serve, found, if_true, Option.some.injEq] at step
    rw [← step]
    simp [Profiles.write, Store.set]
  have both : Documented r.signup ∧
      r.signup.store.users uid = some { doc with name, phone, address } :=
    later.invariant (I := fun s : Profiles => Documented s.signup ∧
        s.signup.store.users uid = some { doc with name, phone, address }) ⟨documented, saved⟩
      fun _ _ _ both spares step => ⟨both.1.step step, both.1.spared both.2 spares step⟩
  exact ⟨shows_of_users both.2, both.2⟩

/-- The name is saved, and the form is opened again. -/
theorem renamed_user_is_greeted : ∃ p q r, profiles.Run Machine.Free { signup := { store := {} } }
      [.signup .opens, .signup (.edit 0 sampleForm), .signup (.tapGetStarted 0),
        .signup (.answer 0 1 (.success (.user "A"))), .signup (.answer 0 2 (.success .done)),
        .opens (some "A"), .ends 0 true, .resumes 0, .edit 0 "B" "017" "Dhaka", .tapSave 0 (some "A")] p ∧
    p.step (.ends 0 true) = some q ∧
    profiles.Run (NoOtherSave "A") q [.resumes 0, .opens (some "A"), .ends 0 true] r ∧
    nameToShow (some (r.signup.store.profile (some "A"))) = "B" := by
  obtain ⟨p, run, shape⟩ := Machine.exists_run_of_exec profiles Machine.Free { signup := { store := {} } }
    [.signup .opens, .signup (.edit 0 sampleForm), .signup (.tapGetStarted 0),
      .signup (.answer 0 1 (.success (.user "A"))), .signup (.answer 0 2 (.success .done)),
      .opens (some "A"), .ends 0 true, .resumes 0, .edit 0 "B" "017" "Dhaka", .tapSave 0 (some "A")]
    (fun p => p.calls[0]? == some ⟨0, some "A", .update "B" "017" "Dhaka", none⟩ &&
      p.signup.store.users "A" == some (sampleForm.userDoc "A" 1) &&
      (p.step (.ends 0 true)).any fun q => (profiles.exec (NoOtherSave "A") q
        [.resumes 0, .opens (some "A"), .ends 0 true]).isSome) (by decide +kernel)
  simp only [Bool.and_eq_true, beq_iff_eq, Option.any_eq_true, Option.isSome_iff_exists] at shape
  obtain ⟨⟨called, found⟩, q, step, r, done⟩ := shape
  have later := Machine.run_of_exec done
  have owned : ({} : Store).Owned := by simp [Store.Owned]
  exact ⟨p, q, r, run, step, later,
    (saved_profile_is_shown owned run called found step later).1.greeting⟩

end Run

end CartX
