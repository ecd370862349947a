import CartX.Model.Accounts
import CartX.Properties.Signup
import Mathlib.Data.List.TakeWhile

/-!
# Signing up and logging in

`_signup` and `_login` both trim the email and the password, and an account keeps
those of the form as it was when Get Started was tapped. So with what was typed into the
signup form the login form asks for that account, with any white space around it, whatever
became of the document of the account.
-/

namespace CartX

/-- The text with white space around it. -/
def Around (text outer : String) : Prop :=
  ∃ front back : String, (∀ c ∈ front.toList, isWhitespace c = true) ∧
    (∀ c ∈ back.toList, isWhitespace c = true) ∧ outer = front ++ text ++ back

theorem trim_around {text outer : String} (around : Around text outer) : trim outer = trim text := by
  obtain ⟨front, back, ahead, behind, rfl⟩ := around
  rw [trim, trim, String.toList_append, String.toList_append, List.append_assoc,
    List.dropWhile_append_of_pos ahead, List.dropWhile_append]
  split
  -- nothing but white space
  next empty =>
    rw [List.isEmpty_iff] at empty
    rw [empty, List.dropWhile_eq_nil_iff.mpr behind]
  next =>
    have reversed : ∀ c ∈ back.toList.reverse, isWhitespace c = true := by simpa using behind
    rw [List.reverse_append, List.dropWhile_append_of_pos reversed]

/-- Firebase gives an email to one account only. -/
def NewEmail (canonical : String → String) (p : Signup × List SignupRecord) (e : SignupEvent) : Prop :=
  ∀ r ∈ p.1.created? e, ∀ account ∈ p.1.store.accounts,
    canonical account.email ≠ canonical (trim r.submitted.email)

instance (canonical : String → String) (p : Signup × List SignupRecord) (e : SignupEvent) :
    Decidable (NewEmail canonical p e) :=
  inferInstanceAs (Decidable (∀ r ∈ _, ∀ account ∈ _, _ ≠ _))

/-- No two accounts share a uid or an email. -/
structure Store.Distinct (store : Store) (canonical : String → String) : Prop where
  uids : (store.accounts.map Account.uid).Nodup
  emails : (store.accounts.map fun account => canonical account.email).Nodup

section Step

variable {canonical : String → String}

/-- An event creates the account of its attempt, under a new uid, or none. -/
theorem Signup.step_accounts {s t : Signup} {e : SignupEvent} (step : s.step e = some t) :
    t.store.accounts = s.store.accounts ++
        (s.created? e).toList.map SignupRecord.account ∧
      ∀ r ∈ s.created? e, r.uid ∉ s.store.accounts.map Account.uid := by
  cases e with
  | answer index now outcome =>
    simp only [Signup.step, Option.bind_eq_bind, Option.bind_eq_some_iff] at step
    obtain ⟨⟨number, submitted, stage⟩, called, page, _, settled⟩ := step
    cases stage with
    | creating =>
      cases outcome with
      | success response =>
        cases response with
        | user uid =>
          simp only [Signup.settle] at settled
          split at settled
          next admitted =>
            cases settled
            simp only [Store.admits, List.all_eq_true, Bool.and_eq_true, bne_iff_ne] at admitted
            have new : ∀ account ∈ s.store.accounts, account.uid ≠ uid :=
              fun account member => (admitted account member).2
            simpa [Signup.created?, called, Store.create, SignupRecord.account] using new
          · cases settled
        | _ => cases settled
      | _ =>
        cases settled
        simp [Signup.created?]
    -- the account was created before
    | writing uid doc =>
      cases outcome with
      | success response =>
        cases response with
        | done =>
          cases settled
          simp [Signup.created?, Store.set]
        | _ => cases settled
      | _ =>
        cases settled
        simp [Signup.created?]
  | _ =>
    simp only [Signup.step] at step
    split at step <;> cases step
    simp [Signup.created?]

/-- In a store without doubles, a sign-in can succeed for an account exactly with its email and its
password, and then for no other. -/
theorem SignInDocumented.success_iff {signIn : Store → Credentials → Outcome → Prop} {store : Store}
    (documented : SignInDocumented canonical signIn) (distinct : store.Distinct canonical)
    {account : Account} (member : account ∈ store.accounts) (credentials : Credentials) :
    signIn store credentials (.success (.user account.uid)) ↔
      canonical credentials.email = canonical account.email ∧
        credentials.password = account.password := by
  constructor
  · intro success
    obtain ⟨other, listed, uid, email, password⟩ := documented.only store credentials _ success
    have same : other = account := List.inj_on_of_nodup_map distinct.uids listed member uid
    rw [same] at email password
    exact ⟨email.symm, password.symm⟩
  · rintro ⟨email, password⟩
    exact documented.each store credentials account member email.symm password.symm

theorem SignInDocumented.success_unique {signIn : Store → Credentials → Outcome → Prop}
    {store : Store} (documented : SignInDocumented canonical signIn)
    (distinct : store.Distinct canonical) {account : Account} (member : account ∈ store.accounts)
    {credentials : Credentials} (email : canonical credentials.email = canonical account.email)
    {uid : Uid} (success : signIn store credentials (.success (.user uid))) : uid = account.uid := by
  obtain ⟨other, listed, rfl, same, _⟩ := documented.only store credentials uid success
  rw [List.inj_on_of_nodup_map distinct.emails listed member (same.trans email)]

/-- What every run keeps of the accounts. -/
structure Registered (canonical : String → String) (start : Store)
    (p : Signup × List SignupRecord) : Prop where
  distinct : p.1.store.Distinct canonical
  kept : ∀ account ∈ start.accounts, account ∈ p.1.store.accounts
  created : ∀ r ∈ p.2, r.account ∈ p.1.store.accounts

theorem Registered.step {start : Store} {p q : Signup × List SignupRecord} {e : SignupEvent}
    (registered : Registered canonical start p) (guard : NewEmail canonical p e)
    (step : registry.step p e = some q) : Registered canonical start q := by
  obtain ⟨moved, noted⟩ := Machine.observe_step_iff.mp step
  obtain ⟨accounts, new⟩ := Signup.step_accounts moved
  cases created : p.1.created? e with
  | none =>
    simp only [created, Option.toList_none, List.map_nil, List.append_nil] at accounts noted
    obtain ⟨⟨uids, emails⟩, kept, listed⟩ := registered
    rw [← accounts] at uids emails kept
    exact ⟨⟨uids, emails⟩, kept, by simpa only [noted, accounts] using listed⟩
  | some r =>
    simp only [created, Option.toList_some, List.map_singleton] at accounts noted
    have grown : ∀ account ∈ p.1.store.accounts, account ∈ q.1.store.accounts := by
      intro account member
      simp [accounts, member]
    refine ⟨⟨?_, ?_⟩, fun account member => grown _ (registered.kept account member), ?_⟩
    · rw [accounts, List.map_append, List.map_singleton]
      refine registered.distinct.uids.append (List.nodup_singleton _) ?_
      exact List.disjoint_singleton.mpr (new r created)
    · rw [accounts, List.map_append, List.map_singleton]
      refine registered.distinct.emails.append (List.nodup_singleton _) ?_
      refine List.disjoint_singleton.mpr fun taken => ?_
      obtain ⟨account, member, same⟩ := List.mem_map.mp taken
      exact guard r created account member same
    · intro other member
      rw [noted, List.mem_append, List.mem_singleton] at member
      rcases member with old | rfl
      · exact grown _ (registered.created other old)
      · simp [accounts]

end Step

/-! ### The result -/

/-- In every state the signups can reach, whoever got an account can sign in to it from the login form
with exactly the email, up to how Firebase compares emails, and the password that were submitted,
each with any white space around it, and with these to no other account; and whoever could sign in
before still can. -/
theorem registered_users_sign_in {canonical : String → String}
    {signIn : Store → Credentials → Outcome → Prop} {start : Store} {es : List SignupEvent}
    {p : Signup × List SignupRecord} (documented : SignInDocumented canonical signIn)
    (distinct : start.Distinct canonical)
    (run : registry.Run (NewEmail canonical) ({ store := start }, []) es p) (state : LoginState) :
    (∀ r ∈ p.2, (signIn p.1.store state.credentials (.success (.user r.uid)) ↔
        canonical (trim state.email) = canonical (trim r.submitted.email) ∧
          trim state.password = trim r.submitted.password) ∧
      (Around r.submitted.email state.email → Around r.submitted.password state.password →
        ∀ uid, signIn p.1.store state.credentials (.success (.user uid)) ↔ uid = r.uid)) ∧
    ∀ uid, signIn start state.credentials (.success (.user uid)) →
      signIn p.1.store state.credentials (.success (.user uid)) := by
  have registered : Registered canonical start p :=
    run.invariant ⟨distinct, fun _ member => member, by simp⟩
      fun _ _ _ registered guard step => registered.step guard step
  refine ⟨fun r member => ?_, fun uid success => ?_⟩
  · have listed := registered.created r member
    have own := documented.success_iff registered.distinct listed state.credentials
    refine ⟨own, fun email password uid => ⟨fun success => ?_, ?_⟩⟩
    · exact documented.success_unique registered.distinct listed
        (congrArg canonical (trim_around email)) success
    · rintro rfl
      exact own.mpr ⟨congrArg canonical (trim_around email), trim_around password⟩
  -- the account of before is still there
  · obtain ⟨account, listed, rfl, email, password⟩ := documented.only start _ uid success
    exact documented.each p.1.store _ account (registered.kept account listed) email password

/-- A service that may fail for any reason. -/
def sampleSignIn (store : Store) (credentials : Credentials) : Outcome → Prop
  | .success (.user uid) => ∃ account ∈ store.accounts, account.uid = uid ∧
      account.email = credentials.email ∧ account.password = credentials.password
  | .success _ => False
  | _ => True

/-- The account of an attempt whose document was never written. -/
theorem user_without_document_signs_in : ∃ p, registry.Run (NewEmail id) ({ store := {} }, [])
      [.opens, .edit 0 sampleForm, .tapGetStarted 0, .answer 0 1 (.success (.user "A")),
        .edit 0 {}, .answer 0 2 .exception] p ∧ p.1.store.users "A" = none ∧
    ∀ uid, sampleSignIn p.1.store (LoginState.credentials
      { email := " " ++ sampleForm.email, password := sampleForm.password ++ " " })
      (.success (.user uid)) ↔ uid = "A" := by
  obtain ⟨p, run, ended⟩ := Machine.exists_run_of_exec registry (NewEmail id) ({ store := {} }, [])
    [.opens, .edit 0 sampleForm, .tapGetStarted 0, .answer 0 1 (.success (.user "A")),
      .edit 0 {}, .answer 0 2 .exception]
    (fun p => p.2 == [⟨"A", sampleForm⟩] && p.1.store.users "A" == none) (by decide +kernel)
  simp only [Bool.and_eq_true, beq_iff_eq] at ended
  have documented : SignInDocumented id sampleSignIn :=
    ⟨fun _ _ _ success => success, fun _ _ account listed email password =>
      ⟨account, listed, rfl, email, password⟩⟩
  have distinct : ({} : Store).Distinct id := ⟨List.nodup_nil, List.nodup_nil⟩
  have signsIn := ((registered_users_sign_in documented distinct run
    { email := " " ++ sampleForm.email, password := sampleForm.password ++ " " }).1
      ⟨"A", sampleForm⟩ (by simp [ended.1])).2
  have blank : ∀ c ∈ " ".toList, isWhitespace c = true := by
    intro c member
    rw [List.mem_singleton.mp (show c ∈ [' '] from member)]
    rfl
  have nothing : ∀ c ∈ "".toList, isWhitespace c = true := by simp
  exact ⟨p, run, ended.2, signsIn ⟨" ", "", blank, nothing, by decide +kernel⟩
    ⟨"", " ", nothing, blank, by decide +kernel⟩⟩

end CartX
