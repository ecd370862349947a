import CartX.Model.App
import CartX.Model.Signup

/-!
# Logging in to an account

What `_login` sends. The service that answers is Firebase's: how the request may end is
a parameter, `signIn`, of which only the successes are described (`SignInDocumented`);
it may fail at any time. Firebase does not tell emails apart that differ in case only;
how it compares them is a parameter too, `canonical`.
-/

namespace CartX

/-- What `signInWithEmailAndPassword` is called with. -/
structure Credentials where
  email : String
  password : String
  deriving DecidableEq, Repr

def LoginState.credentials (state : LoginState) : Credentials where
  email := trim state.email
  password := trim state.password

/-- The successes of `signInWithEmailAndPassword`: they are for the accounts with this email and
this password. -/
structure SignInDocumented (canonical : String → String)
    (signIn : Store → Credentials → Outcome → Prop) : Prop where
  only : ∀ store credentials uid, signIn store credentials (.success (.user uid)) →
    ∃ account ∈ store.accounts, account.uid = uid ∧
      canonical account.email = canonical credentials.email ∧
      account.password = credentials.password
  each : ∀ (store : Store) (credentials : Credentials), ∀ account ∈ store.accounts,
    canonical account.email = canonical credentials.email →
    account.password = credentials.password →
    signIn store credentials (.success (.user account.uid))

/-- The attempt whose account an event creates. -/
def Signup.created? (s : Signup) : SignupEvent → Option SignupRecord
  | .answer index _ (.success (.user uid)) =>
    match s.calls[index]? with
    | some ⟨_, submitted, .creating⟩ => some ⟨uid, submitted⟩
    | _ => none
  | _ => none

/-- The signups, with the attempts that got an account, whatever became of their documents. -/
def registry : Machine (Signup × List SignupRecord) SignupEvent :=
  Machine.observe ⟨Signup.step⟩ fun s e _ created => created ++ (s.created? e).toList

end CartX
