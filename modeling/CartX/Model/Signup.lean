import CartX.Machine.Observer
import CartX.Model.Handlers
import Mathlib.Logic.Function.Basic

/-!
# Signing up

`_signup` sends two requests: `createUserWithEmailAndPassword` with the email and
password of the form when Get Started is tapped, then, with the uid it got, a
`set` of `users/{uid}` with the form as it is by then. Nothing disables the
button or the text fields meanwhile, and the page may be left. What the calls
find and leave in Firebase is a `Store`.
-/

namespace CartX

/-! ### The form -/

/-- The characters `String.trim` removes. -/
def isWhitespace (c : Char) : Bool :=
  let n := c.toNat
  (0x0009 ≤ n && n ≤ 0x000D) || n == 0x0020 || n == 0x0085 || n == 0x00A0 || n == 0x1680 ||
    (0x2000 ≤ n && n ≤ 0x200A) || n == 0x2028 || n == 0x2029 || n == 0x202F || n == 0x205F ||
    n == 0x3000 || n == 0xFEFF

def trim (text : String) : String :=
  .ofList ((text.toList.dropWhile isWhitespace).reverse.dropWhile isWhitespace).reverse

/-- The texts of the five controllers. -/
structure SignupForm where
  name : String := ""
  phone : String := ""
  address : String := ""
  email : String := ""
  password : String := ""
  deriving DecidableEq, Repr

/-- A document of the `users` collection. -/
structure UserDoc where
  uid : Uid
  name : String
  phone : String
  address : String
  email : String
  createdAt : Nat
  deriving DecidableEq, Repr

/-- The document `_signup` sets. -/
def SignupForm.userDoc (form : SignupForm) (uid : Uid) (now : Nat) : UserDoc where
  uid
  name := trim form.name
  phone := trim form.phone
  address := trim form.address
  email := trim form.email
  createdAt := now

structure Account where
  uid : Uid
  email : String
  password : String
  deriving DecidableEq, Repr

/-- The account `_signup` asks for. -/
def SignupForm.account (form : SignupForm) (uid : Uid) : Account where
  uid
  email := trim form.email
  password := trim form.password

structure Store where
  accounts : List Account := []
  users : Uid → Option UserDoc := fun _ => none

/-- `createUserWithEmailAndPassword` may succeed with this account: its email has none yet, and
its uid is new. -/
def Store.admits (store : Store) (account : Account) : Bool :=
  store.accounts.all fun other => other.email != account.email && other.uid != account.uid

def Store.create (store : Store) (account : Account) : Store :=
  { store with accounts := store.accounts ++ [account] }

def Store.set (store : Store) (uid : Uid) (doc : UserDoc) : Store :=
  { store with users := Function.update store.users uid doc }

/-! ### The calls -/

/-- The awaits of `_signup`, with what the pending `set` writes. -/
inductive SignupStage
  | creating
  | writing (uid : Uid) (doc : UserDoc)
  deriving DecidableEq, Repr

def SignupStage.await : SignupStage → Await
  | .creating => .createUser
  | .writing _ _ => .setUser

structure SignupCall where
  /-- The page whose button was tapped. -/
  page : Nat
  /-- The form at the tap. -/
  submitted : SignupForm
  stage : SignupStage := .creating
  deriving DecidableEq, Repr

structure SignupPage where
  mounted : Bool := true
  form : SignupForm := {}
  deriving DecidableEq, Repr

def SignupPage.dispose (page : SignupPage) : SignupPage := { page with mounted := false }

structure Signup where
  store : Store
  /-- Every page opened so far. -/
  pages : List SignupPage := []
  calls : List SignupCall := []

inductive SignupEvent
  | opens
  /-- The text fields of the page get these texts. -/
  | edit (page : Nat) (form : SignupForm)
  | tapGetStarted (page : Nat)
  | leave (page : Nat)
  /-- The request a call waits for ends. -/
  | answer (call : Nat) (now : Nat) (outcome : Outcome)
  deriving DecidableEq, Repr

namespace Signup

def perform (s : Signup) : List Effect → Signup
  | [] => s
  | .pushAndRemoveUntil _ :: rest =>
    { s with pages := s.pages.map SignupPage.dispose }.perform rest
  | _ :: rest => s.perform rest

def isOpen (s : Signup) (page : Nat) : Bool := s.pages[page]?.any (·.mounted)

/-- The segment of `_signup` that follows the answer. -/
def settle (s : Signup) (index : Nat) (call : SignupCall) (page : SignupPage) (now : Nat)
    (outcome : Outcome) : Option Signup :=
  let segment := (resume call.stage.await page.mounted outcome).1
  match call.stage, outcome with
  -- the document is made of the form as it is now, the account of the submitted one
  | .creating, .success (.user uid) =>
    if s.store.admits (call.submitted.account uid) then
      some { s with
        store := s.store.create (call.submitted.account uid)
        calls := s.calls.set index { call with stage := .writing uid (page.form.userDoc uid now) } }
    else none
  | .writing uid doc, .success .done =>
    some ({ s with store := s.store.set uid doc, calls := s.calls.eraseIdx index }.perform segment)
  -- an answer of the wrong shape
  | _, .success _ => none
  -- a failure ends the call; the account, if there is one, stays
  | _, _ => some ({ s with calls := s.calls.eraseIdx index }.perform segment)

def step (s : Signup) : SignupEvent → Option Signup
  | .opens =>
    -- one SignupPage at a time
    if s.pages.any (·.mounted) then none else some { s with pages := s.pages ++ [{}] }
  | .edit page form =>
    if s.isOpen page then
      some { s with pages := s.pages.modify page fun page => { page with form } }
    else none
  | .tapGetStarted page =>
    match s.pages[page]? with
    | some ⟨true, form⟩ => some { s with calls := s.calls ++ [{ page, submitted := form }] }
    | _ => none
  | .leave page =>
    if s.isOpen page then some { s with pages := s.pages.modify page SignupPage.dispose }
    else none
  | .answer index now outcome => do
    let call ← s.calls[index]?
    let page ← s.pages[call.page]?
    s.settle index call page now outcome

end Signup

/-! ### The attempts that succeeded -/

/-- An attempt: the uid it got and the form that was submitted. -/
structure SignupRecord where
  uid : Uid
  submitted : SignupForm
  deriving DecidableEq, Repr

/-- A call succeeds when its `set` does: `_signup` then ends without an exception. -/
def noteSuccess (s : Signup) (e : SignupEvent) (_ : Signup) (done : List SignupRecord) :
    List SignupRecord :=
  match e with
  | .answer index _ (.success .done) =>
    match s.calls[index]? with
    | some ⟨_, submitted, .writing uid _⟩ => done ++ [⟨uid, submitted⟩]
    | _ => done
  | _ => done

/-- The signups, with the attempts that succeeded. -/
def signup : Machine (Signup × List SignupRecord) SignupEvent :=
  Machine.observe ⟨Signup.step⟩ noteSuccess

end CartX
