import CartX.Model.App
import CartX.Model.Signup

/-!
# The profiles of the users

A document `users/{uid}` is written by the `set` of `_signup` and by the `update` of
`_updateData`, and read by the home page, the profile page and the edit form. An
`update` needs a document to change: without one it fails.

The signups are those of `Signup.lean`. Beside them edit forms are opened one after
the other. A request of a form reaches Firestore at some moment and ends then; its
handler goes on later, in any order. Who is signed in is part of the event that
asks for it, so the session may change while a form is open.
-/

namespace CartX

/-! ### What the pages show -/

/-- What a page's stream of a document has returned: nothing yet, that there is no document, or
the fields of the document. -/
abbrev UserSnapshot := Option (Option ProfileData)

/-- The name in the document, or the page's substitute. -/
def shownName (substitute : String) : UserSnapshot → String
  | some (some data) => data.name.getD substitute
  | _ => substitute

/-- The greeting of `HomePage`. -/
def nameToShow (snapshot : UserSnapshot) : String := shownName "Guest" snapshot

/-- The header of `ProfilePage`. -/
def userName (snapshot : UserSnapshot) : String := shownName "User Name" snapshot

def Store.account? (store : Store) (uid : Uid) : Option Account :=
  store.accounts.find? fun account => account.uid == uid

/-- The line below the header, `user?.email ?? ""`. -/
def Store.emailOf (store : Store) (user : Option Uid) : String :=
  ((user.bind store.account?).map Account.email).getD ""

/-- A stored document is read back unchanged. -/
def UserDoc.data (doc : UserDoc) : ProfileData where
  name := some doc.name
  phone := some doc.phone
  address := some doc.address

/-- What a reader of the user's document finds. The document of nobody is a new one. -/
def Store.profile (store : Store) (user : Option Uid) : Option ProfileData :=
  (user.bind store.users).map UserDoc.data

/-! ### The forms and their requests -/

structure ProfileForm where
  mounted : Bool := true
  state : EditProfileState := {}
  deriving DecidableEq, Repr

/-- The handlers' effects on a form. A `setState` after `dispose` throws instead. -/
def ProfileForm.perform (form : ProfileForm) : List Effect → ProfileForm
  | [] => form
  | .setState (.controllers name phone address) :: rest =>
    if form.mounted then { form with state := { form.state with name, phone, address } }.perform rest
    else form
  | .setState (.isLoading value) :: rest =>
    if form.mounted then { form with state := { form.state with isLoading := value } }.perform rest
    else form
  | .pop :: rest => { form with mounted := false }.perform rest
  | _ :: rest => form.perform rest

inductive ProfileRequest
  | get
  | update (name phone address : String)
  deriving DecidableEq, Repr

def ProfileRequest.await : ProfileRequest → Await
  | .get => .getUser
  | .update _ _ _ => .updateUser

structure ProfileCall where
  /-- The form whose handler is suspended. -/
  form : Nat
  /-- Whose document it asks for: the user signed in at the call. -/
  user : Option Uid
  request : ProfileRequest
  /-- How the request ended, once it has. -/
  ended : Option Outcome := none
  deriving DecidableEq, Repr

structure Profiles where
  signup : Signup
  /-- Every form opened so far. -/
  forms : List ProfileForm := []
  calls : List ProfileCall := []

inductive ProfileEvent
  | signup (e : SignupEvent)
  | opens (currentUser : Option Uid)
  /-- The text fields of the form get these texts. -/
  | edit (form : Nat) (name phone address : String)
  | tapSave (form : Nat) (currentUser : Option Uid)
  | frame (form : Nat)
  | leave (form : Nat)
  /-- The request of a call ends, refused or not. -/
  | ends (call : Nat) (accepted : Bool)
  /-- The handler of a call goes on. -/
  | resumes (call : Nat)
  deriving DecidableEq, Repr

namespace Profiles

/-- The fields of a document that `update` replaces. -/
def write (s : Profiles) (uid : Uid) (doc : UserDoc) (name phone address : String) : Profiles :=
  { s with signup := { s.signup with store := s.signup.store.set uid { doc with name, phone, address } } }

/-- How a request ends, and what it leaves in the store. -/
def serve (s : Profiles) (user : Option Uid) : ProfileRequest → Outcome × Profiles
  | .get => (.success (.profile (s.signup.store.profile user)), s)
  | .update name phone address =>
    match user with
    | some uid =>
      match s.signup.store.users uid with
      | some doc => (.success .done, s.write uid doc name phone address)
      | none => (.exception, s)
    -- a new document, which does not exist
    | none => (.exception, s)

/-- The handler of a call whose request has ended goes on. -/
def resume (s : Profiles) (index : Nat) (call : ProfileCall) (outcome : Outcome) : Profiles :=
  { s with
    calls := s.calls.eraseIdx index
    forms := s.forms.modify call.form fun form =>
      form.perform (CartX.resume call.request.await form.mounted outcome).1 }

def step (s : Profiles) : ProfileEvent → Option Profiles
  | .signup e => (s.signup.step e).map fun signup => { s with signup }
  | .opens currentUser =>
    -- one form at a time; `_loadCurrentData` returns at once without a user
    if s.forms.any (·.mounted) then none
    else
      let call : ProfileCall := { form := s.forms.length, user := currentUser, request := .get }
      some { s with
        forms := s.forms ++ [{}]
        calls := if currentUser.isSome then s.calls ++ [call] else s.calls }
  | .edit index name phone address =>
    match s.forms[index]? with
    | some ⟨true, state⟩ =>
      if state.formShown then
        some { s with forms := s.forms.set index ⟨true, { state with name, phone, address }⟩ }
      else none
    | _ => none
  | .tapSave index currentUser =>
    match s.forms[index]? with
    | some ⟨true, state⟩ =>
      if state.formShown then
        let request := ProfileRequest.update state.name state.phone state.address
        some { s with
          forms := s.forms.set index (ProfileForm.perform ⟨true, state⟩ Handler.updateData.start.1)
          calls := s.calls ++ [{ form := index, user := currentUser, request }] }
      else none
    | _ => none
  | .frame index =>
    match s.forms[index]? with
    | some ⟨true, state⟩ =>
      some { s with forms := s.forms.set index ⟨true, { state with formShown := !state.isLoading }⟩ }
    | _ => none
  | .leave index =>
    match s.forms[index]? with
    | some ⟨true, state⟩ => some { s with forms := s.forms.set index ⟨false, state⟩ }
    | _ => none
  | .ends index accepted =>
    match s.calls[index]? with
    | some ⟨form, user, request, none⟩ =>
      let served := if accepted then s.serve user request else (.exception, s)
      some { served.2 with
        calls := s.calls.set index { form, user, request, ended := some served.1 } }
    | _ => none
  | .resumes index =>
    match s.calls[index]? with
    | some ⟨form, user, request, some outcome⟩ =>
      some (s.resume index { form, user, request, ended := some outcome } outcome)
    | _ => none

end Profiles

def profiles : Machine Profiles ProfileEvent := ⟨Profiles.step⟩

end CartX
