import CartX.Machine.Observer
import CartX.Model.Handlers
import Mathlib.Data.Fintype.Basic

/-!
# Editing the profile

One signed-in user, one open `EditProfilePage`, and the three fields of
`users/{uid}` behind its form. `initState` starts `_loadCurrentData`, which puts
the stored fields into the controllers whenever its get is answered; the form is
usable meanwhile. Save Changes writes all three controllers. The document
changes only by the updates of this page, which take effect in the order they
were issued or are rejected; when one has ended, `_updateData` goes on.
-/

namespace CartX

inductive ProfileField
  | name
  | phone
  | address
  deriving DecidableEq, Repr

instance : Fintype ProfileField := ⟨{.name, .phone, .address}, by rintro (_ | _ | _) <;> decide⟩

/-- A value for each field of the form. -/
structure PerField (α : Type) where
  name : α
  phone : α
  address : α
  deriving DecidableEq, Repr

namespace PerField

variable {α : Type}

def get (values : PerField α) : ProfileField → α
  | .name => values.name
  | .phone => values.phone
  | .address => values.address

def set (values : PerField α) (field : ProfileField) (value : α) : PerField α :=
  match field with
  | .name => { values with name := value }
  | .phone => { values with phone := value }
  | .address => { values with address := value }

theorem get_set (values : PerField α) (field other : ProfileField) (value : α) :
    (values.set field value).get other = if other = field then value else values.get other := by
  cases field <;> cases other <;> rfl

end PerField

/-- The document's three fields hold strings. -/
def PerField.profileData (values : PerField String) : ProfileData where
  name := some values.name
  phone := some values.phone
  address := some values.address

structure EditProfile where
  mounted : Bool := true
  /-- The texts of the three controllers. -/
  texts : PerField String := ⟨"", "", ""⟩
  isLoading : Bool := false
  /-- The form, not the progress indicator, was built. -/
  formShown : Bool := true
  /-- The get of `_loadCurrentData` while it is pending, with what it has read. -/
  load : Option (Option (PerField String)) := some none
  /-- The get has ended successfully. -/
  loaded : Bool := false
  doc : PerField String
  /-- The updates in flight, oldest first. -/
  writes : List (PerField String) := []
  /-- The updates that took effect (`true`) or were rejected, while their handlers wait. -/
  answers : List Bool := []
  deriving DecidableEq, Repr

/-- The page is opened: `initState` has issued the get. -/
def EditProfile.init (doc : PerField String) : EditProfile := { doc }

inductive EditProfileEvent
  /-- The user types in a text field, which then holds this text. -/
  | edit (field : ProfileField) (text : String)
  | tapSave
  /-- The moment whose document the get returns. -/
  | read
  | loadSucceeds
  | loadFails
  /-- The oldest update in flight takes effect, or is rejected. -/
  | takesEffect (ok : Bool)
  /-- The handler of an update that took effect or was rejected goes on. -/
  | saveEnds (ok : Bool)
  | frame
  | leave
  deriving DecidableEq, Repr

namespace EditProfile

/-- The handlers' effects on this page. A `setState` after `dispose` throws instead. -/
def perform (s : EditProfile) : List Effect → EditProfile
  | [] => s
  | .setState (.controllers name phone address) :: rest =>
    if s.mounted then { s with texts := ⟨name, phone, address⟩ }.perform rest else s
  | .setState (.isLoading value) :: rest =>
    if s.mounted then { s with isLoading := value }.perform rest else s
  | .pop :: rest => { s with mounted := false }.perform rest
  | _ :: rest => s.perform rest

def step (s : EditProfile) : EditProfileEvent → Option EditProfile
  | .edit field text =>
    if s.mounted && s.formShown then some { s with texts := s.texts.set field text } else none
  -- all three controllers are written, edited or not, loaded or not
  | .tapSave =>
    if s.mounted && s.formShown then
      some ({ s with writes := s.writes ++ [s.texts] }.perform Handler.updateData.start.1)
    else none
  | .read =>
    match s.load with
    | some none => some { s with load := some (some s.doc) }
    | _ => none
  -- the controllers become what the get read, whatever was typed since
  | .loadSucceeds =>
    match s.load with
    | some (some values) =>
      some ({ s with load := none, loaded := true }.perform
        (resume .getUser s.mounted (.success (.profile (some values.profileData)))).1)
    | _ => none
  | .loadFails =>
    match s.load with
    | some _ => some ({ s with load := none }.perform (resume .getUser s.mounted .exception).1)
    | none => none
  | .takesEffect ok =>
    match s.writes with
    | [] => none
    | write :: rest =>
      some { s with writes := rest, answers := ok :: s.answers, doc := if ok then write else s.doc }
  | .saveEnds ok =>
    if ok ∈ s.answers then
      some ({ s with answers := s.answers.erase ok }.perform
        (resume .updateUser s.mounted (if ok then .success .done else .exception)).1)
    else none
  | .frame => if s.mounted then some { s with formShown := !s.isLoading } else none
  | .leave => if s.mounted then some { s with mounted := false } else none

end EditProfile

/-! ### What was typed and saved -/

structure EditHistory where
  /-- The last text typed in each field since the page was opened. -/
  typed : PerField (Option String) := ⟨none, none, none⟩
  /-- A save has ended successfully. -/
  saved : Bool := false
  deriving DecidableEq, Repr

def noteTyped (_ : EditProfile) (e : EditProfileEvent) (_ : EditProfile) (history : EditHistory) :
    EditHistory :=
  match e with
  | .edit field text => { history with typed := history.typed.set field (some text) }
  | .saveEnds true => { history with saved := true }
  | _ => history

/-- The page, with what was typed and saved. -/
def editProfile : Machine (EditProfile × EditHistory) EditProfileEvent :=
  Machine.observe ⟨EditProfile.step⟩ noteTyped

/-- What the document should hold: the last text typed in the edited fields, the value stored
before in the others. -/
def EditHistory.expected (history : EditHistory) (stored : PerField String)
    (field : ProfileField) : String :=
  (history.typed.get field).getD (stored.get field)

end CartX
