import CartX.Model.App

/-!
# Exit transitions

`App.lean` unmounts a page at the moment its route leaves the stack. In the program a
route that is popped or replaced stays in the tree until a transition has ended, and so
long its State is still `mounted`. Here the app has this delay: a removed route is
`leaving` until it is disposed of, at any later moment.

A leaving page takes no taps. Its handlers run on, though: they find it mounted and
navigate, whichever route is topmost by then.
-/

namespace CartX

/-- The calls to the navigator, which act on whatever is topmost. -/
def Effect.changesStack : Effect → Bool
  | .pushReplacement _ | .pushAndRemoveUntil _ | .pop | .showDialog => true
  | _ => false

structure Exiting where
  app : App
  /-- The removed routes whose transition has not ended. -/
  leaving : List Nat := []
  deriving DecidableEq, Repr

inductive ExitingEvent
  | app (e : Timed)
  | disposed (route : Nat)
  deriving DecidableEq, Repr

namespace Exiting

def init (currentUser : Option Uid) (orders : List OrderDoc) : Exiting where
  app := .init currentUser orders

/-- `mounted` of a page's State. -/
def mounted (s : Exiting) (page : Nat) : Bool := s.app.turn.mounted page || s.leaving.contains page

/-- No page is disposed of in the middle of a segment. -/
def applyEffect (mounted : Bool) (time id : Nat) (turn : Turn) (effect : Effect) : Turn :=
  if effect.usesPage && !mounted then turn else turn.perform time id effect

def segment (s : Exiting) (time : Nat) (call : Call) (outcome : Outcome) : Turn :=
  let mounted := s.mounted call.page
  let result := resume call.point mounted outcome
  let turn := result.1.foldl (applyEffect mounted time call.page) s.app.turn
  match result.2 with
  | some next => { turn with started := [{ id := time, page := call.page, point := next }] }
  | none => turn

def answer (s : Exiting) (time id : Nat) (outcome : Outcome) : Option App :=
  match s.app.pending.find? fun call => call.id == id with
  | none => none
  | some call =>
    if call.canEnd outcome then
      let app := { s.app with pending := s.app.pending.filter fun other => other.id != id }
      some ((app.commit call.point outcome).after ({ s with app }.segment time call outcome))
    else none

/-- The routes of the stack that are not on the next one. -/
def removed (s : Exiting) (app : App) : List Nat :=
  (s.app.stack.map Route.id).filter fun id => !app.turn.mounted id

def step (s : Exiting) : ExitingEvent → Option Exiting
  | .app e =>
    let moved :=
      match e.event with
      -- the only event whose effects ask for `mounted` of a page below or off the stack
      | .answer id outcome =>
        if s.app.now < e.time then
          { s with app := { s.app with now := e.time } }.answer e.time id outcome
        else none
      | _ => s.app.step e
    moved.map fun app => { app, leaving := s.removed app ++ s.leaving }
  | .disposed route =>
    if route ∈ s.leaving then some { s with leaving := s.leaving.filter (· != route) } else none

/-- No handler navigates from a page that is leaving. -/
def Undisturbed (s : Exiting) : ExitingEvent → Prop
  | .app ⟨_, .answer id outcome⟩ => ∀ call ∈ s.app.pending, call.id = id → call.page ∈ s.leaving →
      ∀ effect ∈ (resume call.point true outcome).1, effect.changesStack = false
  | _ => True

instance (s : Exiting) (event : ExitingEvent) : Decidable (s.Undisturbed event) := by
  unfold Undisturbed
  split <;> infer_instance

end Exiting

def exiting : Machine Exiting ExitingEvent := ⟨Exiting.step⟩

end CartX
