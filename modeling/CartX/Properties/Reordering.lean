import CartX.Properties.Failures
import CartX.Properties.Navigation
import Mathlib.Data.List.Pairwise

/-!
# The order of answers

Firebase answers in any order. An answer that only changes the page it is for, which
is every failure and the success of a load or of a heart's write, may come before or
after any other such answer: the app ends in the same state, as long as no two of them
are for one page and one of these is a load. A load stores what it read, whatever the
page did since, so there the order shows.
-/

namespace CartX

/-- A pending call and how it ends. -/
structure Answer where
  call : Call
  outcome : Outcome
  deriving DecidableEq, Repr

/-- The calls whose success does nothing but a `setState` on their page. -/
def Await.staysOnPage : Await → Bool
  | .getUser | .getWish | .writeWish => true
  | _ => false

/-- The calls that read what their page shows. -/
def Await.isLoad : Await → Bool
  | .getUser | .getWish => true
  | _ => false

namespace Answer

def event (a : Answer) : Event := .answer a.call.id a.outcome

/-- The answer changes its page at most. -/
def InPlace (a : Answer) : Prop :=
  a.call.canEnd a.outcome = true ∧ (a.outcome.succeeded = true → a.call.point.staysOnPage = true)

def Loads (a : Answer) : Prop := a.outcome.succeeded = true ∧ a.call.point.isLoad = true

/-- Not two answers for one page of which one is a load. -/
def Apart (a b : Answer) : Prop := a.call.page = b.call.page → ¬ a.Loads ∧ ¬ b.Loads

instance : Std.Symm Apart := ⟨fun _ _ apart page => (apart page.symm).symm⟩

/-- The `setState` that follows the answer. -/
def change? (a : Answer) : Option LocalUpdate :=
  match a.call.point, a.outcome with
  | .signIn, .authException _ | .signIn, .exception => some (.isLoading false)
  | .getUser, .success (.profile (some data)) =>
    some (.controllers (data.name.getD "") (data.phone.getD "") (data.address.getD ""))
  | .getWish, .success (.wish exists_) => some (.isWishlisted exists_)
  | .writeWish, .success _ => some .flipWishlisted
  | _, _ => none

def update (a : Answer) (route : Route) : Route :=
  match a.change? with
  | some change => route.update a.call.page (Page.apply change)
  | none => route

end Answer

/-- The app once the answer has come. -/
def App.answered (s : App) (a : Answer) : App :=
  { s with
    now := s.now + 1
    stack := s.stack.map a.update
    pending := s.pending.filter fun other => other.id != a.call.id }

/-- Events one tick apart. -/
def ticks : Nat → List Event → List Timed
  | _, [] => []
  | now, event :: rest => ⟨now + 1, event⟩ :: ticks (now + 1) rest

section Answers

variable {s : App} {a b : Answer} {answers : List Answer}

/-- The `setState` as a turn. -/
theorem Answer.turn_eq (a : Answer) (turn : Turn) :
    ({ turn with stack := turn.stack.map a.update } : Turn) =
      match a.change? with
      | some change => turn.setState a.call.page (Page.apply change)
      | none => turn := by
  cases found : a.change? with
  | some change =>
    have same : a.update = Route.update a.call.page (Page.apply change) := by
      funext route
      simp only [Answer.update, found]
    rw [same]
    rfl
  | none =>
    have same : a.update = id := by
      funext route
      simp only [Answer.update, found, id]
    simp [same]

theorem Answer.InPlace.segment (inPlace : a.InPlace) (s : App) (time : Nat) :
    s.segment time a.call a.outcome = { s.turn with stack := s.turn.stack.map a.update } := by
  rw [a.turn_eq]
  obtain ⟨⟨id, page, point⟩, outcome⟩ := a
  obtain ⟨ends, own⟩ := inPlace
  cases failed : outcome.succeeded with
  | false =>
    rw [segment_failed _ _ _ failed]
    cases outcome with
    | success => cases failed
    | _ => cases point <;> rfl
  | true =>
    cases outcome with
    | success response =>
      -- where the page is gone, its `setState` changes nothing
      have gone {update : Page → Page} (away : s.turn.mounted page = false) :
          s.turn.setState page update = s.turn := Turn.setState_of_unmounted away update
      cases point with
      | getUser =>
        cases response with
        | profile data => cases data <;> simp [App.segment, resume, Answer.change?]
        | _ => cases ends
      | getWish =>
        cases response with
        | wish exists_ =>
          cases mounted : s.turn.mounted page <;>
            simp [App.segment, resume, Answer.change?, mounted, whenMounted, gone]
        | _ => cases ends
      | writeWish =>
        cases mounted : s.turn.mounted page <;>
          simp [App.segment, resume, Answer.change?, mounted, whenMounted, gone]
      | _ => cases own rfl
    | _ => cases failed

theorem Answer.InPlace.commit (inPlace : a.InPlace) (s : App) :
    s.commit a.call.point a.outcome = s := by
  obtain ⟨⟨id, page, point⟩, outcome⟩ := a
  obtain ⟨ends, own⟩ := inPlace
  cases outcome with
  | success response => cases point <;> first | rfl | cases own rfl
  | _ => cases point <;> rfl

theorem Answer.InPlace.step (inPlace : a.InPlace) (wf : WellFormed s) (member : a.call ∈ s.pending) :
    s.step ⟨s.now + 1, a.event⟩ = some (s.answered a) := by
  rw [Answer.event, App.step_answer wf member inPlace.1]
  dsimp only
  rw [inPlace.segment, inPlace.commit]
  rfl

/-- On one page, answers that are no loads may change places. -/
theorem Page.apply_comm {change change' : LocalUpdate} (page : Page)
    (plain : change = .isLoading false ∨ change = .flipWishlisted)
    (plain' : change' = .isLoading false ∨ change' = .flipWishlisted) :
    Page.apply change (Page.apply change' page) = Page.apply change' (Page.apply change page) := by
  rcases plain with rfl | rfl <;> rcases plain' with rfl | rfl <;> cases page <;> rfl

theorem Answer.plain {change : LocalUpdate} (noLoad : ¬ a.Loads) (found : a.change? = some change) :
    change = .isLoading false ∨ change = .flipWishlisted := by
  obtain ⟨⟨id, page, point⟩, outcome⟩ := a
  simp only [Answer.Loads] at noLoad
  unfold Answer.change? at found
  dsimp only at found
  split at found
  · exact .inl (Option.some.inj found).symm
  · exact .inl (Option.some.inj found).symm
  · exact absurd ⟨rfl, rfl⟩ noLoad
  · exact absurd ⟨rfl, rfl⟩ noLoad
  · exact .inr (Option.some.inj found).symm
  · cases found

theorem Route.update_comm {id id' : Nat} {f g : Page → Page} (route : Route)
    (comm : id = id' → f (g route.page) = g (f route.page)) :
    (route.update id' g).update id f = (route.update id f).update id' g := by
  by_cases here : route.id = id
  · by_cases there : route.id = id'
    · simp only [Route.update, if_pos here, if_pos there, comm (here.symm.trans there)]
    · simp only [Route.update, if_pos here, if_neg there]
  · by_cases there : route.id = id'
    · simp only [Route.update, if_neg here, if_pos there]
    · simp only [Route.update, if_neg here, if_neg there]

theorem Answer.update_comm (apart : a.Apart b) (route : Route) :
    a.update (b.update route) = b.update (a.update route) := by
  cases found : a.change? with
  | none => simp [Answer.update, found]
  | some change =>
    cases found' : b.change? with
    | none => simp [Answer.update, found']
    | some change' =>
      simp only [Answer.update, found, found']
      apply Route.update_comm
      intro same
      exact Page.apply_comm _ (Answer.plain (apart same).1 found) (Answer.plain (apart same).2 found')

theorem App.answered_comm (s : App) (apart : a.Apart b) :
    (s.answered b).answered a = (s.answered a).answered b := by
  have moved : (s.stack.map b.update).map a.update = (s.stack.map a.update).map b.update := by
    rw [List.map_map, List.map_map]
    exact List.map_congr_left fun route _ => Answer.update_comm apart route
  simp only [App.answered, moved]
  rw [List.filter_comm]

/-- Answers to different pending calls can come one after the other. -/
theorem run_answers (wf : WellFormed s) (pending : ∀ a ∈ answers, a.call ∈ s.pending)
    (once : (answers.map Answer.call).Nodup) (inPlace : ∀ a ∈ answers, a.InPlace) :
    app.Run Machine.Free s (ticks s.now (answers.map Answer.event)) (answers.foldl App.answered s) := by
  induction answers generalizing s with
  | nil => exact .nil
  | cons a rest ih =>
    rw [List.map_cons, List.nodup_cons] at once
    have member := pending a List.mem_cons_self
    have step := (inPlace a List.mem_cons_self).step wf member
    refine .cons trivial step (ih (wf.step step) ?_ once.2 fun b listed =>
      inPlace b (List.mem_cons_of_mem _ listed))
    -- the other calls are still pending
    intro b listed
    have still := pending b (List.mem_cons_of_mem _ listed)
    refine List.mem_filter.mpr ⟨still, ?_⟩
    have other : b.call.id ≠ a.call.id := fun same =>
      once.1 (call_unique wf.callNames member still same ▸ List.mem_map_of_mem listed)
    simpa using other

end Answers

/-! ### The result -/

/-- In every state the app can reach: answers to different pending calls that change their pages at
most, and of which no two are for one page with a load among them, can come in every order, and every
order leaves the app in the same state. -/
theorem answers_in_place_commute {currentUser : Option Uid} {orders : List OrderDoc} {es : List Timed}
    {s : App} {answers others : List Answer}
    (run : app.Run Machine.Free (App.init currentUser orders) es s)
    (pending : ∀ a ∈ answers, a.call ∈ s.pending) (once : (answers.map Answer.call).Nodup)
    (inPlace : ∀ a ∈ answers, a.InPlace) (apart : answers.Pairwise Answer.Apart)
    (same : answers.Perm others) :
    ∃ t, app.Run Machine.Free s (ticks s.now (answers.map Answer.event)) t ∧
      app.Run Machine.Free s (ticks s.now (others.map Answer.event)) t := by
  have wf := (laid_of_run run).wf
  refine ⟨_, run_answers wf pending once inPlace, ?_⟩
  have ends : answers.foldl App.answered s = others.foldl App.answered s := by
    refine same.foldl_eq' (fun a member b listed z => ?_) s
    by_cases equal : a = b
    · rw [equal]
    · exact (App.answered_comm z (apart.forall member listed equal)).symm
  rw [ends]
  exact run_answers wf (fun a member => pending a (same.symm.subset member))
    ((same.map _).nodup_iff.mp once) fun a member => inPlace a (same.symm.subset member)

/-- Two taps on a heart, of which one write succeeds and the other fails. -/
theorem heart_answers_commute : ∃ s t, app.Run Machine.Free (App.init none [])
      (schedule [.splashTimeout, .tapLogin, .answer 2 (.success (.user "A")), .tapProduct tomato,
        .answer 4 (.success (.wish false)), .tapHeart, .tapHeart]) s ∧
    app.Run Machine.Free s [⟨8, .answer 6 (.success .done)⟩, ⟨9, .answer 7 .exception⟩] t ∧
    app.Run Machine.Free s [⟨8, .answer 7 .exception⟩, ⟨9, .answer 6 (.success .done)⟩] t := by
  obtain ⟨s, run, shape⟩ := Machine.exists_run_of_exec app Machine.Free (App.init none [])
    (schedule [.splashTimeout, .tapLogin, .answer 2 (.success (.user "A")), .tapProduct tomato,
      .answer 4 (.success (.wish false)), .tapHeart, .tapHeart])
    (fun s => s.pending == [⟨7, 4, .writeWish⟩, ⟨6, 4, .writeWish⟩] && s.now == 7) (by decide +kernel)
  simp only [Bool.and_eq_true, beq_iff_eq] at shape
  obtain ⟨pending, now⟩ := shape
  have listed : ∀ a ∈ ([⟨⟨6, 4, .writeWish⟩, .success .done⟩, ⟨⟨7, 4, .writeWish⟩, .exception⟩] :
      List Answer), a.call ∈ s.pending := by simp [pending]
  obtain ⟨t, first, second⟩ := answers_in_place_commute run listed (by decide)
    (by simp [Answer.InPlace, Call.canEnd, Await.expects, Await.staysOnPage])
    (by simp [Answer.Apart, Answer.Loads, Await.isLoad]) (List.Perm.swap _ _ _)
  rw [now] at first second
  exact ⟨s, t, run, first, second⟩

end CartX
