import CartX.Model.Handlers

/-!
# Handlers and the pages they belong to

A page can only be removed while its handler is suspended: a segment runs
without interruption. So a call of a handler is described by the answers to its
awaited calls and, for each of them, by whether the page was removed while that
call was pending.

Five of the segments use the page without a `mounted` check: the `catch` blocks
of `_login` and `_signup`, the `setState` of `_loadCurrentData` and the first
`setState` after the update in `_updateData`.
-/

namespace CartX

/-- The end of one awaited call, and whether the page was removed while it was pending. -/
structure Completion where
  outcome : Outcome
  removed : Bool
  deriving DecidableEq, Repr

/-- The effects of a suspended handler on the given completions, each with the page's
`mounted` at that moment. -/
def Await.trace (point : Await) (mounted : Bool) : List Completion → List (Effect × Bool)
  | [] => []
  | c :: rest =>
    let mounted := mounted && !c.removed
    let segment := resume point mounted c.outcome
    segment.1.map (fun effect => (effect, mounted)) ++
      match segment.2 with
      | some next => next.trace mounted rest
      | none => []

/-- A whole call of a handler, tapped or started on a mounted page. -/
def Handler.trace (handler : Handler) (completions : List Completion) : List (Effect × Bool) :=
  handler.start.1.map (fun effect => (effect, true)) ++
    handler.start.2.trace true completions

/-- No use of the page in the trace comes after its removal. -/
def UsesOnlyMounted (trace : List (Effect × Bool)) : Prop :=
  ∀ entry ∈ trace, entry.1.usesPage = true → entry.2 = true

instance (trace : List (Effect × Bool)) : Decidable (UsesOnlyMounted trace) :=
  inferInstanceAs (Decidable (∀ entry ∈ trace, _))

/-- The answers after which a handler uses its page without asking for `mounted`. -/
def Await.unchecked : Await → Outcome → Bool
  | .signIn, .authException _ | .createUser, .authException _ | .setUser, .authException _ => true
  | .getUser, .success (.profile (some _)) => true
  | .updateUser, .success _ => true
  | _, _ => false

theorem usesOnlyMounted_append {first second : List (Effect × Bool)} :
    UsesOnlyMounted (first ++ second) ↔ UsesOnlyMounted first ∧ UsesOnlyMounted second := by
  simp only [UsesOnlyMounted, List.mem_append, or_imp, forall_and]

theorem usesOnlyMounted_of_mounted (effects : List Effect) :
    UsesOnlyMounted (effects.map fun effect => (effect, true)) := by
  simp [UsesOnlyMounted]

/-- One segment: on a removed page it is safe exactly when its answer is a checked one. -/
theorem resume_usesOnlyMounted_iff (point : Await) (mounted : Bool) (outcome : Outcome) :
    UsesOnlyMounted ((resume point mounted outcome).1.map fun effect => (effect, mounted)) ↔
      (mounted = false → point.unchecked outcome = false) := by
  cases mounted with
  | true => simp [usesOnlyMounted_of_mounted]
  -- the page is gone: what is left of each segment is what it does unchecked
  | false =>
    cases outcome with
    | success response =>
      cases point <;> try (simp [resume, Await.unchecked, UsesOnlyMounted, whenMounted,
        loginFinally, Effect.usesPage]; done)
      case getUser =>
        cases response with
        | profile data => cases data <;> simp [resume, Await.unchecked, UsesOnlyMounted, Effect.usesPage]
        | _ => simp [resume, Await.unchecked, UsesOnlyMounted]
      case getWish =>
        cases response <;> simp [resume, Await.unchecked, UsesOnlyMounted, whenMounted]
    | authException message =>
      cases point <;> simp [resume, Await.unchecked, UsesOnlyMounted, whenMounted, loginFinally,
        signupCatch, Effect.usesPage]
    | exception =>
      cases point <;> simp [resume, Await.unchecked, UsesOnlyMounted, whenMounted, loginFinally,
        signupCatch]

/-- Only the account creation of `_signup` is followed by a second call. -/
theorem resume_next (point : Await) (mounted : Bool) (outcome : Outcome) :
    (resume point mounted outcome).2 =
      if point = .createUser ∧ outcome.succeeded = true then some .setUser else none := by
  cases outcome with
  | success response =>
    cases point <;> try (simp [resume, Outcome.succeeded]; done)
    case getUser =>
      cases response with
      | profile data => cases data <;> simp [resume]
      | _ => simp [resume]
    case getWish => cases response <;> simp [resume]
  | authException message => cases point <;> simp [resume, Outcome.succeeded]
  | exception => cases point <;> simp [resume, Outcome.succeeded]

theorem Await.trace_cons_iff (point : Await) (mounted : Bool) (c : Completion)
    (rest : List Completion) :
    UsesOnlyMounted (point.trace mounted (c :: rest)) ↔
      ((mounted && !c.removed) = false → point.unchecked c.outcome = false) ∧
      (point = .createUser → c.outcome.succeeded = true →
        UsesOnlyMounted (Await.setUser.trace (mounted && !c.removed) rest)) := by
  simp only [Await.trace, usesOnlyMounted_append, resume_usesOnlyMounted_iff, resume_next]
  by_cases second : point = .createUser ∧ c.outcome.succeeded = true
  · simp [second]
  · rw [if_neg second]
    refine and_congr_right fun _ => ⟨fun _ create ok => absurd ⟨create, ok⟩ second, fun _ => ?_⟩
    simp [UsesOnlyMounted]

/-- When the page may be gone: for every answer that finds the page removed, the answer is
not one of those the handler passes on to its page unchecked. Only `_signup` has two answers,
and only when the first is a success. -/
def Handler.PageKept : Handler → List Completion → Prop
  | .login, c :: _ => c.removed = true → ∀ message, c.outcome ≠ .authException message
  | .signup, c :: rest =>
    (c.removed = true → ∀ message, c.outcome ≠ .authException message) ∧
    (c.outcome.succeeded = true → ∀ d ∈ rest.head?, c.removed = true ∨ d.removed = true →
      ∀ message, d.outcome ≠ .authException message)
  | .loadCurrentData, c :: _ =>
    c.removed = true → ∀ data, c.outcome ≠ .success (.profile (some data))
  | .updateData, c :: _ => c.removed = true → c.outcome.succeeded = false
  | _, _ => True

theorem unchecked_auth_iff {point : Await} (caught : point = .signIn ∨ point = .createUser ∨
    point = .setUser) (outcome : Outcome) :
    point.unchecked outcome = false ↔ ∀ message, outcome ≠ .authException message := by
  rcases caught with rfl | rfl | rfl <;> cases outcome <;> simp [Await.unchecked]

theorem unchecked_getUser_iff (outcome : Outcome) :
    Await.getUser.unchecked outcome = false ↔
      ∀ data, outcome ≠ .success (.profile (some data)) := by
  rcases outcome with (_ | _ | _ | (_ | data)) | _ | _ <;> simp [Await.unchecked]

theorem unchecked_updateUser_iff (outcome : Outcome) :
    Await.updateUser.unchecked outcome = false ↔ outcome.succeeded = false := by
  cases outcome <;> simp [Await.unchecked, Outcome.succeeded]

/-- A handler keeps off a removed page exactly on the completions `PageKept` describes. -/
theorem handler_usesOnlyMounted_iff (handler : Handler) (completions : List Completion) :
    UsesOnlyMounted (handler.trace completions) ↔ handler.PageKept completions := by
  rw [Handler.trace, usesOnlyMounted_append]
  simp only [usesOnlyMounted_of_mounted, true_and]
  cases completions with
  | nil => cases handler <;> simp [Handler.PageKept, Await.trace, UsesOnlyMounted]
  | cons c rest =>
    rw [Await.trace_cons_iff]
    cases handler with
    | login => simp [Handler.start, Handler.PageKept, unchecked_auth_iff]
    | loadCurrentData => simp [Handler.start, Handler.PageKept, unchecked_getUser_iff]
    | updateData => simp [Handler.start, Handler.PageKept, unchecked_updateUser_iff]
    -- the only handler with a second call, on the same page
    | signup =>
      cases rest with
      | nil => simp [Handler.start, Handler.PageKept, unchecked_auth_iff, Await.trace, UsesOnlyMounted]
      | cons d rest =>
        simp [Handler.start, Handler.PageKept, unchecked_auth_iff, Await.trace_cons_iff]
        grind
    | _ => simp [Handler.start, Handler.PageKept, Await.unchecked]

/-- Going back from `EditProfilePage` before its profile has arrived: the late `setState`
of `_loadCurrentData` finds the page disposed. -/
theorem loadCurrentData_uses_removed_page :
    ¬ ∀ (handler : Handler) (completions : List Completion),
      UsesOnlyMounted (handler.trace completions) := by
  intro all
  have late := all .loadCurrentData
    [⟨.success (.profile (some ⟨some "A", some "017", some "Dhaka"⟩)), true⟩]
  revert late
  decide

end CartX
