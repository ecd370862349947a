import CartX.Model.Wishlist
import Mathlib.Data.List.Basic

/-!
# The heart and the document

A toggle chooses its write by the flag before the await and negates whatever the
flag is after it. One toggle at a time keeps the flag and the document in step;
a toggle that starts while the load or another toggle is pending may not. The
heart is safe to tap exactly when the load has ended and, if it succeeded, every
pending write has been rejected (`heart_agrees_of_settled`).
-/

namespace CartX

namespace Heart

/-- Nothing pending, the page open and loaded: the heart shows whether the document exists. -/
def Agrees (h : Heart) : Prop :=
  h.load = none → h.writes = [] → h.mounted = true → h.loaded = true →
    h.isWishlisted = h.docExists

instance (h : Heart) : Decidable h.Agrees :=
  inferInstanceAs (Decidable (_ → _ → _ → _ → _))

/-- The load has ended and, if it succeeded, no pending write took or may take effect. -/
def Settled (h : Heart) : Prop :=
  h.load = none ∧ (h.loaded = true → ∀ write ∈ h.writes, write.status = .rejected)

instance (h : Heart) : Decidable h.Settled :=
  inferInstanceAs (Decidable (_ ∧ (_ → ∀ write ∈ _, _)))

/-- The heart is tapped only when it is settled. -/
def TapsSettled (h : Heart) (e : HeartEvent) : Prop := e = .tap → h.Settled

instance (h : Heart) (e : HeartEvent) : Decidable (TapsSettled h e) :=
  inferInstanceAs (Decidable (_ → _))

/-- Anything but a tap. -/
def NoTap (_ : Heart) (e : HeartEvent) : Prop := e ≠ .tap

instance (h : Heart) (e : HeartEvent) : Decidable (NoTap h e) := inferInstanceAs (Decidable (_ ≠ _))

/-- The writes that took or may take effect. -/
def live (h : Heart) : List WishWrite := h.writes.filter fun write => write.status != .rejected

/-! ### The steps on a mounted page -/

section Steps

variable {h : Heart}

@[simp] theorem resume_load (mounted value : Bool) :
    h.perform (resume .getWish mounted (.success (.wish value))).1 =
      if mounted then { h with isWishlisted := value } else h := by
  cases mounted <;> rfl

@[simp] theorem resume_write (mounted : Bool) :
    h.perform (resume .writeWish mounted (.success .done)).1 =
      if mounted then { h with isWishlisted := !h.isWishlisted } else h := by
  cases mounted <;> rfl

@[simp] theorem resume_write_failed (mounted : Bool) :
    h.perform (resume .writeWish mounted .exception).1 = h := rfl

@[simp] theorem leaves_toggle (flag : Bool) : (toggleWishlist flag).leaves = !flag := by
  cases flag <;> rfl

/-- The heart after a tap. -/
def tapped (h : Heart) : Heart :=
  { h with writes := h.writes ++ [⟨toggleWishlist h.isWishlisted, .issued⟩] }

theorem step_tap {k : Heart} (step : h.step .tap = some k) : h.mounted = true ∧ k = h.tapped := by
  simp only [Heart.step] at step
  split at step
  next mounted => exact ⟨mounted, (Option.some.inj step).symm⟩
  · cases step

theorem resolveFirst_eq_some {status : WriteStatus} {writes writes' : List WishWrite}
    {call : WishCall} (found : resolveFirst status writes = some (call, writes')) :
    ∃ front back, writes = front ++ ⟨call, .issued⟩ :: back ∧
      writes' = front ++ ⟨call, status⟩ :: back := by
  induction writes generalizing writes' with
  | nil => cases found
  | cons write rest ih =>
    simp only [resolveFirst] at found
    split at found
    -- the first write in flight, behind those that have ended
    next issued =>
      cases found
      exact ⟨[], rest, by rw [← issued]; rfl, rfl⟩
    next =>
      obtain ⟨⟨call', rest'⟩, inner, same⟩ := Option.map_eq_some_iff.mp found
      obtain ⟨rfl, rfl⟩ : call' = call ∧ write :: rest' = writes' := by simpa using same
      obtain ⟨front, back, rfl, rfl⟩ := ih inner
      exact ⟨write :: front, back, rfl, rfl⟩

end Steps

/-! ### The invariant -/

/-- One write at a time: the flag agrees with the document, or one live write is about to make it
agree again. -/
def InStep (h : Heart) : Prop :=
  (h.live = [] ∧ h.docExists = h.isWishlisted) ∨
  (h.live = [⟨toggleWishlist h.isWishlisted, .issued⟩] ∧ h.docExists = h.isWishlisted) ∨
  (h.live = [⟨toggleWishlist h.isWishlisted, .applied⟩] ∧ h.docExists = !h.isWishlisted)

structure Sound (h : Heart) : Prop where
  loading : h.load ≠ none → h.writes = [] ∧ h.loaded = false ∧ h.isWishlisted = false
  hasRead : ∀ value, h.load = some (some value) → value = h.docExists
  inStep : h.loaded = true → h.mounted = true → h.InStep

theorem Sound.init (docExists : Bool) : (Heart.init docExists).Sound :=
  ⟨fun _ => ⟨rfl, rfl, rfl⟩, by simp [Heart.init], by simp [Heart.init]⟩

variable {h k : Heart}

theorem live_split {front back : List WishWrite} {write : WishWrite}
    (shape : h.writes = front ++ write :: back) :
    h.live = front.filter (fun write => write.status != .rejected) ++
      ([write].filter (fun write => write.status != .rejected) ++
        back.filter fun write => write.status != .rejected) := by
  rw [live, shape, List.filter_append, ← List.singleton_append, List.filter_append]

/-- A live write of a sound heart is its only one. -/
theorem InStep.only {front back : List WishWrite} {write : WishWrite} (inStep : h.InStep)
    (shape : h.writes = front ++ write :: back) (live : write.status ≠ .rejected) :
    front.filter (fun write => write.status != .rejected) = [] ∧
    back.filter (fun write => write.status != .rejected) = [] ∧
    write.call = toggleWishlist h.isWishlisted ∧
      (write.status = .issued ∧ h.docExists = h.isWishlisted ∨
        write.status = .applied ∧ h.docExists = !h.isWishlisted) := by
  -- its place in the list splits the live writes
  have all := live_split shape
  have here : [write].filter (fun write => write.status != .rejected) = [write] := by simp [live]
  rw [here] at all
  -- one live write in all, so none around it
  have alone {other : WishWrite} (one : h.live = [other]) :
      front.filter (fun write => write.status != .rejected) = [] ∧
        back.filter (fun write => write.status != .rejected) = [] ∧ write = other := by
    rw [one] at all
    have size := congrArg List.length all
    simp only [List.length_append, List.length_cons, List.length_nil] at size
    have front_nil := List.eq_nil_of_length_eq_zero
      (l := front.filter fun write => write.status != .rejected) (by omega)
    have back_nil := List.eq_nil_of_length_eq_zero
      (l := back.filter fun write => write.status != .rejected) (by omega)
    rw [front_nil, back_nil] at all
    simp at all
    exact ⟨front_nil, back_nil, all.symm⟩
  rcases inStep with ⟨none, _⟩ | ⟨one, same⟩ | ⟨one, same⟩
  · simp [none] at all
  · obtain ⟨front_nil, back_nil, rfl⟩ := alone one
    exact ⟨front_nil, back_nil, rfl, .inl ⟨rfl, same⟩⟩
  · obtain ⟨front_nil, back_nil, rfl⟩ := alone one
    exact ⟨front_nil, back_nil, rfl, .inr ⟨rfl, same⟩⟩

/-- Without a write there is nothing to change. -/
theorem Sound.loaded_of_writes (sound : h.Sound) (some_write : h.writes ≠ []) : h.load = none := by
  by_contra loading
  exact some_write (sound.loading loading).1

theorem Sound.tap (sound : h.Sound) (settled : h.Settled) : h.tapped.Sound := by
  obtain ⟨ended, quiet⟩ := settled
  refine ⟨fun loading => absurd ended loading, by simp [tapped, ended], fun loaded mounted => ?_⟩
  have none_live : h.live = [] :=
    List.filter_eq_nil_iff.mpr fun write member => by simp [quiet loaded write member]
  -- with nothing live, flag and document agree; the new write is the only live one
  have agrees : h.docExists = h.isWishlisted := by
    rcases sound.inStep loaded mounted with ⟨_, same⟩ | ⟨one, _⟩ | ⟨one, _⟩
    · exact same
    · simp [none_live] at one
    · simp [none_live] at one
  have one : h.tapped.live = [⟨toggleWishlist h.isWishlisted, .issued⟩] := by
    rw [live, tapped, List.filter_append, show h.writes.filter _ = [] from none_live]
    rfl
  exact .inr (.inl ⟨one, agrees⟩)

theorem Sound.takesEffect {call : WishCall} {writes : List WishWrite} (sound : h.Sound)
    (found : resolveFirst .applied h.writes = some (call, writes)) :
    Sound { h with writes, docExists := call.leaves } := by
  obtain ⟨front, back, shape, rfl⟩ := resolveFirst_eq_some found
  have ended := sound.loaded_of_writes (by simp [shape])
  refine ⟨fun loading => absurd ended loading, by simp [ended], fun loaded mounted => ?_⟩
  obtain ⟨front_nil, back_nil, rfl, _⟩ := (sound.inStep loaded mounted).only shape (by simp)
  -- the document is ahead of the flag until the handler goes on
  refine .inr (.inr ⟨?_, by simp⟩)
  rw [live_split rfl, front_nil, back_nil]
  rfl

theorem Sound.rejected {call : WishCall} {writes : List WishWrite} (sound : h.Sound)
    (found : resolveFirst .rejected h.writes = some (call, writes)) :
    Sound { h with writes } := by
  obtain ⟨front, back, shape, rfl⟩ := resolveFirst_eq_some found
  have ended := sound.loaded_of_writes (by simp [shape])
  refine ⟨fun loading => absurd ended loading, by simp [ended], fun loaded mounted => ?_⟩
  obtain ⟨front_nil, back_nil, _, ⟨_, same⟩ | ⟨applied, _⟩⟩ :=
    (sound.inStep loaded mounted).only shape (by simp)
  · refine .inl ⟨?_, same⟩
    rw [live_split rfl, front_nil, back_nil]
    rfl
  · cases applied

theorem Sound.writeEnds {index : Nat} {write : WishWrite} (sound : h.Sound)
    (found : h.writes[index]? = some write) :
    (write.status = .applied →
      Sound ({ h with writes := h.writes.eraseIdx index }.perform
        (resume .writeWish h.mounted (.success .done)).1)) ∧
    (write.status = .rejected →
      Sound ({ h with writes := h.writes.eraseIdx index }.perform
        (resume .writeWish h.mounted .exception).1)) := by
  obtain ⟨inside, rfl⟩ := List.getElem?_eq_some_iff.mp found
  have shape : h.writes = h.writes.take index ++ h.writes[index] :: h.writes.drop (index + 1) := by
    simp
  have rest : h.writes.eraseIdx index = h.writes.take index ++ h.writes.drop (index + 1) :=
    List.eraseIdx_eq_take_drop_succ _ _
  have ended := sound.loaded_of_writes (List.ne_nil_of_length_pos (by omega))
  constructor
  · intro applied
    rw [resume_write]
    cases mounted : h.mounted with
    | false =>
      refine ⟨fun loading => absurd ended loading, by simp [ended], fun _ still => ?_⟩
      simp at still
    | true =>
      refine ⟨fun loading => absurd ended loading, by simp [ended], fun loaded _ => ?_⟩
      obtain ⟨front_nil, back_nil, _, ⟨issued, _⟩ | ⟨_, same⟩⟩ :=
        (sound.inStep loaded mounted).only shape (by simp [applied])
      · simp [applied] at issued
      · refine .inl ⟨?_, same⟩
        show (h.writes.eraseIdx index).filter _ = []
        rw [rest, List.filter_append, front_nil, back_nil]
        rfl
  · intro rejected
    rw [resume_write_failed]
    refine ⟨fun loading => absurd ended loading, by simp [ended], fun loaded mounted => ?_⟩
    -- a rejected write was not live
    have same : Heart.live { h with writes := h.writes.eraseIdx index } = h.live := by
      rw [live_split shape]
      show (h.writes.eraseIdx index).filter _ = _
      rw [rest, List.filter_append, List.filter_cons_of_neg (by simp [rejected])]
      rfl
    have inStep := sound.inStep loaded mounted
    simp only [InStep, same] at inStep ⊢
    exact inStep

theorem Sound.step {e : HeartEvent} (sound : h.Sound) (settled : TapsSettled h e)
    (step : h.step e = some k) : k.Sound := by
  cases e with
  | tap =>
    obtain ⟨_, rfl⟩ := step_tap step
    exact sound.tap (settled rfl)
  | read =>
    simp only [Heart.step] at step
    split at step
    next unread =>
      cases step
      refine ⟨fun _ => sound.loading (by simp [unread]), by simp, fun loaded mounted => ?_⟩
      have := (sound.loading (by simp [unread])).2.1
      simp [this] at loaded
    · cases step
  | loadSucceeds =>
    simp only [Heart.step] at step
    split at step
    next value pending =>
      cases step
      -- no write so far, so the get returns the document as it is
      obtain ⟨none_written, _, _⟩ := sound.loading (by simp [pending])
      have same := sound.hasRead value pending
      rw [resume_load]
      cases mounted : h.mounted with
      | false => exact ⟨by simp, by simp, fun _ still => by simp at still⟩
      | true =>
        refine ⟨by simp, by simp, fun _ _ => .inl ⟨?_, same.symm⟩⟩
        simp [live, none_written]
    · cases step
  | loadFails =>
    simp only [Heart.step] at step
    split at step
    next read pending =>
      cases step
      obtain ⟨_, unloaded, _⟩ := sound.loading (by simp [pending])
      -- a failed load does nothing
      show Sound { h with load := none }
      exact ⟨by simp, by simp, fun loaded _ => by simp [unloaded] at loaded⟩
    · cases step
  | takesEffect ok =>
    cases ok <;> simp only [Heart.step] at step <;> split at step
    next found => cases step; exact sound.rejected found
    next => cases step
    next found => cases step; exact sound.takesEffect found
    next => cases step
  | writeEnds index =>
    simp only [Heart.step] at step
    split at step
    next found => cases step; exact (sound.writeEnds found).1 rfl
    next found => cases step; exact (sound.writeEnds found).2 rfl
    · cases step
  | leave =>
    simp only [Heart.step] at step
    split at step
    · cases step
      exact ⟨sound.loading, sound.hasRead, by simp⟩
    · cases step

theorem sound_of_run {docExists : Bool} {es : List HeartEvent}
    (run : heart.Run TapsSettled (Heart.init docExists) es h) : h.Sound :=
  run.invariant (.init docExists) fun _ _ _ sound settled step => sound.step settled step

theorem Sound.agrees (sound : h.Sound) : h.Agrees := by
  intro _ done mounted loaded
  rcases sound.inStep loaded mounted with ⟨_, same⟩ | ⟨one, _⟩ | ⟨one, _⟩
  · exact same.symm
  · simp [live, done] at one
  · simp [live, done] at one

/-! ### Unsettled taps -/

theorem resolveFirst_append {status : WriteStatus} {front back : List WishWrite} {call : WishCall}
    (ended : ∀ write ∈ front, write.status ≠ .issued) :
    resolveFirst status (front ++ ⟨call, .issued⟩ :: back) =
      some (call, front ++ ⟨call, status⟩ :: back) := by
  induction front with
  | nil => rfl
  | cons write rest ih =>
    simp only [List.cons_append, resolveFirst, ended write (by simp), if_false,
      ih fun other member => ended other (by simp [member])]
    rfl

/-- Every pending write can end, and each one that took effect negates the flag. -/
theorem drain (mounted : h.mounted = true) (ended : ∀ write ∈ h.writes, write.status ≠ .issued) :
    ∃ fs, heart.Run NoTap h fs
      { h with
        writes := []
        isWishlisted := not^[h.writes.countP (·.status = .applied)] h.isWishlisted } := by
  generalize pending : h.writes = writes at ended ⊢
  -- each pending write in turn, from the front
  induction writes generalizing h with
  | nil =>
    cases h
    cases pending
    exact ⟨[], .nil⟩
  | cons write rest ih =>
    have others (other : WishWrite) (member : other ∈ rest) : other.status ≠ .issued :=
      ended other (by simp [member])
    obtain ⟨call, status⟩ := write
    cases status with
    | issued => simp at ended
    | applied =>
      have step : heart.step h (.writeEnds 0) =
          some { h with writes := rest, isWishlisted := !h.isWishlisted } := by
        simp [heart, Heart.step, pending, mounted]
      obtain ⟨fs, run⟩ := ih (h := { h with writes := rest, isWishlisted := !h.isWishlisted })
        mounted rfl others
      refine ⟨_ :: fs, .cons (by simp [NoTap]) step ?_⟩
      simpa [List.countP_cons] using run
    | rejected =>
      have step : heart.step h (.writeEnds 0) = some { h with writes := rest } := by
        simp [heart, Heart.step, pending]
      obtain ⟨fs, run⟩ := ih (h := { h with writes := rest }) mounted rfl others
      refine ⟨_ :: fs, .cons (by simp [NoTap]) step ?_⟩
      simpa [List.countP_cons] using run

/-- Behind a toggle that took effect, a second one of the same kind changes nothing in the store
and turns the heart back. -/
theorem disagrees_of_second_toggle {front back : List WishWrite} {call : WishCall}
    (mounted : h.mounted = true) (ended : h.load = none) (loaded : h.loaded = true)
    (shape : h.writes = front ++ ⟨call, .applied⟩ :: back ++
      [⟨toggleWishlist h.isWishlisted, .issued⟩])
    (front_over : ∀ write ∈ front, write.status = .rejected)
    (back_over : ∀ write ∈ back, write.status = .rejected) :
    ∃ fs k, heart.Run NoTap h fs k ∧ ¬ k.Agrees := by
  have resolved : ∀ write ∈ front ++ ⟨call, .applied⟩ :: back, write.status ≠ .issued := by
    simp only [List.mem_append, List.mem_cons]
    rintro write (member | rfl | member)
    · simp [front_over write member]
    · simp
    · simp [back_over write member]
  have step : heart.step h (.takesEffect true) =
      some { h with
        writes := front ++ ⟨call, .applied⟩ :: back ++ [⟨toggleWishlist h.isWishlisted, .applied⟩]
        docExists := !h.isWishlisted } := by
    simp only [heart, Heart.step, shape, resolveFirst_append resolved, leaves_toggle]
  obtain ⟨fs, run⟩ := drain (h := { h with
    writes := front ++ ⟨call, .applied⟩ :: back ++ [⟨toggleWishlist h.isWishlisted, .applied⟩]
    docExists := !h.isWishlisted }) mounted (by
      simp only [List.mem_append]
      rintro write (member | member)
      · exact resolved write (List.mem_append.mpr member)
      · simp [List.mem_singleton.mp member])
  refine ⟨_, _, .cons (by simp [NoTap]) step run, fun agrees => ?_⟩
  -- only two of the pending writes took effect
  have none_of {writes : List WishWrite} (all : ∀ write ∈ writes, write.status = .rejected) :
      writes.countP (fun write => decide (write.status = .applied)) = 0 :=
    List.countP_eq_zero.mpr fun write member => by simp [all write member]
  have same := agrees ended rfl mounted loaded
  simp [List.countP_append, none_of front_over, none_of back_over] at same

/-- A write issued before the load has ended: the load may show the document as it was before the
write after the write's handler has run; or the write changes nothing and turns the heart. -/
theorem disagrees_of_early_write {value : Bool} (mounted : h.mounted = true)
    (pending : h.load = some (some value)) (same : value = h.docExists)
    (one : h.writes = [⟨.set, .issued⟩]) :
    ∃ fs k, heart.Run NoTap h fs k ∧ ¬ k.Agrees := by
  obtain ⟨_, _, _, _, docExists, _⟩ := h
  cases mounted
  cases pending
  cases one
  obtain rfl : docExists = value := same.symm
  cases docExists with
  | false =>
    exact ⟨[.takesEffect true, .writeEnds 0, .loadSucceeds], _, Machine.run_of_exec rfl,
      fun agrees => by simpa [WishCall.leaves] using agrees rfl rfl rfl rfl⟩
  | true =>
    exact ⟨[.loadSucceeds, .takesEffect true, .writeEnds 0], _, Machine.run_of_exec rfl,
      fun agrees => by simpa [WishCall.leaves] using agrees rfl rfl rfl rfl⟩

/-- A live write of a sound heart, with nothing but rejected writes around it. -/
theorem InStep.split (inStep : h.InStep) (unsettled : ¬ ∀ write ∈ h.writes, write.status = .rejected) :
    ∃ front status back, h.writes = front ++ ⟨toggleWishlist h.isWishlisted, status⟩ :: back ∧
      status ≠ .rejected ∧ (∀ write ∈ front, write.status = .rejected) ∧
      ∀ write ∈ back, write.status = .rejected := by
  obtain ⟨⟨call, status⟩, member, live⟩ : ∃ write ∈ h.writes, write.status ≠ .rejected := by
    simpa using unsettled
  obtain ⟨front, back, shape⟩ := List.append_of_mem member
  obtain ⟨front_nil, back_nil, rfl, _⟩ := inStep.only shape live
  exact ⟨front, status, back, shape, live, by simpa using front_nil, by simpa using back_nil⟩

theorem Sound.disagrees_of_tap_loading (sound : h.Sound) (mounted : h.mounted = true)
    (loading : h.load ≠ none) : ∃ fs k, heart.Run NoTap h.tapped fs k ∧ ¬ k.Agrees := by
  obtain ⟨none_written, _, flag⟩ := sound.loading loading
  have one : h.tapped.writes = [⟨.set, .issued⟩] := by
    simp [tapped, none_written, flag, toggleWishlist]
  rcases pending : h.load with _ | _ | value
  · exact absurd pending loading
  · obtain ⟨fs, k, run, disagree⟩ := disagrees_of_early_write
      (h := { h.tapped with load := some (some h.docExists) }) mounted rfl rfl one
    have read : heart.step h.tapped .read =
        some { h.tapped with load := some (some h.docExists) } := by
      simp [heart, Heart.step, tapped, pending]
    exact ⟨_, k, .cons (by simp [NoTap]) read run, disagree⟩
  · exact disagrees_of_early_write mounted pending (sound.hasRead value pending) one

theorem Sound.disagrees_of_tap_overlap (sound : h.Sound) (mounted : h.mounted = true)
    (ended : h.load = none) (loaded : h.loaded = true)
    (alive : ¬ ∀ write ∈ h.writes, write.status = .rejected) :
    ∃ fs k, heart.Run NoTap h.tapped fs k ∧ ¬ k.Agrees := by
  obtain ⟨front, status, back, shape, live, front_over, back_over⟩ :=
    (sound.inStep loaded mounted).split alive
  have shape' : h.tapped.writes = front ++ ⟨toggleWishlist h.isWishlisted, status⟩ :: back ++
      [⟨toggleWishlist h.isWishlisted, .issued⟩] := by rw [tapped, shape]
  cases status with
  | rejected => exact absurd rfl live
  | applied => exact disagrees_of_second_toggle mounted ended loaded shape' front_over back_over
  | issued =>
    -- the first toggle takes effect, and the previous case is reached
    have step : heart.step h.tapped (.takesEffect true) =
        some { h.tapped with
          writes := front ++ ⟨toggleWishlist h.isWishlisted, .applied⟩ :: back ++
            [⟨toggleWishlist h.isWishlisted, .issued⟩]
          docExists := !h.isWishlisted } := by
      simp only [heart, Heart.step, shape', List.append_assoc, List.cons_append]
      rw [resolveFirst_append fun write member => by simp [front_over write member]]
      simp
    obtain ⟨fs, k, run, disagree⟩ := disagrees_of_second_toggle
      (h := { h.tapped with
        writes := front ++ ⟨toggleWishlist h.isWishlisted, .applied⟩ :: back ++
          [⟨toggleWishlist h.isWishlisted, .issued⟩]
        docExists := !h.isWishlisted }) mounted ended loaded rfl front_over back_over
    exact ⟨_, k, .cons (by simp [NoTap]) step run, disagree⟩

theorem Sound.disagrees_of_tap_unsettled (sound : h.Sound) (step : heart.step h .tap = some k)
    (unsettled : ¬ h.Settled) : ∃ fs m, heart.Run NoTap k fs m ∧ ¬ m.Agrees := by
  obtain ⟨mounted, rfl⟩ := step_tap step
  by_cases ended : h.load = none
  · obtain ⟨loaded, alive⟩ :
        h.loaded = true ∧ ¬ ∀ write ∈ h.writes, write.status = .rejected := by
      simpa only [Settled, ended, true_and, Classical.not_imp] using unsettled
    exact sound.disagrees_of_tap_overlap mounted ended loaded alive
  · exact sound.disagrees_of_tap_loading mounted ended

end Heart

/-- If the heart is tapped only when it is settled, it agrees with the store whenever nothing is
pending on the loaded page. After any other tap, without a further one, the calls can be answered so
that it does not. -/
theorem heart_agrees_of_settled (docExists : Bool) :
    (∀ es h, heart.Run Heart.TapsSettled (Heart.init docExists) es h → h.Agrees) ∧
    (∀ es h k, heart.Run Heart.TapsSettled (Heart.init docExists) es h →
      heart.step h .tap = some k → ¬ h.Settled →
      ∃ fs m, heart.Run Heart.NoTap k fs m ∧ ¬ m.Agrees) :=
  ⟨fun _ _ run => (Heart.sound_of_run run).agrees,
    fun _ _ _ run step unsettled => (Heart.sound_of_run run).disagrees_of_tap_unsettled step unsettled⟩

/-- A toggle that fails and one that takes effect, tapped while the failed one is still pending. -/
theorem heart_agrees_after_failure : ∃ h, heart.Run Heart.TapsSettled (Heart.init false)
    [.read, .loadSucceeds, .tap, .takesEffect false, .tap, .takesEffect true, .writeEnds 1,
      .writeEnds 0] h ∧ h.Agrees ∧ h.isWishlisted = true := by
  obtain ⟨h, run, shown⟩ := Machine.exists_run_of_exec heart Heart.TapsSettled (Heart.init false)
    [.read, .loadSucceeds, .tap, .takesEffect false, .tap, .takesEffect true, .writeEnds 1,
      .writeEnds 0] Heart.isWishlisted (by decide)
  exact ⟨h, run, (heart_agrees_of_settled false).1 _ h run, shown⟩

/-- Two quick taps on an empty heart: the document is written twice, the flag negated twice. -/
theorem double_tap_empties_heart :
    ¬ ∀ (docExists : Bool) (es : List HeartEvent) (h : Heart),
      heart.Run Machine.Free (Heart.init docExists) es h → h.Agrees := by
  intro all
  obtain ⟨h, run, differs⟩ := Machine.exists_run_of_exec heart Machine.Free (Heart.init false)
    [.read, .loadSucceeds, .tap, .tap, .takesEffect true, .takesEffect true, .writeEnds 0,
      .writeEnds 0] (fun h => !decide h.Agrees) (by decide)
  simp [all false _ h run] at differs

end CartX
