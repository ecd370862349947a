import CartX.Model.EditProfile

/-!
# A save changes what was edited

Save Changes writes the three controllers as they are. They hold what the user
means to keep if the stored fields were put there first, were put over no edit,
and the user does not type on once the update is under way. Under these
conditions every successful save leaves the edited fields as last typed and the
others as they were; after any other step it may not (`save_changes_only_edits`).
-/

namespace CartX

namespace EditProfile

/-- After a successful save the document holds the texts last typed in the edited fields and the
values stored before in the others. -/
def SavesEdits (stored : PerField String) (p : EditProfile × EditHistory) : Prop :=
  p.2.saved = true → ∀ field, p.1.doc.get field = p.2.expected stored field

instance (stored : PerField String) (p : EditProfile × EditHistory) :
    Decidable (SavesEdits stored p) :=
  inferInstanceAs (Decidable (_ → _))

/-- The load delivers the texts last typed in the edited fields. -/
def DeliversTyped (p : EditProfile × EditHistory) : Prop :=
  ∀ values ∈ p.1.load.join, ∀ field,
    p.2.typed.get field = none ∨ p.2.typed.get field = some (values.get field)

instance (p : EditProfile × EditHistory) : Decidable (DeliversTyped p) :=
  inferInstanceAs (Decidable (∀ values ∈ p.1.load.join, _))

/-- Nothing else is typed while an update is in flight or its answer on the way, the load delivers
nothing else than what was typed into a form still shown, and a save before the load has nothing
to overwrite. -/
def Careful (p : EditProfile × EditHistory) : EditProfileEvent → Prop
  | .edit field text =>
    (∀ write ∈ p.1.writes, write.get field = text) ∧
      (true ∈ p.1.answers → p.1.doc.get field = text)
  | .loadSucceeds => p.1.mounted = true → p.1.formShown = true → DeliversTyped p
  | .tapSave => p.1.loaded = true ∨ ∀ field, p.2.typed.get field = none → p.1.doc.get field = ""
  | _ => True

instance (p : EditProfile × EditHistory) (e : EditProfileEvent) : Decidable (Careful p e) := by
  unfold Careful
  split <;> infer_instance

/-! ### The steps of the page -/

section Steps

variable {s t : EditProfile}

@[simp] theorem start_save :
    s.perform Handler.updateData.start.1 = if s.mounted then { s with isLoading := true } else s :=
  rfl

@[simp] theorem resume_load (mounted : Bool) (values : PerField String) :
    s.perform (resume .getUser mounted (.success (.profile (some values.profileData)))).1 =
      { s with texts := if s.mounted then values else s.texts } := by
  obtain ⟨_ | _, texts, isLoading, formShown, load, loaded, doc, writes, answers⟩ := s
  · rfl
  · rfl

/-- A save that ends successfully closes the page. -/
@[simp] theorem resume_save :
    s.perform (resume .updateUser s.mounted (.success .done)).1 =
      { s with mounted := false, isLoading := s.isLoading && !s.mounted } := by
  obtain ⟨_ | _, texts, isLoading, formShown, load, loaded, doc, writes, answers⟩ := s
  · simp [resume, whenMounted, perform]
  · simp [resume, whenMounted, perform]

/-- What each event needs and does. -/
inductive Turned (s : EditProfile) : EditProfileEvent → EditProfile → Prop
  | edited {field : ProfileField} {text : String} (mounted : s.mounted = true)
      (shown : s.formShown = true) :
      Turned s (.edit field text) { s with texts := s.texts.set field text }
  | submitted (mounted : s.mounted = true) (shown : s.formShown = true) :
      Turned s .tapSave { s with writes := s.writes ++ [s.texts], isLoading := true }
  | read (waiting : s.load = some none) : Turned s .read { s with load := some (some s.doc) }
  | loaded {values : PerField String} (waiting : s.load = some (some values)) :
      Turned s .loadSucceeds { s with
        load := none, loaded := true, texts := if s.mounted then values else s.texts }
  | loadFailed : Turned s .loadFails { s with load := none }
  | answered {ok : Bool} {write : PerField String} {rest : List (PerField String)}
      (inFlight : s.writes = write :: rest) :
      Turned s (.takesEffect ok) { s with
        writes := rest, answers := ok :: s.answers, doc := if ok then write else s.doc }
  | saved (answer : true ∈ s.answers) :
      Turned s (.saveEnds true) { s with
        answers := s.answers.erase true, mounted := false, isLoading := s.isLoading && !s.mounted }
  | rejected (answer : false ∈ s.answers) :
      Turned s (.saveEnds false) { s with answers := s.answers.erase false }
  | rebuilt (mounted : s.mounted = true) : Turned s .frame { s with formShown := !s.isLoading }
  | left : Turned s .leave { s with mounted := false }

theorem turned_of_step {e : EditProfileEvent} (step : s.step e = some t) : s.Turned e t := by
  cases e with
  | edit field text =>
    simp only [EditProfile.step, Bool.and_eq_true] at step
    split at step
    next usable =>
      cases step
      exact .edited usable.1 usable.2
    · cases step
  | tapSave =>
    simp only [EditProfile.step, Bool.and_eq_true] at step
    split at step
    next usable =>
      rw [start_save, if_pos usable.1] at step
      cases step
      exact .submitted usable.1 usable.2
    · cases step
  | read =>
    simp only [EditProfile.step] at step
    split at step
    next waiting =>
      cases step
      exact .read waiting
    · cases step
  | loadSucceeds =>
    simp only [EditProfile.step] at step
    split at step
    next values waiting =>
      rw [resume_load] at step
      cases step
      exact .loaded waiting
    · cases step
  | loadFails =>
    simp only [EditProfile.step] at step
    split at step
    · cases step
      exact .loadFailed
    · cases step
  | takesEffect ok =>
    simp only [EditProfile.step] at step
    split at step
    · cases step
    next write rest inFlight =>
      cases step
      exact .answered inFlight
  -- the answer decides between `pop` and an exception nobody catches
  | saveEnds ok =>
    simp only [EditProfile.step] at step
    split at step
    next answer =>
      cases ok with
      | true =>
        simp only [if_true] at step
        rw [show s.mounted = { s with answers := s.answers.erase true }.mounted from rfl,
          resume_save] at step
        cases step
        exact .saved answer
      | false =>
        cases step
        exact .rejected answer
    · cases step
  | frame =>
    simp only [EditProfile.step] at step
    split at step
    next mounted =>
      cases step
      exact .rebuilt mounted
    · cases step
  | leave =>
    simp only [EditProfile.step] at step
    split at step
    · cases step
      exact .left
    · cases step

end Steps

/-! ### The invariant -/

/-- The document, the updates in flight and the form, against what was stored and typed. -/
structure Faithful (stored : PerField String) (s : EditProfile) (h : EditHistory) : Prop where
  /-- No update has taken effect, or the document is as it should be. -/
  current : (s.doc = stored ∧ true ∉ s.answers ∧ h.saved = false) ∨
    ((∀ field, s.doc.get field = h.expected stored field) ∧ (s.mounted = true → true ∈ s.answers))
  written : ∀ write ∈ s.writes, ∀ field, write.get field = h.expected stored field
  shown : s.mounted = true → s.formShown = true → ∀ field,
    s.texts.get field = (h.typed.get field).getD (if s.loaded then stored.get field else "")
  delivers : ∀ values, s.load = some (some values) → ∀ field, h.typed.get field = none →
    values.get field = stored.get field
  /-- A form that is hidden stays hidden. -/
  hidden : s.mounted = true → s.formShown = false → s.isLoading = true

section Faithful

variable {stored : PerField String} {s t : EditProfile} {h : EditHistory}

theorem Faithful.init (stored : PerField String) : Faithful stored (init stored) {} := by
  refine ⟨.inl ⟨rfl, List.not_mem_nil, rfl⟩, ?_, ?_, ?_, ?_⟩
  · intro write member
    cases member
  · intro _ _ field
    cases field <;> rfl
  · intro values waiting
    cases waiting
  · intro _ hidden
    cases hidden

theorem Faithful.savesEdits (faithful : Faithful stored s h) : SavesEdits stored (s, h) := by
  intro saved
  obtain ⟨_, _, unsaved⟩ | ⟨current, _⟩ := faithful.current
  · exact absurd saved (by simp [unsaved])
  · exact current

theorem expected_unedited {field : ProfileField} (unedited : h.typed.get field = none) :
    h.expected stored field = stored.get field := by
  rw [EditHistory.expected, unedited, Option.getD_none]

theorem expected_edited {field : ProfileField} {text : String}
    (edited : h.typed.get field = some text) : h.expected stored field = text := by
  rw [EditHistory.expected, edited, Option.getD_some]

/-- A field nobody typed in keeps its value whatever was saved. -/
theorem Faithful.unedited (faithful : Faithful stored s h) {field : ProfileField}
    (unedited : h.typed.get field = none) : s.doc.get field = stored.get field := by
  obtain ⟨untouched, _, _⟩ | ⟨current, _⟩ := faithful.current
  · exact congrArg (fun doc => doc.get field) untouched
  · exact (current field).trans (expected_unedited unedited)

/-- Once an update is in flight or has taken effect, the document will be as it should. -/
theorem Faithful.final (faithful : Faithful stored s h)
    (underway : s.writes ≠ [] ∨ true ∈ s.answers) (field : ProfileField) :
    (s.writes.getLastD s.doc).get field = h.expected stored field := by
  -- the last update in flight, or the last that took effect
  cases writes : s.writes with
  | cons write rest =>
    apply faithful.written _ _ field
    rw [writes, List.getLastD_cons]
    exact List.getLastD_mem_cons
  | nil =>
    have answer : true ∈ s.answers := underway.resolve_left (not_not_intro writes)
    obtain ⟨_, unanswered, _⟩ | ⟨current, _⟩ := faithful.current
    · exact absurd answer unanswered
    · exact current field

theorem expected_typed (field other : ProfileField) (text : String) :
    { h with typed := h.typed.set field (some text) }.expected stored other =
      if other = field then text else h.expected stored other := by
  simp only [EditHistory.expected, PerField.get_set]
  split
  · rfl
  · rfl

/-- Typing what is expected anyway changes nothing. -/
theorem expected_typed_same {field : ProfileField} {text : String}
    (same : h.expected stored field = text) (other : ProfileField) :
    { h with typed := h.typed.set field (some text) }.expected stored other =
      h.expected stored other := by
  rw [expected_typed]
  split
  next at_field => rw [at_field, same]
  · rfl

/-! ### Careful steps keep it -/

theorem Faithful.edited (faithful : Faithful stored s h) {field : ProfileField} {text : String}
    (mounted : s.mounted = true) (shown : s.formShown = true)
    (careful : Careful (s, h) (.edit field text)) :
    Faithful stored { s with texts := s.texts.set field text }
      { h with typed := h.typed.set field (some text) } := by
  refine ⟨?_, ?_, ?_, ?_, faithful.hidden⟩
  · obtain untouched | ⟨current, answered⟩ := faithful.current
    · exact .inl untouched
    · -- the page waits for an answer, so the text is the one saved
      have same : h.expected stored field = text :=
        (current field).symm.trans (careful.2 (answered mounted))
      exact .inr ⟨fun other => (current other).trans (expected_typed_same same other).symm, answered⟩
  · intro write member other
    have same : h.expected stored field = text :=
      (faithful.written write member field).symm.trans (careful.1 write member)
    exact (faithful.written write member other).trans (expected_typed_same same other).symm
  · intro _ _ other
    -- the field typed in shows the text, the others what they showed
    simp only [PerField.get_set]
    split
    · rfl
    · exact faithful.shown mounted shown other
  · intro values waiting other unedited
    simp only [PerField.get_set] at unedited
    split at unedited
    · cases unedited
    · exact faithful.delivers values waiting other unedited

theorem Faithful.submitted (faithful : Faithful stored s h) (mounted : s.mounted = true)
    (shown : s.formShown = true) (careful : Careful (s, h) .tapSave) :
    Faithful stored { s with writes := s.writes ++ [s.texts], isLoading := true } h := by
  refine ⟨faithful.current, ?_, faithful.shown, faithful.delivers, fun _ _ => rfl⟩
  intro write member field
  -- earlier updates are as before; the new one holds the form
  rcases List.mem_append.mp member with earlier | latest
  · exact faithful.written write earlier field
  · rw [List.mem_singleton.mp latest, faithful.shown mounted shown field]
    cases edited : h.typed.get field with
    | some text => exact (expected_edited edited).symm
    | none =>
      rw [expected_unedited edited, Option.getD_none]
      -- not loaded: the controller is empty, and so is the field
      split
      · rfl
      next unloaded =>
        rw [← faithful.unedited edited]
        exact (careful.resolve_left unloaded field edited).symm

theorem Faithful.loaded (faithful : Faithful stored s h) {values : PerField String}
    (waiting : s.load = some (some values)) (careful : Careful (s, h) .loadSucceeds) :
    Faithful stored { s with
      load := none, loaded := true, texts := if s.mounted then values else s.texts } h := by
  refine ⟨faithful.current, faithful.written, ?_, fun _ waits => (by cases waits), faithful.hidden⟩
  intro mounted shown field
  show (if s.mounted then values else s.texts).get field =
    (h.typed.get field).getD (stored.get field)
  rw [if_pos mounted]
  -- over an edit the load may only deliver that edit
  obtain unedited | typed := careful mounted shown values (by simp [waiting]) field
  · rw [unedited]
    exact faithful.delivers values waiting field unedited
  · rw [typed, Option.getD_some]

theorem Faithful.answered (faithful : Faithful stored s h) {ok : Bool} {write : PerField String}
    {rest : List (PerField String)} (inFlight : s.writes = write :: rest) :
    Faithful stored { s with
      writes := rest, answers := ok :: s.answers, doc := if ok then write else s.doc } h := by
  have written := faithful.written
  rw [inFlight] at written
  obtain ⟨first, later⟩ := List.forall_mem_cons.mp written
  refine ⟨?_, later, faithful.shown, faithful.delivers, faithful.hidden⟩
  cases ok with
  | true => exact .inr ⟨first, fun _ => List.mem_cons_self⟩
  | false =>
    obtain ⟨untouched, unanswered, unsaved⟩ | ⟨current, answered⟩ := faithful.current
    · exact .inl ⟨untouched, by simpa using unanswered, unsaved⟩
    · exact .inr ⟨current, fun mounted => List.mem_cons_of_mem _ (answered mounted)⟩

theorem Faithful.saved (faithful : Faithful stored s h) (answer : true ∈ s.answers) :
    Faithful stored { s with
      answers := s.answers.erase true, mounted := false, isLoading := s.isLoading && !s.mounted }
      { h with saved := true } := by
  obtain ⟨_, unanswered, _⟩ | ⟨current, _⟩ := faithful.current
  · exact absurd answer unanswered
  -- the page is closed: nothing is asked of its form
  · exact ⟨.inr ⟨current, nofun⟩, faithful.written, nofun, faithful.delivers, nofun⟩

theorem Faithful.rejected (faithful : Faithful stored s h) :
    Faithful stored { s with answers := s.answers.erase false } h := by
  refine ⟨?_, faithful.written, faithful.shown, faithful.delivers, faithful.hidden⟩
  have kept : true ∈ s.answers.erase false ↔ true ∈ s.answers := List.mem_erase_of_ne (by decide)
  simpa only [kept] using faithful.current

theorem Faithful.step {e : EditProfileEvent} (faithful : Faithful stored s h)
    (careful : Careful (s, h) e) (step : s.step e = some t) :
    Faithful stored t (noteTyped s e t h) := by
  cases turned_of_step step with
  | edited mounted shown => exact faithful.edited mounted shown careful
  | submitted mounted shown => exact faithful.submitted mounted shown careful
  | read waiting =>
    refine ⟨faithful.current, faithful.written, faithful.shown, ?_, faithful.hidden⟩
    intro values same field unedited
    cases same
    exact faithful.unedited unedited
  | loaded waiting => exact faithful.loaded waiting careful
  | loadFailed =>
    exact ⟨faithful.current, faithful.written, faithful.shown, nofun, faithful.hidden⟩
  | answered inFlight => exact faithful.answered inFlight
  | saved answer => exact faithful.saved answer
  | rejected => exact faithful.rejected
  -- a frame shows the form only if it was shown
  | rebuilt mounted =>
    refine ⟨faithful.current, faithful.written, ?_, faithful.delivers, ?_⟩
    · intro _ reshown
      apply faithful.shown mounted
      by_contra unshown
      simp [faithful.hidden mounted (by simpa using unshown)] at reshown
    · intro _ hidden
      simpa using hidden
  | left =>
    obtain untouched | ⟨current, _⟩ := faithful.current
    · exact ⟨.inl untouched, faithful.written, nofun, faithful.delivers, nofun⟩
    · exact ⟨.inr ⟨current, nofun⟩, faithful.written, nofun, faithful.delivers, nofun⟩

theorem faithful_of_run {es : List EditProfileEvent} {p : EditProfile × EditHistory}
    (run : editProfile.Run Careful (init stored, {}) es p) : Faithful stored p.1 p.2 := by
  apply run.invariant (I := fun p => Faithful stored p.1 p.2) (Faithful.init stored)
  intro p e q faithful careful step
  obtain ⟨moved, noted⟩ := Machine.observe_step_iff.mp step
  rw [noted]
  exact faithful.step careful moved

end Faithful

/-! ### After any other step a save may be wrong -/

section Unfaithful

variable {stored : PerField String} {s t : EditProfile} {h : EditHistory}

/-- All updates may take effect, and a handler be told so. -/
theorem exists_saved (s : EditProfile) (h : EditHistory)
    (underway : s.writes ≠ [] ∨ true ∈ s.answers) :
    ∃ es t, editProfile.Run Careful (s, h) es (t, { h with saved := true }) ∧
      t.doc = s.writes.getLastD s.doc := by
  -- the updates in flight take effect one by one, then one handler is told
  induction writes : s.writes generalizing s with
  | nil =>
    have answer : true ∈ s.answers := underway.resolve_left (not_not_intro writes)
    have step : s.step (.saveEnds true) = some { s with
        answers := s.answers.erase true, mounted := false, isLoading := s.isLoading && !s.mounted } := by
      simp only [EditProfile.step, if_pos answer, if_true]
      exact congrArg some resume_save
    refine ⟨[.saveEnds true], _, .single trivial (Machine.observe_step step h), ?_⟩
    rfl
  | cons write rest ih =>
    have step : s.step (.takesEffect true) = some { s with
        writes := rest, answers := true :: s.answers, doc := write } := by
      simp only [EditProfile.step, writes, if_true]
    obtain ⟨es, t, run, doc⟩ := ih { s with
      writes := rest, answers := true :: s.answers, doc := write } (.inr List.mem_cons_self) rfl
    refine ⟨.takesEffect true :: es, t, ?_, by rw [doc, List.getLastD_cons]⟩
    exact .cons trivial (Machine.observe_step step h) run

/-- The last update in flight decides what is saved. -/
theorem exists_wrong_save (underway : s.writes ≠ [] ∨ true ∈ s.answers) (field : ProfileField)
    (wrong : (s.writes.getLastD s.doc).get field ≠ h.expected stored field) :
    ∃ es r, editProfile.Run Careful (s, h) es r ∧ ¬ SavesEdits stored r := by
  obtain ⟨es, t, run, doc⟩ := exists_saved s h underway
  refine ⟨es, _, run, fun saves => wrong ?_⟩
  rw [← doc]
  exact saves rfl field

theorem Faithful.exists_wrong_save_of_edit (faithful : Faithful stored s h) {field : ProfileField}
    {text : String} (careless : ¬ Careful (s, h) (.edit field text)) :
    ∃ es r, editProfile.Run Careful ({ s with texts := s.texts.set field text },
      { h with typed := h.typed.set field (some text) }) es r ∧ ¬ SavesEdits stored r := by
  -- something else than the text is or will be saved
  have underway : s.writes ≠ [] ∨ true ∈ s.answers := by
    by_contra idle
    obtain ⟨writes, answers⟩ := not_or.mp idle
    exact careless ⟨by simp [not_not.mp writes], fun answer => absurd answer answers⟩
  have differs : h.expected stored field ≠ text := by
    intro same
    refine careless ⟨fun write member => (faithful.written write member field).trans same, ?_⟩
    intro answer
    obtain ⟨_, unanswered, _⟩ | ⟨current, _⟩ := faithful.current
    · exact absurd answer unanswered
    · exact (current field).trans same
  have wrong : (s.writes.getLastD s.doc).get field ≠
      { h with typed := h.typed.set field (some text) }.expected stored field := by
    rw [expected_typed, if_pos rfl, faithful.final underway field]
    exact differs
  exact exists_wrong_save underway field wrong

/-- What is in the form when Save Changes is tapped is what may be saved. -/
theorem exists_wrong_save_of_tap (field : ProfileField)
    (wrong : s.texts.get field ≠ h.expected stored field) :
    ∃ es r, editProfile.Run Careful
      ({ s with writes := s.writes ++ [s.texts], isLoading := true }, h) es r ∧
        ¬ SavesEdits stored r := by
  apply exists_wrong_save (.inl (by simp)) field
  simpa using wrong

/-- A loaded form may be saved as it is. -/
theorem exists_wrong_save_of_form (mounted : s.mounted = true) (shown : s.formShown = true)
    (loaded : s.loaded = true) (field : ProfileField)
    (wrong : s.texts.get field ≠ h.expected stored field) :
    ∃ es r, editProfile.Run Careful (s, h) es r ∧ ¬ SavesEdits stored r := by
  have step : s.step .tapSave =
      some { s with writes := s.writes ++ [s.texts], isLoading := true } := by
    simp [EditProfile.step, mounted, shown]
  obtain ⟨es, r, run, broken⟩ := exists_wrong_save_of_tap field wrong
  refine ⟨.tapSave :: es, r, ?_, broken⟩
  exact .cons (.inl loaded) (Machine.observe_step step h) run

theorem exists_wrong_save_of_load {values : PerField String}
    (waiting : s.load = some (some values)) (careless : ¬ Careful (s, h) .loadSucceeds) :
    ∃ es r, editProfile.Run Careful ({ s with
      load := none, loaded := true, texts := if s.mounted then values else s.texts }, h) es r ∧
        ¬ SavesEdits stored r := by
  simp only [Careful, DeliversTyped, waiting, Option.join_some, Option.mem_def, Option.some.injEq,
    forall_eq', not_forall, not_or] at careless
  -- an edit is overwritten
  obtain ⟨mounted, shown, field, edited, differs⟩ := careless
  obtain ⟨text, typed⟩ := Option.ne_none_iff_exists'.mp edited
  have wrong : values.get field ≠ h.expected stored field := by
    rw [expected_edited typed]
    intro same
    exact differs (typed.trans (congrArg some same.symm))
  rw [if_pos mounted]
  exact exists_wrong_save_of_form mounted shown rfl field wrong

theorem Faithful.exists_wrong_save {e : EditProfileEvent} (faithful : Faithful stored s h)
    (careless : ¬ Careful (s, h) e) (step : s.step e = some t) :
    ∃ es r, editProfile.Run Careful (t, noteTyped s e t h) es r ∧ ¬ SavesEdits stored r := by
  cases turned_of_step step with
  | edited => exact faithful.exists_wrong_save_of_edit careless
  | loaded waiting => exact exists_wrong_save_of_load waiting careless
  | submitted mounted shown =>
    simp only [Careful, not_or, not_forall] at careless
    obtain ⟨unloaded, field, unedited, full⟩ := careless
    have wrong : s.texts.get field ≠ h.expected stored field := by
      rw [faithful.shown mounted shown field, expected_unedited unedited, unedited,
        Option.getD_none, if_neg unloaded, ← faithful.unedited unedited]
      exact Ne.symm full
    exact exists_wrong_save_of_tap field wrong
  | read | loadFailed | answered | saved | rejected | rebuilt | left => exact absurd trivial careless

end Unfaithful

end EditProfile

/-- In a run of careful steps every successful save leaves the edited fields as last typed and the
others as they were stored. A step is careful exactly when no careful run after it breaks this: of the
runs whose other steps are careful, so one step at a time, nothing more can be allowed. -/
theorem save_changes_only_edits (stored : PerField String) (es : List EditProfileEvent)
    (p : EditProfile × EditHistory)
    (run : editProfile.Run EditProfile.Careful (.init stored, {}) es p) :
    EditProfile.SavesEdits stored p ∧
    ∀ e q, editProfile.step p e = some q →
      (EditProfile.Careful p e ↔ ∀ fs r, editProfile.Run EditProfile.Careful q fs r →
        EditProfile.SavesEdits stored r) := by
  have faithful := EditProfile.faithful_of_run run
  refine ⟨faithful.savesEdits, fun e q step => ⟨fun careful fs r after => ?_, fun saves => ?_⟩⟩
  · exact (EditProfile.faithful_of_run ((run.snoc careful step).append after)).savesEdits
  · by_contra careless
    obtain ⟨moved, noted⟩ := Machine.observe_step_iff.mp step
    obtain ⟨fs, r, after, broken⟩ := faithful.exists_wrong_save careless moved
    rw [← noted] at after
    exact broken (saves fs r after)

/-- The address is edited once the stored fields are in the form; the others keep their values. -/
theorem save_changes_only_edits_of_address : ∃ p,
    editProfile.Run EditProfile.Careful (.init ⟨"A", "017", "Dhaka"⟩, {})
      [.read, .loadSucceeds, .edit .address "Khulna", .tapSave, .frame, .takesEffect true,
        .saveEnds true] p ∧
    EditProfile.SavesEdits ⟨"A", "017", "Dhaka"⟩ p ∧ p.2.saved = true := by
  obtain ⟨p, run, saved⟩ := Machine.exists_run_of_exec editProfile EditProfile.Careful
    (.init ⟨"A", "017", "Dhaka"⟩, {})
    [.read, .loadSucceeds, .edit .address "Khulna", .tapSave, .frame, .takesEffect true,
      .saveEnds true] (fun p => p.2.saved) (by decide +kernel)
  exact ⟨p, run, (save_changes_only_edits ⟨"A", "017", "Dhaka"⟩ _ p run).1, saved⟩

/-- Save Changes tapped before the load is answered: the stored fields are overwritten. -/
theorem early_save_erases_profile :
    ¬ ∀ (stored : PerField String) (es : List EditProfileEvent) (p : EditProfile × EditHistory),
      editProfile.Run Machine.Free (.init stored, {}) es p → EditProfile.SavesEdits stored p := by
  intro all
  obtain ⟨p, run, broken⟩ := Machine.exists_run_of_exec editProfile Machine.Free
    (.init ⟨"A", "017", "Dhaka"⟩, {})
    [.edit .address "Khulna", .tapSave, .frame, .takesEffect true, .saveEnds true]
    (fun p => !decide (EditProfile.SavesEdits ⟨"A", "017", "Dhaka"⟩ p)) (by decide +kernel)
  simp [all ⟨"A", "017", "Dhaka"⟩ _ p run] at broken

end CartX
