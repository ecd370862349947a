import CartX.Model.App
import CartX.Model.Search

/-!
# What the search page lists

A page that has not been edited lists nothing, although its text, the empty one, is
in every name. From the first edit on, every frame lists the products whose name has
the text in it, in the order of the catalogue.
-/

namespace CartX

section Search

variable {lower : Char → Char} {catalogue : List Product} {text part : String} {product : Product}

/-- The product's name has the text in it, but for the case. -/
def Product.Named (product : Product) (lower : Char → Char) (text : String) : Prop :=
  text.toList.map lower <:+: product.name.toList.map lower

instance : Decidable (product.Named lower text) := inferInstanceAs (Decidable (_ <:+: _))

theorem contains_toLowerCase :
    contains (toLowerCase lower product.name) (toLowerCase lower text) =
      decide (product.Named lower text) := by
  simp only [contains, toLowerCase, String.toList_map]
  exact decide_eq_decide.mpr Iff.rfl

theorem searchProduct_eq_filter (lower : Char → Char) (catalogue : List Product) (text : String) :
    searchProduct lower catalogue text =
      catalogue.filter fun product => decide (product.Named lower text) := by
  -- the loop from what it has found so far
  have loop (results : List Product) : catalogue.foldl (fun results product =>
      if contains (toLowerCase lower product.name) (toLowerCase lower text) then results ++ [product]
      else results) results =
        results ++ catalogue.filter fun product => decide (product.Named lower text) := by
    induction catalogue generalizing results with
    | nil => simp
    | cons product rest ih =>
      rw [List.foldl_cons, ih, contains_toLowerCase]
      by_cases named : product.Named lower text <;> simp [named]
  exact loop []

/-- More text around the text is in fewer names. -/
theorem Product.Named.shorter (named : product.Named lower text)
    (within : part.toList.map lower <:+: text.toList.map lower) : product.Named lower part :=
  within.trans named

/-- What every run of the page keeps; `edited` says whether its text was ever changed. -/
structure Searched (lower : Char → Char) (catalogue : List Product) (edited : Prop)
    (s : SearchState) : Prop where
  searched : edited → s.searchResults = searchProduct lower catalogue s.text
  untouched : ¬ edited → s = {}
  built : s.dirty = false → s.rows = s.searchResults
  listed : ∀ product ∈ s.rows, product ∈ catalogue
  found : ∀ product ∈ s.searchResults, product ∈ catalogue

/-- The text was changed. -/
def Edited (es : List SearchEvent) : Prop := ∃ text, .edit text ∈ es

theorem searched_of_run {es : List SearchEvent} {s : SearchState}
    (run : (searchPage lower catalogue).Run Machine.Free {} es s) :
    Searched lower catalogue (Edited es) s := by
  induction run with
  | nil => exact ⟨by simp [Edited], fun _ => rfl, fun _ => rfl, by simp, by simp⟩
  | @snoc es e s t prior _ step ih =>
    cases e with
    | edit text =>
      simp only [searchPage, SearchState.step] at step
      split at step
      · cases step
      · cases step
        refine ⟨fun _ => rfl, fun never => absurd ⟨text, by simp⟩ never, by simp, ih.listed, ?_⟩
        simp only [searchProduct_eq_filter]
        exact fun product member => (List.mem_filter.mp member).1
    | frame =>
      have same : Edited (es ++ [.frame]) ↔ Edited es := by simp [Edited]
      simp only [searchPage, SearchState.step, Option.some.injEq] at step
      split at step
      -- what was found is now shown
      next dirty =>
        subst step
        refine ⟨fun edited => ih.searched (same.mp edited), fun never => ?_, fun _ => rfl, ih.found,
          ih.found⟩
        have start := ih.untouched (fun edited => never (same.mpr edited))
        rw [start] at dirty
        cases dirty
      · subst step
        exact ⟨fun edited => ih.searched (same.mp edited),
          fun never => ih.untouched fun edited => never (same.mpr edited), ih.built, ih.listed,
          ih.found⟩

/-- A product is found under its name. -/
theorem exists_listed (member : product ∈ catalogue) :
    ∃ es s, (searchPage lower catalogue).Run Machine.Free {} es s ∧ product ∈ s.rows := by
  -- the name itself may be the empty text the page starts with, so another comes first
  have longer : product.name ++ "a" ≠ product.name := fun same => by
    simpa using congrArg (fun name => name.toList.length) same
  have nonempty : product.name ++ "a" ≠ "" := fun same => by
    simpa using congrArg (fun name => name.toList.length) same
  have run : (searchPage lower catalogue).Run Machine.Free {}
      [.edit (product.name ++ "a"), .edit product.name, .frame]
      { text := product.name
        searchResults := searchProduct lower catalogue product.name
        rows := searchProduct lower catalogue product.name } :=
    .cons trivial (if_neg nonempty) (.cons trivial (if_neg longer.symm) (.single trivial rfl))
  refine ⟨_, _, run, ?_⟩
  rw [searchProduct_eq_filter]
  exact List.mem_filter.mpr ⟨member, decide_eq_true List.infix_rfl⟩

end Search

/-! ### The results -/

/-- Over any catalogue: a page that has been built since its last edit lists the products whose name
has its text in it exactly if it was ever edited, or there is nothing to list. From then on, while
text is only added around the text there is, the list only gets shorter. -/
theorem search_lists_matches_iff {lower : Char → Char} {catalogue : List Product}
    {es : List SearchEvent} {s : SearchState}
    (run : (searchPage lower catalogue).Run Machine.Free {} es s) (built : s.dirty = false) :
    (s.rows = (catalogue.filter fun product => decide (product.Named lower s.text)) ↔
      Edited es ∨ catalogue = []) ∧
    (Edited es → ∀ fs t, (searchPage lower catalogue).Run Machine.Free s fs t → t.dirty = false →
      s.text.toList.map lower <:+: t.text.toList.map lower → t.rows.Sublist s.rows) := by
  have searched := searched_of_run run
  have rows (edited : Edited es) :
      s.rows = catalogue.filter fun product => decide (product.Named lower s.text) := by
    rw [searched.built built, searched.searched edited, searchProduct_eq_filter]
  refine ⟨⟨fun all => ?_, ?_⟩, fun edited fs t more built' within => ?_⟩
  -- the empty text is in every name
  · by_cases edited : Edited es
    · exact .inl edited
    · rw [searched.untouched edited] at all
      simp only [List.nil_eq, List.filter_eq_nil_iff, decide_eq_true_eq] at all
      refine .inr (List.eq_nil_iff_forall_not_mem.mpr fun product member => all product member ?_)
      exact List.nil_infix
  · rintro (edited | rfl)
    · exact rows edited
    · exact List.eq_nil_iff_forall_not_mem.mpr fun product member => by
        simpa using searched.listed product member
  · have later := searched_of_run (run.append more)
    have still : Edited (es ++ fs) := edited.imp fun text member => List.mem_append_left _ member
    rw [rows edited, later.built built', later.searched still, searchProduct_eq_filter]
    exact List.monotone_filter_right _ fun product named =>
      decide_eq_true ((of_decide_eq_true named : product.Named lower t.text).shorter within)

/-- Two products have the first text in their names, and no others the second. -/
theorem search_for_sunglasses : ∃ s t, (searchPage Char.toLower demoProducts).Run Machine.Free {}
      [.edit "SUN", .frame] s ∧ (searchPage Char.toLower demoProducts).Run Machine.Free s
      [.edit "sunGlass", .frame] t ∧ s.rows.length = 2 ∧ t.rows.Sublist s.rows := by
  obtain ⟨s, first, shape⟩ := Machine.exists_run_of_exec (searchPage Char.toLower demoProducts)
    Machine.Free {} [.edit "SUN", .frame]
    (fun s => s.text == "SUN" && s.dirty == false && s.rows.length == 2) (by decide +kernel)
  simp only [Bool.and_eq_true, beq_iff_eq] at shape
  obtain ⟨⟨text, built⟩, two⟩ := shape
  have other : "sunGlass" ≠ s.text := by simp [text]
  have second : (searchPage Char.toLower demoProducts).Run Machine.Free s
      [.edit "sunGlass", .frame] { text := "sunGlass"
                                   searchResults := searchProduct Char.toLower demoProducts "sunGlass"
                                   rows := searchProduct Char.toLower demoProducts "sunGlass" } :=
    .cons trivial (if_neg other) (.single trivial rfl)
  have within : s.text.toList.map Char.toLower <:+: "sunGlass".toList.map Char.toLower := by
    rw [text]
    decide +kernel
  exact ⟨s, _, first, second, two,
    (search_lists_matches_iff first built).2 ⟨"SUN", by simp⟩ _ _ second rfl within⟩

/-- The products the page can ever list are those of the catalogue: the app's search page, from which
each of them can be opened, has no more and no fewer. -/
theorem search_offers_catalogue (lower : Char → Char) (navIndex : Nat) (product : Product) :
    product ∈ (Page.shownProducts (.search navIndex)).1 ↔
      ∃ es s, (searchPage lower demoProducts).Run Machine.Free {} es s ∧ product ∈ s.rows := by
  constructor
  · exact exists_listed
  · rintro ⟨es, s, run, member⟩
    exact (searched_of_run run).listed product member

end CartX
