import CartX.Machine.Run
import CartX.Model.Products
import Mathlib.Data.List.Infix

/-!
# Searching the catalogue

`SearchPage`: the text field calls `searchProduct` on every change of its text, and
the list is rebuilt at the next frame. `toLowerCase` maps each character by itself;
its table is Unicode's and is a parameter here, `lower`.
-/

namespace CartX

def toLowerCase (lower : Char → Char) (text : String) : String := text.map lower

def contains (text pattern : String) : Bool := decide (pattern.toList <:+: text.toList)

/-- The loop of `searchProduct`: `results.add` for every product that matches. -/
def searchProduct (lower : Char → Char) (demoProducts : List Product) (text : String) :
    List Product :=
  demoProducts.foldl (fun results product =>
    if contains (toLowerCase lower product.name) (toLowerCase lower text) then results ++ [product]
    else results) []

structure SearchState where
  /-- The text of `searchController`. -/
  text : String := ""
  searchResults : List Product := []
  dirty : Bool := false
  /-- The rows of the list, as of the last build. -/
  rows : List Product := []
  deriving DecidableEq, Repr

inductive SearchEvent
  /-- The text field gets this text. -/
  | edit (text : String)
  | frame
  deriving DecidableEq, Repr

namespace SearchState

def step (lower : Char → Char) (demoProducts : List Product) (s : SearchState) :
    SearchEvent → Option SearchState
  -- `onChanged` is not called for the text that is there
  | .edit text =>
    if text = s.text then none
    else some { s with text, searchResults := searchProduct lower demoProducts text, dirty := true }
  | .frame =>
    some (if s.dirty then { s with rows := s.searchResults, dirty := false } else s)

end SearchState

def searchPage (lower : Char → Char) (demoProducts : List Product) :
    Machine SearchState SearchEvent :=
  ⟨SearchState.step lower demoProducts⟩

end CartX
