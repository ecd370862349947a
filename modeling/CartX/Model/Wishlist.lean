import CartX.Machine.Run
import CartX.Model.Handlers

/-!
# The wishlist heart

One signed-in user, one open `ProductDescriptionPage`, and the document
`wishlist/{uid}/my_items/{product.id}` behind its heart. The document changes
only by the calls of this page. Firestore lets the writes take effect in the
order they were issued, or rejects them; the initial get reads the document at
some moment before it ends. When a call ends, its handler of `Handlers.lean`
goes on.
-/

namespace CartX

inductive WishCall
  | set
  | delete
  deriving DecidableEq, Repr

/-- The document exists once the call has taken effect. -/
def WishCall.leaves : WishCall → Bool
  | .set => true
  | .delete => false

/-- What `_toggleWishlist` sends. -/
def toggleWishlist (isWishlisted : Bool) : WishCall :=
  if isWishlisted then .delete else .set

inductive WriteStatus
  | issued
  | applied
  | rejected
  deriving DecidableEq, Repr

/-- A write whose handler is still suspended. -/
structure WishWrite where
  call : WishCall
  status : WriteStatus := .issued
  deriving DecidableEq, Repr

structure Heart where
  mounted : Bool := true
  isWishlisted : Bool := false
  /-- The get of `_loadWishlistState` while it is pending, with what it has read. -/
  load : Option (Option Bool) := some none
  /-- The get has ended successfully. -/
  loaded : Bool := false
  docExists : Bool
  /-- Oldest first. -/
  writes : List WishWrite := []
  deriving DecidableEq, Repr

/-- The page is opened: `initState` has issued the get. -/
def Heart.init (docExists : Bool) : Heart := { docExists }

inductive HeartEvent
  | tap
  /-- The moment whose document the get returns. -/
  | read
  | loadSucceeds
  | loadFails
  /-- The oldest write in flight takes effect, or is rejected. -/
  | takesEffect (ok : Bool)
  /-- The handler of a write that took effect or was rejected goes on. -/
  | writeEnds (index : Nat)
  | leave
  deriving DecidableEq, Repr

namespace Heart

/-- The handlers' `setState` bodies on this page. -/
def perform (h : Heart) : List Effect → Heart
  | [] => h
  | .setState (.isWishlisted value) :: rest => { h with isWishlisted := value }.perform rest
  | .setState .flipWishlisted :: rest => { h with isWishlisted := !h.isWishlisted }.perform rest
  | _ :: rest => h.perform rest

/-- The first write in flight gets its status. -/
def resolveFirst (status : WriteStatus) : List WishWrite → Option (WishCall × List WishWrite)
  | [] => none
  | write :: rest =>
    if write.status = .issued then some (write.call, { write with status } :: rest)
    else (resolveFirst status rest).map fun found => (found.1, write :: found.2)

def step (h : Heart) : HeartEvent → Option Heart
  -- the flag chooses the write; it is read before the await
  | .tap =>
    if h.mounted then some { h with writes := h.writes ++ [{ call := toggleWishlist h.isWishlisted }] }
    else none
  | .read =>
    match h.load with
    | some none => some { h with load := some (some h.docExists) }
    | _ => none
  -- the flag becomes what the get read, whatever happened since
  | .loadSucceeds =>
    match h.load with
    | some (some value) =>
      some ({ h with load := none, loaded := true }.perform
        (resume .getWish h.mounted (.success (.wish value))).1)
    | _ => none
  | .loadFails =>
    match h.load with
    | some _ => some ({ h with load := none }.perform (resume .getWish h.mounted .exception).1)
    | none => none
  -- the document follows the call, not the flag
  | .takesEffect true =>
    match resolveFirst .applied h.writes with
    | some (call, writes) => some { h with writes, docExists := call.leaves }
    | none => none
  | .takesEffect false =>
    match resolveFirst .rejected h.writes with
    | some (_, writes) => some { h with writes }
    | none => none
  | .writeEnds index =>
    match h.writes[index]? with
    -- the flag is negated, not set
    | some ⟨_, .applied⟩ =>
      some ({ h with writes := h.writes.eraseIdx index }.perform
        (resume .writeWish h.mounted (.success .done)).1)
    | some ⟨_, .rejected⟩ =>
      some ({ h with writes := h.writes.eraseIdx index }.perform
        (resume .writeWish h.mounted .exception).1)
    | _ => none
  | .leave => if h.mounted then some { h with mounted := false } else none

end Heart

def heart : Machine Heart HeartEvent := ⟨Heart.step⟩

end CartX
