import CartX.Machine.Documents
import CartX.Model.App
import CartX.Model.Wishlist

/-!
# The app and the wishlist documents

The whole app with the documents `wishlist/{uid}/my_items/{id}` of all users behind
its hearts. `App.lean` lets a call end with any outcome; here the get of
`_loadWishlistState` and the writes of `_toggleWishlist` end as Firestore makes them:
a get with the document it read, a write with success if it took effect and with an
exception if it was rejected. All other calls are free.

A page's document is that of the user signed in at the call.
-/

namespace CartX

/-- The document `wishlist/{uid}/my_items/{id}`. -/
structure WishPath where
  uid : Uid
  id : String
  deriving DecidableEq, Repr

abbrev WishGet := Documents.Get WishPath Bool

abbrev WishPut := Documents.Put WishPath Bool

/-- `snapshot.exists` of the document the get has read; a get may fail at any moment. -/
def WishGet.endsWith (get : WishGet) : Outcome → Bool
  | .success response => get.read.map Response.wish == some response
  | _ => true

def WishPut.endsWith (put : WishPut) (outcome : Outcome) : Bool :=
  put.ended == some outcome.succeeded

structure Wishes where
  app : App
  /-- Which documents exist, and the calls to them whose handlers are suspended. -/
  server : Documents.Server WishPath Bool
  /-- The pages whose get has succeeded. -/
  loaded : List Nat := []

namespace Wishes

def init (currentUser : Option Uid) (orders : List OrderDoc) (docs : WishPath → Bool) : Wishes where
  app := .init currentUser orders
  server := { docs }

/-- The answer is Firestore's. -/
def Answers (w : Wishes) : Event → Prop
  | .answer id outcome =>
    (∀ get ∈ w.server.gets, get.call = id → WishGet.endsWith get outcome = true) ∧
      ∀ put ∈ w.server.puts, put.call = id → WishPut.endsWith put outcome = true
  | _ => True

instance (w : Wishes) (event : Event) : Decidable (w.Answers event) := by
  unfold Answers
  split <;> infer_instance

/-- What the handler of the event sends, and the call it ends. -/
def served (w : Wishes) (e : Timed) : Documents.Server WishPath Bool :=
  match e.event, w.app.currentUser, w.app.stack with
  | .answer id _, _, _ => w.server.forget id
  -- `initState` of the new page
  | .tapProduct product, some uid, _ => w.server.get e.time e.time ⟨uid, product.id⟩
  -- the flag chooses the write
  | .tapHeart, some uid, { id, page := .product state, .. } :: _ =>
    w.server.put e.time id ⟨uid, state.product.id⟩ (toggleWishlist state.isWishlisted).leaves
  | _, _, _ => w.server

def loads (w : Wishes) : Event → List Nat
  | .answer id (.success _) =>
    (w.server.gets.filter fun get => get.call == id).map (·.owner) ++ w.loaded
  | _ => w.loaded

end Wishes

inductive WishesEvent
  | app (e : Timed)
  | reads (call : Nat)
  /-- The oldest write in flight to the document takes effect, or is rejected. -/
  | takesEffect (path : WishPath) (ok : Bool)
  deriving DecidableEq, Repr

def Wishes.step (w : Wishes) : WishesEvent → Option Wishes
  | .app e =>
    if w.Answers e.event then
      (w.app.step e).map fun app => { app, server := w.served e, loaded := w.loads e.event }
    else none
  | .reads call => (w.server.reads call).map fun server => { w with server }
  | .takesEffect path ok => (w.server.takesEffect path ok).map fun server => { w with server }

def wishes : Machine Wishes WishesEvent := ⟨Wishes.step⟩

end CartX
