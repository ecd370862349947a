import Mathlib.Data.List.Nodup
import Mathlib.Logic.Function.Basic

/-!
# Documents behind pending calls

A server keeps a document under each path. Owners read and write documents by
calls that end later: a get returns the document as it is at some moment before its
call ends; the writes to one path take effect in the order they were issued, or are
rejected. A call that has ended is forgotten.

A path changes only by writes in flight to it. So an owner that all these belong to
has the document to itself (`resolve_own`).
-/

namespace Documents

structure Get (K V : Type*) where
  call : Nat
  owner : Nat
  path : K
  /-- What the get returns, once it has read it. -/
  read : Option V := none
  deriving DecidableEq, Repr

structure Put (K V : Type*) where
  call : Nat
  owner : Nat
  path : K
  /-- The document once the write has taken effect. -/
  value : V
  /-- Whether the write took effect, once that is decided. -/
  ended : Option Bool := none
  deriving DecidableEq, Repr

structure Server (K V : Type*) where
  docs : K → V
  gets : List (Get K V) := []
  /-- Oldest first. -/
  puts : List (Put K V) := []

variable {K V : Type*}

/-- Decide the oldest write in flight to the path. -/
def resolve [DecidableEq K] (path : K) (ok : Bool) : List (Put K V) → Option (V × List (Put K V))
  | [] => none
  | put :: rest =>
    if put.path = path ∧ put.ended.isNone then
      some (put.value, { put with ended := some ok } :: rest)
    else (resolve path ok rest).map fun found => (found.1, put :: found.2)

namespace Server

def get (s : Server K V) (call owner : Nat) (path : K) : Server K V :=
  { s with gets := s.gets ++ [{ call, owner, path }] }

def put (s : Server K V) (call owner : Nat) (path : K) (value : V) : Server K V :=
  { s with puts := s.puts ++ [{ call, owner, path, value }] }

/-- The moment whose document the get returns. -/
def reads (s : Server K V) (call : Nat) : Option (Server K V) :=
  if s.gets.any fun get => get.call == call && get.read.isNone then
    some { s with gets := s.gets.map fun get =>
      if get.call = call ∧ get.read.isNone then { get with read := some (s.docs get.path) } else get }
  else none

/-- The oldest write in flight to the path takes effect, or is rejected. -/
def takesEffect [DecidableEq K] (s : Server K V) (path : K) (ok : Bool) : Option (Server K V) :=
  (resolve path ok s.puts).map fun found =>
    { s with
      docs := if ok then Function.update s.docs path found.1 else s.docs
      puts := found.2 }

/-- The call has ended. -/
def forget (s : Server K V) (call : Nat) : Server K V :=
  { s with
    gets := s.gets.filter fun get => get.call != call
    puts := s.puts.filter fun put => put.call != call }

def getsOf (s : Server K V) (owner : Nat) : List (Get K V) :=
  s.gets.filter fun get => get.owner == owner

def putsOf (s : Server K V) (owner : Nat) : List (Put K V) :=
  s.puts.filter fun put => put.owner == owner

end Server

/-! ### Calls that end -/

section Forget

variable {s : Server K V} {call owner : Nat}

theorem Server.getsOf_forget (others : ∀ get ∈ s.gets, get.owner = owner → get.call ≠ call) :
    (s.forget call).getsOf owner = s.getsOf owner := by
  rw [Server.getsOf, Server.forget, List.filter_comm]
  refine List.filter_eq_self.mpr fun get listed => ?_
  obtain ⟨member, owned⟩ := List.mem_filter.mp listed
  simpa using others get member (by simpa using owned)

theorem Server.putsOf_forget (others : ∀ put ∈ s.puts, put.owner = owner → put.call ≠ call) :
    (s.forget call).putsOf owner = s.putsOf owner := by
  rw [Server.putsOf, Server.forget, List.filter_comm]
  refine List.filter_eq_self.mpr fun put listed => ?_
  obtain ⟨member, owned⟩ := List.mem_filter.mp listed
  simpa using others put member (by simpa using owned)

/-- Taking a write off by its name is taking it off by its place. -/
theorem filter_call_eq_eraseIdx {puts : List (Put K V)} {put : Put K V} {index : Nat}
    (names : (puts.map (·.call)).Nodup) (found : puts[index]? = some put) :
    puts.filter (fun other => other.call != put.call) = puts.eraseIdx index := by
  induction puts generalizing index with
  | nil => cases found
  | cons first rest ih =>
    rw [List.map_cons, List.nodup_cons] at names
    cases index with
    | zero =>
      cases found
      rw [List.filter_cons_of_neg (by simp), List.eraseIdx_cons_zero]
      refine List.filter_eq_self.mpr fun other listed => ?_
      have apart : other.call ≠ put.call := fun same => names.1 (same ▸ List.mem_map_of_mem listed)
      simpa using apart
    | succ index =>
      rw [List.getElem?_cons_succ] at found
      have apart : first.call ≠ put.call := fun same =>
        names.1 (same ▸ List.mem_map_of_mem (List.mem_of_getElem? found))
      rw [List.filter_cons_of_pos (by simpa using apart), List.eraseIdx_cons_succ, ih names.2 found]

end Forget

/-! ### Reading -/

/-- The request once it has read its document, if it is the one that reads. -/
def Get.reading (docs : K → V) (call : Nat) (get : Get K V) : Get K V :=
  if get.call = call ∧ get.read.isNone then { get with read := some (docs get.path) } else get

theorem Get.reading_owner (docs : K → V) (call : Nat) (get : Get K V) :
    (get.reading docs call).owner = get.owner := by
  unfold Get.reading
  split <;> rfl

theorem Server.reads_eq_some {s t : Server K V} {call : Nat} (read : s.reads call = some t) :
    t = { s with gets := s.gets.map (Get.reading s.docs call) } := by
  unfold Server.reads at read
  split at read
  · exact (Option.some.inj read).symm
  · cases read

theorem Server.getsOf_reads {s t : Server K V} {call : Nat} (read : s.reads call = some t)
    (owner : Nat) : t.getsOf owner = (s.getsOf owner).map (Get.reading s.docs call) := by
  rw [Server.reads_eq_some read, Server.getsOf, Server.getsOf, List.filter_map]
  congr 1
  refine List.filter_congr fun get _ => ?_
  rw [Function.comp_apply, Get.reading_owner]

theorem Server.exists_reads {s : Server K V} {get : Get K V} (asked : get ∈ s.gets)
    (unread : get.read = none) : ∃ t, s.reads get.call = some t :=
  ⟨_, if_pos (List.any_eq_true.mpr ⟨get, asked, by simp [unread]⟩)⟩

/-! ### The oldest write -/

section Resolve

variable [DecidableEq K] {path : K} {ok : Bool} {puts puts' : List (Put K V)} {value : V} {owner : Nat}

theorem resolve_eq_some (found : resolve path ok puts = some (value, puts')) :
    ∃ front put back, puts = front ++ put :: back ∧ put.path = path ∧ put.ended = none ∧
      put.value = value ∧ (∀ other ∈ front, other.path = path → other.ended ≠ none) ∧
      puts' = front ++ { put with ended := some ok } :: back := by
  induction puts generalizing puts' with
  | nil => cases found
  | cons put rest ih =>
    simp only [resolve] at found
    split at found
    next oldest =>
      cases found
      exact ⟨[], put, rest, rfl, oldest.1, by simpa using oldest.2, rfl, by simp, rfl⟩
    next other =>
      obtain ⟨⟨value', rest'⟩, inner, same⟩ := Option.map_eq_some_iff.mp found
      obtain ⟨rfl, rfl⟩ : value' = value ∧ put :: rest' = puts' := by simpa using same
      obtain ⟨front, put', back, rfl, at_path, open_, held, older, rfl⟩ := ih inner
      refine ⟨put :: front, put', back, rfl, at_path, open_, held, fun earlier listed => ?_, rfl⟩
      rcases List.mem_cons.mp listed with rfl | later
      · intro here none
        exact other ⟨here, by simp [none]⟩
      · exact older earlier later

theorem resolve_isSome {put : Put K V} (member : put ∈ puts) (at_path : put.path = path)
    (undecided : put.ended = none) : (resolve path ok puts).isSome = true := by
  induction puts with
  | nil => cases member
  | cons first rest ih =>
    rw [resolve]
    split
    · rfl
    next other =>
      rcases List.mem_cons.mp member with rfl | later
      · exact absurd ⟨at_path, by simp [undecided]⟩ other
      · simpa using ih later

/-- A write in flight to the path can be decided. -/
theorem Server.exists_takesEffect {s : Server K V} {put : Put K V} (written : put ∈ s.puts)
    (at_path : put.path = path) (undecided : put.ended = none) (ok : Bool) :
    ∃ t, s.takesEffect path ok = some t := by
  obtain ⟨found, resolved⟩ := Option.isSome_iff_exists.mp
    (resolve_isSome written at_path undecided : (resolve path ok s.puts).isSome = true)
  exact ⟨_, congrArg (Option.map _) resolved⟩

theorem resolve_calls (found : resolve path ok puts = some (value, puts')) :
    puts'.map (fun put => (put.call, put.owner)) = puts.map fun put => (put.call, put.owner) := by
  obtain ⟨front, put, back, rfl, _, _, _, _, rfl⟩ := resolve_eq_some found
  simp

/-- What is left in flight was so before. -/
theorem mem_resolve {put' : Put K V} (found : resolve path ok puts = some (value, puts'))
    (member : put' ∈ puts') :
    ∃ put ∈ puts, put'.owner = put.owner ∧ put'.path = put.path ∧
      (put'.ended = none → put.ended = none) := by
  obtain ⟨front, put, back, rfl, _, undecided, _, _, rfl⟩ := resolve_eq_some found
  simp only [List.mem_append, List.mem_cons] at member
  rcases member with listed | rfl | listed
  · exact ⟨put', by simp [listed], rfl, rfl, id⟩
  · exact ⟨put, by simp, rfl, rfl, fun _ => undecided⟩
  · exact ⟨put', by simp [listed], rfl, rfl, id⟩

/-- An owner that writes to the path only and has all that is in flight to it decides its own
oldest write. -/
theorem resolve_own (own : ∀ put ∈ puts, put.owner = owner → put.path = path)
    (alone : ∀ put ∈ puts, put.path = path → put.ended = none → put.owner = owner)
    (found : resolve path ok puts = some (value, puts')) :
    ∃ front put back, puts.filter (fun put => put.owner == owner) = front ++ put :: back ∧
      put.ended = none ∧ put.value = value ∧ (∀ other ∈ front, other.ended ≠ none) ∧
      puts'.filter (fun put => put.owner == owner) =
        front ++ { put with ended := some ok } :: back := by
  obtain ⟨front, put, back, rfl, at_path, undecided, held, older, rfl⟩ := resolve_eq_some found
  have mine : put.owner = owner := alone put (by simp) at_path undecided
  refine ⟨front.filter fun put => put.owner == owner, put,
    back.filter fun put => put.owner == owner, by simp [mine], undecided, held, ?_, by simp [mine]⟩
  intro other listed
  obtain ⟨member, owned⟩ := List.mem_filter.mp listed
  exact older other member (own other (by simp [member]) (by simpa using owned))

/-- An owner that never writes to the path is not concerned. -/
theorem resolve_other (own : ∀ put ∈ puts, put.owner = owner → put.path ≠ path)
    (found : resolve path ok puts = some (value, puts')) :
    puts'.filter (fun put => put.owner == owner) = puts.filter fun put => put.owner == owner := by
  obtain ⟨front, put, back, rfl, at_path, _, _, _, rfl⟩ := resolve_eq_some found
  have other : put.owner ≠ owner := fun mine => own put (by simp) mine at_path
  simp [other]

end Resolve

end Documents
