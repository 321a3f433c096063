import Mediasoup.Channel.Message

set_option autoImplicit false

/-! # The Worker's state

The Worker owns its Routers and WebRtcServers through two `std::unordered_map`s from id to
pointer, `mapRouters` and `mapWebRtcServers`, and a `SignalsHandler` it allocates in its
constructor. The model keeps the heap explicit: every object allocated with `new` stays in
`Heap.objs` at the address that is its index, and every `delete` appends its address to
`Heap.deleted`. "No object is deleted twice" is then `deleted.Nodup`, and an object is live when
it was allocated and not deleted.

A map is an `AList`: its keys are distinct by construction, as they are in the C++ map.
-/

namespace Mediasoup

/-! ## Heap -/

/-- Heap addresses. -/
abbrev Ptr := Nat

/-- The objects the Worker allocates with `new`. -/
inductive Obj where
  | signalsHandler
  | router (id : String)
  | webRtcServer (id : String)
  deriving DecidableEq, Repr

/-- The `id` member of a Router or WebRtcServer; a SignalsHandler has none. -/
def Obj.id : Obj → String
  | .signalsHandler => ""
  | .router id => id
  | .webRtcServer id => id

/-- The heap as the Worker uses it: every object allocated so far, at the address that is its
index, and the address of every `delete`, in order. -/
structure Heap where
  objs : List Obj
  deleted : List Ptr
  deriving DecidableEq, Repr

namespace Heap

/-- `new`: the object is placed at the next address. -/
def new (h : Heap) (o : Obj) : Ptr × Heap := (h.objs.length, { h with objs := h.objs ++ [o] })

/-- `delete p`. -/
def delete (h : Heap) (p : Ptr) : Heap := { h with deleted := h.deleted ++ [p] }

/-- `p->id`, read through a Router or WebRtcServer pointer. -/
def idOf (h : Heap) (p : Ptr) : String := ((h.objs[p]?).map Obj.id).getD ""

@[simp] theorem new_fst (h : Heap) (o : Obj) : (h.new o).1 = h.objs.length := rfl
@[simp] theorem new_objs (h : Heap) (o : Obj) : (h.new o).2.objs = h.objs ++ [o] := rfl
@[simp] theorem new_deleted (h : Heap) (o : Obj) : (h.new o).2.deleted = h.deleted := rfl
@[simp] theorem delete_objs (h : Heap) (p : Ptr) : (h.delete p).objs = h.objs := rfl
@[simp] theorem delete_deleted (h : Heap) (p : Ptr) : (h.delete p).deleted = h.deleted ++ [p] := rfl

theorem idOf_of_get {h : Heap} {p : Ptr} {o : Obj} (hp : h.objs[p]? = some o) :
    h.idOf p = o.id := by
  simp [idOf, hp]

/-- `for (auto& kv : m) delete kv.second;` over the entries `l` of a map. -/
def deleteEach (h : Heap) (l : List (Σ _ : String, Ptr)) : Heap :=
  l.foldl (fun h kv => h.delete kv.2) h

theorem deleteEach_eq (h : Heap) (l : List (Σ _ : String, Ptr)) :
    h.deleteEach l = { objs := h.objs, deleted := h.deleted ++ l.map (·.2) } := by
  induction l generalizing h with
  | nil => simp [deleteEach]
  | cons kv l ih =>
    show (h.delete kv.2).deleteEach l = _
    simp [ih]

end Heap

/-! ## Maps from id to pointer -/

/-- A `std::unordered_map<std::string, T*>`. -/
abbrev PtrMap := AList (fun _ : String => Ptr)

/-- The pointers a map stores. -/
def PtrMap.values (m : PtrMap) : List Ptr := m.entries.map (·.2)

@[simp] theorem PtrMap.values_empty : (∅ : PtrMap).values = [] := rfl

theorem PtrMap.mem_values {m : PtrMap} {p : Ptr} : p ∈ m.values ↔ ∃ k, m.lookup k = some p := by
  simp only [values, List.mem_map]
  constructor
  · rintro ⟨⟨k, q⟩, hkq, rfl⟩
    exact ⟨k, AList.mem_lookup_iff.2 hkq⟩
  · rintro ⟨k, hk⟩
    exact ⟨⟨k, p⟩, AList.mem_lookup_iff.1 hk, rfl⟩

theorem PtrMap.values_insert_of_not_mem {m : PtrMap} {k : String} {p : Ptr} (hk : k ∉ m) :
    PtrMap.values (m.insert k p) = p :: m.values := by
  rw [values, AList.insert_entries_of_neg hk]; rfl

theorem PtrMap.erase_entries (m : PtrMap) (k : String) : (m.erase k).entries = m.entries.kerase k :=
  rfl

/-- Erasing the key of an entry removes its pointer, and only it, when the map stores no pointer
twice. -/
theorem PtrMap.values_erase {m : PtrMap} {k : String} {p : Ptr}
    (hnd : m.values.Nodup) (hk : m.lookup k = some p) :
    PtrMap.values (m.erase k) = m.values.erase p := by
  have hmem : k ∈ m.entries.keys := AList.mem_keys.1 (AList.lookup_isSome.1 (by simp [hk]))
  obtain ⟨b, l₁, l₂, -, hl, he⟩ := List.exists_of_kerase hmem
  have hb : b = p := by
    have := AList.mem_lookup_iff.1 hk
    rw [hl] at this
    exact (List.NodupKeys.eq_of_mk_mem (hl ▸ m.nodupKeys) this
      (List.mem_append_right _ (List.mem_cons_self _ _))).symm
  subst hb
  simp only [values, hl, List.map_append, List.map_cons] at hnd ⊢
  have hb₁ : b ∉ l₁.map (·.2) := fun h =>
    (List.nodup_cons.1 (List.nodup_middle.1 hnd)).1 (List.mem_append_left _ h)
  simp only [erase_entries, he, List.map_append, List.erase_append_right _ hb₁,
    List.erase_cons_head]

/-! ## The Worker -/

/-- The calls the Worker makes to its collaborators outside src/ that the model records. -/
inductive Effect where
  | createChecker
  | emitRunning
  | closeChecker
  | closeChannel
  | closePayloadChannel
  deriving DecidableEq, Repr

/-- The Worker's state: the `closed` flag, the `SignalsHandler` pointer, the two maps, the heap,
and the log of calls to collaborators. -/
structure Worker where
  closed : Bool
  signalsHandler : Ptr
  mapRouters : PtrMap
  mapWebRtcServers : PtrMap
  heap : Heap
  log : List Effect

/-- The Worker once its constructor has set it up and entered the libuv loop: the
`SignalsHandler` at the first address, the `DepUsrSCTP` checker created and `running` emitted. -/
def Worker.init : Worker where
  closed := false
  signalsHandler := 0
  mapRouters := ∅
  mapWebRtcServers := ∅
  heap := { objs := [.signalsHandler], deleted := [] }
  log := [.createChecker, .emitRunning]

end Mediasoup
