import Mediasoup.Worker.Spec

set_option autoImplicit false

/-! # The lifecycle of the Worker's objects

The invariant `Worker.Inv` holds at every point of every run: every entry of a map points to an
object of its kind whose `id` is the entry's key; no object is stored twice; the live objects
(allocated and not deleted) are exactly those the maps store, plus the SignalsHandler until
the Worker closes; no address is deleted twice; and the log holds the constructor's calls and,
once the Worker is closed, exactly one teardown.

It is proved against the four updates of `Spec.lean` (`Update.inv`) and carried along runs
(`run_inv`). Re-entrant calls of `Close()` from the channels are events of the run like any
other: they come after `closed` is set, where `close` is the identity (`close_of_closed`).
-/

namespace Mediasoup

theorem Kind.obj_id (k : Kind) (id : String) : (k.obj id).id = id := by
  cases k <;> rfl

theorem Kind.obj_ne_signalsHandler (k : Kind) (id : String) : k.obj id ≠ .signalsHandler := by
  cases k <;> nofun

theorem List.getElem?_append_of_eq_some {α : Type} {l l' : List α} {n : Nat} {a : α}
    (h : l[n]? = some a) : (l ++ l')[n]? = some a := by
  rw [List.getElem?_append_left (List.getElem?_eq_some_iff.1 h).1, h]

namespace Worker

/-! ## Ownership -/

/-- The pointers the two maps store. -/
def values (w : Worker) : List Ptr := w.mapRouters.values ++ w.mapWebRtcServers.values

/-- The objects the Worker owns: those its maps store, and its SignalsHandler until it closes. -/
def Owns (w : Worker) (p : Ptr) : Prop := p ∈ w.values ∨ (p = w.signalsHandler ∧ w.closed = false)

/-- The calls of the constructor, then those of one teardown once the Worker is closed. -/
def logOf (closed : Bool) : List Effect :=
  [.createChecker, .emitRunning] ++
    if closed then [.closeChecker, .closeChannel, .closePayloadChannel] else []

theorem values_eq (w : Worker) :
    w.values = (w.map .router).values ++ (w.map .webRtcServer).values := rfl

theorem mem_values {w : Worker} {p : Ptr} : p ∈ w.values ↔ ∃ k id, (w.map k).lookup id = some p := by
  simp only [values, List.mem_append, PtrMap.mem_values]
  constructor
  · rintro (⟨id, h⟩ | ⟨id, h⟩)
    exacts [⟨.router, id, h⟩, ⟨.webRtcServer, id, h⟩]
  · rintro ⟨k, id, h⟩
    cases k
    exacts [.inl ⟨id, h⟩, .inr ⟨id, h⟩]

/-- **The lifecycle invariant.** -/
structure Inv (w : Worker) : Prop where
  entry : ∀ k id p, (w.map k).lookup id = some p → w.heap.objs[p]? = some (k.obj id)
  signals : w.heap.objs[w.signalsHandler]? = some .signalsHandler
  values_nodup : w.values.Nodup
  deleted_nodup : w.heap.deleted.Nodup
  deleted_lt : ∀ p ∈ w.heap.deleted, p < w.heap.objs.length
  live_iff : ∀ p < w.heap.objs.length, p ∉ w.heap.deleted ↔ w.Owns p
  log_eq : w.log = logOf w.closed

variable {w : Worker}

theorem Inv.lt_of_mem_values (hi : w.Inv) {p : Ptr} (hp : p ∈ w.values) : p < w.heap.objs.length := by
  obtain ⟨k, id, h⟩ := mem_values.1 hp
  exact (List.getElem?_eq_some_iff.1 (hi.entry k id p h)).1

theorem Inv.signalsHandler_not_mem (hi : w.Inv) : w.signalsHandler ∉ w.values := fun hp => by
  obtain ⟨k, id, h⟩ := mem_values.1 hp
  have := (hi.entry k id _ h).symm.trans hi.signals
  exact k.obj_ne_signalsHandler id (Option.some.inj this)

theorem Inv.not_deleted_of_owns (hi : w.Inv) {p : Ptr} (hp : p < w.heap.objs.length)
    (ho : w.Owns p) : p ∉ w.heap.deleted :=
  (hi.live_iff p hp).2 ho

/-- An allocated object the Worker does not own has been deleted exactly once. -/
theorem Inv.count_deleted (hi : w.Inv) {p : Ptr} (hp : p < w.heap.objs.length) (ho : ¬ w.Owns p) :
    w.heap.deleted.count p = 1 :=
  List.count_eq_one_of_mem hi.deleted_nodup (not_not.1 (mt (hi.live_iff p hp).1 ho))

/-! ## The initial Worker -/

theorem inv_init : Worker.init.Inv where
  entry k id p h := by cases k <;> simp [Worker.init] at h
  signals := rfl
  values_nodup := List.nodup_nil
  deleted_nodup := List.nodup_nil
  deleted_lt p h := by simp [Worker.init] at h
  live_iff p hp := by
    simp only [Worker.init, List.length_singleton, Nat.lt_one_iff] at hp
    simp [hp, Owns, Worker.init]
  log_eq := rfl

/-! ## Storing a new object -/

@[simp] theorem insertNew_objs (k : Kind) (id : String) :
    (w.insertNew k id).heap.objs = w.heap.objs ++ [k.obj id] := by simp [insertNew]
@[simp] theorem insertNew_deleted (k : Kind) (id : String) :
    (w.insertNew k id).heap.deleted = w.heap.deleted := by simp [insertNew]
@[simp] theorem insertNew_closed (k : Kind) (id : String) :
    (w.insertNew k id).closed = w.closed := by simp [insertNew]
@[simp] theorem insertNew_signalsHandler (k : Kind) (id : String) :
    (w.insertNew k id).signalsHandler = w.signalsHandler := by simp [insertNew]
@[simp] theorem insertNew_log (k : Kind) (id : String) : (w.insertNew k id).log = w.log := by
  simp [insertNew]

theorem insertNew_map (k k' : Kind) (id : String) :
    (w.insertNew k id).map k' =
      if k' = k then (w.map k).insert id w.heap.objs.length else w.map k' := by
  split
  · subst k'; simp [insertNew]
  · simp only [insertNew]; exact setMap_map_of_ne _ _ ‹_›

theorem values_insertNew {k : Kind} {id : String} (hid : id ∉ w.map k) :
    (w.insertNew k id).values.Perm (w.heap.objs.length :: w.values) := by
  have h := PtrMap.values_insert_of_not_mem (p := w.heap.objs.length) hid
  rw [values_eq, values_eq, insertNew_map, insertNew_map]
  cases k
  · simp only [if_pos, if_neg (by decide : Kind.webRtcServer ≠ .router), h]
    rfl
  · simp only [if_pos, if_neg (by decide : Kind.router ≠ .webRtcServer), h]
    exact List.perm_middle

theorem Inv.insertNew (hi : w.Inv) {k : Kind} {id : String} (hid : id ∉ w.map k) :
    (w.insertNew k id).Inv := by
  have hperm := values_insertNew hid
  have hfresh : w.heap.objs.length ∉ w.values := fun h => Nat.lt_irrefl _ (hi.lt_of_mem_values h)
  refine ⟨?entry, ?signals, ?values_nodup, ?deleted_nodup, ?deleted_lt, ?live_iff, ?log_eq⟩
  case entry =>
    intro k' id' p' h
    rw [insertNew_map] at h
    rw [insertNew_objs]
    split at h
    · subst k'
      by_cases hi' : id' = id
      · subst hi'
        simp only [AList.lookup_insert, Option.some.injEq] at h
        subst h; simp
      · rw [AList.lookup_insert_ne hi'] at h
        exact List.getElem?_append_of_eq_some (hi.entry _ _ _ h)
    · exact List.getElem?_append_of_eq_some (hi.entry _ _ _ h)
  case signals => simpa using List.getElem?_append_of_eq_some hi.signals
  case values_nodup => exact hperm.nodup_iff.2 (List.nodup_cons.2 ⟨hfresh, hi.values_nodup⟩)
  case deleted_nodup => simpa using hi.deleted_nodup
  case deleted_lt =>
    intro p hp
    simpa using Nat.lt_succ_of_lt (hi.deleted_lt p (by simpa using hp))
  case live_iff =>
    intro p hp
    simp only [insertNew_objs, List.length_append, List.length_singleton, insertNew_deleted] at hp ⊢
    simp only [Owns, hperm.mem_iff, List.mem_cons, insertNew_signalsHandler, insertNew_closed]
    rcases Nat.lt_succ_iff_lt_or_eq.1 hp with hp | rfl
    · rw [hi.live_iff p hp, Owns]
      simp [Nat.ne_of_lt hp]
    · simp only [true_or, iff_true]
      exact fun h => Nat.lt_irrefl _ (hi.deleted_lt _ h)
  case log_eq => simpa using hi.log_eq

/-! ## Erasing and deleting an object -/

@[simp] theorem eraseDelete_objs (k : Kind) (p : Ptr) : (w.eraseDelete k p).heap.objs = w.heap.objs := by
  simp [eraseDelete]
@[simp] theorem eraseDelete_deleted (k : Kind) (p : Ptr) :
    (w.eraseDelete k p).heap.deleted = w.heap.deleted ++ [p] := by simp [eraseDelete]
@[simp] theorem eraseDelete_closed (k : Kind) (p : Ptr) : (w.eraseDelete k p).closed = w.closed := by
  simp [eraseDelete]
@[simp] theorem eraseDelete_signalsHandler (k : Kind) (p : Ptr) :
    (w.eraseDelete k p).signalsHandler = w.signalsHandler := by simp [eraseDelete]
@[simp] theorem eraseDelete_log (k : Kind) (p : Ptr) : (w.eraseDelete k p).log = w.log := by
  simp [eraseDelete]

/-- The object stored under `id` is erased under its own id. -/
theorem eraseDelete_map (hi : w.Inv) {k : Kind} {id : String} {p : Ptr}
    (h : (w.map k).lookup id = some p) (k' : Kind) :
    (w.eraseDelete k p).map k' = if k' = k then (w.map k).erase id else w.map k' := by
  have hid : w.heap.idOf p = id := by rw [Heap.idOf_of_get (hi.entry k id p h), Kind.obj_id]
  split
  · subst k'; simp [eraseDelete, hid]
  · simp only [eraseDelete]; exact setMap_map_of_ne _ _ ‹_›

theorem values_eraseDelete (hi : w.Inv) {k : Kind} {id : String} {p : Ptr}
    (h : (w.map k).lookup id = some p) : (w.eraseDelete k p).values = w.values.erase p := by
  have hnd := hi.values_nodup
  have hmem : p ∈ (w.map k).values := PtrMap.mem_values.2 ⟨id, h⟩
  rw [values_eq] at hnd ⊢
  rw [values_eq, eraseDelete_map hi h, eraseDelete_map hi h]
  cases k
  · simp only [if_pos, if_neg (by decide : Kind.webRtcServer ≠ .router),
      PtrMap.values_erase (List.nodup_append.1 hnd).1 h, List.erase_append_left _ hmem]
  · simp only [if_pos, if_neg (by decide : Kind.router ≠ .webRtcServer),
      PtrMap.values_erase (List.nodup_append.1 hnd).2.1 h,
      List.erase_append_right _ (fun h' => List.disjoint_of_nodup_append hnd h' hmem)]

theorem Inv.eraseDelete (hi : w.Inv) {k : Kind} {id : String} {p : Ptr}
    (h : (w.map k).lookup id = some p) : (w.eraseDelete k p).Inv := by
  have hvals := values_eraseDelete hi h
  have hmem : p ∈ w.values := mem_values.2 ⟨k, id, h⟩
  have hlt := hi.lt_of_mem_values hmem
  have hsh : p ≠ w.signalsHandler := fun e => hi.signalsHandler_not_mem (e ▸ hmem)
  refine ⟨?entry, ?signals, ?values_nodup, ?deleted_nodup, ?deleted_lt, ?live_iff, ?log_eq⟩
  case entry =>
    intro k' id' p' h'
    rw [eraseDelete_map hi h] at h'
    rw [eraseDelete_objs]
    split at h'
    · subst k'
      by_cases hi' : id' = id
      · subst hi'; simp at h'
      · exact hi.entry _ _ _ (by rwa [AList.lookup_erase_ne hi'] at h')
    · exact hi.entry _ _ _ h'
  case signals => simpa using hi.signals
  case values_nodup => rw [hvals]; exact hi.values_nodup.erase p
  case deleted_nodup =>
    simp only [eraseDelete_deleted]
    exact List.nodup_append.2 ⟨hi.deleted_nodup, List.nodup_singleton p, by
      simpa using hi.not_deleted_of_owns hlt (.inl hmem)⟩
  case deleted_lt =>
    intro q hq
    simp only [eraseDelete_deleted, List.mem_append, List.mem_singleton] at hq
    rcases hq with hq | rfl
    · simpa using hi.deleted_lt q hq
    · simpa using hlt
  case live_iff =>
    intro q hq
    rw [eraseDelete_objs] at hq
    simp only [eraseDelete_deleted, List.mem_append, List.mem_singleton, not_or, Owns, hvals,
      hi.values_nodup.mem_erase_iff, eraseDelete_signalsHandler, eraseDelete_closed]
    rw [hi.live_iff q hq, Owns]
    constructor
    · rintro ⟨h₁ | h₁, h₂⟩
      exacts [.inl ⟨h₂, h₁⟩, .inr h₁]
    · rintro (⟨h₁, h₂⟩ | ⟨rfl, h₂⟩)
      exacts [⟨.inl h₂, h₁⟩, ⟨.inr ⟨rfl, h₂⟩, hsh.symm⟩]
  case log_eq => simpa using hi.log_eq

/-! ## Closing -/

@[simp] theorem close_closed (w : Worker) : (close w).closed = true := by
  unfold close; split <;> simp_all

theorem close_of_closed (h : w.closed = true) : close w = w := by simp [close, h]

theorem close_of_open (h : w.closed = false) :
    close w = { w with
      closed := true
      heap := { objs := w.heap.objs, deleted := w.heap.deleted ++ w.signalsHandler :: w.values }
      mapRouters := ∅
      mapWebRtcServers := ∅
      log := w.log ++ [.closeChecker, .closeChannel, .closePayloadChannel] } := by
  simp [close, h, values, PtrMap.values, Heap.deleteEach_eq]

theorem Inv.close (hi : w.Inv) : (close w).Inv := by
  cases hw : w.closed
  case true => rwa [close_of_closed hw]
  rw [close_of_open hw]
  have hown : ∀ q ∈ w.signalsHandler :: w.values, w.Owns q := by
    intro q hq
    rcases List.mem_cons.1 hq with rfl | hq
    exacts [.inr ⟨rfl, hw⟩, .inl hq]
  have hlt : ∀ q ∈ w.signalsHandler :: w.values, q < w.heap.objs.length := by
    intro q hq
    rcases List.mem_cons.1 hq with rfl | hq
    exacts [(List.getElem?_eq_some_iff.1 hi.signals).1, hi.lt_of_mem_values hq]
  refine ⟨?entry, hi.signals, List.nodup_nil, ?deleted_nodup, ?deleted_lt, ?live_iff, ?log_eq⟩
  case entry => intro k id p h; cases k <;> simp at h
  case deleted_nodup =>
    refine List.nodup_append.2 ⟨hi.deleted_nodup,
      List.nodup_cons.2 ⟨hi.signalsHandler_not_mem, hi.values_nodup⟩, ?_⟩
    intro q hq hq'
    exact hi.not_deleted_of_owns (hlt q hq') (hown q hq') hq
  case deleted_lt =>
    intro q hq
    rcases List.mem_append.1 hq with hq | hq
    exacts [hi.deleted_lt q hq, hlt q hq]
  case live_iff =>
    intro q hq
    refine iff_of_false (fun hnd => ?_) (by simp [Owns, values])
    rcases (hi.live_iff q hq).1 (fun h => hnd (List.mem_append_left _ h)) with hv | ⟨rfl, -⟩
    exacts [hnd (List.mem_append_right _ (List.mem_cons_of_mem _ hv)),
      hnd (List.mem_append_right _ (List.mem_cons_self _ _))]
  case log_eq => simp [hi.log_eq, hw, logOf]

end Worker

/-! ## Runs -/

open Worker

variable {w : Worker}

theorem Update.inv {w' : Worker} (hu : Update w w') (hi : w.Inv) : w'.Inv := by
  cases hu with
  | keep => exact hi
  | close => exact hi.close
  | insertNew hid => exact hi.insertNew hid
  | eraseDelete h => exact hi.eraseDelete h

theorem Update.closed_of_closed {w' : Worker} (hu : Update w w') (h : w.closed = true) :
    w'.closed = true := by
  cases hu <;> simp [h]

/-- The only update that closes an open Worker is `Close()`. -/
theorem Update.eq_close {w' : Worker} (hu : Update w w') (h : w.closed = false)
    (h' : w'.closed = true) : w' = Mediasoup.close w := by
  cases hu <;> simp_all

theorem run_inv {w w' : Worker} {evs : List Event} (hrun : run w evs = some w') (hi : w.Inv) :
    w'.Inv :=
  foldlM_inv Worker.Inv (fun _ _ _ h => (step_update h).inv) (run_eq_foldlM w evs ▸ hrun) hi

end Mediasoup

namespace Mediasoup

open Worker

variable {w : Worker}

@[simp] theorem destroy_closed (w : Worker) : (destroy w).closed = true := by
  unfold destroy; split <;> simp_all

theorem Worker.Inv.after_destroy (hi : w.Inv) : (destroy w).Inv := by
  unfold destroy; split
  · exact hi.close
  · exact hi

/-- After `Close()` on an open Worker, both maps are empty and every object it ever allocated has
been deleted exactly once. -/
theorem Worker.Inv.close_deleted_once (hi : w.Inv) (hw : w.closed = false) :
    (Mediasoup.close w).values = [] ∧
      ∀ p < (Mediasoup.close w).heap.objs.length, (Mediasoup.close w).heap.deleted.count p = 1 := by
  have hv : (Mediasoup.close w).values = [] := by simp [close_of_open hw, values]
  refine ⟨hv, fun p hp => hi.close.count_deleted hp ?_⟩
  simp [Owns, hv]

/-- **The lifecycle along every run.** At every point of every run the invariant holds, and it
still holds after `~Worker`, whose log then holds the constructor's calls and exactly one
teardown; a closed Worker stays closed; the event that closes an open Worker leaves both maps
empty and every object allocated so far deleted exactly once; and after `~Worker` every object
its maps do not hold has been deleted exactly once. -/
theorem run_lifecycle {evs : List Event} (hrun : run Worker.init evs = some w) :
    w.Inv ∧ (destroy w).Inv ∧ (destroy w).closed = true ∧ (destroy w).log = logOf true ∧
    (∀ p < (destroy w).heap.objs.length, p ∉ (destroy w).values →
      (destroy w).heap.deleted.count p = 1) ∧
    ∀ ev w', step w ev = some w' →
      (w.closed = true → w'.closed = true) ∧
      (w.closed = false → w'.closed = true →
        w'.values = [] ∧ ∀ p < w'.heap.objs.length, w'.heap.deleted.count p = 1) := by
  have hi := run_inv hrun inv_init
  have hd := hi.after_destroy
  refine ⟨hi, hd, destroy_closed w, by rw [hd.log_eq, destroy_closed],
    fun p hp hv => hd.count_deleted hp ?_, fun ev w' h => ?_⟩
  · simp [Owns, hv]
  · have hu := step_update h
    refine ⟨hu.closed_of_closed, fun hw hw' => ?_⟩
    rw [hu.eq_close hw hw']
    exact hi.close_deleted_once hw

/-- A Router and a WebRtcServer are created, then `WORKER_CLOSE` and `SIGTERM` arrive: the
invariant holds, and after `~Worker` the log holds one teardown. -/
theorem run_lifecycle_create_close :
    ∃ w, run Worker.init
      [.request Env.sample ⟨0, "worker.createRouter", "",
        .legacy .WORKER_CREATE_ROUTER (.object [("routerId", .string "R1")])⟩,
       .request Env.sample ⟨1, "worker.createWebRtcServer", "",
        .binary .WORKER_CREATE_WEBRTC_SERVER (.createWebRtcServerRequest ⟨some "S1", none⟩)⟩,
       .request Env.sample ⟨2, "worker.close", "", .binary .WORKER_CLOSE .absent⟩,
       .signal SIGTERM] = some w ∧
      w.Inv ∧ (destroy w).log = logOf true :=
  have h := @run_lifecycle _
    [.request Env.sample ⟨0, "worker.createRouter", "",
      .legacy .WORKER_CREATE_ROUTER (.object [("routerId", .string "R1")])⟩,
     .request Env.sample ⟨1, "worker.createWebRtcServer", "",
      .binary .WORKER_CREATE_WEBRTC_SERVER (.createWebRtcServerRequest ⟨some "S1", none⟩)⟩,
     .request Env.sample ⟨2, "worker.close", "", .binary .WORKER_CLOSE .absent⟩,
     .signal SIGTERM] rfl
  ⟨_, rfl, h.1, h.2.2.2.1⟩

/-- A `WORKER_CLOSE` request, then a legacy `worker.createRouter`: the Router is stored in the
closed Worker, and `~Worker` leaves it undeleted (only the SignalsHandler, at address `0`, was
deleted). -/
theorem create_after_close_not_deleted :
    (run Worker.init
      [.request Env.sample ⟨0, "worker.close", "", .binary .WORKER_CLOSE .absent⟩,
       .request Env.sample ⟨1, "worker.createRouter", "",
         .legacy .WORKER_CREATE_ROUTER (.object [("routerId", .string "R1")])⟩]).map
      (fun w => (w.closed, w.mapRouters.keys, (destroy w).heap.objs.length,
        (destroy w).heap.deleted)) =
      some (true, ["R1"], 2, [0]) := by
  decide

end Mediasoup
