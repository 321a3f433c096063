import Mediasoup.Worker.Lifecycle
import Mediasoup.Worker.Answers

set_option autoImplicit false

/-! # What the maps store

The Worker hands out the objects its maps store: `OnRouterNeedWebRtcServer` gives a Router the
WebRtcServer stored under an id, and the close requests look their object up by the id in their
data. Three facts about it, over every state a run reaches and every run.

* The maps and the heap agree. In every Worker a run from the constructor reaches,
  `OnRouterNeedWebRtcServer` returns a pointer exactly when it is the live WebRtcServer with the
  requested id (`onRouterNeedWebRtcServer_eq_some_iff`): a Router is never given a deleted
  object, a Router, or a WebRtcServer of another id.
* Nothing is lost or replaced. An object stays stored under its id, at the same address and live,
  until a request that closes it by that id or an event that closes the Worker
  (`run_keeps_stored`): the create requests never overwrite an entry, since
  `SetNewRouterIdFromData` and `CheckWebRtcServer` reject an id that is stored, and the close
  requests erase the id of the object they delete. On an open Worker the first such event does
  remove it and delete it (`run_stored_until_closed`); on a closed one `Close()` does nothing, so
  an object stored after it stays.
* A failed request changes nothing. When an exception escapes `HandleRequest`, the Worker is as
  it was and nothing was answered; the exception is the one raised with `[method:...]` appended,
  except where the code raises it outside any `catch` clause, where it escapes as raised
  (`handleRequest_fails_atomically`).
-/

namespace Mediasoup

open Worker

theorem Kind.obj_inj {k k' : Kind} {id id' : String} (h : k.obj id = k'.obj id') :
    k = k' ∧ id = id' := by
  cases k <;> cases k' <;> simp_all [Kind.obj]

variable {w : Worker}

/-! ## The maps agree with the heap -/

/-- Under the invariant, an id is stored in the map of kind `k` exactly at the address of the live
object of that kind with that id. -/
theorem Worker.Inv.lookup_eq_some_iff (hi : w.Inv) {k : Kind} {id : String} {p : Ptr} :
    (w.map k).lookup id = some p ↔ w.heap.objs[p]? = some (k.obj id) ∧ p ∉ w.heap.deleted := by
  constructor
  · intro h
    have he := hi.entry k id p h
    exact ⟨he, hi.not_deleted_of_owns (List.getElem?_eq_some_iff.1 he).1
      (.inl (mem_values.2 ⟨k, id, h⟩))⟩
  · rintro ⟨he, hd⟩
    rcases (hi.live_iff p (List.getElem?_eq_some_iff.1 he).1).1 hd with hp | ⟨rfl, -⟩
    · obtain ⟨k', id', h'⟩ := mem_values.1 hp
      obtain ⟨rfl, rfl⟩ := Kind.obj_inj (Option.some.inj ((hi.entry k' id' p h').symm.trans he))
      exact h'
    · exact absurd (Option.some.inj (he.symm.trans hi.signals)) (Kind.obj_ne_signalsHandler k id)

/-- **What a Router is given.** In every Worker a run from the constructor reaches,
`OnRouterNeedWebRtcServer` returns a pointer exactly when it points to the live WebRtcServer with
the requested id. -/
theorem onRouterNeedWebRtcServer_eq_some_iff {evs : List Event}
    (hrun : run Worker.init evs = some w) (webRtcServerId : String) (p : Ptr) :
    onRouterNeedWebRtcServer w webRtcServerId = some p ↔
      w.heap.objs[p]? = some (.webRtcServer webRtcServerId) ∧ p ∉ w.heap.deleted :=
  (run_inv hrun inv_init).lookup_eq_some_iff (k := .webRtcServer)

/-- A WebRtcServer created by a binary request is what a Router asking for its id is given. -/
theorem onRouterNeedWebRtcServer_created :
    ∃ w, run Worker.init
      [.request Env.sample ⟨0, "worker.createWebRtcServer", "",
        .binary .WORKER_CREATE_WEBRTC_SERVER (.createWebRtcServerRequest ⟨some "S1", none⟩)⟩] = some w ∧
      w.heap.objs[1]? = some (.webRtcServer "S1") ∧ 1 ∉ w.heap.deleted :=
  ⟨_, rfl, (@onRouterNeedWebRtcServer_eq_some_iff _
    [.request Env.sample ⟨0, "worker.createWebRtcServer", "",
      .binary .WORKER_CREATE_WEBRTC_SERVER (.createWebRtcServerRequest ⟨some "S1", none⟩)⟩]
    rfl "S1" 1).1 rfl⟩

/-! ## Nothing is lost or replaced -/

/-- The legacy method that closes an object of kind `k`. -/
def Kind.closeMethod : Kind → MethodId
  | .router => .WORKER_CLOSE_ROUTER
  | .webRtcServer => .WORKER_WEBRTC_SERVER_CLOSE

/-- The data field the close request of kind `k` reads the id from. -/
def Kind.idField : Kind → String
  | .router => "routerId"
  | .webRtcServer => "webRtcServerId"

/-- The events after which the object stored under `id` in the map of kind `k` may be gone: a
request that closes that object by its id, and the events that close the Worker. -/
def Closes (k : Kind) (id : String) : Event → Prop
  | .request _ request =>
    (∃ data, request.data = .legacy k.closeMethod data ∧ data.findString k.idField = some id) ∨
      IsWorkerClose request.data
  | .signal signum => signum = SIGINT ∨ signum = SIGTERM
  | .channelClosed => True
  | .payloadChannelClosed => True
  | .payloadChannelRequest _ _ => False
  | .payloadChannelNotification _ _ => False

theorem lookup_insertNew_of_lookup {k : Kind} {id : String} (hid : id ∉ w.map k) {k₀ : Kind}
    {id₀ : String} {p₀ : Ptr} (h : (w.map k₀).lookup id₀ = some p₀) :
    ((w.insertNew k id).map k₀).lookup id₀ = some p₀ := by
  rw [insertNew_map]
  split
  · subst k₀
    have hne : id₀ ≠ id := fun he => hid (he ▸ AList.lookup_isSome.1 (by rw [h]; rfl))
    rw [AList.lookup_insert_ne hne, h]
  · exact h

theorem lookup_eraseDelete_of_ne (hi : w.Inv) {k : Kind} {id : String} {p : Ptr}
    (hl : (w.map k).lookup id = some p) {k₀ : Kind} {id₀ : String} {p₀ : Ptr}
    (hne : ¬ (k = k₀ ∧ id = id₀)) (h : (w.map k₀).lookup id₀ = some p₀) :
    ((w.eraseDelete k p).map k₀).lookup id₀ = some p₀ := by
  rw [eraseDelete_map hi hl]
  split
  · subst k₀
    rw [AList.lookup_erase_ne (fun he => hne ⟨rfl, he.symm⟩), h]
  · exact h

section Keeps

variable {k : Kind} {id : String} {p : Ptr}

theorem handleLegacyRequest_keeps_stored (hi : w.Inv) {env : Env} {request : ChannelRequest}
    {methodId : MethodId} {data : Json} {h : Handled}
    (hh : handleLegacyRequest env w request methodId data = some h)
    (hk : (w.map k).lookup id = some p)
    (hno : ¬ (methodId = k.closeMethod ∧ data.findString k.idField = some id)) :
    (h.worker.map k).lookup id = some p ∧ h.worker.closed = w.closed := by
  unfold handleLegacyRequest at hh
  split at hh
  · split at hh <;> cases hh
    · exact ⟨hk, rfl⟩
    · obtain ⟨id', hf, hl⟩ := getFromData_eq_ok.1 ‹_›
      refine ⟨lookup_eraseDelete_of_ne (k := .webRtcServer) hi hl ?_ hk, eraseDelete_closed _ _⟩
      rintro ⟨rfl, rfl⟩
      exact hno ⟨rfl, hf⟩
  · split at hh
    · cases hh; exact ⟨hk, rfl⟩
    · split at hh <;> cases hh
      · exact ⟨hk, rfl⟩
      · exact ⟨lookup_insertNew_of_lookup (k := .router) (setNewIdFromData_eq_ok.1 ‹_›).2 hk,
          insertNew_closed _ _⟩
  · split at hh <;> cases hh
    · exact ⟨hk, rfl⟩
    · obtain ⟨id', hf, hl⟩ := getFromData_eq_ok.1 ‹_›
      refine ⟨lookup_eraseDelete_of_ne (k := .router) hi hl ?_ hk, eraseDelete_closed _ _⟩
      rintro ⟨rfl, rfl⟩
      exact hno ⟨rfl, hf⟩
  · rw [delegateTo_worker hh]
    exact ⟨hk, rfl⟩

theorem createWebRtcServer_keeps_stored {env : Env} {request : ChannelRequest}
    {body : CreateWebRtcServerRequest} {h : Handled}
    (hh : createWebRtcServer env w request body = some h) (hk : (w.map k).lookup id = some p) :
    (h.worker.map k).lookup id = some p ∧ h.worker.closed = w.closed := by
  unfold createWebRtcServer at hh
  split at hh
  · cases hh
  · split at hh
    · cases hh; exact ⟨hk, rfl⟩
    · split at hh <;> cases hh
      · exact ⟨hk, rfl⟩
      · exact ⟨lookup_insertNew_of_lookup (k := .webRtcServer) (checkWebRtcServer_eq_ok.1 ‹_›) hk,
          insertNew_closed _ _⟩

theorem handleBinaryRequest_keeps_stored {env : Env} {request : ChannelRequest} {method : Method}
    {body : Body} {h : Handled} (hh : handleBinaryRequest env w request method body = some h)
    (hk : (w.map k).lookup id = some p) (hno : method ≠ .WORKER_CLOSE) :
    (h.worker.map k).lookup id = some p ∧ h.worker.closed = w.closed := by
  have hkeep : h.worker = w → (h.worker.map k).lookup id = some p ∧ h.worker.closed = w.closed :=
    fun hw => by rw [hw]; exact ⟨hk, rfl⟩
  cases method with
  | WORKER_CLOSE => exact absurd rfl hno
  | WORKER_DUMP =>
    simp only [handleBinaryRequest, method2String, Option.some.injEq] at hh
    subst hh
    exact hkeep rfl
  | WORKER_GET_RESOURCE_USAGE =>
    simp only [handleBinaryRequest, method2String] at hh
    split at hh <;> cases hh <;> exact hkeep rfl
  | WORKER_UPDATE_SETTINGS =>
    simp only [handleBinaryRequest, method2String] at hh
    split at hh <;> cases hh <;> exact hkeep rfl
  | WORKER_CREATE_WEBRTC_SERVER =>
    simp only [handleBinaryRequest, method2String] at hh
    obtain ⟨b, -, hb⟩ := Option.bind_eq_some.1 hh
    exact createWebRtcServer_keeps_stored hb hk
  | TRANSPORT_CONSUME => exact hkeep (delegateTo_worker hh)
  | other code =>
    simp only [handleBinaryRequest, method2String] at hh
    split at hh
    · cases hh; exact hkeep rfl
    · exact hkeep (delegateTo_worker hh)

/-- One event keeps the object stored under `id`, and keeps the Worker open or closed, unless it
closes that object or the Worker. -/
theorem step_keeps_stored (hi : w.Inv) {ev : Event} {w' : Worker} (h : step w ev = some w')
    (hk : (w.map k).lookup id = some p) (hno : ¬ Closes k id ev) :
    (w'.map k).lookup id = some p ∧ w'.closed = w.closed := by
  cases ev with
  | request env request =>
    obtain ⟨hd, hhd, rfl⟩ := Option.map_eq_some'.1 h
    unfold handleRequest at hhd
    split at hhd
    · rename_i methodId data hdata
      exact handleLegacyRequest_keeps_stored hi hhd hk
        fun ⟨hm, hf⟩ => hno (Or.inl ⟨data, hm ▸ hdata, hf⟩)
    · rename_i method body hdata
      refine handleBinaryRequest_keeps_stored hhd hk ?_
      rintro rfl
      exact hno (Or.inr (by simp only [hdata, IsWorkerClose]))
  | payloadChannelRequest env request =>
    obtain ⟨hd, hhd, rfl⟩ := Option.map_eq_some'.1 h
    rw [delegateTo_worker hhd]
    exact ⟨hk, rfl⟩
  | payloadChannelNotification env n =>
    obtain ⟨hd, hhd, rfl⟩ := Option.map_eq_some'.1 h
    rw [handleNotification_worker hhd]
    exact ⟨hk, rfl⟩
  | signal signum =>
    cases h
    simp only [onSignal, if_neg fun h => hno (Or.inl h), if_neg fun h => hno (Or.inr h), ite_self]
    exact ⟨hk, trivial⟩
  | channelClosed => exact absurd trivial hno
  | payloadChannelClosed => exact absurd trivial hno

theorem run_keeps_stored_closed {w' : Worker} {evs : List Event} (hrun : run w evs = some w')
    (hi : w.Inv) (hk : (w.map k).lookup id = some p) (hno : ∀ ev ∈ evs, ¬ Closes k id ev) :
    (w'.map k).lookup id = some p ∧ w'.closed = w.closed := by
  induction evs generalizing w with
  | nil => cases hrun; exact ⟨hk, rfl⟩
  | cons ev evs ih =>
    obtain ⟨w₁, h₁, h₂⟩ := Option.bind_eq_some.1 hrun
    obtain ⟨hk₁, hc₁⟩ := step_keeps_stored hi h₁ hk (hno ev (List.mem_cons_self ev evs))
    obtain ⟨hk', hc'⟩ := ih h₂ ((step_update h₁).inv hi) hk₁
      fun e he => hno e (List.mem_cons_of_mem ev he)
    exact ⟨hk', hc'.trans hc₁⟩

/-- **Nothing is lost or replaced.** Along every run from a Worker that satisfies the invariant,
the object stored under `id` in the map of kind `k` stays stored under it, at the same address,
and stays live, as long as no event closes it by its id or closes the Worker. The pointer a
Router was given by `OnRouterNeedWebRtcServer` is such an object. -/
theorem run_keeps_stored {w' : Worker} {evs : List Event} (hrun : run w evs = some w')
    (hi : w.Inv) (hk : (w.map k).lookup id = some p) (hno : ∀ ev ∈ evs, ¬ Closes k id ev) :
    (w'.map k).lookup id = some p ∧ w'.heap.objs[p]? = some (k.obj id) ∧ p ∉ w'.heap.deleted :=
  have hk' := (run_keeps_stored_closed hrun hi hk hno).1
  ⟨hk', (run_inv hrun hi).lookup_eq_some_iff.1 hk'⟩

/-- Router `R1` stays stored while another Router is created and closed and a `SIGHUP` arrives. -/
theorem run_keeps_stored_other_router :
    ∃ w', run (Worker.init.insertNew .router "R1")
      [.request Env.sample ⟨0, "worker.createRouter", "",
        .legacy .WORKER_CREATE_ROUTER (.object [("routerId", .string "R2")])⟩,
       .request Env.sample ⟨1, "worker.closeRouter", "",
        .legacy .WORKER_CLOSE_ROUTER (.object [("routerId", .string "R2")])⟩,
       .signal 1] = some w' ∧
      (w'.map .router).lookup "R1" = some 1 ∧ w'.heap.objs[1]? = some (.router "R1") ∧
      1 ∉ w'.heap.deleted :=
  ⟨_, rfl, @run_keeps_stored (Worker.init.insertNew .router "R1") .router "R1" 1 _
    [.request Env.sample ⟨0, "worker.createRouter", "",
      .legacy .WORKER_CREATE_ROUTER (.object [("routerId", .string "R2")])⟩,
     .request Env.sample ⟨1, "worker.closeRouter", "",
      .legacy .WORKER_CLOSE_ROUTER (.object [("routerId", .string "R2")])⟩,
     .signal 1] rfl (inv_init.insertNew (by decide)) rfl (by
      simp [Closes, Kind.closeMethod, Kind.idField, Json.findString, Json.find, IsWorkerClose,
        SIGINT, SIGTERM])⟩

/-! ## The first event that closes an object removes it -/

theorem close_removes_stored (ho : w.closed = false) (hk : (w.map k).lookup id = some p) :
    ((close w).map k).lookup id = none ∧ p ∈ (close w).heap.deleted := by
  rw [close_of_open ho]
  exact ⟨by cases k <;> rfl,
    List.mem_append_right _ (List.mem_cons_of_mem _ (mem_values.2 ⟨k, id, hk⟩))⟩

theorem eraseDelete_removes_stored (hi : w.Inv) (hk : (w.map k).lookup id = some p) :
    ((w.eraseDelete k p).map k).lookup id = none ∧ p ∈ (w.eraseDelete k p).heap.deleted := by
  rw [eraseDelete_map hi hk, if_pos rfl, eraseDelete_deleted]
  exact ⟨AList.lookup_erase _ _, List.mem_append_right _ (List.mem_singleton_self p)⟩

/-- On an open Worker, an event that closes the object stored under `id` removes it from its map
and deletes it. -/
theorem step_removes_stored (hi : w.Inv) (ho : w.closed = false) {ev : Event} {w' : Worker}
    (h : step w ev = some w') (hk : (w.map k).lookup id = some p) (hc : Closes k id ev) :
    (w'.map k).lookup id = none ∧ p ∈ w'.heap.deleted := by
  cases ev with
  | request env request =>
    obtain ⟨hd, hhd, rfl⟩ := Option.map_eq_some'.1 h
    rcases hc with ⟨data, hdata, hf⟩ | hclose
    · simp only [handleRequest, hdata] at hhd
      cases k
      · have hg : getRouterFromData w data = .ok p := getFromData_eq_ok.2 ⟨id, hf, hk⟩
        simp only [Kind.closeMethod, handleLegacyRequest, hg, Option.some.injEq] at hhd
        subst hhd
        exact eraseDelete_removes_stored hi hk
      · have hg : getWebRtcServerFromData w data = .ok p := getFromData_eq_ok.2 ⟨id, hf, hk⟩
        simp only [Kind.closeMethod, handleLegacyRequest, hg, Option.some.injEq] at hhd
        subst hhd
        exact eraseDelete_removes_stored hi hk
    · obtain ⟨body, hdata⟩ : ∃ body, request.data = .binary .WORKER_CLOSE body := by
        revert hclose
        rcases request.data with _ | ⟨_ | _ | _ | _ | _ | _ | _, body⟩ <;>
          simp [IsWorkerClose]
      simp only [handleRequest, hdata, handleBinaryRequest, method2String, ho,
        Option.some.injEq] at hhd
      subst hhd
      exact close_removes_stored ho hk
  | signal signum =>
    cases h
    rcases hc with rfl | rfl <;> simp only [onSignal, ho, SIGINT, SIGTERM] <;>
      exact close_removes_stored ho hk
  | channelClosed => cases h; exact close_removes_stored ho hk
  | payloadChannelClosed => cases h; exact close_removes_stored ho hk
  | payloadChannelRequest => exact hc.elim
  | payloadChannelNotification => exact hc.elim

/-- **The lifetime of a stored object.** Along every run from an open Worker that satisfies the
invariant, the object stored under `id` in the map of kind `k` stays stored under it up to the
first event that closes it by its id or closes the Worker, and that event removes it from the map
and deletes it. -/
theorem run_stored_until_closed {w₁ w₂ : Worker} {evs : List Event} {ev : Event}
    (hrun : run w evs = some w₁) (hi : w.Inv) (ho : w.closed = false)
    (hk : (w.map k).lookup id = some p) (hno : ∀ e ∈ evs, ¬ Closes k id e)
    (hstep : step w₁ ev = some w₂) (hc : Closes k id ev) :
    (w₁.map k).lookup id = some p ∧ (w₂.map k).lookup id = none ∧ p ∈ w₂.heap.deleted :=
  have ⟨hk₁, hc₁⟩ := run_keeps_stored_closed hrun hi hk hno
  ⟨hk₁, step_removes_stored (run_inv hrun hi) (hc₁.trans ho) hstep hk₁ hc⟩

/-- Router `R1` survives the creation of `R2` and goes with the request that closes it. -/
theorem run_stored_until_closed_router :
    ∃ w₁ w₂, run (Worker.init.insertNew .router "R1")
        [.request Env.sample ⟨0, "worker.createRouter", "",
          .legacy .WORKER_CREATE_ROUTER (.object [("routerId", .string "R2")])⟩] = some w₁ ∧
      step w₁ (.request Env.sample ⟨1, "worker.closeRouter", "",
        .legacy .WORKER_CLOSE_ROUTER (.object [("routerId", .string "R1")])⟩) = some w₂ ∧
      (w₁.map .router).lookup "R1" = some 1 ∧ (w₂.map .router).lookup "R1" = none ∧
      1 ∈ w₂.heap.deleted :=
  ⟨_, _, rfl, rfl, @run_stored_until_closed (Worker.init.insertNew .router "R1") .router "R1" 1
    _ _ [.request Env.sample ⟨0, "worker.createRouter", "",
      .legacy .WORKER_CREATE_ROUTER (.object [("routerId", .string "R2")])⟩]
    (.request Env.sample ⟨1, "worker.closeRouter", "",
      .legacy .WORKER_CLOSE_ROUTER (.object [("routerId", .string "R1")])⟩)
    rfl (inv_init.insertNew (by decide)) rfl rfl
    (by simp [Closes, Kind.closeMethod, Kind.idField, Json.findString, Json.find, IsWorkerClose])
    rfl (Or.inl ⟨_, rfl, rfl⟩)⟩

end Keeps

/-! ## A failed request changes nothing -/

namespace Handled

/-- When an exception escapes the handler: the Worker is `w`, nothing was answered, and the
escaping exception is related by `rel` to the one the failing step raised. -/
def FailsAtomically (w : Worker) (rel : Exception → Exception → Prop) (h : Handled) : Prop :=
  ∀ e, h.thrown = some e → h.worker = w ∧ h.answers = [] ∧ ∃ c, h.cause = some c ∧ rel c e

variable {rel : Exception → Exception → Prop}

theorem accept_failsAtomically (w' : Worker) (b : Option ResponseBody) :
    (accept w' b).FailsAtomically w rel :=
  nofun

theorem byHandler_failsAtomically : (byHandler w).FailsAtomically w rel := nofun

theorem silent_failsAtomically (w' : Worker) : (silent w').FailsAtomically w rel := nofun

theorem throw_failsAtomically {c e : MediaSoupError} (h : rel (.mediaSoup c) (.mediaSoup e)) :
    (throw w c e).FailsAtomically w rel := by
  rintro _ ⟨⟩
  exact ⟨rfl, rfl, _, rfl, h⟩

end Handled

/-- How the escaping exception `e` follows from the raised one `c`: it is `c` itself when the
code raises `c` outside any `catch` clause (`outside`), and `c` with `[method:...]` appended to
its message otherwise. -/
def Escapes (outside : Prop) (method : String) (c e : Exception) : Prop :=
  (outside → e = c) ∧
    (¬ outside → ∃ c' e', c = .mediaSoup c' ∧ e = .mediaSoup e' ∧
      e'.what = MediaSoupError.withMethod c'.what method)

/-- The requests whose exception the Worker raises outside any `catch` clause: the Router
constructor of the legacy `WORKER_CREATE_ROUTER`, once the id is accepted; `Settings::HandleRequest`;
`FillBufferResourceUsage`; and `method2String.at` on a method without a name. -/
def RaisedOutsideClauses (env : Env) (w : Worker) : RequestData → Prop
  | .legacy .WORKER_CREATE_ROUTER data => ∃ routerId, setNewRouterIdFromData w data = .ok routerId
  | .legacy _ _ => False
  | .binary method _ => method2String env.methodNames method = none ∨
      method = .WORKER_UPDATE_SETTINGS ∨ method = .WORKER_GET_RESOURCE_USAGE

section Escapes

variable {outside : Prop} {method : String}

theorem Escapes.rethrow (h : ¬ outside) (c : MediaSoupError) :
    Escapes outside method (.mediaSoup c) (.mediaSoup (c.rethrow method)) :=
  ⟨fun ho => absurd ho h, fun _ => ⟨c, _, rfl, rfl, MediaSoupError.what_rethrow method c⟩⟩

theorem Escapes.rethrowAsError (h : ¬ outside) (c : MediaSoupError) :
    Escapes outside method (.mediaSoup c) (.mediaSoup (c.rethrowAsError method)) :=
  ⟨fun ho => absurd ho h, fun _ => ⟨c, _, rfl, rfl, rfl⟩⟩

theorem Escapes.raised (h : outside) (c : Exception) : Escapes outside method c c :=
  ⟨fun _ => rfl, fun ho => absurd h ho⟩

end Escapes

theorem delegateTo_failsAtomically {α : Type} {outside : Prop} (ho : ¬ outside)
    {handler : Option (α → Option (Except MediaSoupError Unit))} {notFound : Bytes}
    {method : String} {request : α} {h : Handled}
    (hh : delegateTo w handler notFound method request = some h) :
    h.FailsAtomically w (Escapes outside method) := by
  unfold delegateTo at hh
  split at hh
  · cases hh; exact Handled.throw_failsAtomically (.rethrow ho _)
  · split at hh <;> cases hh
    · exact Handled.byHandler_failsAtomically
    · exact Handled.throw_failsAtomically (.rethrow ho _)

theorem createWebRtcServer_failsAtomically {outside : Prop} (ho : ¬ outside) {env : Env}
    {request : ChannelRequest} {body : CreateWebRtcServerRequest} {h : Handled}
    (hh : createWebRtcServer env w request body = some h) :
    h.FailsAtomically w (Escapes outside request.method) := by
  unfold createWebRtcServer at hh
  split at hh
  · cases hh
  · split at hh
    · cases hh; exact Handled.throw_failsAtomically (.rethrow ho _)
    · split at hh <;> cases hh
      · exact Handled.throw_failsAtomically (.rethrow ho _)
      · exact Handled.accept_failsAtomically _ _

theorem handleLegacyRequest_failsAtomically {env : Env} {request : ChannelRequest}
    {methodId : MethodId} {data : Json} {h : Handled}
    (hh : handleLegacyRequest env w request methodId data = some h) :
    h.FailsAtomically w
      (Escapes (RaisedOutsideClauses env w (.legacy methodId data)) request.method) := by
  unfold handleLegacyRequest at hh
  split at hh
  · split at hh <;> cases hh
    · exact Handled.throw_failsAtomically (.rethrowAsError nofun _)
    · exact Handled.accept_failsAtomically _ _
  · split at hh
    · rename_i e he
      cases hh
      refine Handled.throw_failsAtomically (.rethrowAsError ?_ _)
      rintro ⟨_, hr⟩
      cases he.symm.trans hr
    · split at hh <;> cases hh
      · exact Handled.throw_failsAtomically (.raised ⟨_, ‹_›⟩ _)
      · exact Handled.accept_failsAtomically _ _
  · split at hh <;> cases hh
    · exact Handled.throw_failsAtomically (.rethrowAsError nofun _)
    · exact Handled.accept_failsAtomically _ _
  · exact delegateTo_failsAtomically nofun hh

theorem handleBinaryRequest_failsAtomically {env : Env} {request : ChannelRequest}
    {method : Method} {body : Body} {h : Handled}
    (hh : handleBinaryRequest env w request method body = some h) :
    h.FailsAtomically w
      (Escapes (RaisedOutsideClauses env w (.binary method body)) request.method) := by
  cases method with
  | WORKER_CLOSE =>
    simp only [handleBinaryRequest, method2String, Option.some.injEq] at hh
    subst hh; exact Handled.silent_failsAtomically _
  | WORKER_DUMP =>
    simp only [handleBinaryRequest, method2String, Option.some.injEq] at hh
    subst hh; exact Handled.accept_failsAtomically _ _
  | WORKER_GET_RESOURCE_USAGE =>
    simp only [handleBinaryRequest, method2String] at hh
    split at hh <;> cases hh
    · exact Handled.throw_failsAtomically (.raised (.inr (.inr rfl)) _)
    · exact Handled.accept_failsAtomically _ _
  | WORKER_UPDATE_SETTINGS =>
    simp only [handleBinaryRequest, method2String] at hh
    split at hh <;> cases hh
    · exact Handled.throw_failsAtomically (.raised (.inr (.inl rfl)) _)
    · exact Handled.byHandler_failsAtomically
  | WORKER_CREATE_WEBRTC_SERVER =>
    simp only [handleBinaryRequest, method2String] at hh
    obtain ⟨b, -, hb⟩ := Option.bind_eq_some.1 hh
    exact createWebRtcServer_failsAtomically (by simp [RaisedOutsideClauses, method2String]) hb
  | TRANSPORT_CONSUME =>
    exact delegateTo_failsAtomically (by simp [RaisedOutsideClauses, method2String]) hh
  | other code =>
    simp only [handleBinaryRequest, method2String] at hh
    split at hh
    · cases hh
      rintro _ ⟨⟩
      exact ⟨rfl, rfl, _, rfl, .raised (.inl ‹_›) _⟩
    · exact delegateTo_failsAtomically (by simp_all [RaisedOutsideClauses, method2String]) hh

/-- **A failed request changes nothing.** For every Worker and every control-channel request the
Worker handles, when an exception escapes `HandleRequest` the Worker is unchanged and nothing was
answered. The escaping exception is the raised one with `[method:...]` appended, except for the
steps the code runs outside any `catch` clause (`RaisedOutsideClauses`), whose exception escapes
as raised. -/
theorem handleRequest_fails_atomically {env : Env} {request : ChannelRequest} {h : Handled}
    (hh : handleRequest env w request = some h) :
    h.FailsAtomically w
      (Escapes (RaisedOutsideClauses env w request.data) request.method) := by
  unfold handleRequest at hh
  split at hh
  · rename_i methodId data hdata
    rw [hdata]
    exact handleLegacyRequest_failsAtomically hh
  · rename_i method body hdata
    rw [hdata]
    exact handleBinaryRequest_failsAtomically hh

/-- A Router constructor that throws: its exception escapes as raised, the Worker unchanged. -/
theorem handleRequest_fails_atomically_router_constructor :
    ∃ h, handleRequest { Env.sample with newRouter := fun _ => .error (.error (utf8 "boom")) }
      Worker.init
      ⟨0, "worker.createRouter", "",
        .legacy .WORKER_CREATE_ROUTER (.object [("routerId", .string "R1")])⟩ = some h ∧
      h.thrown = some (.mediaSoup (.error (utf8 "boom"))) ∧
      h.FailsAtomically Worker.init
        (Escapes (RaisedOutsideClauses
          { Env.sample with newRouter := fun _ => .error (.error (utf8 "boom")) } Worker.init (.legacy .WORKER_CREATE_ROUTER (.object [("routerId", .string "R1")])))
          "worker.createRouter") :=
  ⟨_, rfl, rfl, @handleRequest_fails_atomically Worker.init
    { Env.sample with newRouter := fun _ => .error (.error (utf8 "boom")) }
    ⟨0, "worker.createRouter", "",
      .legacy .WORKER_CREATE_ROUTER (.object [("routerId", .string "R1")])⟩ _ rfl⟩

end Mediasoup
