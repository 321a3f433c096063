import Mediasoup.Worker.Handlers
import Mediasoup.Runs

set_option autoImplicit false

/-! # What each handler does

One lemma per function of `Handlers.lean`, stated so that later proofs never unfold the
handlers again. The main one is `step_update`: whatever the event, the Worker after it is the
Worker before it, the Worker after `Close()`, the Worker with one new object stored under a
fresh id, or the Worker with one stored object erased and deleted. Every invariant of
`Lifecycle.lean` is proved against these four updates only.
-/

namespace Mediasoup

/-! ## Reading ids -/

theorem setNewIdFromData_eq_ok {field missing duplicate : String} {map : PtrMap} {data : Json}
    {id : String} :
    setNewIdFromData field missing duplicate map data = .ok id ↔
      data.findString field = some id ∧ id ∉ map := by
  unfold setNewIdFromData
  split <;> simp_all
  split <;> simp_all [eq_comm]

theorem setNewIdFromData_eq_error {field missing duplicate : String} {map : PtrMap} {data : Json}
    {e : MediaSoupError} (h : setNewIdFromData field missing duplicate map data = .error e) :
    e = .ofLiteral missing ∨ e = .ofLiteral duplicate := by
  unfold setNewIdFromData at h
  split at h
  · cases h; exact .inl rfl
  · split at h <;> cases h; exact .inr rfl

theorem getFromData_eq_ok {field missing notFound : String} {map : PtrMap} {data : Json}
    {p : Ptr} :
    getFromData field missing notFound map data = .ok p ↔
      ∃ id, data.findString field = some id ∧ map.lookup id = some p := by
  unfold getFromData
  split
  · simp_all
  · split <;> simp_all

theorem getFromData_eq_error {field missing notFound : String} {map : PtrMap} {data : Json}
    {e : MediaSoupError} (h : getFromData field missing notFound map data = .error e) :
    e = .ofLiteral missing ∨ e = .ofLiteral notFound := by
  unfold getFromData at h
  split at h
  · cases h; exact .inl rfl
  · split at h <;> cases h; exact .inr rfl

theorem checkWebRtcServer_eq_ok {w : Worker} {id : String} :
    checkWebRtcServer w id = .ok () ↔ id ∉ w.mapWebRtcServers := by
  unfold checkWebRtcServer
  split <;> simp_all

/-! ## The id of a WebRtcServer to create -/

/-- A binary `WORKER_CREATE_WEBRTC_SERVER` whose id cannot be read: its body is not a
`CreateWebRtcServerRequest`, or that table was written without its `webRtcServerId`. -/
def NoWebRtcServerId : RequestData → Prop
  | .binary .WORKER_CREATE_WEBRTC_SERVER body =>
    body.asCreateWebRtcServerRequest.bind (·.webRtcServerId) = none
  | _ => False

/-- `body->webRtcServerId()->str()` dereferences a null pointer, whatever the Worker's state. -/
theorem handleRequest_of_noWebRtcServerId {env : Env} {w : Worker} {request : ChannelRequest}
    (h : NoWebRtcServerId request.data) : handleRequest env w request = none := by
  unfold handleRequest
  rcases hd : request.data with ⟨_, _⟩ | ⟨_ | _ | _ | _ | _ | _ | _, body⟩ <;>
    simp only [hd, NoWebRtcServerId] at h
  simp only [handleBinaryRequest, method2String, Option.bind_eq_none]
  intro b hb
  simp only [Option.bind_eq_none] at h
  simp only [createWebRtcServer, h b hb]

/-! ## Handled requests -/

namespace Handled

variable (w : Worker)

@[simp] theorem accept_worker (b : Option ResponseBody) : (accept w b).worker = w := rfl
@[simp] theorem byHandler_worker : (byHandler w).worker = w := rfl
@[simp] theorem throw_worker (c e : MediaSoupError) : (throw w c e).worker = w := rfl
@[simp] theorem silent_worker : (silent w).worker = w := rfl

end Handled

theorem delegateTo_worker {α : Type} {w : Worker}
    {handler : Option (α → Option (Except MediaSoupError Unit))} {notFound : Bytes}
    {method : String} {request : α} {h : Handled}
    (hh : delegateTo w handler notFound method request = some h) : h.worker = w := by
  unfold delegateTo at hh
  split at hh
  · cases hh; rfl
  · split at hh <;> cases hh <;> rfl

theorem handleNotification_worker {env : Env} {w : Worker} {n : PayloadChannelNotification}
    {h : Handled} (hh : handleNotification env w n = some h) : h.worker = w := by
  unfold handleNotification at hh
  split at hh
  · cases hh; rfl
  · split at hh <;> cases hh <;> rfl

/-! ## The four updates -/

/-- The ways one event can change the Worker: not at all, by `Close()`, by storing a new object
under an id its map does not have, or by erasing and deleting the object stored under an id. -/
inductive Update (w : Worker) : Worker → Prop
  | keep : Update w w
  | close : Update w (close w)
  | insertNew {k : Kind} {id : String} : id ∉ w.map k → Update w (w.insertNew k id)
  | eraseDelete {k : Kind} {id : String} {p : Ptr} :
      (w.map k).lookup id = some p → Update w (w.eraseDelete k p)

theorem handleLegacyRequest_update {env : Env} {w : Worker} {request : ChannelRequest}
    {methodId : MethodId} {data : Json} {h : Handled}
    (hh : handleLegacyRequest env w request methodId data = some h) : Update w h.worker := by
  unfold handleLegacyRequest at hh
  split at hh
  · split at hh <;> cases hh
    · exact .keep
    · obtain ⟨id, -, hid⟩ := getFromData_eq_ok.1 ‹_›
      exact .eraseDelete (k := .webRtcServer) hid
  · split at hh
    · cases hh; exact .keep
    · split at hh <;> cases hh
      · exact .keep
      · exact .insertNew (k := .router) (setNewIdFromData_eq_ok.1 ‹_›).2
  · split at hh <;> cases hh
    · exact .keep
    · obtain ⟨id, -, hid⟩ := getFromData_eq_ok.1 ‹_›
      exact .eraseDelete (k := .router) hid
  · rw [delegateTo_worker hh]; exact .keep

theorem createWebRtcServer_update {env : Env} {w : Worker} {request : ChannelRequest}
    {body : CreateWebRtcServerRequest} {h : Handled}
    (hh : createWebRtcServer env w request body = some h) : Update w h.worker := by
  unfold createWebRtcServer at hh
  split at hh
  · cases hh
  · split at hh
    · cases hh; exact .keep
    · split at hh <;> cases hh
      · exact .keep
      · exact .insertNew (k := .webRtcServer) (checkWebRtcServer_eq_ok.1 ‹_›)

theorem handleBinaryRequest_update {env : Env} {w : Worker} {request : ChannelRequest}
    {method : Method} {body : Body} {h : Handled}
    (hh : handleBinaryRequest env w request method body = some h) : Update w h.worker := by
  cases method with
  | WORKER_CLOSE =>
    simp only [handleBinaryRequest, method2String, Option.some.injEq] at hh
    subst hh
    by_cases hc : w.closed
    · simp only [hc, if_true, Handled.silent_worker]; exact .keep
    · simp only [hc, Handled.silent_worker]; exact .close
  | WORKER_DUMP =>
    simp only [handleBinaryRequest, method2String, Option.some.injEq] at hh
    subst hh; exact .keep
  | WORKER_GET_RESOURCE_USAGE =>
    simp only [handleBinaryRequest, method2String] at hh
    split at hh <;> cases hh <;> exact .keep
  | WORKER_UPDATE_SETTINGS =>
    simp only [handleBinaryRequest, method2String] at hh
    split at hh <;> cases hh <;> exact .keep
  | WORKER_CREATE_WEBRTC_SERVER =>
    simp only [handleBinaryRequest, method2String] at hh
    obtain ⟨b, -, hb⟩ := Option.bind_eq_some.1 hh
    exact createWebRtcServer_update hb
  | TRANSPORT_CONSUME => rw [delegateTo_worker hh]; exact .keep
  | other code =>
    simp only [handleBinaryRequest, method2String] at hh
    split at hh
    · cases hh; exact .keep
    · rw [delegateTo_worker hh]; exact .keep

theorem onSignal_update (w : Worker) (signum : Int) : Update w (onSignal w signum) := by
  unfold onSignal
  cases w.closed with
  | true => exact .keep
  | false =>
    simp only [Bool.false_eq_true, if_false]
    split_ifs
    · exact .close
    · exact .close
    · exact .keep

/-- **What one event can do.** -/
theorem step_update {w w' : Worker} {ev : Event} (h : step w ev = some w') : Update w w' := by
  cases ev with
  | request env request =>
    obtain ⟨hd, hhd, rfl⟩ := Option.map_eq_some'.1 h
    unfold handleRequest at hhd
    split at hhd
    · exact handleLegacyRequest_update hhd
    · exact handleBinaryRequest_update hhd
  | payloadChannelRequest env request =>
    obtain ⟨hd, hhd, rfl⟩ := Option.map_eq_some'.1 h
    rw [delegateTo_worker hhd]; exact .keep
  | payloadChannelNotification env n =>
    obtain ⟨hd, hhd, rfl⟩ := Option.map_eq_some'.1 h
    rw [handleNotification_worker hhd]; exact .keep
  | signal signum => cases h; exact onSignal_update w signum
  | channelClosed => cases h; exact .close
  | payloadChannelClosed => cases h; exact .close

theorem run_eq_foldlM (w : Worker) (evs : List Event) : run w evs = evs.foldlM step w := by
  induction evs generalizing w with
  | nil => rfl
  | cons ev evs ih => simp only [run, List.foldlM_cons, ih]; rfl

end Mediasoup
