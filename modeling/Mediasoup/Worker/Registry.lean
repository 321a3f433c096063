import Mediasoup.Worker.Lifecycle
import Mathlib.Data.Finset.Basic

set_option autoImplicit false

/-! # The registry of Routers and WebRtcServers

What the Worker's maps are for, stated without pointers: a set `R` of Router ids and a set `S`
of WebRtcServer ids. A create request is accepted iff its id is a string not in the set and
the constructor returns, and then adds the id; a close request is accepted iff its id is in the
set, and then removes it; a dump lists both sets. Every other outcome is a rejection that
changes nothing.

`RegistryRun` pairs the Worker and the abstract registry that the same requests reach, and
`registry_refinement` says that along every such run the keys of the maps are the two sets and
every next request is answered as the abstract registry answers it.

A binary `WORKER_CREATE_WEBRTC_SERVER` is a registry request only when its body is a
`CreateWebRtcServerRequest` holding its id. Without it the Worker does not reject the request:
`body->webRtcServerId()->str()` dereferences a null pointer, whatever the state.
-/

namespace Mediasoup

/-! ## The abstract registry -/

/-- The ids of the Routers and of the WebRtcServers. -/
structure Registry where
  routers : Finset String
  webRtcServers : Finset String

/-- The empty registry. -/
def Registry.empty : Registry := ⟨∅, ∅⟩

/-- The ids of kind `k`. -/
def Registry.ids (a : Registry) : Kind → Finset String
  | .router => a.routers
  | .webRtcServer => a.webRtcServers

/-- Replaces the ids of kind `k`. -/
def Registry.set (a : Registry) : Kind → Finset String → Registry
  | .router, s => { a with routers := s }
  | .webRtcServer, s => { a with webRtcServers := s }

/-- A request as the registry sees it: the id it names, if it names one as a string, and for a
create whether the constructor returns for a given id. -/
inductive RegistryOp where
  | create (k : Kind) (id : Option String) (constructed : String → Bool)
  | close (k : Kind) (id : Option String)
  | dump

/-- What the registry answers. -/
inductive Verdict where
  | accepted
  | rejected
  | dump (routers webRtcServers : Finset String)

/-- One request on the abstract registry. -/
def Registry.apply (a : Registry) : RegistryOp → Registry × Verdict
  | .create k (some id) constructed =>
    if id ∉ a.ids k ∧ constructed id = true then (a.set k (insert id (a.ids k)), .accepted)
    else (a, .rejected)
  | .create _ none _ => (a, .rejected)
  | .close k (some id) =>
    if id ∈ a.ids k then (a.set k ((a.ids k).erase id), .accepted) else (a, .rejected)
  | .close _ none => (a, .rejected)
  | .dump => (a, .dump a.routers a.webRtcServers)

@[simp] theorem Registry.ids_set_self (a : Registry) (k : Kind) (s : Finset String) :
    (a.set k s).ids k = s := by
  cases k <;> rfl

theorem Registry.ids_set_of_ne (a : Registry) {k k' : Kind} (s : Finset String) (h : k' ≠ k) :
    (a.set k s).ids k' = a.ids k' :=
  match k, k', h with
  | .router, .webRtcServer, _ => rfl
  | .webRtcServer, .router, _ => rfl
  | .router, .router, h => absurd rfl h
  | .webRtcServer, .webRtcServer, h => absurd rfl h

/-! ## Requests of the registry -/

/-- The registry request a control-channel request is, when it is one: a legacy
`worker.createRouter`, `worker.closeRouter` or `worker.closeWebRtcServer`, a binary
`WORKER_CREATE_WEBRTC_SERVER` whose `CreateWebRtcServerRequest` body holds its id, or a binary
`WORKER_DUMP`. -/
def registryOp (env : Env) (request : ChannelRequest) : Option RegistryOp :=
  match request.data with
  | .legacy .WORKER_CREATE_ROUTER data =>
    some (.create .router (data.findString "routerId") fun id => (env.newRouter id).isOk)
  | .legacy .WORKER_CLOSE_ROUTER data => some (.close .router (data.findString "routerId"))
  | .legacy .WORKER_WEBRTC_SERVER_CLOSE data =>
    some (.close .webRtcServer (data.findString "webRtcServerId"))
  | .binary .WORKER_CREATE_WEBRTC_SERVER (.createWebRtcServerRequest ⟨some id, listenInfos⟩) =>
    some (.create .webRtcServer (some id) fun id => (env.newWebRtcServer id listenInfos).isOk)
  | .binary .WORKER_DUMP _ => some .dump
  | _ => none

/-- The Worker `w` answered a request with `h` as the registry answers with the verdict. A
rejection leaves the Worker as it was; a dump lists each id once. -/
def Answers (w : Worker) (h : Handled) : Verdict → Prop
  | .accepted => h.answers = [.accept none] ∧ h.thrown = none
  | .rejected => h.worker = w ∧ h.answers = [] ∧ h.thrown.isSome = true
  | .dump routers webRtcServers =>
    h.worker = w ∧ h.thrown = none ∧ ∃ d : Dump, h.answers = [.accept (some (.workerDump d))] ∧
      d.routerIds.Nodup ∧ d.routerIds.toFinset = routers ∧
      d.webRtcServerIds.Nodup ∧ d.webRtcServerIds.toFinset = webRtcServers

/-- The Worker and the registry that the same registry requests reach from the initial Worker
and the empty registry. -/
inductive RegistryRun : Worker → Registry → Prop
  | init : RegistryRun Worker.init Registry.empty
  | step {w : Worker} {a : Registry} {env : Env} {request : ChannelRequest} {op : RegistryOp}
      {h : Handled} :
      RegistryRun w a → registryOp env request = some op → handleRequest env w request = some h →
      RegistryRun h.worker (a.apply op).1

/-! ## The simulation -/

/-- The Worker keeps its invariant and stores exactly the ids of the registry. -/
structure Sim (w : Worker) (a : Registry) : Prop where
  inv : w.Inv
  mem : ∀ k x, x ∈ w.map k ↔ x ∈ a.ids k

variable {w : Worker} {a : Registry}

theorem Sim.init : Sim Worker.init Registry.empty :=
  ⟨Worker.inv_init, fun k x => by cases k <;> simp [Worker.init, Registry.empty, Registry.ids]⟩

theorem Sim.insertNew (hs : Sim w a) {k : Kind} {id : String} (hid : id ∉ w.map k) :
    Sim (w.insertNew k id) (a.set k (insert id (a.ids k))) := by
  refine ⟨hs.inv.insertNew hid, fun k' x => ?_⟩
  rw [Worker.insertNew_map]
  split
  · subst k'; simp [hs.mem]
  · rw [Registry.ids_set_of_ne _ _ ‹_›, hs.mem]

theorem Sim.eraseDelete (hs : Sim w a) {k : Kind} {id : String} {p : Ptr}
    (h : (w.map k).lookup id = some p) : Sim (w.eraseDelete k p) (a.set k ((a.ids k).erase id)) := by
  refine ⟨hs.inv.eraseDelete h, fun k' x => ?_⟩
  rw [Worker.eraseDelete_map hs.inv h]
  split
  · subst k'; simp [hs.mem]
  · rw [Registry.ids_set_of_ne _ _ ‹_›, hs.mem]

theorem Sim.keys_toFinset (hs : Sim w a) (k : Kind) : (w.map k).keys.toFinset = a.ids k := by
  ext x; simp [← AList.mem_keys, hs.mem]

/-! ## One lemma per registry request -/

theorem Sim.createRouter (hs : Sim w a) (env : Env) (request : ChannelRequest) (data : Json) :
    let r := a.apply (.create .router (data.findString "routerId") fun id => (env.newRouter id).isOk)
    ∃ h, handleLegacyRequest env w request .WORKER_CREATE_ROUTER data = some h ∧
      Answers w h r.2 ∧ Sim h.worker r.1 := by
  simp only [handleLegacyRequest, setNewRouterIdFromData, setNewIdFromData]
  cases hf : data.findString "routerId" with
  | none => simp [Registry.apply, Answers, Handled.throw, hs]
  | some id =>
    have hmem := hs.mem .router id
    by_cases hin : id ∈ w.mapRouters
    · simp_all [Registry.apply, Answers, Handled.throw]
    · cases henv : env.newRouter id with
      | error e => simp_all [Registry.apply, Answers, Handled.throw, Except.isOk, Except.toBool]
      | ok u =>
        have hnot : id ∉ a.ids .router := fun h => hin (hmem.2 h)
        simpa [hin, henv, Registry.apply, hnot, Answers, Handled.accept, Except.isOk,
          Except.toBool] using hs.insertNew (k := .router) hin

/-- The legacy close cases: `GetRouterFromData` or `GetWebRtcServerFromData`, then
`Worker.eraseDelete`. -/
theorem Sim.closeEntry (hs : Sim w a) (k : Kind) (field missing notFound method : String)
    (data : Json) :
    let r := a.apply (.close k (data.findString field))
    ∃ h, (match getFromData field missing notFound (w.map k) data with
      | .error e => some (Handled.throw w e (e.rethrowAsError method))
      | .ok p => some (Handled.accept (w.eraseDelete k p) none)) = some h ∧
      Answers w h r.2 ∧ Sim h.worker r.1 := by
  simp only [getFromData]
  cases hf : data.findString field with
  | none => simp [Registry.apply, Answers, Handled.throw, hs]
  | some id =>
    cases hl : (w.map k).lookup id with
    | none =>
      have : id ∉ a.ids k := fun h => AList.lookup_eq_none.1 hl ((hs.mem k id).2 h)
      simp [hl, Registry.apply, this, Answers, Handled.throw, hs]
    | some p =>
      have : id ∈ a.ids k := (hs.mem k id).1 (AList.lookup_isSome.1 (by simp [hl]))
      simpa [hl, Registry.apply, this, Answers, Handled.accept] using hs.eraseDelete hl

theorem Sim.createWebRtcServer (hs : Sim w a) (env : Env) (request : ChannelRequest) (id : String)
    (listenInfos : Option (List ListenInfo)) :
    let r := a.apply (.create .webRtcServer (some id)
      fun id => (env.newWebRtcServer id listenInfos).isOk)
    ∃ h, createWebRtcServer env w request ⟨some id, listenInfos⟩ = some h ∧
      Answers w h r.2 ∧ Sim h.worker r.1 := by
  have hmem := hs.mem .webRtcServer id
  simp only [Mediasoup.createWebRtcServer, checkWebRtcServer]
  by_cases hin : id ∈ w.mapWebRtcServers
  · simp_all [Registry.apply, Answers, Handled.throw]
  · cases henv : env.newWebRtcServer id listenInfos with
    | error e => simp_all [Registry.apply, Answers, Handled.throw, Except.isOk, Except.toBool]
    | ok u =>
      have hnot : id ∉ a.ids .webRtcServer := fun h => hin (hmem.2 h)
      simpa [hin, henv, Registry.apply, hnot, Answers, Handled.accept, Except.isOk,
        Except.toBool] using hs.insertNew (k := .webRtcServer) hin

theorem Sim.dump (hs : Sim w a) (env : Env) :
    Answers w (.accept w (some (.workerDump (fillBuffer env w)))) (a.apply .dump).2 :=
  ⟨rfl, rfl, _, rfl, AList.keys_nodup _, hs.keys_toFinset .router, AList.keys_nodup _,
    hs.keys_toFinset .webRtcServer⟩

/-- **One registry request.** The Worker handles it without crashing, answers as the registry
does, and the next Worker and registry are again related. -/
theorem Sim.step (hs : Sim w a) {env : Env} {request : ChannelRequest} {op : RegistryOp}
    (hop : registryOp env request = some op) :
    ∃ h, handleRequest env w request = some h ∧ Answers w h (a.apply op).2 ∧
      Sim h.worker (a.apply op).1 := by
  unfold registryOp at hop
  split at hop <;> simp only [Option.some.injEq, reduceCtorEq] at hop <;> subst hop <;>
    simp only [handleRequest, *]
  · exact hs.createRouter env request _
  · exact hs.closeEntry .router _ _ _ _ _
  · exact hs.closeEntry .webRtcServer _ _ _ _ _
  · exact hs.createWebRtcServer env request _ _
  · exact ⟨_, rfl, hs.dump env, hs⟩

theorem RegistryRun.sim {w : Worker} {a : Registry} (hrun : RegistryRun w a) : Sim w a := by
  induction hrun with
  | init => exact Sim.init
  | step _ hop hh ih =>
    obtain ⟨h, hh', -, hs⟩ := ih.step hop
    rw [hh] at hh'
    cases hh'
    exact hs

/-- **The Worker refines the registry.** Along every run of registry requests (any ids, missing,
ill-typed, duplicate or unknown, and any constructor outcomes), the keys of `mapRouters` and
`mapWebRtcServers` are the registry's two sets, and the Worker answers every next registry request
as the registry does: accepted exactly in the registry's cases, rejected with the Worker
unchanged otherwise, and a dump listing each id once. A binary `WORKER_CREATE_WEBRTC_SERVER`
without a `CreateWebRtcServerRequest` holding its id is not rejected: the process crashes. -/
theorem registry_refinement {w : Worker} {a : Registry} (hrun : RegistryRun w a) :
    w.mapRouters.keys.toFinset = a.routers ∧ w.mapWebRtcServers.keys.toFinset = a.webRtcServers ∧
    (∀ env request op, registryOp env request = some op →
      ∃ h, handleRequest env w request = some h ∧ Answers w h (a.apply op).2) ∧
    ∀ env request, NoWebRtcServerId request.data → handleRequest env w request = none := by
  have hs := hrun.sim
  refine ⟨hs.keys_toFinset .router, hs.keys_toFinset .webRtcServer, fun env request op hop => ?_,
    fun _ _ => handleRequest_of_noWebRtcServerId⟩
  obtain ⟨h, hh, ha, -⟩ := hs.step hop
  exact ⟨h, hh, ha⟩

/-- Router `R1` and WebRtcServer `S1` are created, then `R1` is closed: the maps hold exactly the
registry's ids, `S1` alone. -/
theorem registry_refinement_create_close :
    ∃ w a, RegistryRun w a ∧ w.mapRouters.keys.toFinset = a.routers ∧
      w.mapWebRtcServers.keys.toFinset = a.webRtcServers ∧
      a.routers = ∅ ∧ a.webRtcServers = {"S1"} :=
  have hrun := @RegistryRun.step _ _ Env.sample ⟨2, "worker.closeRouter", "",
      .legacy .WORKER_CLOSE_ROUTER (.object [("routerId", .string "R1")])⟩ _ _
    (@RegistryRun.step _ _ Env.sample ⟨1, "worker.createWebRtcServer", "",
        .binary .WORKER_CREATE_WEBRTC_SERVER (.createWebRtcServerRequest ⟨some "S1", none⟩)⟩ _ _
      (@RegistryRun.step _ _ Env.sample ⟨0, "worker.createRouter", "",
          .legacy .WORKER_CREATE_ROUTER (.object [("routerId", .string "R1")])⟩ _ _
        .init rfl rfl) rfl rfl) rfl rfl
  ⟨_, _, hrun, (registry_refinement hrun).1, (registry_refinement hrun).2.1, by decide, by decide⟩

/-- A binary `WORKER_CREATE_WEBRTC_SERVER` whose table has no `webRtcServerId`, or that has no
body, crashes the process instead of being rejected, while the legacy `worker.createRouter`
without its id is rejected. -/
theorem create_without_id_crashes :
    handleRequest Env.sample Worker.init ⟨0, "worker.createWebRtcServer", "",
      .binary .WORKER_CREATE_WEBRTC_SERVER (.createWebRtcServerRequest ⟨none, some []⟩)⟩ = none ∧
    handleRequest Env.sample Worker.init ⟨1, "worker.createWebRtcServer", "",
      .binary .WORKER_CREATE_WEBRTC_SERVER .absent⟩ = none ∧
    ((handleRequest Env.sample Worker.init ⟨2, "worker.createRouter", "",
      .legacy .WORKER_CREATE_ROUTER (.object [])⟩).map (·.answers)) = some [] :=
  ⟨rfl, rfl, rfl⟩

end Mediasoup
