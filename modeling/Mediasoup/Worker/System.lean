import Mediasoup.Worker.Lifecycle
import Mediasoup.Worker.Answers

set_option autoImplicit false

/-! # The Worker with its channels

The Worker does not test `closed` in its request handlers: `Close()` closes the Channel and the
PayloadChannel, and the design relies on a closed channel delivering no more messages. This module
makes that contract of the channels explicit and shows what the Worker gains from it.

## Crashes

Along a run of the Worker, the process crashes exactly at the first event that either makes the
Worker dereference a null pointer, a `WORKER_CREATE_WEBRTC_SERVER` request whose body is not a
`CreateWebRtcServerRequest` holding its id, or is delivered to a registered handler that crashes
on it, whatever the state (`run_eq_none_iff`). The Worker's own dispatch adds no other crash.

## Closed channels

`systemStep` is one event of the Worker with its channels: once the Worker is closed, the
channels deliver no request or notification, while signals and the channels' close callbacks
still arrive. A closed Worker is then frozen, and so it holds no Router and no WebRtcServer:
`~Worker` deletes every object the Worker ever allocated exactly once (`systemRun_no_leak`). The
Router a create request stores in a closed Worker, which `~Worker` never deletes, needs a message
delivered after `Close()`.
-/

namespace Mediasoup

open Worker

/-! ## Crashes -/

/-- The handler looked up for a message is registered and crashes on it. -/
def HandlerCrashes {α : Type} (handler : Option (α → Option (Except MediaSoupError Unit)))
    (message : α) : Prop :=
  ∃ handle, handler = some handle ∧ handle message = none

/-- The events at which the process crashes, whatever the Worker's state: a
`WORKER_CREATE_WEBRTC_SERVER` whose id cannot be read, and a message delivered to a registered
handler that crashes on it. -/
def Event.Crashes : Event → Prop
  | .request env r =>
    NoWebRtcServerId r.data ∨
      DispatchedByHandlerId r.data ∧ Readable env r.data ∧
        HandlerCrashes (env.channelRequestHandler r.handlerId) r
  | .payloadChannelRequest env r => HandlerCrashes (env.payloadChannelRequestHandler r.handlerId) r
  | .payloadChannelNotification env n =>
    HandlerCrashes (env.payloadChannelNotificationHandler n.handlerId) n
  | _ => False

theorem delegateTo_eq_none_iff {α : Type} {w : Worker}
    {handler : Option (α → Option (Except MediaSoupError Unit))} {notFound : Bytes}
    {method : String} {request : α} :
    delegateTo w handler notFound method request = none ↔ HandlerCrashes handler request := by
  unfold delegateTo HandlerCrashes
  split
  · simp
  · rename_i handle
    split <;> simp_all

theorem handleRequest_eq_none_iff {env : Env} {w : Worker} {request : ChannelRequest} :
    handleRequest env w request = none ↔
      NoWebRtcServerId request.data ∨
        DispatchedByHandlerId request.data ∧ Readable env request.data ∧
          HandlerCrashes (env.channelRequestHandler request.handlerId) request := by
  unfold handleRequest
  rcases hd : request.data with ⟨methodId, data⟩ | ⟨method, body⟩
  · cases methodId with
    | other code =>
      simp only [handleLegacyRequest, NoWebRtcServerId, DispatchedByHandlerId, Readable,
        false_or, true_and]
      exact delegateTo_eq_none_iff
    | _ =>
      simp only [handleLegacyRequest, NoWebRtcServerId, DispatchedByHandlerId, false_or,
        false_and, iff_false]
      split <;> (try split) <;> simp
  · cases method with
    | WORKER_CLOSE =>
      simp [handleBinaryRequest, method2String, NoWebRtcServerId, DispatchedByHandlerId]
    | WORKER_DUMP =>
      simp [handleBinaryRequest, method2String, NoWebRtcServerId, DispatchedByHandlerId]
    | WORKER_GET_RESOURCE_USAGE =>
      simp only [handleBinaryRequest, method2String, NoWebRtcServerId, DispatchedByHandlerId,
        false_or, false_and, iff_false]
      split <;> simp
    | WORKER_UPDATE_SETTINGS =>
      simp only [handleBinaryRequest, method2String, NoWebRtcServerId, DispatchedByHandlerId,
        false_or, false_and, iff_false]
      split <;> simp
    | WORKER_CREATE_WEBRTC_SERVER =>
      simp only [handleBinaryRequest, method2String, NoWebRtcServerId, DispatchedByHandlerId,
        false_and, or_false, Option.some_bind, Option.bind_eq_none]
      refine forall_congr' fun b => imp_congr_right fun _ => ?_
      unfold createWebRtcServer
      split
      · simp_all
      · split
        · simp_all
        · split <;> simp_all
    | TRANSPORT_CONSUME =>
      simp only [handleBinaryRequest, method2String, NoWebRtcServerId, DispatchedByHandlerId,
        Readable, Option.isSome_some, false_or, true_and]
      exact delegateTo_eq_none_iff
    | other code =>
      simp only [handleBinaryRequest, method2String, NoWebRtcServerId, DispatchedByHandlerId,
        Readable, false_or, true_and]
      split
      · simp_all
      · rename_i name hname
        simp only [hname, Option.isSome_some, true_and]
        exact delegateTo_eq_none_iff

theorem handleNotification_eq_none_iff {env : Env} {w : Worker} {n : PayloadChannelNotification} :
    handleNotification env w n = none ↔
      HandlerCrashes (env.payloadChannelNotificationHandler n.handlerId) n := by
  unfold handleNotification HandlerCrashes
  split
  · simp_all
  · rename_i handle
    split <;> simp_all

theorem step_eq_none_iff {w : Worker} {ev : Event} : step w ev = none ↔ ev.Crashes := by
  cases ev with
  | request env request =>
    simp only [step, Option.map_eq_none', handleRequest_eq_none_iff, Event.Crashes]
  | payloadChannelRequest env request =>
    simp only [step, Option.map_eq_none', handlePayloadChannelRequest, Event.Crashes]
    exact delegateTo_eq_none_iff
  | payloadChannelNotification env n =>
    simp only [step, Option.map_eq_none', handleNotification_eq_none_iff, Event.Crashes]
  | _ => simp [step, Event.Crashes]

/-- **Where a run of the Worker crashes.** A run stops exactly when it meets an event that
crashes the process whatever the state: a `WORKER_CREATE_WEBRTC_SERVER` request without a
`CreateWebRtcServerRequest` holding its id, or a message delivered to a registered handler that
crashes on it. -/
theorem run_eq_none_iff {w : Worker} {evs : List Event} :
    run w evs = none ↔ ∃ ev ∈ evs, ev.Crashes := by
  rw [run_eq_foldlM, @foldlM_eq_none_iff _ _ step _ (fun _ _ => step_eq_none_iff)]

/-- A `WORKER_CREATE_WEBRTC_SERVER` request with no body crashes the run it is part of. -/
example :
    run Worker.init [.signal 10, .request Env.sample ⟨0, "worker.createWebRtcServer", "",
      .binary .WORKER_CREATE_WEBRTC_SERVER .absent⟩] = none :=
  rfl

/-! ## The channels close with the Worker -/

/-- Whether the event is a message the Channel or the PayloadChannel delivers. -/
def Event.isMessage : Event → Bool
  | .request .. => true
  | .payloadChannelRequest .. => true
  | .payloadChannelNotification .. => true
  | _ => false

/-- One event of the Worker with its channels: once the Worker is closed, its channels deliver no
more messages. -/
def systemStep (w : Worker) (ev : Event) : Option Worker :=
  if w.closed && ev.isMessage then some w else step w ev

/-- A run of the Worker with its channels. -/
def systemRun : Worker → List Event → Option Worker
  | w, [] => some w
  | w, ev :: evs => (systemStep w ev).bind (systemRun · evs)

variable {w w' : Worker}

/-- A closed Worker with closed channels is frozen: signals and close callbacks change nothing. -/
theorem systemStep_of_closed (hc : w.closed = true) (ev : Event) : systemStep w ev = some w := by
  unfold systemStep
  cases ev <;> simp [Event.isMessage, hc, step, onSignal, onChannelClosed, onPayloadChannelClosed,
    close_of_closed hc]

/-- What a run of the Worker with its channels keeps: the lifecycle invariant, and a closed
Worker's maps are empty. -/
def SystemInv (w : Worker) : Prop := w.Inv ∧ (w.closed = true → w.values = [])

theorem systemStep_inv {ev : Event} (h : systemStep w ev = some w') (hi : SystemInv w) :
    SystemInv w' := by
  cases hc : w.closed
  · have hs : step w ev = some w' := by simpa [systemStep, hc] using h
    have hu := step_update hs
    refine ⟨hu.inv hi.1, fun hc' => ?_⟩
    rw [hu.eq_close hc hc']
    exact (hi.1.close_deleted_once hc).1
  · rw [systemStep_of_closed hc] at h
    cases h
    exact hi

theorem systemRun_eq_foldlM (w : Worker) (evs : List Event) :
    systemRun w evs = evs.foldlM systemStep w := by
  induction evs generalizing w with
  | nil => rfl
  | cons ev evs ih => simp only [systemRun, List.foldlM_cons, ih]; rfl

theorem systemRun_inv {evs : List Event} (h : systemRun w evs = some w') (hi : SystemInv w) :
    SystemInv w' :=
  foldlM_inv SystemInv (fun _ _ _ => systemStep_inv) (systemRun_eq_foldlM w evs ▸ h) hi

/-- **No leak when the channels close with the Worker.** Over every run of the Worker with its
channels: a closed Worker holds no Router and no WebRtcServer, and after `~Worker` both maps are
empty and every object the Worker ever allocated has been deleted exactly once. -/
theorem systemRun_no_leak {evs : List Event} (h : systemRun Worker.init evs = some w) :
    (w.closed = true → w.values = []) ∧ (destroy w).values = [] ∧
    ∀ p < (destroy w).heap.objs.length, (destroy w).heap.deleted.count p = 1 := by
  obtain ⟨hi, hv⟩ := systemRun_inv h ⟨inv_init, by simp [Worker.init]⟩
  refine ⟨hv, ?_⟩
  cases hc : w.closed
  · have hd : destroy w = Mediasoup.close w := by simp [destroy, hc]
    rw [hd]
    exact hi.close_deleted_once hc
  · have hd : destroy w = w := by simp [destroy, hc]
    rw [hd]
    exact ⟨hv hc, fun p hp => hi.count_deleted hp (by simp [Owns, hv hc, hc])⟩

/-- A `WORKER_CLOSE` request, then a legacy `worker.createRouter`, with closed channels: the
second request is not delivered, and nothing is left undeleted. -/
theorem systemRun_no_leak_create_after_close :
    ∃ w, systemRun Worker.init
      [.request Env.sample ⟨0, "worker.close", "", .binary .WORKER_CLOSE .absent⟩,
       .request Env.sample ⟨1, "worker.createRouter", "",
         .legacy .WORKER_CREATE_ROUTER (.object [("routerId", .string "R1")])⟩] = some w ∧
      (destroy w).values = [] :=
  ⟨_, rfl, (@systemRun_no_leak _
    [.request Env.sample ⟨0, "worker.close", "", .binary .WORKER_CLOSE .absent⟩,
     .request Env.sample ⟨1, "worker.createRouter", "",
       .legacy .WORKER_CREATE_ROUTER (.object [("routerId", .string "R1")])⟩] rfl).2.1⟩

end Mediasoup
