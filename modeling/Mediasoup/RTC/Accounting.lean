import Mediasoup.RTC.DirectTransport
import Mediasoup.Runs
import Mathlib

set_option autoImplicit false

/-! # Accounting of the DirectTransport

Over every run of sends and `TRANSPORT_SEND_RTCP` notifications, the `DataSent` calls are the
emissions' byte counts, one per emission in the same order, the replies `ReceiveRtcpPacket` sends
included; the `DataReceived` calls are the byte counts of the notifications, dropped ones included;
and the packets that reach `ReceiveRtcpPacket` are exactly those of notifications no longer than
`MtuSize + 100` that `RTCP::Packet::Parse` accepts. A run stops only at a notification whose body
is not a `SendRtcpNotification` with its `data` set (`run_accounting`).

The completion callbacks are not all completed: `SendMessage` never uses its callback, and
`SendRtpPacket` returns before it when there is no Consumer (`run_callbacks`).
-/

namespace Mediasoup.RTC

open DirectTransport

/-! ## Runs -/

/-- What can happen to a DirectTransport. -/
inductive TransportEvent where
  | sendRtpPacket (consumer : Option Consumer) (packet : RtpPacket) (cb : Option Callback)
  | sendRtcpPacket (packet : RtcpPacket)
  | sendRtcpCompoundPacket (packet : CompoundPacket)
  | sendMessage (dataConsumer : Consumer) (ppid : UInt32) (msg : Bytes) (cb : Option Callback)
  | sendSctpData (data : Bytes)
  | sendRtcpNotification (body : NotificationBody)

section Runs

variable (mtuSize : Nat) (parse : Bytes → Option RtcpPacket)
  (receiveRtcpPacket : DirectTransport → RtcpPacket → List Reply)

/-- The transport after one event; `none` when it dereferences a null pointer. -/
def step (t : DirectTransport) : TransportEvent → Option DirectTransport
  | .sendRtpPacket consumer packet cb => some (t.sendRtpPacket consumer packet cb)
  | .sendRtcpPacket packet => some (t.sendRtcpPacket packet)
  | .sendRtcpCompoundPacket packet => some (t.sendRtcpCompoundPacket packet)
  | .sendMessage dataConsumer ppid msg cb => some (t.sendMessage dataConsumer ppid msg cb)
  | .sendSctpData data => some (t.sendSctpData data)
  | .sendRtcpNotification body => sendRtcp mtuSize parse receiveRtcpPacket t body

/-- The transport after a sequence of events, unless one of them crashed the process. -/
def run : DirectTransport → List TransportEvent → Option DirectTransport
  | t, [] => some t
  | t, ev :: evs => (step mtuSize parse receiveRtcpPacket t ev).bind (run · evs)

/-- The bytes the `TRANSPORT_SEND_RTCP` notifications of a run carry, in order. -/
def rtcpData (evs : List TransportEvent) : List Bytes :=
  evs.filterMap fun
    | .sendRtcpNotification body => body.asSendRtcpNotification
    | _ => none

/-- The packet the bytes of a notification give to `ReceiveRtcpPacket`, if they give one. -/
def deliverable (data : Bytes) : Option RtcpPacket :=
  if data.length > mtuSize + 100 then none else parse data

/-- What a run from `t` to `t'` added to the logs, when its notifications carried the byte strings
`ds`: one `DataSent` per emission with its byte count, one `DataReceived` per notification with
its byte count, and the deliverable packets. -/
structure Accounts (t t' : DirectTransport) (ds : List Bytes) : Prop where
  sent : ∃ es : List Emission, t'.emitted = t.emitted ++ es ∧
    t'.dataSent = t.dataSent ++ es.map (·.payload.length)
  received : t'.dataReceived = t.dataReceived ++ ds.map List.length
  delivered : t'.receivedRtcp = t.receivedRtcp ++ ds.filterMap (deliverable mtuSize parse)

/-! ## One event -/

variable {mtuSize parse receiveRtcpPacket}

theorem Accounts.refl (t : DirectTransport) : Accounts mtuSize parse t t [] :=
  ⟨⟨[], by simp, by simp⟩, by simp, by simp⟩

theorem Accounts.trans {t₁ t₂ t₃ : DirectTransport} {ds ds' : List Bytes}
    (h₁ : Accounts mtuSize parse t₁ t₂ ds) (h₂ : Accounts mtuSize parse t₂ t₃ ds') :
    Accounts mtuSize parse t₁ t₃ (ds ++ ds') := by
  obtain ⟨⟨es₁, he₁, hs₁⟩, hr₁, hd₁⟩ := h₁
  obtain ⟨⟨es₂, he₂, hs₂⟩, hr₂, hd₂⟩ := h₂
  exact ⟨⟨es₁ ++ es₂, by simp [he₂, he₁], by simp [hs₂, hs₁]⟩,
    by simp [hr₂, hr₁],
    by simp [hd₂, hd₁, List.filterMap_append]⟩

/-- An emission followed by its `DataSent`. -/
theorem Accounts.emit_countSent (t : DirectTransport) (e : Emission) :
    Accounts mtuSize parse t ((t.emit e).countSent e.payload.length) [] :=
  ⟨⟨[e], rfl, rfl⟩, by simp [countSent, emit], by simp [countSent, emit]⟩

theorem step_none_iff {t : DirectTransport} {ev : TransportEvent} :
    step mtuSize parse receiveRtcpPacket t ev = none ↔
      ∃ body, ev = .sendRtcpNotification body ∧ body.asSendRtcpNotification = none := by
  cases ev <;> simp [step, sendRtcp]

/-- A reply adds one emission and its `DataSent`, completes no callback and keeps the id. -/
theorem sendReply_accounts (t : DirectTransport) (r : Reply) :
    Accounts mtuSize parse t (t.sendReply r) [] ∧ (t.sendReply r).callbacks = t.callbacks ∧
      (t.sendReply r).id = t.id := by
  cases r <;> exact ⟨Accounts.emit_countSent t _, rfl, rfl⟩

theorem foldl_sendReply_accounts (rs : List Reply) (t : DirectTransport) :
    Accounts mtuSize parse t (rs.foldl sendReply t) [] ∧
      (rs.foldl sendReply t).callbacks = t.callbacks ∧ (rs.foldl sendReply t).id = t.id := by
  induction rs generalizing t with
  | nil => exact ⟨Accounts.refl t, rfl, rfl⟩
  | cons r rs ih =>
    obtain ⟨h₁, c₁, i₁⟩ := sendReply_accounts t r
    obtain ⟨h₂, c₂, i₂⟩ := ih (t.sendReply r)
    exact ⟨h₁.trans h₂, c₂.trans c₁, i₂.trans i₁⟩

/-- `ReceiveRtcp` counts the bytes, and passes on the deliverable packet if there is one. -/
theorem receiveRtcp_eq (t : DirectTransport) (data : Bytes) :
    receiveRtcp mtuSize parse receiveRtcpPacket t data =
      match deliverable mtuSize parse data with
      | none => t.countReceived data.length
      | some packet => passRtcp receiveRtcpPacket (t.countReceived data.length) packet := by
  unfold receiveRtcp deliverable
  split <;> rfl

/-- A notification's bytes are counted as received, its deliverable packet reaches
`ReceiveRtcpPacket`, and the replies keep the accounts, the callbacks and the id. -/
theorem receiveRtcp_accounts (t : DirectTransport) (data : Bytes) :
    Accounts mtuSize parse t (receiveRtcp mtuSize parse receiveRtcpPacket t data) [data] ∧
      (receiveRtcp mtuSize parse receiveRtcpPacket t data).callbacks = t.callbacks ∧
      (receiveRtcp mtuSize parse receiveRtcpPacket t data).id = t.id := by
  rw [receiveRtcp_eq]
  cases hd : deliverable mtuSize parse data with
  | none => exact ⟨⟨⟨[], by simp [countReceived], by simp [countReceived]⟩, rfl,
      by simp [countReceived, hd]⟩, rfl, rfl⟩
  | some packet =>
    have hr : Accounts mtuSize parse t
        { t.countReceived data.length with receivedRtcp := t.receivedRtcp ++ [packet] } [data] :=
      ⟨⟨[], by simp [countReceived], by simp [countReceived]⟩, rfl,
        by simp [countReceived, hd]⟩
    obtain ⟨ha, hc, hi⟩ := foldl_sendReply_accounts (receiveRtcpPacket _ packet) _
    exact ⟨hr.trans ha, hc, hi⟩

/-- **One event keeps the accounts.** -/
theorem step_accounts {t t' : DirectTransport} {ev : TransportEvent}
    (h : step mtuSize parse receiveRtcpPacket t ev = some t') :
    Accounts mtuSize parse t t' (rtcpData [ev]) := by
  cases ev with
  | sendRtpPacket consumer packet cb =>
    cases h
    cases consumer with
    | none => exact Accounts.refl t
    | some c =>
      refine ⟨⟨[⟨c.id, "rtp", none, packet.data⟩], ?_, ?_⟩, ?_, ?_⟩ <;>
        cases cb <;> simp [DirectTransport.sendRtpPacket, complete, countSent, emit, rtcpData]
  | sendRtcpPacket packet => cases h; exact Accounts.emit_countSent t _
  | sendRtcpCompoundPacket packet => cases h; exact Accounts.emit_countSent t _
  | sendMessage dataConsumer ppid msg cb => cases h; exact Accounts.emit_countSent t _
  | sendSctpData data => cases h; exact Accounts.refl t
  | sendRtcpNotification body =>
    obtain ⟨data, hb, rfl⟩ := Option.map_eq_some'.1 h
    simpa [rtcpData, hb] using (receiveRtcp_accounts t data).1

/-! ## Whole runs -/

theorem rtcpData_cons (ev : TransportEvent) (evs : List TransportEvent) :
    rtcpData (ev :: evs) = rtcpData [ev] ++ rtcpData evs := by
  simp only [rtcpData, ← List.filterMap_append, List.singleton_append]

theorem run_eq_foldlM (t : DirectTransport) (evs : List TransportEvent) :
    run mtuSize parse receiveRtcpPacket t evs =
      evs.foldlM (step mtuSize parse receiveRtcpPacket) t := by
  induction evs generalizing t with
  | nil => rfl
  | cons ev evs ih => simp only [run, List.foldlM_cons, ih]; rfl

theorem run_append (t : DirectTransport) (evs evs' : List TransportEvent) :
    run mtuSize parse receiveRtcpPacket t (evs ++ evs') =
      (run mtuSize parse receiveRtcpPacket t evs).bind
        (run mtuSize parse receiveRtcpPacket · evs') := by
  simp only [run_eq_foldlM, List.foldlM_append]
  rfl

theorem run_accounts {t t' : DirectTransport} {evs : List TransportEvent}
    (h : run mtuSize parse receiveRtcpPacket t evs = some t') :
    Accounts mtuSize parse t t' (rtcpData evs) :=
  foldlM_rel (fun t t' evs => Accounts mtuSize parse t t' (rtcpData evs)) Accounts.refl
    (fun _ _ _ ev evs h₁ h₂ => by dsimp only; rw [rtcpData_cons]; exact h₁.trans h₂)
    (fun _ _ _ => step_accounts) (run_eq_foldlM t evs ▸ h)

theorem run_none_iff {t : DirectTransport} {evs : List TransportEvent} :
    run mtuSize parse receiveRtcpPacket t evs = none ↔
      ∃ body, .sendRtcpNotification body ∈ evs ∧ body.asSendRtcpNotification = none := by
  rw [run_eq_foldlM,
    @foldlM_eq_none_iff _ _ (step mtuSize parse receiveRtcpPacket) _ (fun _ _ => step_none_iff)]
  constructor
  · rintro ⟨_, hm, body, rfl, hb⟩; exact ⟨body, hm, hb⟩
  · rintro ⟨body, hm, hb⟩; exact ⟨_, hm, body, rfl, hb⟩

/-- **The DirectTransport's accounting.** For every run of sends (with or without a Consumer)
and `TRANSPORT_SEND_RTCP` notifications of any length: the run stops only at a notification
whose body is not a `SendRtcpNotification` with its `data` set; otherwise (i) every emission adds
one `DataSent` of its byte count and nothing else adds one, so the total added to `DataSent` is
the total emitted; (ii) the total added to `DataReceived` is the total length of the
notifications, dropped ones included; (iii) exactly the notifications no longer than
`MtuSize + 100` that `Parse` accepts reach `ReceiveRtcpPacket`. The replies `ReceiveRtcpPacket`
sends through the transport are emissions like any other. -/
theorem run_accounting (t : DirectTransport) (evs : List TransportEvent) :
    (run mtuSize parse receiveRtcpPacket t evs = none ↔
      ∃ body, .sendRtcpNotification body ∈ evs ∧ body.asSendRtcpNotification = none) ∧
    ∀ t', run mtuSize parse receiveRtcpPacket t evs = some t' →
      Accounts mtuSize parse t t' (rtcpData evs) ∧
      (∃ es : List Emission, t'.emitted = t.emitted ++ es ∧
        t'.dataSent.sum = t.dataSent.sum + (es.map (·.payload.length)).sum) ∧
      t'.dataReceived.sum = t.dataReceived.sum + ((rtcpData evs).map List.length).sum :=
  ⟨run_none_iff, fun t' h =>
    have ha := run_accounts h
    ⟨ha, by obtain ⟨es, he, hs⟩ := ha.sent; exact ⟨es, he, by rw [hs, List.sum_append]⟩,
      by rw [ha.received, List.sum_append]⟩⟩

end Runs

/-- A run of one RTP send and one four-byte notification that `Parse` accepts, on a transport whose
base answers each RTCP packet with one of its own: the transport counts 4 bytes received, passes on
one packet, and counts the reply's 4 bytes as sent after the RTP packet's 2. -/
theorem run_accounting_rtcp :
    ∃ t', run 1500 (fun d => some ⟨d⟩) (fun _ p => [.rtcpPacket p]) (fresh "T1")
        [.sendRtpPacket (some ⟨"C1"⟩) ⟨[128, 96]⟩ none,
          .sendRtcpNotification (.sendRtcpNotification (some [128, 201, 0, 1]))] = some t' ∧
      t'.dataReceived.sum = 4 ∧ t'.receivedRtcp = [⟨[128, 201, 0, 1]⟩] ∧
      t'.dataSent = [2, 4] :=
  have h := (@run_accounting 1500 (fun d => some ⟨d⟩) (fun _ p => [.rtcpPacket p]) (fresh "T1")
    [.sendRtpPacket (some ⟨"C1"⟩) ⟨[128, 96]⟩ none,
      .sendRtcpNotification (.sendRtcpNotification (some [128, 201, 0, 1]))]).2 _ rfl
  ⟨_, rfl, h.2.2, h.1.delivered, rfl⟩

/-! ## Completion callbacks -/

/-- The callback events the sends of a run produce: `(*cb)(true)` and `delete cb` for each RTP
packet sent to a Consumer with a callback. -/
def completions (evs : List TransportEvent) : List CallbackEvent :=
  evs.flatMap fun
    | .sendRtpPacket (some _) _ (some cb) => [.invoked cb true, .deleted cb]
    | _ => []

/-- The callback a callback event is about. -/
def CallbackEvent.callback : CallbackEvent → Callback
  | .invoked cb _ => cb
  | .deleted cb => cb

theorem mem_completions {e : CallbackEvent} {evs : List TransportEvent}
    (he : e ∈ completions evs) :
    ∃ c p cb, .sendRtpPacket (some c) p (some cb) ∈ evs ∧
      (e = .invoked cb true ∨ e = .deleted cb) := by
  obtain ⟨ev, hev, he⟩ := List.mem_flatMap.1 he
  split at he
  · exact ⟨_, _, _, hev, by simpa using he⟩
  · simp at he

section Callbacks

variable {mtuSize : Nat} {parse : Bytes → Option RtcpPacket}
  {receiveRtcpPacket : DirectTransport → RtcpPacket → List Reply}

theorem step_callbacks {t t' : DirectTransport} {ev : TransportEvent}
    (h : step mtuSize parse receiveRtcpPacket t ev = some t') :
    t'.callbacks = t.callbacks ++ completions [ev] := by
  cases ev with
  | sendRtpPacket consumer packet cb =>
    cases h; cases consumer <;> cases cb <;>
      simp [DirectTransport.sendRtpPacket, complete, countSent, emit, completions]
  | sendRtcpNotification body =>
    obtain ⟨data, -, rfl⟩ := Option.map_eq_some'.1 h
    simpa [completions] using (receiveRtcp_accounts t data).2.1
  | _ => cases h; simp [DirectTransport.sendRtcpPacket, DirectTransport.sendRtcpCompoundPacket,
      DirectTransport.sendMessage, DirectTransport.sendSctpData, countSent, emit, completions]

/-- **What happens to the completion callbacks.** Over every run, the callback log gains exactly
`(*cb)(true)` and `delete cb`, in order, for each RTP packet sent to a Consumer with a callback,
and nothing else: no callback is completed with `false`, and a callback that the run gives only to
`SendMessage` or to `SendRtpPacket` without a Consumer is neither invoked nor deleted. -/
theorem run_callbacks {t t' : DirectTransport} {evs : List TransportEvent}
    (h : run mtuSize parse receiveRtcpPacket t evs = some t') :
    t'.callbacks = t.callbacks ++ completions evs ∧
    (∀ cb, .invoked cb false ∉ completions evs) ∧
    ∀ cb : Callback, (∀ c p, .sendRtpPacket (some c) p (some cb) ∉ evs) →
      ∀ e ∈ completions evs, e.callback ≠ cb := by
  refine ⟨foldlM_rel (fun t t' evs => t'.callbacks = t.callbacks ++ completions evs)
    (fun _ => by simp [completions])
    (fun _ _ _ ev evs h₁ h₂ => by simp [h₂, h₁, completions]) (fun _ _ _ => step_callbacks)
    (run_eq_foldlM t evs ▸ h),
    fun cb hf => ?_, fun cb hcb e he hec => ?_⟩
  · obtain ⟨_, _, _, _, he | he⟩ := mem_completions hf <;> cases he
  · obtain ⟨c, p, cb', hev, rfl | rfl⟩ := mem_completions he <;>
      cases hec <;> exact hcb c p hev

end Callbacks

/-- A message sent with a callback and an RTP packet sent without a Consumer, with the same
callback: the run leaves it neither invoked nor deleted. -/
theorem run_callbacks_lost :
    ∃ t', run 1500 (fun d => some ⟨d⟩) (fun _ _ => []) (fresh "T2")
        [.sendMessage ⟨"DC1"⟩ 51 [1, 2, 3] (some ⟨1⟩),
          .sendRtpPacket none ⟨[128, 0]⟩ (some ⟨1⟩)] =
        some t' ∧ t'.callbacks = [] :=
  ⟨_, rfl, (@run_callbacks 1500 (fun d => some ⟨d⟩) (fun _ _ => []) (fresh "T2") _
    [.sendMessage ⟨"DC1"⟩ 51 [1, 2, 3] (some ⟨1⟩),
      .sendRtpPacket none ⟨[128, 0]⟩ (some ⟨1⟩)]
    rfl).1⟩

/-- `SendMessage` with a callback emits the message and leaves the callback neither invoked nor
deleted; so does `SendRtpPacket` without a Consumer, which emits nothing. -/
theorem callbacks_not_completed :
    (sendMessage (fresh "T2") ⟨"DC1"⟩ 51 [1, 2, 3] (some ⟨1⟩)).callbacks = [] ∧
    (sendMessage (fresh "T2") ⟨"DC1"⟩ 51 [1, 2, 3] (some ⟨1⟩)).emitted.length = 1 ∧
    (sendRtpPacket (fresh "T2") none ⟨[128, 0, 0, 1]⟩ (some ⟨2⟩)).callbacks = [] ∧
    (sendRtpPacket (fresh "T2") none ⟨[128, 0, 0, 1]⟩ (some ⟨2⟩)).emitted.length = 0 := by
  decide

end Mediasoup.RTC
