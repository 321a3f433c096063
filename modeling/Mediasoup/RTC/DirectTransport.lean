import Mediasoup.Channel.Message

set_option autoImplicit false

/-! # The DirectTransport

A DirectTransport (`RTC/DirectTransport.cpp`) has no network: what it sends it emits as a
payload-channel notification carrying the raw bytes, and what it receives comes as a
`TRANSPORT_SEND_RTCP` notification. Every send and receive is counted by the base transport's
`DataSent(len)` and `DataReceived(len)`.

The model keeps each of these as an append-only log: the emissions, the arguments of the
`DataSent` and `DataReceived` calls, the packets passed to `ReceiveRtcpPacket`, and what happens
to the completion callbacks (invoked, with which result, and deleted). `RTC::MtuSize`,
`RTC::RTCP::Packet::Parse` and the base transport's `ReceiveRtcpPacket` and `HandleNotification`,
which are not under src/, are parameters: `ReceiveRtcpPacket` by the replies it sends back through
this transport.
-/

namespace Mediasoup.RTC

/-! ## Packets and callbacks -/

/-- An `RTC::RtpPacket`, by the bytes `GetData()` and `GetSize()` expose. -/
structure RtpPacket where
  data : Bytes
  deriving DecidableEq, Repr

/-- An `RTC::RTCP::Packet`, by the bytes `GetData()` and `GetSize()` expose. -/
structure RtcpPacket where
  data : Bytes
  deriving DecidableEq, Repr

/-- An `RTC::RTCP::CompoundPacket`: its packets. `Serialize` writes them one after another into
the buffer that `GetData()` and `GetSize()` then expose. -/
structure CompoundPacket where
  packets : List RtcpPacket
  deriving DecidableEq, Repr

/-- The bytes of a compound packet once `Serialize` has run. -/
def CompoundPacket.serialize (packet : CompoundPacket) : Bytes :=
  (packet.packets.map (·.data)).flatten

/-- A `Consumer` or `DataConsumer`, by its id. -/
structure Consumer where
  id : String
  deriving DecidableEq, Repr

/-- A completion callback (`onSendCallback*` or `onQueuedCallback*`), by its identity. -/
structure Callback where
  id : Nat
  deriving DecidableEq, Repr

/-- What happens to a callback: `(*cb)(sent)`, or `delete cb`. -/
inductive CallbackEvent where
  | invoked (cb : Callback) (sent : Bool)
  | deleted (cb : Callback)
  deriving DecidableEq, Repr

/-- One `payloadChannelNotifier->Emit(targetId, event, [data,] bytes, len)`. -/
structure Emission where
  targetId : String
  event : String
  data : Option Json
  payload : Bytes

/-- A send `RTC::Transport::ReceiveRtcpPacket` (not under src/) makes through this transport while
it handles a received RTCP packet: an RTP packet sent again to a Consumer, without a callback, or an
RTCP packet or compound packet, such as a key-frame request passed on towards a Producer. -/
inductive Reply where
  | rtpPacket (consumer : Consumer) (packet : RtpPacket)
  | rtcpPacket (packet : RtcpPacket)
  | rtcpCompoundPacket (packet : CompoundPacket)
  deriving DecidableEq, Repr

/-! ## The transport -/

/-- The DirectTransport's state: its id and the logs of what it did. -/
structure DirectTransport where
  id : String
  emitted : List Emission
  dataSent : List Nat
  dataReceived : List Nat
  receivedRtcp : List RtcpPacket
  callbacks : List CallbackEvent

namespace DirectTransport

/-- A transport that has done nothing yet. -/
def fresh (id : String) : DirectTransport := ⟨id, [], [], [], [], []⟩

/-- `payloadChannelNotifier->Emit(...)`. -/
def emit (t : DirectTransport) (e : Emission) : DirectTransport :=
  { t with emitted := t.emitted ++ [e] }

/-- `RTC::Transport::DataSent(len)`. -/
def countSent (t : DirectTransport) (len : Nat) : DirectTransport :=
  { t with dataSent := t.dataSent ++ [len] }

/-- `RTC::Transport::DataReceived(len)`. -/
def countReceived (t : DirectTransport) (len : Nat) : DirectTransport :=
  { t with dataReceived := t.dataReceived ++ [len] }

/-- `(*cb)(true); delete cb;` for a callback that is not null. -/
def complete (t : DirectTransport) : Option Callback → DirectTransport
  | none => t
  | some cb => { t with callbacks := t.callbacks ++ [.invoked cb true, .deleted cb] }

/-- `DirectTransport::SendRtpPacket`: a packet without a Consumer is dropped with a warning. -/
def sendRtpPacket (t : DirectTransport) (consumer : Option Consumer) (packet : RtpPacket)
    (cb : Option Callback) : DirectTransport :=
  match consumer with
  | none => t
  | some consumer =>
    ((t.emit ⟨consumer.id, "rtp", none, packet.data⟩).complete cb).countSent packet.data.length

/-- `DirectTransport::SendRtcpPacket`. -/
def sendRtcpPacket (t : DirectTransport) (packet : RtcpPacket) : DirectTransport :=
  (t.emit ⟨t.id, "rtcp", none, packet.data⟩).countSent packet.data.length

/-- `DirectTransport::SendRtcpCompoundPacket`. -/
def sendRtcpCompoundPacket (t : DirectTransport) (packet : CompoundPacket) : DirectTransport :=
  (t.emit ⟨t.id, "rtcp", none, packet.serialize⟩).countSent packet.serialize.length

/-- `DirectTransport::SendMessage`: the message goes out with `{ ppid }` as its data. The
callback `cb` is not used. -/
def sendMessage (t : DirectTransport) (dataConsumer : Consumer) (ppid : UInt32) (msg : Bytes)
    (_cb : Option Callback) : DirectTransport :=
  (t.emit ⟨dataConsumer.id, "message", some (.object [("ppid", .number ppid.toNat)]), msg⟩
    ).countSent msg.length

/-- `DirectTransport::SendSctpData`: does nothing. -/
def sendSctpData (t : DirectTransport) (_data : Bytes) : DirectTransport := t

/-- The send a reply goes through. -/
def sendReply (t : DirectTransport) : Reply → DirectTransport
  | .rtpPacket consumer packet => t.sendRtpPacket (some consumer) packet none
  | .rtcpPacket packet => t.sendRtcpPacket packet
  | .rtcpCompoundPacket packet => t.sendRtcpCompoundPacket packet

section Receive

variable (mtuSize : Nat) (parse : Bytes → Option RtcpPacket)
  (receiveRtcpPacket : DirectTransport → RtcpPacket → List Reply)

/-- `RTC::Transport::ReceiveRtcpPacket(packet)`: the packet is logged as received, and the replies
the base transport makes to it (`receiveRtcpPacket`) go out, in order, through this transport's
sends. -/
def passRtcp (t : DirectTransport) (packet : RtcpPacket) : DirectTransport :=
  (receiveRtcpPacket t packet).foldl sendReply { t with receivedRtcp := t.receivedRtcp ++ [packet] }

/-- The `TRANSPORT_SEND_RTCP` case of `DirectTransport::HandleNotification` on the bytes of
`body->data()`: count them as received, drop them when longer than `MtuSize + 100` or when
`RTCP::Packet::Parse` rejects them, and pass the packet to `ReceiveRtcpPacket` otherwise. -/
def receiveRtcp (t : DirectTransport) (data : Bytes) : DirectTransport :=
  let t := t.countReceived data.length
  if data.length > mtuSize + 100 then t
  else
    match parse data with
    | none => t
    | some packet => passRtcp receiveRtcpPacket t packet

/-- `body->data()` is dereferenced unchecked: `none` (a crash) unless the body is a
`SendRtcpNotification` whose `data` is set. -/
def sendRtcp (t : DirectTransport) (body : NotificationBody) : Option DirectTransport :=
  body.asSendRtcpNotification.map (receiveRtcp mtuSize parse receiveRtcpPacket t)

/-- `DirectTransport::HandleNotification`. Other events go to `RTC::Transport::HandleNotification`
(`parent`, not under src/), which may return, throw or crash the process. -/
def handleNotification
    (parent : DirectTransport → PayloadChannelNotification →
      Option (Except MediaSoupError DirectTransport))
    (t : DirectTransport) (notification : PayloadChannelNotification) :
    Option (Except MediaSoupError DirectTransport) :=
  match notification.eventId with
  | .TRANSPORT_SEND_RTCP => (sendRtcp mtuSize parse receiveRtcpPacket t notification.body).map .ok
  | .other _ => parent t notification

end Receive

end DirectTransport

end Mediasoup.RTC
