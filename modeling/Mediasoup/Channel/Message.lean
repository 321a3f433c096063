import Mathlib.Data.List.AList

set_option autoImplicit false

/-! # Requests, answers and errors of the channels

The Worker receives requests over two channels (`Worker.cpp`). A control-channel request
(`Channel::ChannelRequest`) is either *legacy*, a method id with a JSON `data` object, or
*binary*, a `FBS::Request::Method` with a table `body`. The handler answers it by calling
`Accept`, or it throws: a `MediaSoupError`, or its subclass `MediaSoupTypeError`, which the
channel turns into the rejection of the request.

This file fixes the shapes of those messages as far as the modelled functions read them, the two
exception kinds, and the `catch` clauses that rethrow an exception with the method appended.

## Messages are C strings

`MS_THROW_ERROR(desc, ...)` (`MediaSoupErrors.hpp`, not under src/) prints its message with
`snprintf` into a `char buffer[2000]` and throws with that buffer. Each `%s` argument is a C
string, read up to its first NUL byte, and the buffer keeps the first 1999 bytes of the printed
text. So a message names an id or a method only up to its first NUL, and a long one loses its
end (`throwBuffer`, `withMethod`).
-/

namespace Mediasoup

/-- A byte string: a `std::string` or a buffer with its length. -/
abbrev Bytes := List UInt8

/-! ## C strings -/

/-- `std::string::c_str()`: the string's bytes followed by the terminating NUL. -/
def cStr (s : Bytes) : Bytes := s ++ [0]

/-- The bytes of a C string: those before the first NUL. -/
def beforeNul (str : Bytes) : Bytes := str.takeWhile (· != 0)

/-- `strlen`. -/
def strlen (str : Bytes) : Nat := (beforeNul str).length

/-- The bytes of a string literal, or of a `std::string` the model holds as a `String`. -/
def utf8 (s : String) : Bytes := s.toUTF8.data.toList

theorem beforeNul_cStr (s : Bytes) : beforeNul (cStr s) = beforeNul s := by
  induction s with
  | nil => rfl
  | cons x s ih => by_cases hx : x = 0 <;> simp_all [beforeNul, cStr, List.takeWhile_cons]

@[simp] theorem beforeNul_beforeNul (s : Bytes) : beforeNul (beforeNul s) = beforeNul s :=
  List.takeWhile_idem

@[simp] theorem beforeNul_nil : beforeNul [] = [] := rfl

theorem beforeNul_eq_self_iff {s : Bytes} : beforeNul s = s ↔ 0 ∉ s := by
  simp [beforeNul, List.takeWhile_eq_self_iff, List.forall_mem_ne']

theorem take_strlen (str : Bytes) : str.take (strlen str) = beforeNul str := by
  have h := List.take_left (beforeNul str) (str.dropWhile (· != 0))
  rwa [beforeNul, List.takeWhile_append_dropWhile] at h

theorem zero_not_mem_beforeNul (s : Bytes) : 0 ∉ beforeNul s := by
  intro h
  simpa using List.mem_takeWhile_imp h

/-! ## JSON data of legacy requests -/

/-- A JSON value, as `nlohmann::json` holds the `data` of a legacy request. -/
inductive Json where
  | null
  | boolean (b : Bool)
  | number (n : Int)
  | string (s : String)
  | array (items : List Json)
  | object (fields : List (String × Json))
  deriving Repr

/-- `data.find(key)`: the member `key` of an object; any other value has no members. -/
def Json.find (key : String) : Json → Option Json
  | .object fields => fields.lookup key
  | _ => none

/-- The test `it != data.end() && it->is_string()` and then `it->get<std::string>()`: the string
stored under `key`, if there is one. -/
def Json.findString (key : String) (data : Json) : Option String :=
  match data.find key with
  | some (.string s) => some s
  | _ => none

/-! ## Exceptions -/

/-- The message of `MS_THROW_ERROR` and `MS_THROW_TYPE_ERROR` once printed: `snprintf` into a
`char buffer[2000]` keeps the first 1999 bytes and the terminating NUL. -/
def throwBuffer (printed : Bytes) : Bytes := printed.take 1999

/-- The exceptions the worker throws: `MediaSoupError` (`MS_THROW_ERROR`) and its subclass
`MediaSoupTypeError` (`MS_THROW_TYPE_ERROR`), each with its message `what()`. -/
inductive MediaSoupError where
  | error (what : Bytes)
  | typeError (what : Bytes)
  deriving DecidableEq, Repr

namespace MediaSoupError

/-- `MS_THROW_ERROR(desc)` with a message that has no conversion. -/
def ofLiteral (desc : String) : MediaSoupError := .error (throwBuffer (utf8 desc))

/-- `error.what()`. -/
def what : MediaSoupError → Bytes
  | .error w => w
  | .typeError w => w

/-- Whether the exception is a `MediaSoupTypeError`. -/
def isTypeError : MediaSoupError → Bool
  | .error _ => false
  | .typeError _ => true

/-- The message `"%s [method:%s]"` the `catch` clauses print from `error.what()` and
`request->method.c_str()`. -/
def withMethod (what : Bytes) (method : String) : Bytes :=
  throwBuffer (beforeNul what ++ utf8 " [method:" ++ beforeNul (utf8 method) ++ utf8 "]")

/-- The pair of clauses `catch (const MediaSoupTypeError&)` then `catch (const MediaSoupError&)`
around a delegated call: each kind is rethrown as the same kind, with the method appended. -/
def rethrow (method : String) : MediaSoupError → MediaSoupError
  | .error w => .error (withMethod w method)
  | .typeError w => .typeError (withMethod w method)

/-- The single clause `catch (const MediaSoupError&)` of the legacy Worker cases. A
`MediaSoupTypeError` is a `MediaSoupError`, so it is caught there too and rethrown as an error. -/
def rethrowAsError (method : String) (e : MediaSoupError) : MediaSoupError :=
  .error (withMethod e.what method)

@[simp] theorem isTypeError_error (what : Bytes) : (error what).isTypeError = false := rfl
@[simp] theorem isTypeError_typeError (what : Bytes) : (typeError what).isTypeError = true := rfl

@[simp] theorem isTypeError_rethrow (method : String) (e : MediaSoupError) :
    (e.rethrow method).isTypeError = e.isTypeError := by
  cases e <;> rfl

@[simp] theorem isTypeError_rethrowAsError (method : String) (e : MediaSoupError) :
    (e.rethrowAsError method).isTypeError = false := rfl

@[simp] theorem what_rethrow (method : String) (e : MediaSoupError) :
    (e.rethrow method).what = withMethod e.what method := by
  cases e <;> rfl

end MediaSoupError

/-- An exception escaping a request handler: a `MediaSoupError`, or the `std::out_of_range` that
`method2String.at` throws for a method the table has no name for. -/
inductive Exception where
  | mediaSoup (e : MediaSoupError)
  | outOfRange
  deriving DecidableEq, Repr

/-! ## Requests -/

/-- The legacy `Channel::ChannelRequest::MethodId`s the Worker's switch names; every other method
id is `other`. -/
inductive MethodId where
  | WORKER_WEBRTC_SERVER_CLOSE
  | WORKER_CREATE_ROUTER
  | WORKER_CLOSE_ROUTER
  | other (code : Nat)
  deriving DecidableEq, Repr

/-- `FBS::Request::Method`: the methods the binary dispatch names, and every other value of the
wire field. -/
inductive Method where
  | WORKER_CLOSE
  | WORKER_DUMP
  | WORKER_GET_RESOURCE_USAGE
  | WORKER_UPDATE_SETTINGS
  | WORKER_CREATE_WEBRTC_SERVER
  | TRANSPORT_CONSUME
  | other (code : Nat)
  deriving DecidableEq, Repr

/-- Modelled from the spec: `Channel::ChannelRequest::method2String`, the table of method names
(not under src/). The methods the Worker's switch names have their entry; for every other method
the table is the parameter `others`. -/
def method2String (others : Nat → Option String) : Method → Option String
  | .WORKER_CLOSE => some "worker.close"
  | .WORKER_DUMP => some "worker.dump"
  | .WORKER_GET_RESOURCE_USAGE => some "worker.getResourceUsage"
  | .WORKER_UPDATE_SETTINGS => some "worker.updateSettings"
  | .WORKER_CREATE_WEBRTC_SERVER => some "worker.createWebRtcServer"
  | .TRANSPORT_CONSUME => some "transport.consume"
  | .other code => others code

/-- A `FBS.Transport.ListenInfo` table, kept as its bytes: only the WebRtcServer's constructor reads
it. -/
structure ListenInfo where
  bytes : Bytes
  deriving DecidableEq, Repr

/-- The `FBS::Worker::CreateWebRtcServerRequest` table. Its fields are pointers, `nullptr` for a
table written without them. -/
structure CreateWebRtcServerRequest where
  webRtcServerId : Option String
  listenInfos : Option (List ListenInfo)
  deriving DecidableEq, Repr

/-- The `body` union of a binary request, as far as the Worker reads it: absent (`NONE`), a
`CreateWebRtcServerRequest`, or a table of another type. -/
inductive Body where
  | absent
  | createWebRtcServerRequest (body : CreateWebRtcServerRequest)
  | other (type : Nat)
  deriving DecidableEq, Repr

/-- `body_as<FBS::Worker::CreateWebRtcServerRequest>()`: `nullptr` unless the union holds that
table. -/
def Body.asCreateWebRtcServerRequest : Body → Option CreateWebRtcServerRequest
  | .createWebRtcServerRequest body => some body
  | _ => none

/-- What a control-channel request carries besides its id, method name and handler id: a legacy
method id with its JSON `data` (`request->_data` is null), or a binary method with its body. -/
inductive RequestData where
  | legacy (methodId : MethodId) (data : Json)
  | binary (method : Method) (body : Body)

/-- A `Channel::ChannelRequest`. -/
structure ChannelRequest where
  id : Nat
  method : String
  handlerId : String
  data : RequestData

/-- A `PayloadChannel::PayloadChannelRequest`, as far as the Worker reads it. -/
structure PayloadChannelRequest where
  id : Nat
  method : String
  handlerId : String

/-- The events of a payload-channel notification a DirectTransport distinguishes. -/
inductive NotificationEvent where
  | TRANSPORT_SEND_RTCP
  | other (code : Nat)
  deriving DecidableEq, Repr

/-- The `body` union of a notification's `data`, as far as its handlers read it: a
`FBS::Transport::SendRtcpNotification` with its `data` bytes (`nullptr` for a table written
without them), another table, or none. -/
inductive NotificationBody where
  | sendRtcpNotification (data : Option Bytes)
  | other (type : Nat)
  | absent
  deriving DecidableEq, Repr

/-- `body_as<FBS::Transport::SendRtcpNotification>()->data()`: `nullptr` unless the union holds
that table and the table its bytes. -/
def NotificationBody.asSendRtcpNotification : NotificationBody → Option Bytes
  | .sendRtcpNotification data => data
  | _ => none

/-- A `PayloadChannel::PayloadChannelNotification`. `Worker.cpp` prints `event` as a string, while
`DirectTransport.cpp` switches on it as an `Event` value (`eventId`); the handler the notification
is delivered to reads the `body` of its `data`. -/
structure PayloadChannelNotification where
  event : String
  handlerId : String
  eventId : NotificationEvent
  body : NotificationBody

/-! ## Answers -/

/-- `FBS::Worker::Dump`, the body of the answer to `WORKER_DUMP`. -/
structure Dump where
  pid : Nat
  webRtcServerIds : List String
  routerIds : List String
  channelMessageHandlers : List String
  deriving DecidableEq, Repr

/-- A `uv_timeval_t`: two `long`s, 64-bit two's complement on the platforms the worker builds
for. -/
structure Timeval where
  tv_sec : BitVec 64
  tv_usec : BitVec 64
  deriving DecidableEq, Repr

/-- The counters of a `uv_rusage_t` that `FillBufferResourceUsage` copies unchanged, in its order. -/
structure RusageCounters where
  ru_maxrss : UInt64
  ru_ixrss : UInt64
  ru_idrss : UInt64
  ru_isrss : UInt64
  ru_minflt : UInt64
  ru_majflt : UInt64
  ru_nswap : UInt64
  ru_inblock : UInt64
  ru_oublock : UInt64
  ru_msgsnd : UInt64
  ru_msgrcv : UInt64
  ru_nsignals : UInt64
  ru_nvcsw : UInt64
  ru_nivcsw : UInt64
  deriving DecidableEq, Repr

/-- A `uv_rusage_t`. -/
structure UvRusage where
  ru_utime : Timeval
  ru_stime : Timeval
  counters : RusageCounters
  deriving DecidableEq, Repr

/-- `FBS::Worker::ResourceUsage`, the body of the answer to `WORKER_GET_RESOURCE_USAGE`: the CPU
times in milliseconds, then the counters. -/
structure ResourceUsage where
  ru_utime : UInt64
  ru_stime : UInt64
  counters : RusageCounters
  deriving DecidableEq, Repr

/-- The body of an accepted request. -/
inductive ResponseBody where
  | workerDump (dump : Dump)
  | workerResourceUsage (usage : ResourceUsage)
  deriving DecidableEq, Repr

/-- One answer to a request: the Worker's own `request->Accept(...)`, with the body it passes, or
the answer the delegated handler gave. -/
inductive Answer where
  | accept (body : Option ResponseBody)
  | byHandler
  deriving DecidableEq, Repr

end Mediasoup
