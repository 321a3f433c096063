import Mediasoup.Worker.State

set_option autoImplicit false

/-! # The Worker's handlers

The functions of `Worker.cpp`, one definition each, under the source's names. What the
Worker's collaborators outside src/ do while an event is handled is an `Env`: the Router and
WebRtcServer constructors (which may throw), the handler registry `ChannelMessageHandlers` with
the delegated handlers, `Settings::HandleRequest`, `uv_getrusage`, and the method-name table.

A request handler returns a `Handled`: the Worker after it, the answers it gave, and the
exception that escapes. It returns `none` where the process crashes: where the code dereferences
a null pointer (the `body` of a `WORKER_CREATE_WEBRTC_SERVER` request that is not a
`CreateWebRtcServerRequest`, or such a table without its `webRtcServerId`), and where the
delegated handler it calls crashes.

Routers and WebRtcServers are handled by the same code on different maps; `Kind` names the map,
and `Worker.insertNew` and `Worker.eraseDelete` are the two map updates both kinds share.
-/

namespace Mediasoup

/-! ## Collaborators -/

/-- What the Worker's collaborators outside src/ do while one event is handled. A delegated
handler, looked up by handler id, returns (`some (.ok ())`), having answered its request once;
throws (`some (.error e)`) without answering it; or crashes the process (`none`), as a
DirectTransport does on a `TRANSPORT_SEND_RTCP` notification without its bytes. The Router and
WebRtcServer constructors and `Settings::HandleRequest` return or throw. -/
structure Env where
  pid : Nat
  methodNames : Nat → Option String
  channelRequestHandler :
    String → Option (ChannelRequest → Option (Except MediaSoupError Unit))
  payloadChannelRequestHandler :
    String → Option (PayloadChannelRequest → Option (Except MediaSoupError Unit))
  payloadChannelNotificationHandler :
    String → Option (PayloadChannelNotification → Option (Except MediaSoupError Unit))
  handlerIds : List String
  newRouter : String → Except MediaSoupError Unit
  newWebRtcServer : String → Option (List ListenInfo) → Except MediaSoupError Unit
  settingsHandleRequest : ChannelRequest → Except MediaSoupError Unit
  uvGetrusage : Except Int UvRusage
  uvStrerror : Int → String

/-- One call of a request handler: the Worker after it, the answers it gave to the request, the
exception that escapes, if any, and the exception the failing step raised before a `catch`
clause rethrew it (the `error` the clause binds). -/
structure Handled where
  worker : Worker
  answers : List Answer
  thrown : Option Exception
  cause : Option Exception

namespace Handled

/-- `request->Accept(...)` and return. -/
def accept (w : Worker) (body : Option ResponseBody) : Handled := ⟨w, [.accept body], none, none⟩

/-- The delegated handler answered and returned. -/
def byHandler (w : Worker) : Handled := ⟨w, [.byHandler], none, none⟩

/-- The step that failed raised `cause`, and `escaping` leaves the handler. -/
def throw (w : Worker) (cause escaping : MediaSoupError) : Handled :=
  ⟨w, [], some (.mediaSoup escaping), some (.mediaSoup cause)⟩

/-- Return without answering. -/
def silent (w : Worker) : Handled := ⟨w, [], none, none⟩

end Handled

/-! ## The two maps -/

/-- The two kinds of objects the Worker keeps in a map. -/
inductive Kind where
  | router
  | webRtcServer
  deriving DecidableEq, Repr

/-- The object of kind `k` with the given id. -/
def Kind.obj : Kind → String → Obj
  | .router, id => .router id
  | .webRtcServer, id => .webRtcServer id

/-- The map of kind `k`: `mapRouters` or `mapWebRtcServers`. -/
def Worker.map (w : Worker) : Kind → PtrMap
  | .router => w.mapRouters
  | .webRtcServer => w.mapWebRtcServers

/-- Replaces the map of kind `k`. -/
def Worker.setMap (w : Worker) : Kind → PtrMap → Worker
  | .router, m => { w with mapRouters := m }
  | .webRtcServer, m => { w with mapWebRtcServers := m }

/-- `auto* object = new T(id, ...); map[id] = object;` once the constructor has returned. -/
def Worker.insertNew (w : Worker) (k : Kind) (id : String) : Worker :=
  ({ w with heap := (w.heap.new (k.obj id)).2 } : Worker).setMap k
    ((w.map k).insert id (w.heap.new (k.obj id)).1)

/-- `map.erase(object->id); delete object;` -/
def Worker.eraseDelete (w : Worker) (k : Kind) (p : Ptr) : Worker :=
  ({ w with heap := w.heap.delete p } : Worker).setMap k ((w.map k).erase (w.heap.idOf p))

namespace Worker

@[simp] theorem map_withHeap (w : Worker) (h : Heap) (k : Kind) :
    ({ w with heap := h } : Worker).map k = w.map k := by
  cases k <;> rfl

@[simp] theorem map_router (w : Worker) : w.map .router = w.mapRouters := rfl
@[simp] theorem map_webRtcServer (w : Worker) : w.map .webRtcServer = w.mapWebRtcServers := rfl

@[simp] theorem setMap_map (w : Worker) (k : Kind) (m : PtrMap) : (w.setMap k m).map k = m := by
  cases k <;> rfl

theorem setMap_map_of_ne (w : Worker) {k k' : Kind} (m : PtrMap) (h : k' ≠ k) :
    (w.setMap k m).map k' = w.map k' :=
  match k, k', h with
  | .router, .webRtcServer, _ => rfl
  | .webRtcServer, .router, _ => rfl
  | .router, .router, h => absurd rfl h
  | .webRtcServer, .webRtcServer, h => absurd rfl h

@[simp] theorem setMap_heap (w : Worker) (k : Kind) (m : PtrMap) : (w.setMap k m).heap = w.heap := by
  cases k <;> rfl

@[simp] theorem setMap_closed (w : Worker) (k : Kind) (m : PtrMap) :
    (w.setMap k m).closed = w.closed := by
  cases k <;> rfl

@[simp] theorem setMap_signalsHandler (w : Worker) (k : Kind) (m : PtrMap) :
    (w.setMap k m).signalsHandler = w.signalsHandler := by
  cases k <;> rfl

@[simp] theorem setMap_log (w : Worker) (k : Kind) (m : PtrMap) : (w.setMap k m).log = w.log := by
  cases k <;> rfl

end Worker

/-! ## Reading ids from request data -/

/-- The shape shared by `SetNewRouterIdFromData` and `SetNewWebRtcServerIdFromData`: the string
under `field`, which must not be a key of `map`. -/
def setNewIdFromData (field missing duplicate : String) (map : PtrMap) (data : Json) :
    Except MediaSoupError String :=
  match data.findString field with
  | none => .error (.ofLiteral missing)
  | some id => if id ∈ map then .error (.ofLiteral duplicate) else .ok id

/-- `Worker::SetNewWebRtcServerIdFromData`. -/
def setNewWebRtcServerIdFromData (w : Worker) (data : Json) : Except MediaSoupError String :=
  setNewIdFromData "webRtcServerId" "missing webRtcServerId"
    "a WebRtcServer with same webRtcServerId already exists" w.mapWebRtcServers data

/-- `Worker::SetNewRouterIdFromData`. -/
def setNewRouterIdFromData (w : Worker) (data : Json) : Except MediaSoupError String :=
  setNewIdFromData "routerId" "missing routerId" "a Router with same routerId already exists"
    w.mapRouters data

/-- The shape shared by `GetRouterFromData` and `GetWebRtcServerFromData`: the pointer stored
under the string found at `field`. -/
def getFromData (field missing notFound : String) (map : PtrMap) (data : Json) :
    Except MediaSoupError Ptr :=
  match data.findString field with
  | none => .error (.ofLiteral missing)
  | some id =>
    match map.lookup id with
    | none => .error (.ofLiteral notFound)
    | some p => .ok p

/-- `Worker::GetWebRtcServerFromData`. -/
def getWebRtcServerFromData (w : Worker) (data : Json) : Except MediaSoupError Ptr :=
  getFromData "webRtcServerId" "missing handlerId.webRtcServerId" "WebRtcServer not found"
    w.mapWebRtcServers data

/-- `Worker::GetRouterFromData`. -/
def getRouterFromData (w : Worker) (data : Json) : Except MediaSoupError Ptr :=
  getFromData "routerId" "missing routerId" "Router not found" w.mapRouters data

/-- `Worker::CheckWebRtcServer`. -/
def checkWebRtcServer (w : Worker) (webRtcServerId : String) : Except MediaSoupError Unit :=
  if webRtcServerId ∈ w.mapWebRtcServers then
    .error (.ofLiteral "a WebRtcServer with same webRtcServerId already exists")
  else .ok ()

/-! ## Closing -/

/-- `Worker::Close`: at most once, delete the SignalsHandler, every Router and every
WebRtcServer, clear both maps, close the checker and both channels. -/
def close (w : Worker) : Worker :=
  if w.closed then w
  else
    { w with
      closed := true
      heap := ((w.heap.delete w.signalsHandler).deleteEach w.mapRouters.entries).deleteEach
        w.mapWebRtcServers.entries
      mapRouters := ∅
      mapWebRtcServers := ∅
      log := w.log ++ [.closeChecker, .closeChannel, .closePayloadChannel] }

/-- `Worker::~Worker`. -/
def destroy (w : Worker) : Worker := if !w.closed then close w else w

/-! ## Introspection -/

/-- `Worker::FillBuffer`: the ids of the WebRtcServers and of the Routers, in map order. -/
def fillBuffer (env : Env) (w : Worker) : Dump where
  pid := env.pid
  webRtcServerIds := w.mapWebRtcServers.keys
  routerIds := w.mapRouters.keys
  channelMessageHandlers := env.handlerIds

/-- `(tv_sec * static_cast<uint64_t>(1000)) + (tv_usec / 1000)`: `tv_sec` converted to
`uint64_t` and multiplied modulo `2^64`, `tv_usec / 1000` divided as a signed `long` (rounding
towards zero), and the sum taken modulo `2^64`. -/
def Timeval.toMs (tv : Timeval) : UInt64 := ⟨tv.tv_sec * 1000 + tv.tv_usec.sdiv 1000⟩

/-- `Worker::FillBufferResourceUsage`. -/
def fillBufferResourceUsage (env : Env) : Except MediaSoupError ResourceUsage :=
  match env.uvGetrusage with
  | .error err => .error (.error (throwBuffer
      (utf8 "uv_getrusagerequest() failed: " ++ beforeNul (utf8 (env.uvStrerror err)))))
  | .ok u => .ok { ru_utime := u.ru_utime.toMs, ru_stime := u.ru_stime.toMs, counters := u.counters }

/-! ## Requests -/

/-- The message `MS_THROW_ERROR("<kind> handler with ID %s not found", handlerId.c_str())`. -/
def handlerNotFound (kind handlerId : String) : Bytes :=
  throwBuffer
    (utf8 kind ++ utf8 " handler with ID " ++ beforeNul (utf8 handlerId) ++ utf8 " not found")

/-- The shape shared by the `default` cases of both request dispatches (and `TRANSPORT_CONSUME`)
and by the PayloadChannel request handler: call the registered handler inside the two `catch`
clauses; no handler is an error thrown inside them, with the message `notFound`. -/
def delegateTo {α : Type} (w : Worker)
    (handler : Option (α → Option (Except MediaSoupError Unit))) (notFound : Bytes)
    (method : String) (request : α) : Option Handled :=
  match handler with
  | none => some (.throw w (.error notFound) ((MediaSoupError.error notFound).rethrow method))
  | some handle =>
    match handle request with
    | none => none
    | some (.ok ()) => some (.byHandler w)
    | some (.error e) => some (.throw w e (e.rethrow method))

/-- A control-channel request delivered to the handler registered under its handler id, whatever
that handler is. The comment above the `default` case says "Any other request must be delivered to
the corresponding Router", but `GetChannelRequestHandler` finds whatever registered the id: a
transport, a Producer or a Consumer as well as a Router. -/
def delegate (env : Env) (w : Worker) (request : ChannelRequest) : Option Handled :=
  delegateTo w (env.channelRequestHandler request.handlerId)
    (handlerNotFound "Channel request" request.handlerId) request.method request

/-- The legacy half of `Worker::HandleRequest(Channel::ChannelRequest*)`. -/
def handleLegacyRequest (env : Env) (w : Worker) (request : ChannelRequest) (methodId : MethodId)
    (data : Json) : Option Handled :=
  match methodId with
  | .WORKER_WEBRTC_SERVER_CLOSE =>
    match getWebRtcServerFromData w data with
    | .error e => some (.throw w e (e.rethrowAsError request.method))
    | .ok webRtcServer => some (.accept (w.eraseDelete .webRtcServer webRtcServer) none)
  | .WORKER_CREATE_ROUTER =>
    match setNewRouterIdFromData w data with
    | .error e => some (.throw w e (e.rethrowAsError request.method))
    | .ok routerId =>
      match env.newRouter routerId with
      | .error e => some (.throw w e e)
      | .ok () => some (.accept (w.insertNew .router routerId) none)
  | .WORKER_CLOSE_ROUTER =>
    match getRouterFromData w data with
    | .error e => some (.throw w e (e.rethrowAsError request.method))
    | .ok router => some (.accept (w.eraseDelete .router router) none)
  | .other _ => delegate env w request

/-- The `WORKER_CREATE_WEBRTC_SERVER` case, once `body` is not null: `body->webRtcServerId()->str()`
dereferences the id, null for a table written without it. Everything from the id check to
`Accept` is inside the two `catch` clauses. -/
def createWebRtcServer (env : Env) (w : Worker) (request : ChannelRequest)
    (body : CreateWebRtcServerRequest) : Option Handled :=
  match body.webRtcServerId with
  | none => none
  | some webRtcServerId =>
    match checkWebRtcServer w webRtcServerId with
    | .error e => some (.throw w e (e.rethrow request.method))
    | .ok () =>
      match env.newWebRtcServer webRtcServerId body.listenInfos with
      | .error e => some (.throw w e (e.rethrow request.method))
      | .ok () => some (.accept (w.insertNew .webRtcServer webRtcServerId) none)

/-- The binary half of `Worker::HandleRequest(Channel::ChannelRequest*)`. Logging the request
looks its method up with `method2String.at`, which throws for a method without a name. -/
def handleBinaryRequest (env : Env) (w : Worker) (request : ChannelRequest) (method : Method)
    (body : Body) : Option Handled :=
  match method2String env.methodNames method with
  | none => some ⟨w, [], some .outOfRange, some .outOfRange⟩
  | some _ =>
    match method with
    | .WORKER_CLOSE => some (.silent (if w.closed then w else close w))
    | .WORKER_DUMP => some (.accept w (some (.workerDump (fillBuffer env w))))
    | .WORKER_GET_RESOURCE_USAGE =>
      match fillBufferResourceUsage env with
      | .error e => some (.throw w e e)
      | .ok usage => some (.accept w (some (.workerResourceUsage usage)))
    | .WORKER_UPDATE_SETTINGS =>
      match env.settingsHandleRequest request with
      | .error e => some (.throw w e e)
      | .ok () => some (.byHandler w)
    | .WORKER_CREATE_WEBRTC_SERVER =>
      body.asCreateWebRtcServerRequest.bind (createWebRtcServer env w request)
    | .TRANSPORT_CONSUME => delegate env w request
    | .other _ => delegate env w request

/-- `Worker::HandleRequest(Channel::ChannelRequest*)`: a request without binary data takes the
legacy switch. -/
def handleRequest (env : Env) (w : Worker) (request : ChannelRequest) : Option Handled :=
  match request.data with
  | .legacy methodId data => handleLegacyRequest env w request methodId data
  | .binary method body => handleBinaryRequest env w request method body

/-- `Worker::HandleRequest(PayloadChannel::PayloadChannelRequest*)`. -/
def handlePayloadChannelRequest (env : Env) (w : Worker) (request : PayloadChannelRequest) :
    Option Handled :=
  delegateTo w (env.payloadChannelRequestHandler request.handlerId)
    (handlerNotFound "PayloadChannel request" request.handlerId) request.method request

/-- The clauses around the notification handler's call. Unlike the request handlers' clauses,
the type-error clause prints `"%s [event:%s]"`, and the error clause `"%s [method:%s]"`, both
with the event. -/
def rethrowNotification (event : String) : MediaSoupError → MediaSoupError
  | .typeError w =>
    .typeError (throwBuffer (beforeNul w ++ utf8 " [event:" ++ beforeNul (utf8 event) ++ utf8 "]"))
  | .error w => .error (MediaSoupError.withMethod w event)

/-- `Worker::HandleNotification(PayloadChannel::PayloadChannelNotification*)`. A notification
has no answer; an exception still escapes. -/
def handleNotification (env : Env) (w : Worker) (notification : PayloadChannelNotification) :
    Option Handled :=
  let notFound := handlerNotFound "PayloadChannel notification" notification.handlerId
  match env.payloadChannelNotificationHandler notification.handlerId with
  | none =>
    some (.throw w (.error notFound) (rethrowNotification notification.event (.error notFound)))
  | some handle =>
    match handle notification with
    | none => none
    | some (.ok ()) => some (.silent w)
    | some (.error e) => some (.throw w e (rethrowNotification notification.event e))

/-! ## Callbacks -/

/-- `SIGINT`, with its POSIX value. -/
def SIGINT : Int := 2

/-- `SIGTERM`, with its POSIX value. -/
def SIGTERM : Int := 15

/-- `Worker::OnSignal`. -/
def onSignal (w : Worker) (signum : Int) : Worker :=
  if w.closed then w
  else if signum = SIGINT then (if w.closed then w else close w)
  else if signum = SIGTERM then (if w.closed then w else close w)
  else w

/-- `Worker::OnChannelClosed`. -/
def onChannelClosed (w : Worker) : Worker := close w

/-- `Worker::OnPayloadChannelClosed`. -/
def onPayloadChannelClosed (w : Worker) : Worker := close w

/-- `Worker::OnRouterNeedWebRtcServer`: the WebRtcServer stored under the id, or `nullptr`. -/
def onRouterNeedWebRtcServer (w : Worker) (webRtcServerId : String) : Option Ptr :=
  w.mapWebRtcServers.lookup webRtcServerId

/-! ## Runs -/

/-- What the libuv loop can deliver to the Worker. -/
inductive Event where
  | request (env : Env) (request : ChannelRequest)
  | payloadChannelRequest (env : Env) (request : PayloadChannelRequest)
  | payloadChannelNotification (env : Env) (notification : PayloadChannelNotification)
  | signal (signum : Int)
  | channelClosed
  | payloadChannelClosed

/-- The Worker after one event; `none` when the process crashes. -/
def step (w : Worker) : Event → Option Worker
  | .request env request => (handleRequest env w request).map (·.worker)
  | .payloadChannelRequest env request => (handlePayloadChannelRequest env w request).map (·.worker)
  | .payloadChannelNotification env n => (handleNotification env w n).map (·.worker)
  | .signal signum => some (onSignal w signum)
  | .channelClosed => some (onChannelClosed w)
  | .payloadChannelClosed => some (onPayloadChannelClosed w)

/-- The Worker after a sequence of events, unless one of them crashes the process. -/
def run : Worker → List Event → Option Worker
  | w, [] => some w
  | w, ev :: evs => (step w ev).bind (run · evs)

end Mediasoup

namespace Mediasoup

/-- An environment to run the model on concrete requests: every constructor succeeds, no handler
is registered, and `uv_getrusage` fails. -/
def Env.sample : Env where
  pid := 1
  methodNames _ := none
  channelRequestHandler _ := none
  payloadChannelRequestHandler _ := none
  payloadChannelNotificationHandler _ := none
  handlerIds := []
  newRouter _ := .ok ()
  newWebRtcServer _ _ := .ok ()
  settingsHandleRequest _ := .ok ()
  uvGetrusage := .error 1
  uvStrerror _ := "EPERM"

end Mediasoup
