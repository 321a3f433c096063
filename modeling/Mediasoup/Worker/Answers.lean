import Mediasoup.Worker.Spec

set_option autoImplicit false

/-! # Every request is answered once

A request is answered through the request object (`Accept`, by the Worker or by the delegated
handler) or, when a `MediaSoupError` escapes the handler, by the rejection the channel makes of
it. The request is answered once when exactly one of the two happens.

This holds for every request of either channel that names a method of `method2String` and, for
`WORKER_CREATE_WEBRTC_SERVER`, carries its table with its id, as long as the registered request
handlers answer or throw rather than crash, except `WORKER_CLOSE`: the Worker returns from it
without answering, whether it was open or already closed. The escaping exception has the kind
of the exception the failing step raised: the legacy cases rethrow every `MediaSoupError` as an
error, and the Worker's own checks there raise errors only. A request dispatched by handler id
whose handler is not registered is rejected and leaves the Worker unchanged, with the message
`MS_THROW_ERROR` prints, the handler id cut at its first NUL; the `WORKER_*` methods are not
dispatched by handler id, whatever the handler id is.
-/

namespace Mediasoup

namespace Handled

/-- Answered once: one answer and no exception, or no answer and one `MediaSoupError` escaping. -/
def AnsweredOnce (h : Handled) : Prop :=
  (h.answers.length = 1 ∧ h.thrown = none) ∨ (h.answers = [] ∧ ∃ e, h.thrown = some (.mediaSoup e))

/-- The escaping exception has the kind of the exception the failing step raised. -/
def KeepsKind (h : Handled) : Prop :=
  ∀ e, h.thrown = some (.mediaSoup e) →
    ∃ c, h.cause = some (.mediaSoup c) ∧ e.isTypeError = c.isTypeError

/-- Both. -/
def Sound (h : Handled) : Prop := h.AnsweredOnce ∧ h.KeepsKind

variable (w : Worker)

theorem accept_sound (b : Option ResponseBody) : (accept w b).Sound :=
  ⟨.inl ⟨rfl, rfl⟩, fun _ h => by cases h⟩

theorem byHandler_sound : (byHandler w).Sound := ⟨.inl ⟨rfl, rfl⟩, fun _ h => by cases h⟩

theorem throw_sound {c e : MediaSoupError} (h : e.isTypeError = c.isTypeError) :
    (throw w c e).Sound :=
  ⟨.inr ⟨rfl, e, rfl⟩, fun _ he => by cases he; exact ⟨c, rfl, h⟩⟩

end Handled

/-- The requests the Worker dispatches by handler id: every legacy method but the three the
Worker handles, and the binary `TRANSPORT_CONSUME` and non-`WORKER_*` methods. -/
def DispatchedByHandlerId : RequestData → Prop
  | .legacy (.other _) _ => True
  | .binary .TRANSPORT_CONSUME _ => True
  | .binary (.other _) _ => True
  | _ => False

/-- A request the Worker can read: a binary method has a name in `method2String`, and a
`WORKER_CREATE_WEBRTC_SERVER` body is a `CreateWebRtcServerRequest` that holds its id. -/
def Readable (env : Env) : RequestData → Prop
  | .legacy _ _ => True
  | .binary .WORKER_CREATE_WEBRTC_SERVER body =>
    (body.asCreateWebRtcServerRequest.bind (·.webRtcServerId)).isSome
  | .binary method _ => (method2String env.methodNames method).isSome

/-- Whether the request is a binary `WORKER_CLOSE`. -/
def IsWorkerClose : RequestData → Prop
  | .binary .WORKER_CLOSE _ => True
  | _ => False

/-- Every handler registered for requests, on either channel, answers or throws: none crashes
the process. -/
def Env.RequestHandlersReturn (env : Env) : Prop :=
  (∀ id handle, env.channelRequestHandler id = some handle → ∀ r, (handle r).isSome) ∧
    ∀ id handle, env.payloadChannelRequestHandler id = some handle → ∀ r, (handle r).isSome

/-- The rejection of a request whose handler id has no registered handler: the error
`MS_THROW_ERROR` raised with the message `what`, rethrown with the method. -/
def RejectedNotFound (w : Worker) (h : Handled) (what : Bytes) (method : String) : Prop :=
  h.worker = w ∧ h.answers = [] ∧
    h.thrown = some (.mediaSoup (.error (MediaSoupError.withMethod what method)))

/-! ## Delegation -/

theorem delegateTo_sound {α : Type} (w : Worker)
    {handler : Option (α → Option (Except MediaSoupError Unit))} (notFound : Bytes)
    (method : String) (request : α)
    (hret : ∀ handle, handler = some handle → (handle request).isSome) :
    ∃ h, delegateTo w handler notFound method request = some h ∧ h.Sound ∧
      (handler = none → RejectedNotFound w h notFound method) := by
  unfold delegateTo
  split
  · exact ⟨_, rfl, Handled.throw_sound w rfl, fun _ => ⟨rfl, rfl, rfl⟩⟩
  · rename_i handle
    have hs := hret handle rfl
    split
    · simp_all
    · exact ⟨_, rfl, Handled.byHandler_sound w, nofun⟩
    · exact ⟨_, rfl, Handled.throw_sound w (MediaSoupError.isTypeError_rethrow _ _), nofun⟩

/-! ## The Worker's own cases -/

section Cases

variable {env : Env} {w : Worker} {request : ChannelRequest}

theorem handleLegacyRequest_sound (methodId : MethodId) (data : Json)
    (hret : ∀ handle, env.channelRequestHandler request.handlerId = some handle →
      (handle request).isSome) :
    ∃ h, handleLegacyRequest env w request methodId data = some h ∧ h.Sound := by
  unfold handleLegacyRequest
  split
  · split
    · obtain h | h := getFromData_eq_error ‹_› <;>
        exact ⟨_, rfl, Handled.throw_sound w (by simp [h, MediaSoupError.ofLiteral])⟩
    · exact ⟨_, rfl, Handled.accept_sound _ _⟩
  · split
    · obtain h | h := setNewIdFromData_eq_error ‹_› <;>
        exact ⟨_, rfl, Handled.throw_sound w (by simp [h, MediaSoupError.ofLiteral])⟩
    · split
      · exact ⟨_, rfl, Handled.throw_sound w rfl⟩
      · exact ⟨_, rfl, Handled.accept_sound _ _⟩
  · split
    · obtain h | h := getFromData_eq_error ‹_› <;>
        exact ⟨_, rfl, Handled.throw_sound w (by simp [h, MediaSoupError.ofLiteral])⟩
    · exact ⟨_, rfl, Handled.accept_sound _ _⟩
  · obtain ⟨h, hh, hs, -⟩ := delegateTo_sound w _ request.method request hret
    exact ⟨h, hh, hs⟩

theorem createWebRtcServer_sound {body : CreateWebRtcServerRequest}
    (hid : body.webRtcServerId.isSome) :
    ∃ h, createWebRtcServer env w request body = some h ∧ h.Sound := by
  unfold createWebRtcServer
  split
  · simp_all
  · split
    · exact ⟨_, rfl, Handled.throw_sound w (MediaSoupError.isTypeError_rethrow _ _)⟩
    · split
      · exact ⟨_, rfl, Handled.throw_sound w (MediaSoupError.isTypeError_rethrow _ _)⟩
      · exact ⟨_, rfl, Handled.accept_sound _ _⟩

theorem handleBinaryRequest_sound {method : Method} {body : Body}
    (hread : Readable env (.binary method body)) (hclose : method ≠ .WORKER_CLOSE)
    (hret : ∀ handle, env.channelRequestHandler request.handlerId = some handle →
      (handle request).isSome) :
    ∃ h, handleBinaryRequest env w request method body = some h ∧ h.Sound := by
  have hdel : ∃ h, delegate env w request = some h ∧ h.Sound := by
    obtain ⟨h, hh, hs, -⟩ := delegateTo_sound w _ request.method request hret
    exact ⟨h, hh, hs⟩
  cases method with
  | WORKER_CLOSE => exact absurd rfl hclose
  | WORKER_DUMP => exact ⟨_, rfl, Handled.accept_sound _ _⟩
  | WORKER_GET_RESOURCE_USAGE =>
    simp only [handleBinaryRequest, method2String]
    split
    · exact ⟨_, rfl, Handled.throw_sound w rfl⟩
    · exact ⟨_, rfl, Handled.accept_sound _ _⟩
  | WORKER_UPDATE_SETTINGS =>
    simp only [handleBinaryRequest, method2String]
    split
    · exact ⟨_, rfl, Handled.throw_sound w rfl⟩
    · exact ⟨_, rfl, Handled.byHandler_sound w⟩
  | WORKER_CREATE_WEBRTC_SERVER =>
    obtain ⟨id, hb⟩ := Option.isSome_iff_exists.1 hread
    obtain ⟨b, hb, hid⟩ := Option.bind_eq_some.1 hb
    obtain ⟨h, hh, hs⟩ := @createWebRtcServer_sound env w request b
      (Option.isSome_iff_exists.2 ⟨id, hid⟩)
    exact ⟨h, by simp only [handleBinaryRequest, method2String, hb, Option.some_bind, hh], hs⟩
  | TRANSPORT_CONSUME => exact hdel
  | other code =>
    obtain ⟨name, hn⟩ := Option.isSome_iff_exists.1 hread
    simp only [handleBinaryRequest, method2String] at hn ⊢
    rw [hn]
    exact hdel

/-- A request the Worker dispatches by handler id goes to the handler, whatever its method. -/
theorem handleBinaryRequest_of_dispatched {method : Method} {body : Body}
    (hread : Readable env (.binary method body)) (hd : DispatchedByHandlerId (.binary method body)) :
    handleBinaryRequest env w request method body = delegate env w request := by
  cases method <;> simp only [DispatchedByHandlerId] at hd
  · rfl
  · obtain ⟨name, hn⟩ := Option.isSome_iff_exists.1 hread
    simp only [handleBinaryRequest, hn]

end Cases

/-- **Every request is answered once**, amended. For every Worker and every environment whose
registered request handlers answer or throw, every request the Worker can read is handled
without crashing; a binary `WORKER_CLOSE` gets no answer at all; every other request is answered
exactly once, with the escaping exception of the failing step's kind; and a request dispatched by
handler id whose handler is not registered is rejected with the Worker unchanged, with the
message `MS_THROW_ERROR` prints from its handler id. The same holds for every PayloadChannel
request. -/
theorem requests_answered_once (env : Env) (w : Worker) (hret : env.RequestHandlersReturn) :
    (∀ request : ChannelRequest, Readable env request.data →
      ∃ h, handleRequest env w request = some h ∧ h.KeepsKind ∧
        (IsWorkerClose request.data → h.answers = [] ∧ h.thrown = none) ∧
        (¬ IsWorkerClose request.data → h.AnsweredOnce) ∧
        (DispatchedByHandlerId request.data → env.channelRequestHandler request.handlerId = none →
          RejectedNotFound w h (handlerNotFound "Channel request" request.handlerId)
            request.method)) ∧
    ∀ request : PayloadChannelRequest,
      ∃ h, handlePayloadChannelRequest env w request = some h ∧ h.Sound ∧
        (env.payloadChannelRequestHandler request.handlerId = none →
          RejectedNotFound w h (handlerNotFound "PayloadChannel request" request.handlerId)
            request.method) := by
  refine ⟨fun request hread => ?_, fun request =>
    delegateTo_sound w _ request.method request fun handle hh => hret.2 _ handle hh request⟩
  have hreq := fun handle hh => hret.1 request.handlerId handle hh request
  unfold handleRequest
  rcases hdata : request.data with ⟨methodId, data⟩ | ⟨method, body⟩ <;> rw [hdata] at hread
  · obtain ⟨h, hh, hs⟩ := handleLegacyRequest_sound (w := w) methodId data hreq
    refine ⟨h, hh, hs.2, nofun, fun _ => hs.1, fun hd hnone => ?_⟩
    cases methodId <;> simp only [DispatchedByHandlerId] at hd
    obtain ⟨h', hh', -, hr⟩ := delegateTo_sound w _ request.method request hreq
    rw [show handleLegacyRequest env w request (.other _) data = delegate env w request from rfl,
      delegate, hh', Option.some.injEq] at hh
    exact hh ▸ hr hnone
  · by_cases hclose : method = .WORKER_CLOSE
    · subst hclose
      exact ⟨_, rfl, (fun _ h => by cases h), fun _ => ⟨rfl, rfl⟩, fun h => absurd trivial h, nofun⟩
    obtain ⟨h, hh, hs⟩ := handleBinaryRequest_sound (w := w) hread hclose hreq
    refine ⟨h, hh, hs.2, fun hc => ?_, fun _ => hs.1, fun hd hnone => ?_⟩
    · cases method <;> simp_all [IsWorkerClose]
    · obtain ⟨h', hh', -, hr⟩ := delegateTo_sound w _ request.method request hreq
      rw [handleBinaryRequest_of_dispatched hread hd, delegate, hh', Option.some.injEq] at hh
      exact hh ▸ hr hnone

/-- A `TRANSPORT_CONSUME` request to the handler id `"T\0X"`, which no handler is registered
under, is rejected once, and its message names the id only up to the NUL. -/
theorem requests_answered_once_not_found :
    ∃ h, handleRequest Env.sample Worker.init
        ⟨0, "transport.consume", "T\x00X", .binary .TRANSPORT_CONSUME .absent⟩ = some h ∧
      h.AnsweredOnce ∧
      RejectedNotFound Worker.init h (handlerNotFound "Channel request" "T\x00X")
        "transport.consume" ∧
      MediaSoupError.withMethod (handlerNotFound "Channel request" "T\x00X") "transport.consume" =
        utf8 "Channel request handler with ID T not found [method:transport.consume]" := by
  obtain ⟨h, hh, -, -, hs, hr⟩ := (requests_answered_once Env.sample Worker.init
    ⟨fun _ _ h => (nomatch h), fun _ _ h => (nomatch h)⟩).1
    ⟨0, "transport.consume", "T\x00X", .binary .TRANSPORT_CONSUME .absent⟩ rfl
  exact ⟨h, hh, hs nofun, hr trivial rfl, by decide⟩

/-- A `WORKER_CLOSE` request gets no answer, on an open and on a closed Worker; and a
`WORKER_DUMP` request whose handler id has no registered handler is accepted. -/
theorem worker_close_unanswered :
    (handleRequest Env.sample Worker.init ⟨0, "worker.close", "", .binary .WORKER_CLOSE .absent⟩).map
        (fun h => (h.answers, h.thrown)) = some ([], none) ∧
    (handleRequest Env.sample (close Worker.init)
        ⟨0, "worker.close", "", .binary .WORKER_CLOSE .absent⟩).map
        (fun h => (h.answers, h.thrown)) = some ([], none) ∧
    (handleRequest Env.sample Worker.init ⟨1, "worker.dump", "R-unknown", .binary .WORKER_DUMP .absent⟩).map
        (fun h => (h.answers, h.thrown)) =
      some ([.accept (some (.workerDump ⟨1, [], [], []⟩))], none) := by
  decide

end Mediasoup
