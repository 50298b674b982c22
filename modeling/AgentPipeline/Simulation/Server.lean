import AgentPipeline.Http.Dialect
import AgentPipeline.Http.Message
import AgentPipeline.Simulation.Backend

/-!
# A scripted web server

A backend that speaks each vendor's dialect to a web server that replies by a script.

## Main definitions

* `ScriptedServer` — the replies to come and the requests received.
* `ScriptedServer.ask` — one request of a client.
* `ScriptedServer.backend` — the backend of clients with the given keys.
-/

namespace AgentPipeline

/-- A web server that replies by a script. -/
structure ScriptedServer where
  /-- The replies to come; the last one is given again and again. -/
  replies : List Http.Reply
  received : List Http.Request := []
  /-- What came of the latest request; none if it could not be sent. -/
  latest : Except SendFault (Http.Url × Http.Reply) := .error .notBuilt

namespace ScriptedServer

/-- The reply to the next request, and those to come. -/
def nextReply : List Http.Reply → Http.Reply × List Http.Reply
  | [] => (.dropped, [])
  | [r] => (r, [r])
  | r :: replies => (r, replies)

/-- A client asks for a completion; false if no reply ever comes. -/
def ask (s : ScriptedServer) (c : Credential) (r : ModelRequest) : ScriptedServer × Bool :=
  match c.request r with
  | .error fault => ({ s with latest := .error fault }, true)
  | .ok request =>
    let (reply, replies) := nextReply s.replies
    ({ replies, received := s.received ++ [request], latest := .ok (request.url, reply) },
      reply != .silence)

/-- What the latest request of a client amounts to. -/
def answerTo (s : ScriptedServer) (c : Credential) (r : ModelRequest) : Except Failure Response :=
  let d := c.vendor.dialect
  match s.latest with
  | .error fault => .error (d.sendFailure fault)
  | .ok (url, .response status body) =>
    match Http.receive? status body with
    | some (status, body) => d.interpret r.model status body
    | none => .error (d.sendFailure (.dropped url.text))
  | .ok (url, .dropped) | .ok (url, .silence) => .error (d.sendFailure (.dropped url.text))

/-- The backend of clients with the given keys.  The server replies at once or never. -/
def backend (credentials : Credentials) : Backend ScriptedServer where
  call s _ call :=
    match credentials.entries[call.client]? with
    | none => (s, some 0)
    | some c =>
      let (s, replied) := s.ask c call.request
      (s, if replied then some 0 else none)
  answer s call :=
    match credentials.entries[call.client]? with
    | none => (s, .error (.of .internal "no such client"))
    | some c => (s, s.answerTo c call.request)

end ScriptedServer

end AgentPipeline
