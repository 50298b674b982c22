import AgentPipeline.Simulation.Server

/-!
# What replies amount to

A client looks at the status of a reply first, but only for the few that it has a failure for.  For
all others the body alone decides: what looks like a completion is taken for one, even if the status
says that there was an error.  The clients differ in the statuses that they refuse: only Google's
refuses 403.

## Main definitions

* `Http.IsSuccess` — a status that announces success.
* `Http.Reply.Arrives` — the status and the body with which a reply arrives.
* `Vendor.refused` — the statuses that a vendor's client has a failure for.
* `Dialect.IsCompletion` — a document that is taken for a completion.

## Main results

* `Dialect.interpret_eq_ok_iff` — **what is taken for an answer.**
* `ScriptedServer.answerTo_ask` — a client that is replied to interprets what arrives.
* `ScriptedServer.fails_iff` — **when a reply with the status of an error is a failure.**
* `completed_despite_status` — replies with such a status that are taken for completions.
-/

namespace AgentPipeline

/-! ### Documents and statuses -/

theorem Json.asString?_eq_some_iff {v : Json} {text : String} :
    v.asString? = some text ↔ v = .str text := by
  cases v <;> simp [asString?]

/-- A document is taken for a completion: it has no error, and a text where content is looked for. -/
def Dialect.IsCompletion (d : Dialect) (v : Json) : Prop :=
  v.field? "error" = none ∧ ∃ text, d.content v = some (.str text)

namespace Dialect

variable {d : Dialect} {model : String} {a : Response}

/-- What the answer of a document is, if it is taken for a completion. -/
theorem interpretBody_eq_ok_iff {v : Json} :
    d.interpretBody model v = .ok a ↔
      v.field? "error" = none ∧ d.content v = some (.str a.content) ∧
        a = ⟨a.content, d.tokens d.usage.2.1 v, d.tokens d.usage.2.2 v, model⟩ := by
  unfold interpretBody
  cases v.field? "error" with
  | some error => simp
  | none =>
    cases hcontent : (d.content v).bind Json.asString? with
    | none =>
      simp only [reduceCtorEq, true_and, false_iff, not_and]
      intro h
      simp [h, Json.asString?] at hcontent
    | some text =>
      obtain ⟨w, hw, htext⟩ := Option.bind_eq_some_iff.mp hcontent
      rw [Json.asString?_eq_some_iff] at htext
      subst htext
      simp only [Except.ok.injEq, hw, Option.some.injEq, Json.str.injEq, true_and]
      constructor
      · rintro rfl
        exact ⟨rfl, rfl⟩
      · rintro ⟨rfl, ha⟩
        exact ha.symm

/-- **What is taken for an answer**: the status has no failure, and the body is a completion. -/
theorem interpret_eq_ok_iff {status : Nat} {body : String} :
    d.interpret model status body = .ok a ↔ d.statusFailure status = none ∧
      ∃ v, Json.read? (receivedBody status body) = some v ∧ d.interpretBody model v = .ok a := by
  unfold interpret
  cases d.statusFailure status with
  | some f => simp
  | none => cases Json.read? (receivedBody status body) <;> simp

/-- A document has an answer in it just if it is taken for a completion. -/
theorem exists_interpretBody_iff {v : Json} :
    (∃ a, d.interpretBody model v = .ok a) ↔ d.IsCompletion v := by
  constructor
  · rintro ⟨a, ha⟩
    obtain ⟨herror, hcontent, -⟩ := interpretBody_eq_ok_iff.mp ha
    exact ⟨herror, a.content, hcontent⟩
  · rintro ⟨herror, text, hcontent⟩
    exact ⟨⟨text, _, _, model⟩, interpretBody_eq_ok_iff.mpr ⟨herror, hcontent, rfl⟩⟩

/-- No body comes with 304, so that there is nothing to read. -/
theorem read?_receivedBody_eq_some_iff {status : Nat} (hstatus : status ≠ 204) {body : String}
    {v : Json} : Json.read? (receivedBody status body) = some v ↔
      status ≠ 304 ∧ Json.read? body = some v := by
  by_cases hnone : status = 304
  · subst hnone
    have hempty : Json.read? (receivedBody 304 body) = none := rfl
    simp [hempty]
  · have hbody : receivedBody status body = body := by simp [receivedBody, hstatus, hnone]
    simp [hbody, hnone]

/-- A reply with the status of an error has an answer in it just if the client has no failure for
the status and the body comes with it and is taken for a completion. -/
theorem exists_interpret_iff {status : Nat} (hstatus : status ≠ 204) {body : String} :
    (∃ a, d.interpret model status body = .ok a) ↔ d.statusFailure status = none ∧ status ≠ 304 ∧
      ∃ v, Json.read? body = some v ∧ d.IsCompletion v := by
  simp only [interpret_eq_ok_iff, read?_receivedBody_eq_some_iff hstatus]
  constructor
  · rintro ⟨a, hnone, v, ⟨hne, hread⟩, ha⟩
    exact ⟨hnone, hne, v, hread, exists_interpretBody_iff.mp ⟨a, ha⟩⟩
  · rintro ⟨hnone, hne, v, hread, hcompletion⟩
    obtain ⟨a, ha⟩ := exists_interpretBody_iff.mpr hcompletion
    exact ⟨a, hnone, v, ⟨hne, hread⟩, ha⟩

end Dialect

/-- The statuses that a vendor's client has a failure for, whatever the body says. -/
def Vendor.refused : Vendor → List Nat
  | anthropic => [429, 401]
  | openai => [429, 401]
  | google => [429, 401, 403]

theorem Vendor.statusFailure_eq_none_iff {v : Vendor} {status : Nat} :
    v.dialect.statusFailure status = none ↔ status ∉ v.refused := by
  cases v with
  | anthropic => simp only [dialect, Dialect.anthropic, refused]; split <;> simp_all
  | openai => simp only [dialect, Dialect.openai, refused]; split <;> simp_all
  | google => simp only [dialect, Dialect.google, refused]; split <;> simp_all

namespace Http

/-- A status announces success. -/
def IsSuccess (status : Nat) : Prop :=
  200 ≤ status ∧ status ≤ 299

/-- A reply arrives with a status and a body, those of the answer proper. -/
def Reply.Arrives (reply : Reply) (status : Nat) (body : String) : Prop :=
  ∃ sent text, reply = .response sent text ∧ receive? sent text = some (status, body)

end Http

/-! ### Clients -/

namespace ScriptedServer

variable {s : ScriptedServer} {c : Credential} {r : ModelRequest}

theorem exists_error_iff {ε α : Type} {x : Except ε α} :
    (∃ f, x = .error f) ↔ ¬ ∃ a, x = .ok a := by
  cases x <;> simp

/-- A request that cannot be sent fails. -/
theorem answerTo_ask_of_error {fault : SendFault} (h : c.request r = .error fault) :
    (s.ask c r).1.answerTo c r = .error (c.vendor.dialect.sendFailure fault) := by
  simp [ask, answerTo, h]

/-- A client that is replied to interprets what arrives. -/
theorem answerTo_ask {request : Http.Request} {status : Nat} {body : String}
    (h : c.request r = .ok request) (harrives : (nextReply s.replies).1.Arrives status body) :
    (s.ask c r).1.answerTo c r = c.vendor.dialect.interpret r.model status body := by
  obtain ⟨sent, text, hreply, hreceive⟩ := harrives
  simp [ask, answerTo, h, hreply, hreceive]

/-- A reply with the status of an error is a failure just if its status is one that the client has a
failure for, or no body comes with it, or its body is not taken for a completion. -/
theorem fails_iff {status : Nat} {body : String} (s : ScriptedServer) (c : Credential)
    (r : ModelRequest) (harrives : (nextReply s.replies).1.Arrives status body)
    (hstatus : ¬ Http.IsSuccess status) :
    (∃ f, (s.ask c r).1.answerTo c r = .error f) ↔
      (∃ fault, c.request r = .error fault) ∨ status ∈ c.vendor.refused ∨ status = 304 ∨
        ∀ v, Json.read? body = some v → ¬ c.vendor.dialect.IsCompletion v := by
  cases hrequest : c.request r with
  | error fault => simp [answerTo_ask_of_error hrequest]
  | ok request =>
    have hne : status ≠ 204 := by
      rintro rfl
      exact hstatus ⟨by decide, by decide⟩
    rw [answerTo_ask hrequest harrives, exists_error_iff, Dialect.exists_interpret_iff hne,
      Vendor.statusFailure_eq_none_iff]
    constructor
    · intro h
      by_cases hrefused : status ∈ c.vendor.refused
      · exact Or.inr (Or.inl hrefused)
      · by_cases hnone : status = 304
        · exact Or.inr (Or.inr (Or.inl hnone))
        · exact Or.inr (Or.inr (Or.inr fun v hread hv => h ⟨hrefused, hnone, v, hread, hv⟩))
    · rintro (⟨fault, hfault⟩ | hrefused | hnone | hbody) ⟨hnot, hne, v, hread, hv⟩
      · exact nomatch hfault
      · exact hnot hrefused
      · exact hne hnone
      · exact hbody v hread hv

/-- A client of a server on the same machine. -/
def localClient (vendor : Vendor) : Credential :=
  ⟨vendor, "key", some "http://[::1]"⟩

/-- A server that always replies the same. -/
def replying (status : Nat) (body : String) : ScriptedServer where
  replies := [.response status body]

/-- A request for an answer to a greeting. -/
def greeting : ModelRequest :=
  ⟨"gpt-4o", [Message.user "hi"], 100, 0.5⟩

/-- A reply that says that the server is overloaded is a failure. -/
theorem fails_iff_overloaded :
    (nextReply (replying 503 "overloaded").replies).1.Arrives 503 "overloaded" ∧
      ¬ Http.IsSuccess 503 ∧
      ∃ f, ((replying 503 "overloaded").ask (localClient .openai) greeting).1.answerTo
        (localClient .openai) greeting = .error f := by
  have harrives : (nextReply (replying 503 "overloaded").replies).1.Arrives 503 "overloaded" :=
    ⟨503, "overloaded", rfl, rfl⟩
  have hstatus : ¬ Http.IsSuccess 503 := fun h => absurd h.2 (by decide)
  refine ⟨harrives, hstatus, (fails_iff _ _ _ harrives hstatus).mpr (Or.inr (Or.inr (Or.inr ?_)))⟩
  exact fun v hread => nomatch hread

end ScriptedServer

/-- The body of a reply with a short completion. -/
def Vendor.shortBody : Vendor → String
  | .anthropic => "\x7b\"content\":[\x7b\"text\":\"fine\"\x7d]\x7d"
  | .openai => "\x7b\"choices\":[\x7b\"message\":\x7b\"content\":\"fine\"\x7d\x7d]\x7d"
  | .google =>
    "\x7b\"candidates\":[\x7b\"content\":\x7b\"parts\":[\x7b\"text\":\"fine\"\x7d]\x7d\x7d]\x7d"

open ScriptedServer in
/-- What a client makes of a reply with a short completion. -/
def Vendor.answerToShortBody (vendor : Vendor) (status : Nat) : Except Failure Response :=
  ((replying status vendor.shortBody).ask (localClient vendor) greeting).1.answerTo
    (localClient vendor) greeting

/-- A reply that says that the server has failed is taken for a completion by all clients, and one
that says that access is denied by all but Google's. -/
theorem completed_despite_status :
    ¬ Http.IsSuccess 403 ∧ ¬ Http.IsSuccess 500 ∧
      Vendor.answerToShortBody .anthropic 403 = .ok ⟨"fine", 0, 0, "gpt-4o"⟩ ∧
      Vendor.answerToShortBody .openai 403 = .ok ⟨"fine", 0, 0, "gpt-4o"⟩ ∧
      Vendor.answerToShortBody .google 403 =
        .error (.of .authentication "Invalid Google API key") ∧
      Vendor.answerToShortBody .anthropic 500 = .ok ⟨"fine", 0, 0, "gpt-4o"⟩ ∧
      Vendor.answerToShortBody .openai 500 = .ok ⟨"fine", 0, 0, "gpt-4o"⟩ ∧
      Vendor.answerToShortBody .google 500 = .ok ⟨"fine", 0, 0, "gpt-4o"⟩ :=
  ⟨fun h => absurd h.2 (by decide), fun h => absurd h.2 (by decide), rfl, rfl, rfl, rfl, rfl, rfl⟩

end AgentPipeline
