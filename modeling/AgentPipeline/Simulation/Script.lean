import AgentPipeline.Simulation.Backend
import AgentPipeline.Text.Basic

/-!
# Scripted vendors

A backend that answers by a script and keeps a record of all calls.

## Main definitions

* `ScriptedVendor` — a vendor with its delay and its script.
* `Script`, `ScriptRule`, `Reply` — what it answers.
* `ScriptedVendors.timer` — the timer of the simulation.
* `ScriptedVendors.backend` — the backend of a list of scripted vendors.
-/

namespace AgentPipeline

/-- What a scripted vendor answers. -/
inductive Reply where
  | content (text : String) (promptTokens completionTokens : Nat)
  | failure (cause : Failure)
deriving DecidableEq

/-- The reply of a vendor that nothing else is said of. -/
def Reply.plain : Reply :=
  .content "ok" 0 0

/-- A reply as the outcome of a request. -/
def Reply.outcome (r : Reply) (request : ModelRequest) : Except Failure Response :=
  match r with
  | .content text prompt completion => .ok ⟨text, prompt, completion, request.model⟩
  | .failure cause => .error cause

/-- Replies to the requests whose last message holds a text. -/
structure ScriptRule where
  contains : String
  /-- The replies to come; the last one is given again and again. -/
  replies : List Reply
deriving DecidableEq

/-- How a vendor replies. -/
inductive Script where
  /-- Always the same. -/
  | always (reply : Reply)
  /-- By the first rule that applies. -/
  | rules (list : List ScriptRule)
deriving DecidableEq

/-- The reply of the first rule that has replies and applies to a text, and the rules afterwards. -/
def ScriptRule.choose (text : String) : List ScriptRule → Reply × List ScriptRule
  | [] => (.plain, [])
  | rule :: rules =>
    match rule.replies with
    | r :: more =>
      if Text.containsText text rule.contains then
        (r, { rule with replies := if more.isEmpty then [r] else more } :: rules)
      else
        let (reply, rules) := choose text rules
        (reply, rule :: rules)
    | [] =>
      let (reply, rules) := choose text rules
      (reply, rule :: rules)

/-- The reply to a request, and the script afterwards. -/
def Script.reply (request : ModelRequest) : Script → Reply × Script
  | .always reply => (reply, .always reply)
  | .rules list =>
    let text := (request.messages.getLast?.map Message.content).getD ""
    let (reply, list) := ScriptRule.choose text list
    (reply, .rules list)

/-- A vendor that answers by a script. -/
structure ScriptedVendor where
  vendor : Vendor
  delayMs : Nat := 0
  script : Script
deriving DecidableEq

/-- A call as it was received. -/
structure ReceivedCall where
  /-- The position of the vendor. -/
  client : Nat
  atMs : Nat
  request : ModelRequest
deriving DecidableEq

/-- Scripted vendors and the calls that they received. -/
structure ScriptedVendors where
  vendors : List ScriptedVendor
  calls : List ReceivedCall := []
deriving DecidableEq

namespace ScriptedVendors

/-- The vendor of a call. -/
def vendor? (s : ScriptedVendors) (call : Call) : Option ScriptedVendor :=
  s.vendors[call.client]?

/-- The router whose clients are the scripted vendors. -/
def router (s : ScriptedVendors) (mode : CredentialMode) : Router :=
  { mode, clients := s.vendors.map ScriptedVendor.vendor }

/-- The longest wait of the simulation: thirty years of 365 days. -/
def longestWait : Nat := 30 * 365 * 86400 * 1000

/-- The timer of the simulation cuts off every wait that is longer. -/
def timer (ms : Nat) : Nat :=
  min ms longestWait

/-- The backend of scripted vendors: a call is recorded when it is made, and the reply is chosen
when the delay is over. -/
def backend : Backend ScriptedVendors where
  call s now call :=
    ({ s with calls := s.calls ++ [⟨call.client, now, call.request⟩] },
      some (timer (((s.vendor? call).map ScriptedVendor.delayMs).getD 0)))
  waits := timer
  answer s call :=
    match s.vendor? call with
    | none => (s, Reply.plain.outcome call.request)
    | some v =>
      let (reply, script) := v.script.reply call.request
      ({ s with vendors := s.vendors.set call.client { v with script } },
        reply.outcome call.request)

end ScriptedVendors

end AgentPipeline
