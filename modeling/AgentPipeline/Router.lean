import AgentPipeline.Credentials
import AgentPipeline.Message
import AgentPipeline.Model.Catalog
import AgentPipeline.Text.Basic

/-!
# Routing completions

A router holds clients of vendors.  For a request it picks a client and a model, which makes a
`Call`; the answer to the call is priced and becomes a `Completion`, and a `Decision` is reported.
Picking and pricing are two functions, so that whatever happens in between is left open.

## Main definitions

* `RouteRequest`, `Call`, `Response`, `Completion`, `Decision`.
* `Router.plan` — the call that a request leads to.
* `Call.settle` — the completion of an answered call.
-/

namespace AgentPipeline

/-- A completion that is asked for. -/
structure RouteRequest where
  messages : List Message
  /-- Classified from the messages if there is none. -/
  tier : Option Tier := none
  preferred : Option Vendor := none
  maxTokens : Nat := 4096
  temperature : Float32 := 0.7
deriving DecidableEq

/-- What a client is asked: one model and one conversation. -/
structure ModelRequest where
  model : String
  messages : List Message
  maxTokens : Nat
  temperature : Float32
deriving DecidableEq

/-- What a client answers. -/
structure Response where
  content : String
  promptTokens : Nat
  completionTokens : Nat
  model : String
deriving Repr, DecidableEq

/-- A request on its way to a client. -/
structure Call where
  /-- The position of the client. -/
  client : Nat
  vendor : Vendor
  tier : Tier
  /-- The model, whose prices will apply. -/
  model : Model
  request : ModelRequest

/-- An answer with its price. -/
structure Completion where
  content : String
  vendor : Vendor
  model : String
  tier : Tier
  promptTokens : Nat
  completionTokens : Nat
  costUsd : Float
deriving DecidableEq

/-- All the tokens of a completion. -/
def Completion.totalTokens (c : Completion) : Nat :=
  c.promptTokens + c.completionTokens

/-- What is reported about a completion. -/
structure Decision where
  vendor : Vendor
  model : String
  tier : Tier
  promptTokens : Nat
  completionTokens : Nat
  costUsd : Float
deriving DecidableEq

/-- A router: the vendors of its clients, in order, and the secrets that it keeps. -/
structure Router where
  mode : CredentialMode
  clients : List Vendor
  secrets : List String := []
deriving DecidableEq

namespace Router

/-- The router with one client for each key. -/
def ofCredentials (c : Credentials) : Router :=
  ⟨c.mode, c.entries.map Credential.vendor, c.secrets⟩

/-- A text without the secrets of the router. -/
def redact (r : Router) (text : String) : String :=
  Secrets.redact r.secrets text

/-- Why a router without clients cannot answer. -/
def noClients (r : Router) : Failure :=
  .of .noProvider
    (match r.mode with
      | .shared => "no shared provider credentials are set"
      | .byCaller => "no credentials were supplied for this caller")

/-- The position of the first client of the preferred vendor, else of the first client. -/
def choose (r : Router) (preferred : Option Vendor) : Nat :=
  (preferred.bind fun vendor => r.clients.findIdx? (· = vendor)).getD 0

/-- The call that a request leads to. -/
def plan (r : Router) (request : RouteRequest) : Except Failure Call :=
  let tier := request.tier.getD (Message.tier request.messages)
  let client := r.choose request.preferred
  match r.clients[client]? with
  | none => .error r.noClients
  | some vendor =>
    let model := Model.select tier vendor
    .ok {
      client, vendor, tier, model
      request :=
        { model := model.id
          messages := request.messages
          maxTokens := min (max request.maxTokens 1) model.maxTokens
          temperature := request.temperature } }

end Router

namespace Call

/-- The completion of an answered call. -/
def settle (c : Call) (answer : Response) : Completion where
  content := answer.content
  vendor := c.vendor
  model := c.model.id
  tier := c.tier
  promptTokens := answer.promptTokens
  completionTokens := answer.completionTokens
  costUsd := c.model.cost answer.promptTokens answer.completionTokens

end Call

/-- What is reported about a completion. -/
def Completion.decision (c : Completion) : Decision :=
  ⟨c.vendor, c.model, c.tier, c.promptTokens, c.completionTokens, c.costUsd⟩

end AgentPipeline
