import AgentPipeline.Credentials
import AgentPipeline.Http.Url
import AgentPipeline.Text.Basic
import AgentPipeline.Json.Printer
import AgentPipeline.Json.Reader
import AgentPipeline.Design.Format
import AgentPipeline.Router

/-!
# Asking vendors over the web

All vendors are asked by posting a JSON body and answer with one.  They differ in addresses,
headers, the arrangement of the body and the words for what went wrong; a `Dialect` records that for
each.

## Main definitions

* `Http.Request`, `Http.Reply` — what is sent and what comes of it.
* `Dialect`, `Vendor.dialect` — how each vendor is spoken to.
* `Credential.request` — the request that asks a vendor for a completion.
* `Dialect.interpret` — the answer that a reply amounts to.
-/

namespace AgentPipeline

/-- A posted request. -/
structure Http.Request where
  url : Http.Url
  /-- Names in small letters. -/
  headers : List (String × String)
  body : Json

/-- What comes of a request. -/
inductive Http.Reply where
  | response (status : Nat) (body : String)
  /-- The connection is closed without an answer. -/
  | dropped
  /-- Nothing ever comes. -/
  | silence
deriving Repr, DecidableEq

/-- How a vendor is spoken to. -/
structure Dialect where
  /-- Where the vendor is found if nothing else is configured. -/
  baseUrl : String
  /-- What follows the base address, given the model. -/
  path : String → String
  /-- The headers that carry the key. -/
  headers : String → List (String × String)
  body : ModelRequest → Json
  /-- Where in an answer the content is: keys and indices. -/
  content : Json → Option Json
  /-- The field that counts tokens, and its fields for prompt and completion. -/
  usage : String × String × String
  /-- The failures that a status stands for. -/
  statusFailure : Nat → Option Failure
  /-- How it is said that a request could not be sent. -/
  notSent : String
  /-- How it is said that an answer could not be read. -/
  notRead : String
  /-- What is said of an error without a message. -/
  unknownError : String
  /-- What is said of an answer without content. -/
  noContent : String
  /-- Words in an error's message that tell that the bill has not been paid. -/
  billingWords : List String := []

namespace Dialect

/-- A single as a JSON number. -/
def temperature (r : ModelRequest) : Json :=
  .ofFloat (Decimal.widen r.temperature)

/-- A message with the role of its author. -/
def message (m : Message) : Json :=
  .object [("role", .str m.role), ("content", .str m.content)]

/-- A list with one text. -/
def textParts (text : String) : Json :=
  .arr [.object [("text", .str text)]]

/-- The messages that do not instruct the model. -/
def conversation (r : ModelRequest) : List Message :=
  r.messages.filter fun m => !m.isSystem

/-- The instructions as a field, if there are any. -/
def instructions (key : String) (wrap : String → Json) (r : ModelRequest) : List (String × Json) :=
  ((Message.systemText r.messages).map fun s => (key, wrap s)).toList

/-- The header of JSON bodies. -/
def jsonContent : String × String :=
  ("content-type", "application/json")

/-- How Anthropic is spoken to. -/
def anthropic : Dialect where
  baseUrl := "https://api.anthropic.com"
  path _ := "/v1/messages"
  headers key := [("x-api-key", key), ("anthropic-version", "2023-06-01"), jsonContent]
  body r := .object ([("model", .str r.model), ("max_tokens", .nat r.maxTokens),
      ("temperature", temperature r), ("messages", .arr ((conversation r).map message))] ++
    instructions "system" .str r)
  content v := do (← (← v.field? "content").item? 0).field? "text"
  usage := ("usage", "input_tokens", "output_tokens")
  statusFailure status :=
    if status = 429 then some (.of .rateLimit "Anthropic rate limit exceeded")
    else if status = 401 then some (.of .authentication "Invalid Anthropic API key")
    else none
  notSent := "Anthropic API request failed: "
  notRead := "Failed to parse Anthropic response: "
  unknownError := "Unknown error"
  noContent := "No content in Anthropic response"
  billingWords := ["billing", "credit"]

/-- Whether a model reasons.  Such models take neither a temperature nor the usual name for the
limit on tokens. -/
def isReasoning (model : String) : Bool :=
  ["o1", "o3", "o4"].any fun w => w.toList.isPrefixOf model.toList

/-- How OpenAI is spoken to. -/
def openai : Dialect where
  baseUrl := "https://api.openai.com/v1"
  path _ := "/chat/completions"
  headers key := [("authorization", "Bearer " ++ key), jsonContent]
  body r := .object ([("model", .str r.model), ("messages", .arr (r.messages.map message))] ++
    if isReasoning r.model then [("max_completion_tokens", .nat r.maxTokens)]
    else [("max_tokens", .nat r.maxTokens), ("temperature", temperature r)])
  content v := do (← (← (← v.field? "choices").item? 0).field? "message").field? "content"
  usage := ("usage", "prompt_tokens", "completion_tokens")
  statusFailure status :=
    if status = 429 then some (.of .rateLimit "OpenAI rate limit")
    else if status = 401 then some (.of .authentication "Invalid OpenAI API key")
    else none
  notSent := "OpenAI request failed: "
  notRead := "Failed to parse OpenAI response: "
  unknownError := "Unknown"
  noContent := "No content in OpenAI response"

/-- A message in Google's arrangement, in which all authors but the model are users. -/
def googleMessage (m : Message) : Json :=
  .object [("role", .str (if m.role = "assistant" then "model" else "user")),
    ("parts", textParts m.content)]

/-- How Google is spoken to. -/
def google : Dialect where
  baseUrl := "https://generativelanguage.googleapis.com/v1beta"
  path model := "/models/" ++ model ++ ":generateContent"
  headers key := [("x-goog-api-key", key), jsonContent]
  body r := .object ([("contents", .arr ((conversation r).map googleMessage)),
      ("generationConfig", .object [("maxOutputTokens", .nat r.maxTokens),
        ("temperature", temperature r)])] ++
    instructions "systemInstruction" (fun s => .object [("parts", textParts s)]) r)
  content v := do
    let candidate ← (← v.field? "candidates").item? 0
    (← (← (← candidate.field? "content").field? "parts").item? 0).field? "text"
  usage := ("usageMetadata", "promptTokenCount", "candidatesTokenCount")
  statusFailure status :=
    if status = 429 then some (.of .rateLimit "Gemini rate limit")
    else if status = 401 ∨ status = 403 then some (.of .authentication "Invalid Google API key")
    else none
  notSent := "Gemini request failed: "
  notRead := "Parse error: "
  unknownError := "Unknown"
  noContent := "No content in Gemini response"

end Dialect

/-- How a vendor is spoken to. -/
def Vendor.dialect : Vendor → Dialect
  | anthropic => .anthropic
  | openai => .openai
  | google => .google

/-! ### Requests -/

/-- Why a request cannot be sent. -/
inductive SendFault where
  /-- The request cannot even be put together. -/
  | notBuilt
  /-- The address is not one of a web server. -/
  | unsupported (url : String)
  /-- The connection was closed without an answer that can be understood. -/
  | dropped (url : String)
deriving Repr, DecidableEq

/-- What is said when a request cannot be sent. -/
def SendFault.message : SendFault → String
  | notBuilt => "builder error"
  | unsupported url => "builder error for url (" ++ url ++ ")"
  | dropped url => "error sending request for url (" ++ url ++ ")"

/-- Whether a text can be the value of a header: no control characters but tabs. -/
def isHeaderValue (s : String) : Bool :=
  s.toList.all fun c => c = '\t' || (0x20 ≤ c.toNat && c.toNat ≠ 0x7F)

/-- An address without slashes at its end. -/
def withoutLastSlashes (url : String) : String :=
  String.ofList (url.toList.reverse.dropWhile (· = '/')).reverse

/-- The text of the address at which a vendor is asked. -/
def Credential.address (c : Credential) (model : String) : String :=
  withoutLastSlashes (c.baseUrl.getD c.vendor.dialect.baseUrl) ++ c.vendor.dialect.path model

/-- Headers with the same name are one, with their values behind commas. -/
def joinHeaders (headers : List (String × String)) : List (String × String) :=
  (headers.map (·.1)).eraseDups.map fun name =>
    (name, ", ".intercalate ((headers.filter fun h => h.1 = name).map (·.2)))

/-- The header of a user name and a password. -/
def loginHeader (user : String) (password : Option String) : String × String :=
  let login := user ++ ":" ++ password.getD ""
  ("authorization", "Basic " ++ String.ofList (Text.base64 login.toUTF8.toList))

/-- The longest address that can be asked. -/
def longestAddress : Nat := 65534

/-- Whether an address is that of something on a web server. -/
def Http.Url.canBeAsked (url : Http.Url) : Bool :=
  (url.scheme = "http" || url.scheme = "https") && url.text.length ≤ longestAddress &&
    url.authority.all fun a => a.host.all Http.isHostChar

/-- The request that asks a vendor for a completion.  User name and password are not asked for with
the address but sent in a header. -/
def Credential.request (c : Credential) (r : ModelRequest) : Except SendFault Http.Request :=
  match Http.Url.read? (c.address r.model) with
  | none => .error .notBuilt
  | some url =>
    let headers := c.vendor.dialect.headers c.apiKey
    if !url.hasHost then .error (.unsupported url.text)
    else if !headers.all fun h => isHeaderValue h.2 then .error .notBuilt
    else
      let (url, login) := match url.withoutLogin? with
        | some (url, user, password) => (url, [loginHeader user password])
        | none => (url, [])
      if url.canBeAsked then
        .ok ⟨url, joinHeaders (login ++ headers), c.vendor.dialect.body r⟩
      else .error (.unsupported url.text)

/-! ### Replies -/

namespace Dialect

/-- The failure of a request that could not be sent. -/
def sendFailure (d : Dialect) (fault : SendFault) : Failure :=
  .of .network (d.notSent ++ fault.message)

/-- The failure that the error field of an answer amounts to. -/
def errorFailure (d : Dialect) (error : Json) : Failure :=
  let message := ((error.field? "message").bind Json.asString?).getD d.unknownError
  .of (if d.billingWords.any (Text.containsText message) then .billing else .service) message

/-- A count of tokens in an answer; zero if there is none. -/
def tokens (d : Dialect) (key : String) (v : Json) : Nat :=
  (((v.field? d.usage.1).bind (Json.field? key)).bind Json.asNat?).getD 0

/-- What an answer with a readable body amounts to. -/
def interpretBody (d : Dialect) (model : String) (v : Json) : Except Failure Response :=
  match v.field? "error" with
  | some error => .error (d.errorFailure error)
  | none =>
    match (d.content v).bind Json.asString? with
    | none => .error (.of .service d.noContent)
    | some content =>
      .ok ⟨content, d.tokens d.usage.2.1 v, d.tokens d.usage.2.2 v, model⟩

/-- The body that comes with a status; some statuses come without one. -/
def receivedBody (status : Nat) (body : String) : String :=
  if status = 204 ∨ status = 304 then "" else body

/-- What a reply with a status and a body amounts to. -/
def interpret (d : Dialect) (model : String) (status : Nat) (body : String) :
    Except Failure Response :=
  match d.statusFailure status with
  | some f => .error f
  | none =>
    match Json.read? (receivedBody status body) with
    | none => .error (.of .service (d.notRead ++ "error decoding response body"))
    | some v => d.interpretBody model v

end Dialect

end AgentPipeline
