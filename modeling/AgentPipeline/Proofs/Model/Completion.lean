import AgentPipeline.Proofs.Model.Hint
import AgentPipeline.Simulation.Backend

/-!
# Completions, from the request to the bill

For one completion a client is chosen, a model is looked up, the number of tokens is limited, the
answer is priced and a decision is reported.  All of that has to be about one client and one model:
the one that is asked is the one that is paid for.  Whether this is so does not depend on what the
clients do, so they are left open here, and a record of the calls that they get is kept beside them.

## Main definitions

* `Backend.recording` — clients whose calls are recorded.
* `Backend.reply` — what a client says to a call in the end.
* `Tier.lookup?` — the first model of a vendor in a tier, or the first of the tier.
* `Router.Serves`, `Router.Places` — which client is to be asked, and for what.
* `Call.Bills`, `Completion.ReportedBy`, `Call.Settles` — what is to come of the reply.

## Main results

* `Model.eq_of_id` — no two models of the catalogue have the same name.
* `Router.serves_choose` — the client that is chosen.
* `Router.plan_eq_error`, `Router.places_of_plan` — the call that is planned, if there are clients.
* `Clock.complete_recording` — recording the calls changes nothing else.
* `Clock.completed_of_plan` — what comes of the call.
* `Clock.completes_once` — **a request makes one call, unless there are no clients, and the model
  that is asked is paid for and reported.**
-/

namespace AgentPipeline

/-! ### The catalogue -/

/-- The first model of a vendor in a tier; if the vendor has none there, the first of the tier. -/
def Tier.lookup? (tier : Tier) (vendor : Vendor) : Option Model :=
  (tier.models.find? fun m => m.vendor = vendor) <|> tier.models.head?

/-- Every tier has a model of every vendor, so that the first of the tier never stands in. -/
theorem Tier.lookup?_eq_select (tier : Tier) (vendor : Vendor) :
    tier.lookup? vendor = some (Model.select tier vendor) := by
  cases tier <;> cases vendor <;> rfl

namespace Model

theorem select_mem_models (tier : Tier) (vendor : Vendor) : select tier vendor ∈ tier.models :=
  List.mem_map_of_mem (by cases vendor <;> decide)

/-- A model in the catalogue has room for a token. -/
theorem one_le_maxTokens (tier : Tier) (vendor : Vendor) : 1 ≤ (select tier vendor).maxTokens := by
  cases tier <;> cases vendor <;> decide

/-- The names of models tell tier and vendor. -/
theorem select_inj {t t' : Tier} {v v' : Vendor} (h : (select t v).id = (select t' v').id) :
    t = t' ∧ v = v' := by
  revert h
  cases t <;> cases v <;> cases t' <;> cases v' <;> decide

/-- No two models of the catalogue have the same name. -/
theorem eq_of_id {tier t : Tier} {vendor : Vendor} {m : Model} (hm : m ∈ t.models)
    (h : m.id = (select tier vendor).id) : m = select tier vendor := by
  obtain ⟨v, -, rfl⟩ := List.mem_map.mp hm
  obtain ⟨rfl, rfl⟩ := select_inj h
  rfl

end Model

/-! ### The call of a request -/

namespace Router

variable {r : Router} {request : RouteRequest} {call : Call}

/-- `r.Serves preferred i` says that the client at position `i` is the one to ask: the first of the
preferred vendor, or the first of all if no vendor with a client is preferred. -/
inductive Serves (r : Router) : Option Vendor → Nat → Prop
  | preferred {v : Vendor} {i : Nat} : r.clients[i]? = some v →
      (∀ j < i, r.clients[j]? ≠ some v) → Serves r (some v) i
  | first {preferred : Option Vendor} : (∀ v ∈ preferred, v ∉ r.clients) → Serves r preferred 0

/-- There is only one client to ask. -/
theorem Serves.unique {preferred : Option Vendor} {i j : Nat} (hi : r.Serves preferred i)
    (hj : r.Serves preferred j) : i = j := by
  cases hi with
  | preferred hget hbefore =>
    cases hj with
    | preferred hget' hbefore' =>
      rcases Nat.lt_trichotomy i j with hlt | heq | hgt
      · exact absurd hget (hbefore' i hlt)
      · exact heq
      · exact absurd hget' (hbefore j hgt)
    | first habsent => exact absurd (List.mem_of_getElem? hget) (habsent _ rfl)
  | first habsent =>
    cases hj with
    | preferred hget _ => exact absurd (List.mem_of_getElem? hget) (habsent _ rfl)
    | first _ => rfl

/-- The client that is chosen is the one to ask. -/
theorem serves_choose (r : Router) (preferred : Option Vendor) :
    r.Serves preferred (r.choose preferred) := by
  cases preferred with
  | none => exact .first (by simp)
  | some v =>
    unfold choose
    rw [Option.bind_some]
    cases hfind : r.clients.findIdx? (· = v) with
    | none =>
      refine .first fun u hu hmem => ?_
      obtain rfl := Option.mem_some.mp hu
      simpa using List.findIdx?_eq_none_iff.mp hfind v hmem
    | some i =>
      obtain ⟨hi, hv, hbefore⟩ := List.findIdx?_eq_some_iff_getElem.mp hfind
      refine .preferred ?_ fun j hj hget => ?_
      · rw [Option.getD_some, List.getElem?_eq_getElem hi, of_decide_eq_true hv]
      · obtain ⟨hlt, hv'⟩ := List.getElem?_eq_some_iff.mp hget
        exact hbefore j hj (decide_eq_true hv')

/-- Some client is chosen if there are any. -/
theorem getElem?_choose_eq_none_iff (preferred : Option Vendor) :
    r.clients[r.choose preferred]? = none ↔ r.clients = [] := by
  have hserves := r.serves_choose preferred
  generalize r.choose preferred = i at hserves ⊢
  cases hserves with
  | preferred hget _ =>
    rw [hget]
    refine ⟨fun h => by simp at h, fun h => ?_⟩
    rw [h] at hget
    simp at hget
  | first _ => simp

/-- `r.Places request call` says that a call is the one that a request is to make: it goes to the
client to ask, for a model of that client's vendor in the tier that is asked for or else in that of
the messages, with as many tokens as are asked for and the model allows. -/
structure Places (r : Router) (request : RouteRequest) (call : Call) : Prop where
  client : r.Serves request.preferred call.client
  vendor : r.clients[call.client]? = some call.vendor
  tier : call.tier = request.tier.getD (Message.tier request.messages)
  model : call.tier.lookup? call.vendor = some call.model
  listed : call.model ∈ call.tier.models
  own : call.model.vendor = call.vendor
  sent : call.request.model = call.model.id
  /-- No other model of the catalogue has the name that is sent. -/
  unmistakable : ∀ (t : Tier), ∀ m ∈ t.models, m.id = call.request.model → m = call.model
  messages : call.request.messages = request.messages
  temperature : call.request.temperature = request.temperature
  maxTokens : call.request.maxTokens = max 1 (min request.maxTokens call.model.maxTokens)
  within : 1 ≤ call.request.maxTokens ∧ call.request.maxTokens ≤ call.model.maxTokens

/-- Without clients there is nothing to plan. -/
theorem plan_eq_error (h : r.clients = []) (request : RouteRequest) :
    r.plan request = .error r.noClients := by
  unfold plan
  simp [(getElem?_choose_eq_none_iff request.preferred).mpr h]

/-- With clients, the call that a request is to make is planned. -/
theorem places_of_plan (h : r.clients ≠ []) (request : RouteRequest) :
    ∃ call, r.plan request = .ok call ∧ r.Places request call := by
  cases hclient : r.clients[r.choose request.preferred]? with
  | none => exact absurd ((getElem?_choose_eq_none_iff request.preferred).mp hclient) h
  | some vendor =>
    have hroom := Model.one_le_maxTokens
      (request.tier.getD (Message.tier request.messages)) vendor
    unfold plan
    simp only [hclient]
    exact ⟨_, rfl, {
      client := r.serves_choose request.preferred
      vendor := hclient
      tier := rfl
      model := Tier.lookup?_eq_select _ _
      listed := Model.select_mem_models _ _
      own := Model.vendor_select _ _
      sent := rfl
      unmistakable := fun _ _ hm hid => Model.eq_of_id hm hid
      messages := rfl
      temperature := rfl
      maxTokens := by dsimp only; omega
      within := by dsimp only; omega }⟩

end Router

/-! ### What comes of a call -/

/-- `call.Bills answer c` says that a completion passes on an answer, as that of the client that was
asked, and costs what the model that was asked takes for the tokens of the answer. -/
structure Call.Bills (call : Call) (answer : Response) (c : Completion) : Prop where
  content : c.content = answer.content
  vendor : c.vendor = call.vendor
  model : c.model = call.request.model
  tier : c.tier = call.tier
  promptTokens : c.promptTokens = answer.promptTokens
  completionTokens : c.completionTokens = answer.completionTokens
  costUsd : c.costUsd =
    Float.ofNat answer.promptTokens / 1000000.0 * call.model.inputPrice +
      Float.ofNat answer.completionTokens / 1000000.0 * call.model.outputPrice

/-- A decision tells of a completion all but its content. -/
structure Completion.ReportedBy (c : Completion) (d : Decision) : Prop where
  vendor : d.vendor = c.vendor
  model : d.model = c.model
  tier : d.tier = c.tier
  promptTokens : d.promptTokens = c.promptTokens
  completionTokens : d.completionTokens = c.completionTokens
  costUsd : d.costUsd = c.costUsd

/-- `call.Settles reply reported outcome` says what is to come of the reply to a call: an answer is
billed and reported once, and a failure is passed on as it is and not reported. -/
inductive Call.Settles (call : Call) : Option (Except Failure Response) → List Decision →
    Option (Except Failure Completion) → Prop
  | unanswered : Settles call none [] none
  | failed (f : Failure) : Settles call (some (.error f)) [] (some (.error f))
  | completed {answer : Response} {c : Completion} {d : Decision} (hbills : call.Bills answer c)
      (hreported : c.ReportedBy d) : Settles call (some (.ok answer)) [d] (some (.ok c))

namespace Backend

variable {σ : Type}

/-- What a client says to a call in the end; none if it never replies. -/
def reply (b : Backend σ) (s : σ) (now : Nat) (call : Call) : Option (Except Failure Response) :=
  match b.call s now call with
  | (_, none) => none
  | (s, some _) => some (b.answer s call).2

/-- The clients with a record of the calls that they got. -/
def recording (b : Backend σ) : Backend (σ × List Call) where
  call s now call :=
    let (backend, wait) := b.call s.1 now call
    ((backend, s.2 ++ [call]), wait)
  answer s call :=
    let (backend, answer) := b.answer s.1 call
    ((backend, s.2), answer)

end Backend

namespace Clock

variable {σ : Type}

theorem complete_of_unanswered {b : Backend σ} {r : Router} {request : RouteRequest} {call : Call}
    {c : Clock σ} {backend : σ} (hplan : r.plan request = .ok call)
    (hcall : b.call c.backend c.now call = (backend, none)) :
    c.complete b r request = ({ c with backend }, none) := by
  simp [complete, hplan, hcall]

theorem complete_of_answered {b : Backend σ} {r : Router} {request : RouteRequest} {call : Call}
    {c : Clock σ} {backend : σ} {ms : Nat} (hplan : r.plan request = .ok call)
    (hcall : b.call c.backend c.now call = (backend, some ms)) :
    c.complete b r request =
      let received := receive b ({ c with backend }.later ms) call
      (received.1, some received.2) := by
  simp [complete, hplan, hcall]

/-- What an answer comes to, if the call was for the model whose prices apply. -/
theorem settles_receive (b : Backend σ) (c : Clock σ) {call : Call}
    (hsent : call.request.model = call.model.id) :
    ∃ reported, (c.receive b call).1.decisions = c.decisions ++ reported ∧
      call.Settles (some (b.answer c.backend call).2) reported (some (c.receive b call).2) := by
  unfold receive
  cases b.answer c.backend call with
  | mk backend answer =>
    cases answer with
    | error f => exact ⟨[], (List.append_nil _).symm, .failed f⟩
    | ok answer =>
      exact ⟨[(call.settle answer).decision], rfl,
        .completed ⟨rfl, rfl, hsent.symm, rfl, rfl, rfl, rfl⟩ ⟨rfl, rfl, rfl, rfl, rfl, rfl⟩⟩

/-- To receive an answer is not to make a call. -/
theorem recorded_receive (b : Backend σ) (c : Clock (σ × List Call)) (call : Call) :
    (c.receive b.recording call).1.backend.2 = c.backend.2 := by
  unfold receive Backend.recording
  cases hanswer : b.answer c.backend.1 call with
  | mk backend answer => cases answer <;> simp [hanswer]

/-- The clock without the record of calls. -/
def unrecorded (c : Clock (σ × List Call)) : Clock σ :=
  { c with backend := c.backend.1 }

/-- Keeping a record changes nothing else. -/
theorem complete_recording (b : Backend σ) (r : Router) (c : Clock (σ × List Call))
    (request : RouteRequest) :
    ((c.complete b.recording r request).1.unrecorded, (c.complete b.recording r request).2) =
      c.unrecorded.complete b r request := by
  unfold complete
  cases r.plan request with
  | error f => rfl
  | ok call =>
    cases hcall : b.call c.backend.1 c.now call with
    | mk backend wait =>
      cases wait with
      | none => simp [Backend.recording, unrecorded, hcall]
      | some ms =>
        cases hanswer : b.answer backend call with
        | mk backend answer =>
          cases answer <;> simp [Backend.recording, unrecorded, receive, later, hcall, hanswer]

/-- `c.Completed b call after outcome` says that from one moment to another, one call was made and
settled. -/
def Completed (b : Backend σ) (c : Clock (σ × List Call)) (call : Call)
    (after : Clock (σ × List Call)) (outcome : Option (Except Failure Completion)) : Prop :=
  after.backend.2 = c.backend.2 ++ [call] ∧
    ∃ reported, after.decisions = c.decisions ++ reported ∧
      call.Settles (b.reply c.backend.1 c.now call) reported outcome

/-- A call that is planned is made once, and settled. -/
theorem completed_of_plan (b : Backend σ) {r : Router} {request : RouteRequest} {call : Call}
    (hplan : r.plan request = .ok call) (hsent : call.request.model = call.model.id)
    (c : Clock (σ × List Call)) :
    c.Completed b call (c.complete b.recording r request).1
      (c.complete b.recording r request).2 := by
  cases hcall : b.call c.backend.1 c.now call with
  | mk backend wait =>
    have hrecorded : b.recording.call c.backend c.now call =
        ((backend, c.backend.2 ++ [call]), wait) := by
      simp [Backend.recording, hcall]
    unfold Completed
    cases wait with
    | none =>
      have hreply : b.reply c.backend.1 c.now call = none := by simp [Backend.reply, hcall]
      rw [complete_of_unanswered hplan hrecorded, hreply]
      exact ⟨rfl, [], (List.append_nil _).symm, .unanswered⟩
    | some ms =>
      have hreply : b.reply c.backend.1 c.now call = some (b.answer backend call).2 := by
        simp [Backend.reply, hcall]
      rw [complete_of_answered hplan hrecorded, hreply]
      exact ⟨recorded_receive b _ call, settles_receive b.recording _ hsent⟩

/-- A request to a router with clients makes exactly one call, the one that it is to make; the
answer to it is billed and reported once, and its failure is passed on and not reported.  Only a
request to a router without clients makes no call, and it fails for that reason. -/
theorem completes_once (b : Backend σ) (r : Router) (c : Clock (σ × List Call))
    (request : RouteRequest) :
    ((c.complete b.recording r request).1.unrecorded, (c.complete b.recording r request).2) =
      c.unrecorded.complete b r request ∧
    (((c.complete b.recording r request).1.backend.2 = c.backend.2 ∧
        ∃ f, (c.complete b.recording r request).2 = some (.error f) ∧ f.kind = .noProvider) ↔
      r.clients = []) ∧
    (r.clients = [] → c.complete b.recording r request = (c, some (.error r.noClients))) ∧
    (r.clients ≠ [] → ∃ call, r.Places request call ∧
      c.Completed b call (c.complete b.recording r request).1
        (c.complete b.recording r request).2) := by
  have hnone (h : r.clients = []) :
      c.complete b.recording r request = (c, some (.error r.noClients)) := by
    simp [complete, Router.plan_eq_error h]
  have hsome (h : r.clients ≠ []) : ∃ call, r.Places request call ∧
      c.Completed b call (c.complete b.recording r request).1
        (c.complete b.recording r request).2 := by
    obtain ⟨call, hplan, hplaces⟩ := Router.places_of_plan h request
    exact ⟨call, hplaces, completed_of_plan b hplan hplaces.sent c⟩
  refine ⟨complete_recording b r c request, ⟨fun ⟨hcalls, _⟩ => ?_, fun h => ?_⟩, hnone, hsome⟩
  · -- A router with clients would have made a call.
    refine Classical.byContradiction fun h => ?_
    obtain ⟨call, -, hcall, -⟩ := hsome h
    rw [hcall] at hcalls
    simp at hcalls
  · rw [hnone h]
    exact ⟨rfl, r.noClients, rfl, rfl⟩

/-- Clients that answer at once, in three tokens to a question of four. -/
def promptClients : Backend Unit where
  call _ _ _ := ((), some 0)
  answer _ call := ((), .ok ⟨"yes", 4, 3, call.request.model⟩)

/-- A request for a completion without tokens, of OpenAI if possible. -/
def emptyRequest : RouteRequest where
  messages := []
  preferred := some .openai
  maxTokens := 0

/-- Of two clients of the preferred vendor the first is asked, and for one token if none is
allowed.  Its answer is billed and reported. -/
theorem completes_once_preferred :
    (Router.serving [.google, .openai, .openai]).clients ≠ [] ∧
      ∃ call answer completion decision,
        (Router.serving [.google, .openai, .openai]).Places emptyRequest call ∧
        call.client = 1 ∧ call.request.maxTokens = 1 ∧
        complete promptClients.recording (Router.serving [.google, .openai, .openai])
            { backend := ((), []) } emptyRequest =
          ({ now := 0, backend := ((), [call]), decisions := [decision] }, some (.ok completion)) ∧
        promptClients.reply () 0 call = some (.ok answer) ∧
        call.Bills answer completion ∧ completion.ReportedBy decision := by
  have hne : (Router.serving [.google, .openai, .openai]).clients ≠ [] := by decide
  obtain ⟨call, hplaces, hcalls, reported, hreported, hsettles⟩ := (completes_once promptClients
    (Router.serving [.google, .openai, .openai]) { backend := ((), []) } emptyRequest).2.2.2 hne
  have hlimit : call.request.maxTokens = 1 := by
    rw [hplaces.maxTokens]
    simp [emptyRequest]
  have hreply : promptClients.reply () 0 call =
      some (.ok ⟨"yes", 4, 3, call.request.model⟩) := rfl
  have hnow : (complete promptClients.recording (Router.serving [.google, .openai, .openai])
      { backend := ((), []) } emptyRequest).1.now = 0 := rfl
  generalize complete promptClients.recording (Router.serving [.google, .openai, .openai])
    { backend := ((), []) } emptyRequest = after at hcalls hreported hsettles hnow ⊢
  obtain ⟨⟨now, ⟨⟨⟩, calls⟩, decisions⟩, outcome⟩ := after
  cases hcalls
  cases hreported
  cases hnow
  cases hsettles with
  | completed hbills hreported =>
    exact ⟨hne, call, _, _, _, hplaces, hplaces.client.unique (Router.serves_choose _ _), hlimit,
      rfl, hreply, hbills, hreported⟩

end Clock

end AgentPipeline
