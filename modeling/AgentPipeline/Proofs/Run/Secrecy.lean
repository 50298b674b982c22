import AgentPipeline.Proofs.Run.Attempts
import AgentPipeline.Proofs.Text.Secrecy

/-!
# Secrets and recorded errors

What went wrong with a node is recorded twice, in its result and among the errors of the run.  Both
times it is the same text, from which the secrets of the router have been taken out before it was
cut.  A node that refuses to run its design has asked nobody, and what it records is always the same
text.

## Main definitions

* `Worker.complaint`, `Worker.recorded` — what went wrong in words, and what is recorded of a text.
* `Update.Records` — an update records an error, or none.

## Main results

* `Worker.records_of_outcome` — what a node records.
* `Worker.conceals_secrets` — **no secret is recorded**, and a text without secrets is kept.
-/

namespace AgentPipeline

/-- An update records one error, or none, in its only result and among the errors of the run. -/
structure Update.Records (u : Update) (error : Option String) : Prop where
  errors : u.errors = error.toList
  result : u.agentResults.map AgentResult.error = [error]

namespace Worker

variable {w : Worker} {s : RunState} {u : Update}

/-- What went wrong with a node, in words. -/
def complaint (w : Worker) (f : Failure) : String :=
  s!"Agent '{w.id}' failed: {f.message}"

/-- What is recorded of a text: it is redacted, and then cut. -/
def recorded (w : Worker) (text : String) : String :=
  String.ofList (Text.truncateError (Secrets.redact w.secrets text).toList)

theorem records_failed (w : Worker) (s : RunState) (f : Failure) :
    (w.failed s (w.failureText f)).Records (some (w.recorded (w.complaint f))) :=
  ⟨rfl, rfl⟩

theorem records_succeeded (w : Worker) (s : RunState) (c : Completion) :
    (w.succeeded s c).Records none :=
  ⟨rfl, rfl⟩

/-- A node whose design passes screening records what went wrong, if anything did. -/
theorem records_of_passes {outcomes : Nat → Except Failure Completion}
    (hpasses : s.design.injection = none) (h : (w.transcript s outcomes).outcome = .ok u) :
    u.Records none ∨ ∃ f, u.Records (some (w.recorded (w.complaint f))) := by
  rw [transcript, refusal_of_passes hpasses] at h
  rcases outcome_attempts h with ⟨f, rfl⟩ | ⟨c, rfl⟩
  · exact Or.inr ⟨f, w.records_failed s f⟩
  · exact Or.inl (w.records_succeeded s c)

/-- What a node records: nothing, what went wrong, or that it refuses its design. -/
theorem records_of_outcome {outcomes : Nat → Except Failure Completion}
    (h : (w.transcript s outcomes).outcome = .ok u) :
    u.Records none ∨ (∃ f, u.Records (some (w.recorded (w.complaint f)))) ∨
      s.design.injection ≠ none ∧ u = w.failed s rejection.message := by
  cases hinjection : s.design.injection with
  | none => exact (records_of_passes hinjection h).imp_right Or.inl
  | some rule =>
    rw [transcript, refusal, hinjection, Option.map_some] at h
    cases h
    exact Or.inr (Or.inr ⟨Option.some_ne_none rule, rfl⟩)

/-- **No secret is recorded.**  If no secret that is long enough to be replaced has a bracket or a
dot in it or is a part of the word in a marker, then nothing that is recorded of any text has one of
these secrets in it.  That is what a node that fails records, in its result and among the errors of
the run, unless it refuses its design, which it says in words that are always the same.  A text
without any of these secrets is left as it is. -/
theorem conceals_secrets
    (hsecrets : ∀ secret ∈ w.secrets, Secrets.IsLong secret → Secrets.Unmarked secret) :
    (∀ text, Secrets.FreeOf w.secrets (w.recorded text)) ∧
    (∀ s f, (w.failed s (w.failureText f)).Records (some (w.recorded (w.complaint f)))) ∧
    (∀ s outcomes u, (w.transcript s outcomes).outcome = .ok u →
      u.Records none ∨ (∃ f, u.Records (some (w.recorded (w.complaint f)))) ∨
        s.design.injection ≠ none ∧ u = w.failed s rejection.message) ∧
    ∀ text, Secrets.FreeOf w.secrets text → Secrets.redact w.secrets text = text :=
  ⟨fun text => (Secrets.freeOf_redact hsecrets text).truncateError hsecrets, w.records_failed,
    fun _ _ _ => records_of_outcome, fun _ => Secrets.redact_of_freeOf⟩

/-- A worker with secrets that overlap: one is a part of another, and a third one is short. -/
def trusted : Worker where
  id := "a"
  spec := { name := "a", role := "analyzer", model := "gpt-4o" }
  role := .analyzer
  policy := .default
  secrets := ["abab", "sk-abab", "abc"]

/-- Of `sk-ababab` the first secret is taken out, and with it the second one is gone. -/
theorem conceals_secrets_trusted :
    (∀ secret ∈ trusted.secrets, Secrets.IsLong secret → Secrets.Unmarked secret) ∧
    trusted.recorded "401 for sk-ababab, abc" = "401 for sk-[REDACTED]ab, abc" ∧
    Secrets.FreeOf trusted.secrets "401 for sk-[REDACTED]ab, abc" := by
  have hsecrets : ∀ secret ∈ trusted.secrets,
      Secrets.IsLong secret → Secrets.Unmarked secret := by
    intro secret hmem hlong
    simp only [trusted, List.mem_cons, List.not_mem_nil, or_false] at hmem
    rcases hmem with rfl | rfl | rfl
    · exact ⟨by decide, by decide, by decide, by decide⟩
    · exact ⟨by decide, by decide, by decide, by decide⟩
    · exact absurd hlong (by decide)
  have hrecorded : trusted.recorded "401 for sk-ababab, abc" =
      "401 for sk-[REDACTED]ab, abc" := by decide
  refine ⟨hsecrets, hrecorded, ?_⟩
  rw [← hrecorded]
  exact (conceals_secrets hsecrets).1 _

end Worker

end AgentPipeline
