import Mathlib.Order.Lattice.Nat
import AgentPipeline.Proofs.Run.Yield
import AgentPipeline.Simulation.Backend

/-!
# The attempts of a node

A node makes attempts until one settles the matter or is the last that it has.  A completion settles
it, and so does a failure that ends the run or is here to stay; every other failure is followed by a
delay and the next attempt.  The delays double up to the tenth.  But a delay whose whole seconds do
not fit 64 bits cannot be waited for at all, and a node that comes to one never concludes anything.

Steps are counted in 32 bits and the tokens of a result in 64.  What a node concludes is known where
there is room for one more step and for the tokens of its completions, and then it fits too.  How
long the timer takes over a delay is left open.

## Main definitions

* `Settles` — an outcome after which nothing is left to be tried.
* `Worker.conclusion` — what a worker makes of the outcome of its last attempt.
* `Worker.clockAt`, `Worker.clockAfter`, `Worker.outcomeAt` — an attempt in virtual time: when it
  begins, when its outcome has come, and the outcome.
* `Update.FitsCounts` — the counts of an update fit the widths that they are kept in.
* `Node.Concludes` — what may come of a node whose last attempt has a given outcome.

## Main results

* `Worker.transcript_of_ends` — the attempts of a worker up to the first that ends its work.
* `Worker.runAlone_eq_conclusion_iff`, `Worker.runAlone_of_not_fits` — what comes of them in virtual
  time.
* `Node.concludes_after_attempts` — **how often a node asks, how long it waits and what it
  concludes.**
* `delay_not_waited_for` — nodes that never conclude.
-/

namespace AgentPipeline

/-! ### The last attempt -/

/-- Nothing is left to be tried after an outcome. -/
def Settles : Except Failure Completion → Prop
  | .ok _ => True
  | .error f => f.kind.endsRun = true ∨ f.kind.retryable = false

namespace Worker

variable {w : Worker} {s : RunState} {outcomes : Nat → Except Failure Completion}

/-- The work ends with an attempt: its outcome settles the matter, or no other attempt is left. -/
def Ends (w : Worker) (outcomes : Nat → Except Failure Completion) (i : Nat) : Prop :=
  Settles (outcomes i) ∨ i + 1 = w.policy.maxAttempts

/-- What a worker makes of the outcome of its last attempt. -/
def conclusion (w : Worker) (s : RunState) : Except Failure Completion → Except Failure Update
  | .ok c => .ok (w.succeeded s c)
  | .error f => if f.kind.endsRun then .error f else .ok (w.failed s (w.failureText f))

/-- Some attempt is the first that ends the work, if only because no other one is left. -/
theorem exists_first_ends (hpos : 0 < w.policy.maxAttempts)
    (outcomes : Nat → Except Failure Completion) :
    ∃ k < w.policy.maxAttempts, w.Ends outcomes k ∧ ∀ i < k, ¬ w.Ends outcomes i := by
  classical
  -- If nothing settles the matter before, the last attempt is the one.
  have hlast : w.Ends outcomes (w.policy.maxAttempts - 1) := Or.inr (Nat.sub_add_cancel hpos)
  have hexists : ∃ i, w.Ends outcomes i := ⟨_, hlast⟩
  refine ⟨Nat.find hexists, ?_, Nat.find_spec hexists, fun i hi => Nat.find_min hexists hi⟩
  exact (Nat.find_min' hexists hlast).trans_lt (Nat.sub_lt hpos Nat.one_pos)

theorem react_of_ends {i : Nat} (h : w.Ends outcomes i) :
    w.react s i (outcomes i) = .finish (w.conclusion s (outcomes i)) := by
  unfold Ends at h
  cases ho : outcomes i with
  | ok c => rfl
  | error f =>
    rw [ho] at h
    unfold react conclusion
    dsimp only
    by_cases hends : f.kind.endsRun = true
    · rw [if_pos hends, if_pos hends]
    · rw [if_neg hends, if_neg hends, if_pos]
      rcases h with (h | h) | h
      · exact absurd h hends
      · rw [h]
        rfl
      · rw [RetryPolicy.hasNext, h, decide_eq_false (Nat.lt_irrefl _)]
        exact Bool.or_true _

theorem react_of_not_ends {i : Nat} (hi : i < w.policy.maxAttempts) (h : ¬ w.Ends outcomes i) :
    w.react s i (outcomes i) = .retryAfter (w.policy.delay i) := by
  unfold Ends at h
  cases ho : outcomes i with
  | ok c =>
    rw [ho] at h
    exact absurd (Or.inl trivial) h
  | error f =>
    rw [ho] at h
    obtain ⟨⟨hends, hstays⟩, hlast⟩ := (not_or.mp h).imp_left not_or.mp
    have hretryable : f.kind.retryable = true := Bool.not_eq_false _ ▸ hstays
    have hnext : w.policy.hasNext i = true := decide_eq_true (by omega)
    unfold react
    dsimp only
    rw [if_neg hends, hretryable, hnext]
    rfl

theorem attempts_of_finish {outcome : Except Failure Update} (left : Nat) {i : Nat}
    (hreact : w.react s i (outcomes i) = .finish outcome) :
    w.attempts s outcomes left i = ⟨[w.request s], [], outcome⟩ := by
  cases left with
  | zero => rw [attempts, hreact]
  | succ left => rw [attempts, hreact]

/-- A worker stops at the first attempt that ends its work: it has asked the same thing each time
and waited after each attempt but the last. -/
theorem attempts_of_ends {start stop left : Nat} (hstart : start ≤ stop)
    (hleft : stop ≤ start + left) (hlimit : stop < w.policy.maxAttempts)
    (hbefore : ∀ i, start ≤ i → i < stop → ¬ w.Ends outcomes i) (hends : w.Ends outcomes stop) :
    w.attempts s outcomes left start = ⟨List.replicate (stop - start + 1) (w.request s),
      (List.range' start (stop - start)).map w.policy.delay, w.conclusion s (outcomes stop)⟩ := by
  induction left generalizing start with
  | zero =>
    obtain rfl : start = stop := by omega
    rw [Nat.sub_self]
    exact attempts_of_finish 0 (react_of_ends hends)
  | succ left ih =>
    rcases hstart.eq_or_lt with rfl | hlt
    · rw [Nat.sub_self]
      exact attempts_of_finish (left + 1) (react_of_ends hends)
    · -- The first attempt calls for another one, and the rest is the same with one fewer.
      have hreact := react_of_not_ends (s := s) (hlt.trans hlimit) (hbefore start le_rfl hlt)
      have hrest := ih hlt (by omega) fun i hi hstop => hbefore i (Nat.le_of_succ_le hi) hstop
      have hlength : stop - start = stop - (start + 1) + 1 := by omega
      rw [attempts, hreact, hlength, List.range'_succ, List.map_cons]
      dsimp only
      rw [hrest]
      rfl

theorem refusal_of_passes (hpasses : s.design.injection = none) : w.refusal s = none := by
  rw [refusal, hpasses, Option.map_none]

/-- All attempts of a worker whose design passes screening. -/
theorem transcript_of_ends (hpasses : s.design.injection = none) {k : Nat}
    (hlimit : k < w.policy.maxAttempts) (hbefore : ∀ i < k, ¬ w.Ends outcomes i)
    (hends : w.Ends outcomes k) :
    w.transcript s outcomes = ⟨List.replicate (k + 1) (w.request s),
      (List.range k).map w.policy.delay, w.conclusion s (outcomes k)⟩ := by
  unfold transcript
  rw [refusal_of_passes hpasses, List.range_eq_range']
  exact attempts_of_ends (Nat.zero_le k) (by omega) hlimit (fun i _ hi => hbefore i hi) hends

/-! ### Attempts in virtual time -/

variable {σ : Type} {b : Backend σ} {router : Router} {c c' : Clock σ}

/-- A router that has nobody to ask ends the run. -/
theorem endsRun_of_plan {request : RouteRequest} {f : Failure}
    (h : router.plan request = .error f) : f.kind.endsRun = true := by
  unfold Router.plan at h
  dsimp only at h
  split at h
  · cases h
    rfl
  · cases h

/-- One attempt in virtual time. -/
theorem runFrom_attempting (hrefusal : w.refusal s = none) {o : Except Failure Completion}
    (hanswer : c.complete b router (w.request s) = (c', some o)) (fuel i : Nat) :
    w.runFrom b router s (fuel + 2) c (.attempting i) =
      match w.moveAfter b s i o with
      | .next stage ms => w.runFrom b router s fuel (c'.later ms) stage
      | .stuck cause => (c', .error cause)
      | .done outcome => (c', .ok outcome) := by
  unfold Clock.complete at hanswer
  cases hplan : router.plan (w.request s) with
  | error f =>
    -- With nobody to ask there is no answer to wait for, but no other attempt either.
    rw [hplan] at hanswer
    cases hanswer
    have hdone : w.moveAfter b s i (.error f) = .done (.error f) := by
      rw [moveAfter, react, if_pos (endsRun_of_plan hplan)]
    simp only [runFrom, move, hrefusal, hplan, hdone]
  | ok call =>
    -- One stage makes the call and one has its answer.
    rw [hplan] at hanswer
    dsimp only at hanswer
    rcases hcall : b.call c.backend c.now call with ⟨backend, _ | ms⟩
    · rw [hcall] at hanswer
      cases hanswer
    · rw [hcall] at hanswer
      cases hanswer
      simp only [runFrom, move, hrefusal, hplan, hcall]
      generalize w.moveAfter b s i _ = next
      cases next <;> rfl

/-- The clock when an attempt begins, if each attempt before is answered and followed by a delay. -/
def clockAt (w : Worker) (b : Backend σ) (router : Router) (s : RunState) (c : Clock σ) :
    Nat → Clock σ
  | 0 => c
  | i + 1 => ((w.clockAt b router s c i).complete b router (w.request s)).1.later
      (b.waits (w.policy.delay i))

/-- The clock when the outcome of an attempt has come. -/
def clockAfter (w : Worker) (b : Backend σ) (router : Router) (s : RunState) (c : Clock σ)
    (i : Nat) : Clock σ :=
  ((w.clockAt b router s c i).complete b router (w.request s)).1

/-- The outcome of an attempt when it is made in virtual time. -/
def outcomeAt (w : Worker) (b : Backend σ) (router : Router) (s : RunState) (c : Clock σ)
    (i : Nat) : Option (Except Failure Completion) :=
  ((w.clockAt b router s c i).complete b router (w.request s)).2

section

variable (hpasses : s.design.injection = none)
include hpasses

/-- An attempt in virtual time that ends the work of a worker. -/
theorem runFrom_of_ends {i : Nat} (hanswer : w.outcomeAt b router s c i = some (outcomes i))
    (hends : w.Ends outcomes i) (fuel : Nat) :
    w.runFrom b router s (fuel + 2) (w.clockAt b router s c i) (.attempting i) =
      (w.clockAfter b router s c i, .ok (w.conclusion s (outcomes i))) := by
  rw [runFrom_attempting (refusal_of_passes hpasses) (Prod.ext rfl hanswer), moveAfter,
    react_of_ends hends]
  rfl

/-- An attempt in virtual time with a delay that cannot be waited for. -/
theorem runFrom_of_not_fits {i : Nat} (hanswer : w.outcomeAt b router s c i = some (outcomes i))
    (hi : i < w.policy.maxAttempts) (hends : ¬ w.Ends outcomes i)
    (hfits : fitsClock (w.policy.delay i) = false) (fuel : Nat) :
    w.runFrom b router s (fuel + 2) (w.clockAt b router s c i) (.attempting i) =
      (w.clockAfter b router s c i, .error .unmeasurable) := by
  rw [runFrom_attempting (refusal_of_passes hpasses) (Prod.ext rfl hanswer), moveAfter,
    react_of_not_ends hi hends]
  dsimp only
  rw [hfits]
  rfl

/-- An attempt in virtual time that is followed by another one. -/
theorem runFrom_of_fits {i : Nat} (hanswer : w.outcomeAt b router s c i = some (outcomes i))
    (hi : i < w.policy.maxAttempts) (hends : ¬ w.Ends outcomes i)
    (hfits : fitsClock (w.policy.delay i) = true) (fuel : Nat) :
    w.runFrom b router s (fuel + 2) (w.clockAt b router s c i) (.attempting i) =
      w.runFrom b router s fuel (w.clockAt b router s c (i + 1)) (.attempting (i + 1)) := by
  rw [runFrom_attempting (refusal_of_passes hpasses) (Prod.ext rfl hanswer), moveAfter,
    react_of_not_ends hi hends]
  dsimp only
  rw [hfits]
  rfl

/-- Attempts in virtual time that are each followed by another one. -/
theorem runFrom_clockAt {k : Nat}
    (hanswers : ∀ i < k, w.outcomeAt b router s c i = some (outcomes i))
    (hlimit : k ≤ w.policy.maxAttempts) (hbefore : ∀ i < k, ¬ w.Ends outcomes i)
    (hfits : ∀ i < k, fitsClock (w.policy.delay i) = true) (fuel : Nat) :
    w.runFrom b router s (2 * k + fuel) c (.attempting 0) =
      w.runFrom b router s fuel (w.clockAt b router s c k) (.attempting k) := by
  induction k generalizing fuel with
  | zero => rw [Nat.mul_zero, Nat.zero_add]; rfl
  | succ k ih =>
    have hk : k < k + 1 := Nat.lt_succ_self k
    have hfuel : 2 * (k + 1) + fuel = 2 * k + (fuel + 2) := by omega
    rw [hfuel, ih (fun i hi => hanswers i (hi.trans hk)) (hk.le.trans hlimit)
      (fun i hi => hbefore i (hi.trans hk)) (fun i hi => hfits i (hi.trans hk)),
      runFrom_of_fits hpasses (hanswers k hk) (by omega) (hbefore k hk) (hfits k hk)]

/-- A worker in virtual time from its first stage to a given attempt. -/
theorem runAlone_eq_runFrom {k : Nat}
    (hanswers : ∀ i < k, w.outcomeAt b router s c i = some (outcomes i))
    (hlimit : k < w.policy.maxAttempts) (hbefore : ∀ i < k, ¬ w.Ends outcomes i)
    (hfits : ∀ i < k, fitsClock (w.policy.delay i) = true) :
    ∃ fuel, w.runAlone b router s c =
      w.runFrom b router s (fuel + 2) (w.clockAt b router s c k) (.attempting k) := by
  -- There are two stages for each attempt, and the given one is still to come.
  refine ⟨2 * (w.policy.maxAttempts - k) - 1, ?_⟩
  have hfuel : w.stageLimit = 2 * k + (2 * (w.policy.maxAttempts - k) - 1 + 2) := by
    unfold stageLimit
    omega
  rw [runAlone, hfuel, runFrom_clockAt hpasses hanswers hlimit.le hbefore hfits]

/-- A worker in virtual time stands still at the first delay that it cannot wait for. -/
theorem runAlone_of_not_fits {j k : Nat} (hlimit : k < w.policy.maxAttempts)
    (hbefore : ∀ i < k, ¬ w.Ends outcomes i)
    (hj : IsLeast {i | i < k ∧ fitsClock (w.policy.delay i) = false} j)
    (hanswers : ∀ i ≤ j, w.outcomeAt b router s c i = some (outcomes i)) :
    w.runAlone b router s c = (w.clockAfter b router s c j, .error .unmeasurable) := by
  obtain ⟨⟨hjk, hunfit⟩, hleast⟩ := hj
  have hfits : ∀ i < j, fitsClock (w.policy.delay i) = true := by
    intro i hi
    rw [← Bool.not_eq_false]
    exact fun h => absurd (hleast ⟨hi.trans hjk, h⟩) (Nat.not_le.mpr hi)
  obtain ⟨fuel, hfuel⟩ := runAlone_eq_runFrom hpasses (fun i hi => hanswers i hi.le)
    (hjk.trans hlimit) (fun i hi => hbefore i (hi.trans hjk)) hfits
  rw [hfuel, runFrom_of_not_fits hpasses (hanswers j le_rfl) (hjk.trans hlimit) (hbefore j hjk)
    hunfit]

/-- A worker in virtual time comes to its conclusion just if it can wait for all its delays. -/
theorem runAlone_eq_conclusion_iff {k : Nat} (hlimit : k < w.policy.maxAttempts)
    (hbefore : ∀ i < k, ¬ w.Ends outcomes i) (hends : w.Ends outcomes k)
    (hanswers : ∀ i ≤ k, w.outcomeAt b router s c i = some (outcomes i)) :
    w.runAlone b router s c =
        (w.clockAfter b router s c k, .ok (w.conclusion s (outcomes k))) ↔
      ∀ i < k, fitsClock (w.policy.delay i) = true := by
  constructor
  · intro halone i hi
    -- If some delay does not fit, the worker stands still at the first of them.
    rw [← Bool.not_eq_false]
    intro hunfit
    obtain ⟨j, hj⟩ : ∃ j, IsLeast {i | i < k ∧ fitsClock (w.policy.delay i) = false} j :=
      ⟨_, isLeast_csInf ⟨i, hi, hunfit⟩⟩
    rw [runAlone_of_not_fits hpasses hlimit hbefore hj
      fun i hi => hanswers i (hi.trans hj.1.1.le)] at halone
    exact absurd (congrArg Prod.snd halone) fun h => nomatch h
  · intro hfits
    obtain ⟨fuel, hfuel⟩ :=
      runAlone_eq_runFrom hpasses (fun i hi => hanswers i hi.le) hlimit hbefore hfits
    rw [hfuel, runFrom_of_ends hpasses (hanswers k le_rfl) hends]

end

end Worker

/-! ### What a node concludes -/

/-- The counts of an update fit the widths that they are kept in. -/
structure Update.FitsCounts (u : Update) : Prop where
  currentStep : ∀ step ∈ u.currentStep, step < 2 ^ 32
  tokensUsed : ∀ r ∈ u.agentResults, r.tokensUsed < 2 ^ 64

/-- What may come of a node whose last attempt has a given outcome. -/
inductive Node.Concludes (n : Node) (s : RunState) :
    Except Failure Completion → Except Failure Update → Prop
  /-- A failure that ends the run is passed on. -/
  | aborts {f : Failure} (hends : f.kind.endsRun = true) : n.Concludes s (.error f) (.error f)
  /-- Any other outcome is reported, and is one step more. -/
  | reports {o : Except Failure Completion} {u : Update} {r : AgentResult}
      (hgoes : ∀ f, o = .error f → f.kind.endsRun = false) (hreports : u.Reports n r)
      (hsuccess : r.status = .success ↔ ∃ c, o = .ok c)
      (hstep : u.currentStep = some (s.currentStep + 1)) (hfits : u.FitsCounts) :
      n.Concludes s o (.ok u)

namespace Node

variable {n : Node} {router : Router} {backoffMs : Nat} {s : RunState}

/-- A node makes at least one attempt. -/
theorem maxAttempts_pos : 0 < (n.worker router backoffMs).policy.maxAttempts :=
  Nat.lt_of_lt_of_le Nat.one_pos (Nat.le_max_right n.spec.retryCount 1)

/-- An update with one result has room for its counts if there is room for one more step and for the
tokens of the result. -/
theorem fitsCounts_of_room (hroom : s.currentStep + 1 < 2 ^ 32) {u : Update} {r : AgentResult}
    (hstep : u.currentStep = some (s.currentStep + 1)) (hresults : u.agentResults = [r])
    (htokens : r.tokensUsed < 2 ^ 64) : u.FitsCounts where
  currentStep step hmem := by
    rw [hstep, Option.mem_some] at hmem
    exact hmem ▸ hroom
  tokensUsed r' hmem := by
    rw [hresults, List.mem_singleton] at hmem
    exact hmem ▸ htokens

theorem concludes_conclusion (hroom : s.currentStep + 1 < 2 ^ 32) {o : Except Failure Completion}
    (htokens : ∀ c, o = .ok c → c.promptTokens + c.completionTokens < 2 ^ 64) :
    n.Concludes s o ((n.worker router backoffMs).conclusion s o) := by
  cases o with
  | ok c =>
    refine .reports (fun _ h => nomatch h) ⟨rfl, rfl, rfl, rfl, ?_⟩ ?_ rfl ?_
    · exact iff_of_false AgentStatus.noConfusion fun hne => hne rfl
    · exact iff_of_true rfl ⟨c, rfl⟩
    · exact fitsCounts_of_room hroom rfl rfl (htokens c rfl)
  | error f =>
    unfold Worker.conclusion
    dsimp only
    split
    · next hends => exact .aborts hends
    · next hends =>
      refine .reports ?_ ⟨rfl, rfl, rfl, rfl, ?_⟩ ?_ rfl ?_
      · rintro _ ⟨⟩
        exact Bool.not_eq_true _ ▸ hends
      · exact iff_of_true rfl (Option.some_ne_none _)
      · exact iff_of_false AgentStatus.noConfusion fun ⟨_, h⟩ => nomatch h
      · exact fitsCounts_of_room hroom rfl rfl (Nat.two_pow_pos 64)

/-- Every delay of an agent that may be part of a design can be waited for. -/
theorem fitsClock_of_le_retryLimit {k i : Nat} (hcount : n.spec.retryCount ≤ retryLimit)
    (hlast : k + 1 ≤ max n.spec.retryCount 1) (hunit : backoffMs < Nat.pow 2 64) (hi : i < k) :
    fitsClock (backoffMs * Nat.pow 2 (min i 10)) = true := by
  have hexponent : min i 10 ≤ 8 := by
    unfold retryLimit at hcount
    omega
  have hfactor : Nat.pow 2 (min i 10) ≤ 256 := Nat.pow_le_pow_right (by decide) hexponent
  have hdelay : backoffMs * Nat.pow 2 (min i 10) ≤ backoffMs * 256 := Nat.mul_le_mul_left _ hfactor
  unfold fitsClock
  exact decide_eq_true (by omega)

/-- **How often a node asks, how long it waits and what it concludes.**  It stops at the first
attempt that settles the matter or is the last it has, and concludes from the outcome of that one.
In virtual time, whatever the timer, it comes to this conclusion just if every delay fits the clock,
as all do for an agent that may be part of a design if the unit is one of 64 bits; else it stands
still at the first delay that does not fit. -/
theorem concludes_after_attempts (n : Node) (router : Router) (backoffMs : Nat) {s : RunState}
    (hpasses : s.design.injection = none) (hroom : s.currentStep + 1 < 2 ^ 32)
    (outcomes : Nat → Except Failure Completion)
    (htokens : ∀ i c, outcomes i = .ok c → c.promptTokens + c.completionTokens < 2 ^ 64) :
    let w := n.worker router backoffMs
    ∃ k, IsLeast {i | Settles (outcomes i) ∨ i + 1 = max n.spec.retryCount 1} k ∧
      ∃ outcome, n.Concludes s (outcomes k) outcome ∧
        w.transcript s outcomes = ⟨List.replicate (k + 1) (w.request s),
          (List.range k).map fun i => backoffMs * Nat.pow 2 (min i 10), outcome⟩ ∧
        (n.spec.retryCount ≤ retryLimit → backoffMs < Nat.pow 2 64 →
          ∀ i < k, fitsClock (backoffMs * Nat.pow 2 (min i 10)) = true) ∧
        ∀ {σ : Type} (b : Backend σ) (c : Clock σ),
          ((∀ i ≤ k, w.outcomeAt b router s c i = some (outcomes i)) →
            (w.runAlone b router s c = (w.clockAfter b router s c k, .ok outcome) ↔
              ∀ i < k, fitsClock (backoffMs * Nat.pow 2 (min i 10)) = true)) ∧
          ∀ j, IsLeast {i | i < k ∧ fitsClock (backoffMs * Nat.pow 2 (min i 10)) = false} j →
            (∀ i ≤ j, w.outcomeAt b router s c i = some (outcomes i)) →
            w.runAlone b router s c = (w.clockAfter b router s c j, .error .unmeasurable) := by
  intro w
  obtain ⟨k, hlimit, hends, hbefore⟩ := w.exists_first_ends maxAttempts_pos outcomes
  have hleast : IsLeast {i | w.Ends outcomes i} k :=
    ⟨hends, fun i hi => Nat.not_lt.mp fun hlt => hbefore i hlt hi⟩
  refine ⟨k, hleast, w.conclusion s (outcomes k), concludes_conclusion hroom (htokens k),
    Worker.transcript_of_ends hpasses hlimit hbefore hends,
    fun hcount hunit i hi => fitsClock_of_le_retryLimit hcount hlimit hunit hi, fun b c => ?_⟩
  exact ⟨Worker.runAlone_eq_conclusion_iff hpasses hlimit hbefore hends,
    fun j hj => Worker.runAlone_of_not_fits hpasses hlimit hbefore hj⟩

end Node

/-! ### Nodes that fail each time -/

/-- A backend that counts its calls and answers each at once with the same failure. -/
def failing (f : Failure) : Backend Nat where
  call calls _ _ := (calls + 1, some 0)
  answer calls _ := (calls, .error f)

/-- A node with a number of attempts. -/
def persistent (retryCount : Nat) : Node where
  id := "a"
  spec := { name := "a", role := "analyzer", model := "gpt-4o", retryCount }
  role := .analyzer
  routing := .terminal

/-- A router with one client. -/
def soleRouter : Router :=
  ⟨.shared, [.openai], []⟩

/-- A pipeline whose only agent makes a number of attempts. -/
def Node.alone (n : Node) : RunState :=
  RunState.initial { name := "d", agents := [n.spec] } 50 300

theorem outcomeAt_failing (f : Failure) (retryCount backoffMs : Nat) (s : RunState)
    (c : Clock Nat) (i : Nat) :
    ((persistent retryCount).worker soleRouter backoffMs).outcomeAt (failing f) soleRouter s c i =
      some (.error f) := by
  have hclient : soleRouter.clients[soleRouter.choose (Vendor.ofModelName? "gpt-4o")]? =
      some .openai := by decide
  unfold Worker.outcomeAt Clock.complete Router.plan
  rw [Worker.request, Node.worker, persistent]
  dsimp only
  rw [hclient]
  rfl

/-- If the failure may pass, the last attempt is the one that uses up their number. -/
theorem isLeast_persistent {f : Failure} (hgoes : f.kind.endsRun = false)
    (hpasses : f.kind.retryable = true) (retries : Nat) :
    IsLeast {i | Settles (.error f) ∨ i + 1 = max (persistent (retries + 1)).spec.retryCount 1}
      retries := by
  have hunsettled : ¬ Settles (.error f) := by
    simp [Settles, hgoes, hpasses]
  have hcount : max (persistent (retries + 1)).spec.retryCount 1 = retries + 1 :=
    Nat.max_eq_left (Nat.le_add_left 1 retries)
  rw [hcount]
  refine ⟨Or.inr rfl, fun i hi => ?_⟩
  rcases hi with hi | hi
  · exact absurd hi hunsettled
  · exact (Nat.succ.inj hi).ge

/-- Three attempts, 20 and 40 milliseconds apart, and then the failure is reported. -/
theorem Node.concludes_after_attempts_persistent : (persistent 3).alone.design.injection = none ∧
    (persistent 3).alone.currentStep + 1 < 2 ^ 32 ∧ ∃ outcome,
      (persistent 3).Concludes (persistent 3).alone (.error (.of .network "reset")) outcome ∧
      ((persistent 3).worker soleRouter 20).runAlone (failing (.of .network "reset")) soleRouter
        (persistent 3).alone { backend := 0 } = ({ now := 60, backend := 3 }, .ok outcome) := by
  have hscreened : (persistent 3).alone.design.injection = none := by decide +kernel
  have hroom : (persistent 3).alone.currentStep + 1 < 2 ^ 32 := by decide
  obtain ⟨k, hk, outcome, hconcludes, -, haccepted, halone⟩ :=
    concludes_after_attempts (persistent 3) soleRouter 20 hscreened hroom
      (fun _ => .error (.of .network "reset")) fun _ _ h => nomatch h
  obtain rfl : k = 2 := hk.unique (isLeast_persistent rfl rfl 2)
  refine ⟨hscreened, hroom, outcome, hconcludes, ?_⟩
  exact ((halone _ { backend := 0 }).1 fun i _ => outcomeAt_failing _ 3 20 _ _ i).mpr
    (haccepted (by decide) (by decide))

/-- Nodes that never conclude.  The first makes three attempts, as an agent does that does not say how
many, and has a unit of 2 ^ 63 seconds: the delay after its second attempt is 2 ^ 64 seconds, which
do not fit the clock, so the last attempt is never made.  The second has the largest unit of 64 bits
of milliseconds and twelve attempts, of which the last is never made. -/
theorem delay_not_waited_for :
    (∃ g, (persistent 3).alone.design.compile = .ok g ∧ persistent 3 ∈ g.nodes) ∧
    ∀ p ∈ [(2, 9223372036854775808000), (11, 18446744073709551615)],
      (persistent (p.1 + 1)).alone.design.injection = none ∧
      IsLeast {i | Settles (.error (.of .timeout "slow")) ∨
        i + 1 = max (persistent (p.1 + 1)).spec.retryCount 1} p.1 ∧
      (∀ i, ((persistent (p.1 + 1)).worker soleRouter p.2).outcomeAt
        (failing (.of .timeout "slow")) soleRouter (persistent (p.1 + 1)).alone { backend := 0 } i =
          some (.error (.of .timeout "slow"))) ∧
      (((persistent (p.1 + 1)).worker soleRouter p.2).runAlone
        (failing (.of .timeout "slow")) soleRouter (persistent (p.1 + 1)).alone { backend := 0 }).2 =
          .error .unmeasurable := by
  refine ⟨⟨_, rfl, by decide +kernel⟩, fun p hp => ?_⟩
  simp only [List.mem_cons, List.not_mem_nil, or_false] at hp
  rcases hp with rfl | rfl
  · exact ⟨by decide +kernel, isLeast_persistent rfl rfl 2,
      fun i => outcomeAt_failing _ 3 _ _ _ i, rfl⟩
  · exact ⟨by decide +kernel, isLeast_persistent rfl rfl 11,
      fun i => outcomeAt_failing _ 12 _ _ _ i, rfl⟩

end AgentPipeline
