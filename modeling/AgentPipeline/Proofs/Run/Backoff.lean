import AgentPipeline.Config.Basic
import AgentPipeline.Proofs.Graph.Acceptance
import AgentPipeline.Proofs.Run.Accumulation
import AgentPipeline.Proofs.Run.Attempts
import AgentPipeline.Proofs.Run.Simulation

/-!
# The delays of a run

The largest unit of 64 bits, doubled as often as the policy allows, does not fit the clock.  But the
agents of a design that compiles have no more than ten attempts, and no delay follows the last of
them.  So none is ever doubled more than eight times, which neither the cap on the exponent nor the
clock comes to notice.

## Main results

* `Worker.react_eq_retryAfter_iff` — when a worker waits after an attempt, and for how long.
* `Worker.exists_delays_transcript` — the delays between the attempts of a worker.
* `Node.delay_eq`, `Node.fitsClock_delay` — what the delays of a compiled node are.
* `Node.exists_delays_transcript` — all of them, one after the other.
* `Design.delays_doubled` — **in a run every delay is the unit doubled once for each attempt
  before**, and it can be waited for.
-/

namespace AgentPipeline

/-! ### The delays of a worker -/

namespace Worker

variable {w : Worker}

/-- A worker waits after an attempt that settles nothing if another one is left. -/
theorem react_eq_retryAfter_iff {s : RunState} {attempt ms : Nat}
    {outcome : Except Failure Completion} :
    w.react s attempt outcome = .retryAfter ms ↔
      ¬ Settles outcome ∧ attempt + 1 < w.policy.maxAttempts ∧ ms = w.policy.delay attempt := by
  constructor
  · intro h
    have hnext := lt_maxAttempts_of_react h
    -- Had the attempt ended the work, the worker would not wait.
    have hends : ¬ w.Ends (fun _ => outcome) attempt := by
      intro hends
      have hfinish : w.react s attempt outcome = .finish _ := react_of_ends hends
      rw [hfinish] at h
      cases h
    have hretry : w.react s attempt outcome = .retryAfter _ := react_of_not_ends (by omega) hends
    rw [hretry] at h
    exact ⟨(not_or.mp hends).1, hnext, (Reaction.retryAfter.inj h).symm⟩
  · rintro ⟨hunsettled, hnext, rfl⟩
    have hends : ¬ w.Ends (fun _ => outcome) attempt := not_or.mpr ⟨hunsettled, by omega⟩
    exact react_of_not_ends (by omega) hends

/-- A worker waits after each of its requests but the last, and makes no more requests than it has
attempts. -/
theorem exists_delays_transcript (hpos : 0 < w.policy.maxAttempts) (s : RunState)
    (outcomes : Nat → Except Failure Completion) :
    ∃ k < w.policy.maxAttempts, (w.transcript s outcomes).requests.length - 1 = k ∧
      (w.transcript s outcomes).delays = (List.range k).map w.policy.delay := by
  cases hscreened : s.design.injection with
  | some found =>
    -- A design that is refused needs no request, and so no delay.
    have hrefused : w.transcript s outcomes =
        ⟨[], [], .ok (w.failed s rejection.message)⟩ := by
      rw [transcript, refusal, hscreened, Option.map_some]
    rw [hrefused]
    exact ⟨0, hpos, rfl, rfl⟩
  | none =>
    obtain ⟨k, hk, hends, hbefore⟩ := exists_first_ends hpos outcomes
    rw [transcript_of_ends hscreened hk hbefore hends]
    exact ⟨k, hk, by rw [List.length_replicate, Nat.add_sub_cancel], rfl⟩

section

variable {σ : Type} {b : Backend σ} {s : RunState}
  (hfits : ∀ i, i + 1 < w.policy.maxAttempts → fitsClock (w.policy.delay i) = true)
include hfits

theorem moveAfter_ne_unmeasurable (attempt : Nat) (outcome : Except Failure Completion) :
    w.moveAfter b s attempt outcome ≠ .stuck .unmeasurable := by
  unfold moveAfter
  cases hreact : w.react s attempt outcome with
  | finish _ => exact fun h => nomatch h
  | retryAfter ms =>
    -- The delay is one that another attempt follows, and so it fits the clock.
    obtain ⟨-, hnext, rfl⟩ := react_eq_retryAfter_iff.mp hreact
    dsimp only
    rw [if_pos (hfits attempt hnext)]
    exact fun h => nomatch h

/-- A worker whose delays all fit the clock never stands still for one of them. -/
theorem move_ne_unmeasurable (b : Backend σ) (router : Router) (c : Clock σ) (stage : Stage) :
    (w.move b router s c stage).2 ≠ .stuck .unmeasurable := by
  cases stage with
  | answered attempt call => exact moveAfter_ne_unmeasurable hfits _ _
  | attempting attempt =>
    unfold move
    dsimp only
    split
    · exact fun h => nomatch h
    · split
      · exact moveAfter_ne_unmeasurable hfits _ _
      · split
        · exact fun h => nomatch h
        · exact fun h => nomatch h

end

end Worker

/-! ### The delays of compiled nodes -/

namespace AgentSpec

theorem retryCount_le_of_check {a : AgentSpec} (h : a.check = .ok ()) :
    a.retryCount ≤ retryLimit := by
  unfold check at h
  split_ifs at h with _ _ _ hmany
  exact Nat.le_of_not_lt hmany

end AgentSpec

namespace Node

variable {n : Node} {router : Router} {backoffMs : Nat}

/-- A compiled node has no more attempts than any agent may have. -/
theorem retryCount_le_of_compile {d : Design} {g : Graph} (hd : d.compile = .ok g)
    (hn : n ∈ g.nodes) : n.spec.retryCount ≤ retryLimit := by
  have hspec : n.spec ∈ d.agents := by
    rw [← Design.specs_of_compile hd]
    exact List.mem_map_of_mem hn
  have hchecked := (Design.checkAgents_eq_ok_iff.mp (Design.compile_eq_ok_iff.mp hd).1).2
  exact AgentSpec.retryCount_le_of_check (hchecked n.spec hspec)

section

variable (hcount : n.spec.retryCount ≤ retryLimit) {i : Nat}
  (hi : i + 1 < max n.spec.retryCount 1)
include hcount hi

/-- An attempt that another one follows is too early for the cap on the exponent. -/
theorem lt_maxBackoffExponent : i < maxBackoffExponent := by
  unfold retryLimit at hcount
  unfold maxBackoffExponent
  omega

theorem delay_eq : (n.worker router backoffMs).policy.delay i = backoffMs * Nat.pow 2 i := by
  unfold worker RetryPolicy.ofCount RetryPolicy.delay
  rw [Nat.min_eq_left (lt_maxBackoffExponent hcount hi).le]

theorem fitsClock_delay (hunit : backoffMs < Nat.pow 2 64) :
    fitsClock ((n.worker router backoffMs).policy.delay i) = true :=
  fitsClock_of_le_retryLimit hcount hi hunit (Nat.lt_succ_self i)

end

/-- Between the attempts of a compiled node the unit is doubled each time. -/
theorem exists_delays_transcript (hcount : n.spec.retryCount ≤ retryLimit) (router : Router)
    (backoffMs : Nat) (s : RunState) (outcomes : Nat → Except Failure Completion) :
    let t := (n.worker router backoffMs).transcript s outcomes
    ∃ k < max n.spec.retryCount 1, t.requests.length - 1 = k ∧
      t.delays = (List.range k).map fun i => backoffMs * Nat.pow 2 i := by
  intro t
  obtain ⟨k, hk, hrequests, hdelays⟩ :=
    Worker.exists_delays_transcript maxAttempts_pos s outcomes
  refine ⟨k, hk, hrequests, hdelays.trans (List.map_congr_left fun i hi => delay_eq hcount ?_)⟩
  exact Nat.lt_of_le_of_lt (List.mem_range.mp hi) hk

end Node

/-- Delays that double grow, unless there is nothing to double. -/
theorem pairwise_lt_doubled {unitMs : Nat} (hpos : 0 < unitMs) (k : Nat) :
    ((List.range k).map fun i => unitMs * Nat.pow 2 i).Pairwise (· < ·) := by
  rw [List.pairwise_map]
  refine List.pairwise_lt_range.imp fun {i j} hij => ?_
  exact Nat.mul_lt_mul_of_pos_left (Nat.pow_lt_pow_right (by decide) hij) hpos

namespace Design

/-- **In a run every delay is the unit doubled once for each attempt before.**  Whatever the
settings, the agents of a design that compiles wait only after attempts that another one follows.
The cap on the exponent comes after all of these, and their delays fit the clock, so that no agent
ever stands still for one. -/
theorem delays_doubled {d : Design} {g : Graph} (hd : d.compile = .ok g)
    {settings : EngineSettings} (hunit : settings.backoffBaseMs < Nat.pow 2 64)
    (router : Router) :
    g.nodes.map Node.spec = d.agents ∧ ∀ n ∈ g.nodes,
      let w := n.worker router settings.limits.backoffMs
      (∀ s attempt outcome ms, w.react s attempt outcome = .retryAfter ms ↔
        ¬ Settles outcome ∧ attempt + 1 < max n.spec.retryCount 1 ∧
          ms = w.policy.delay attempt) ∧
      (∀ attempt, attempt + 1 < max n.spec.retryCount 1 →
        attempt < maxBackoffExponent ∧
          w.policy.delay attempt = settings.backoffBaseMs * Nat.pow 2 attempt ∧
          fitsClock (w.policy.delay attempt) = true) ∧
      (∀ s outcomes, ∃ k < max n.spec.retryCount 1,
        (w.transcript s outcomes).requests.length - 1 = k ∧
          (w.transcript s outcomes).delays =
            (List.range k).map fun i => settings.backoffBaseMs * Nat.pow 2 i) ∧
      (0 < settings.backoffBaseMs → ∀ s outcomes,
        (w.transcript s outcomes).delays.Pairwise (· < ·)) ∧
      ∀ {σ : Type} (b : Backend σ) (s : RunState) (c : Clock σ) (stage : Stage),
        (w.move b router s c stage).2 ≠ .stuck .unmeasurable := by
  refine ⟨specs_of_compile hd, fun n hn => ?_⟩
  intro w
  have hcount := Node.retryCount_le_of_compile hd hn
  have hfits : ∀ i, i + 1 < max n.spec.retryCount 1 → fitsClock (w.policy.delay i) = true :=
    fun i hi => Node.fitsClock_delay hcount hi hunit
  refine ⟨fun s attempt outcome ms => Worker.react_eq_retryAfter_iff,
    fun i hi => ⟨Node.lt_maxBackoffExponent hcount hi, Node.delay_eq hcount hi, hfits i hi⟩,
    Node.exists_delays_transcript hcount router _, ?_,
    fun b s c stage => Worker.move_ne_unmeasurable hfits b router c stage⟩
  intro hne s outcomes
  obtain ⟨k, -, -, hdelays⟩ :=
    Node.exists_delays_transcript hcount router settings.limits.backoffMs s outcomes
  rw [hdelays]
  exact pairwise_lt_doubled hne k

/-- The settings with the largest unit of 64 bits. -/
def slowest : EngineSettings where
  backoffBaseMs := 18446744073709551615

/-- A worker with as many attempts as an agent may have, and with the largest unit. -/
def tireless : Worker :=
  (persistent 10).worker soleRouter slowest.limits.backoffMs

/-- When all of its ten attempts fail, the last of its nine delays is 256 units, which it can wait
for. -/
theorem delays_doubled_tireless :
    (persistent 10).alone.design.compile = .ok (Graph.chain (persistent 10).alone.design) ∧
    slowest.backoffBaseMs < Nat.pow 2 64 ∧
    persistent 10 ∈ (Graph.chain (persistent 10).alone.design).nodes ∧
    fitsClock (tireless.policy.delay 8) = true ∧
    (tireless.transcript (persistent 10).alone fun _ => .error (.of .timeout "slow")).delays =
      (List.range 9).map (fun i => 18446744073709551615 * Nat.pow 2 i) ∧
    (tireless.transcript (persistent 10).alone
      fun _ => .error (.of .timeout "slow")).delays.Pairwise (· < ·) := by
  have hcompile : (persistent 10).alone.design.compile =
      .ok (Graph.chain (persistent 10).alone.design) := by decide +kernel
  have hunit : slowest.backoffBaseMs < Nat.pow 2 64 := by decide
  have hmem : persistent 10 ∈ (Graph.chain (persistent 10).alone.design).nodes := by
    decide +kernel
  have hrequests : (tireless.transcript (persistent 10).alone
      fun _ => .error (.of .timeout "slow")).requests.length - 1 = 9 := by decide +kernel
  obtain ⟨-, hnodes⟩ := delays_doubled hcompile hunit soleRouter
  obtain ⟨-, hdelay, htranscript, hgrows, -⟩ := hnodes (persistent 10) hmem
  obtain ⟨k, -, hk, hdelays⟩ :=
    htranscript (persistent 10).alone fun _ => .error (.of .timeout "slow")
  obtain rfl : k = 9 := hk.symm.trans hrequests
  exact ⟨hcompile, hunit, hmem, (hdelay 8 (by decide)).2.2, hdelays, hgrows (by decide) _ _⟩

end Design

end AgentPipeline
