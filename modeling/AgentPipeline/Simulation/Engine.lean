import AgentPipeline.Run.Ending
import AgentPipeline.Simulation.Backend

/-!
# Whole runs in virtual time

One task works at a time, first in first out.  A task works until it has to wait; when no task can
work, the time jumps to the next moment at which one wakes up.  Tasks that wake up at one moment do
so in the order in which they began to wait, and those that wake up at the time limit may still
work.

## Main definitions

* `Task` — a launched node at some stage.
* `World` — a run with its tasks, ready or asleep.
* `World.step` — the next thing that happens.
* `Design.simulate` — the outcome of a design.
-/

namespace AgentPipeline

/-- What stays the same during a run. -/
structure Scene (σ : Type) where
  backend : Backend σ
  router : Router
  limits : RunLimits
  graph : Graph

/-- A launched node at some stage. -/
structure Task where
  node : Nat
  worker : Worker
  /-- The state when it was launched. -/
  snapshot : RunState
  stage : Stage

/-- A run with its tasks. -/
structure World (σ : Type) where
  clock : Clock σ
  run : Run
  /-- The tasks that can work, in the order in which they will. -/
  ready : List Task
  /-- The tasks that wait, with the times at which they wake up, in the order in which they began to
  wait.  Tasks that are stuck are not among them. -/
  asleep : List (Nat × Task) := []

/-- Whether a run goes on. -/
inductive Progress (σ : Type) where
  | going (world : World σ)
  | ended (world : World σ) (ending : Ending)

variable {σ : Type}

/-- A task for each of the given nodes. -/
def Scene.tasks (scene : Scene σ) (s : RunState) (nodes : List Nat) : List Task :=
  nodes.filterMap fun i => scene.graph.nodes[i]?.map fun n =>
    ⟨i, n.worker scene.router scene.limits.backoffMs, s, .attempting 0⟩

namespace World

/-- A run whose entries have been launched. -/
def start (scene : Scene σ) (s : RunState) (backend : σ) : World σ where
  clock := { backend }
  run := Run.begin scene.graph s
  ready := scene.tasks s scene.graph.entries

/-- A task does what it has to do at its stage. -/
def work (scene : Scene σ) (w : World σ) (t : Task) (others : List Task) : Progress σ :=
  match t.worker.move scene.backend scene.router t.snapshot w.clock t.stage with
  | (clock, .next stage 0) => .going { w with clock, ready := { t with stage } :: others }
  | (clock, .next stage ms) =>
    .going { w with
      clock, ready := others, asleep := w.asleep ++ [(clock.now + ms, { t with stage })] }
  | (clock, .stuck _) => .going { w with clock, ready := others }
  | (clock, .done (.error f)) => .ended { w with clock, ready := others } (.aborted f)
  | (clock, .done (.ok update)) =>
    let (run, launched) := Run.complete scene.graph w.run t.node update
    .going { w with clock, run, ready := others ++ scene.tasks run.state launched }

/-- The world at its time limit. -/
def timeOut (scene : Scene σ) (w : World σ) : Progress σ :=
  let now := scene.backend.waits scene.limits.timeoutMs
  .ended { w with clock := { w.clock with now } } .timedOut

/-- The time jumps to the next moment at which a task wakes up. -/
def wake (scene : Scene σ) (w : World σ) : Progress σ :=
  match (w.asleep.map (·.1)).min? with
  | none => if w.run.schedule.running.isEmpty then .ended w .drained else w.timeOut scene
  | some time =>
    if scene.backend.waits scene.limits.timeoutMs < time then w.timeOut scene
    else
      let (woken, asleep) := w.asleep.partition fun t => t.1 == time
      .going { w with
        clock := { w.clock with now := time }, ready := woken.map (·.2), asleep }

/-- The next thing that happens. -/
def step (scene : Scene σ) (w : World σ) : Progress σ :=
  match w.ready with
  | [] => w.wake scene
  | t :: others => w.work scene t others

/-- A run to its end; `fuel` bounds the number of steps. -/
def finish (scene : Scene σ) : (fuel : Nat) → World σ → World σ × Ending
  | 0, w => (w, .timedOut)
  | fuel + 1, w =>
    match w.step scene with
    | .going w => finish scene fuel w
    | .ended w ending => (w, ending)

end World

/-- More than the number of steps of a run: every stage of a node may have to be waited for. -/
def Scene.stepLimit (scene : Scene σ) : Nat :=
  (scene.graph.nodes.map fun n =>
    2 * (n.worker scene.router scene.limits.backoffMs).stageLimit).foldr (· + ·) 1

/-- The outcome of a design in virtual time, and the clock at its end. -/
def Design.simulate (b : Backend σ) (router : Router) (limits : RunLimits) (runId : String)
    (backend : σ) (d : Design) : Outcome × Clock σ :=
  match d.compile with
  | .error defect => (defect.outcome d 0, { backend })
  | .ok graph =>
    let scene : Scene σ := ⟨b, router, limits, graph⟩
    let start := World.start scene (limits.initialState d) backend
    let (w, ending) := World.finish scene scene.stepLimit start
    (ending.outcome limits router.secrets runId graph w.run 0, w.clock)

end AgentPipeline
