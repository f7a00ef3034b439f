import NodalArc.HeldRecords

/-! Runs of reconcile passes.  A turn fixes what the Scheduler is told before a pass and everything
it reads from outside while the pass runs. -/

namespace NodalArc.SchedulerRuns

open GroundPolicy
open LinkRecord
open Actuation
open NodeAgentBatches
open DispatchActuator
open CommandVerdict
open Reconcile
open HeldRecords
open StatefulProgram

/-- One turn: the epoch of the last accepted snapshot, whether the counters are re-derived first,
the intent the pass reconciles toward, and the surroundings it runs in. -/
structure Turn where
  epochId : Nat
  rebaseline : Bool
  intent : DispatchIntent
  surroundings : Surroundings

def Turn.begin (config : SchedulerConfig) (turn : Turn) (s : Scheduler) : Scheduler :=
  let s := if turn.rebaseline then rebaselineActiveCounts config s else s
  { s with lastSnapshotEpochId := turn.epochId }

variable {config : SchedulerConfig} {turn : Turn} {s : Scheduler}

theorem Turn.begin_eq (config : SchedulerConfig) (turn : Turn) (s : Scheduler) : ∃ gsActiveCount satActiveCount,
    turn.begin config s =
      { s with gsActiveCount, satActiveCount, lastSnapshotEpochId := turn.epochId } := by
  unfold Turn.begin
  split
  · obtain ⟨gs, sat, heq⟩ := rebaselineActiveCounts_eq config s
    exact ⟨gs, sat, by rw [heq]⟩
  · exact ⟨_, _, rfl⟩

@[simp] theorem record?_begin {key : RecordKey} : record? (turn.begin config s) key = record? s key := by
  obtain ⟨_, _, heq⟩ := Turn.begin_eq config turn s
  rw [heq]
  exact record?_congr rfl rfl

@[simp] theorem log_begin : (turn.begin config s).log = s.log := by
  obtain ⟨_, _, heq⟩ := Turn.begin_eq config turn s
  rw [heq]

@[simp] theorem actualLinks_begin : (turn.begin config s).actualLinks = s.actualLinks := by
  obtain ⟨_, _, heq⟩ := Turn.begin_eq config turn s
  rw [heq]

@[simp] theorem epochId_begin : (turn.begin config s).lastSnapshotEpochId = turn.epochId := rfl

def runTurn (config : SchedulerConfig) (turn : Turn) : SchedulerM Unit := do
  modify (turn.begin config)
  reconcileLinks config turn.surroundings turn.intent

/-- Every state reached by turns that are each allowed where they are taken.  A pass that raises
stops the dispatcher. -/
abbrev PassRuns (config : SchedulerConfig) (allowed : Scheduler → Turn → Prop) (start : Scheduler) :
    Option SchedulerError → Scheduler → Prop :=
  Runs (runTurn config) allowed start

/-- A Scheduler that just started and holds nothing. -/
def freshScheduler : Scheduler where
  actualLinks := ∅
  overlapping := ∅
  gsActiveCount := fun _ => 0
  satActiveCount := fun _ => 0
  gsActuation := fun _ => {}
  lastSnapshotEpochId := 0
  stageLosses := fun _ => ∅
  requests := 0
  readings := 0
  log := []

/-! ### Agents that answer by the request -/

/-- The reply of an agent that answers every entry of a request alike. -/
def uniformReply (succeeds : Bool) (request : Request) : Reply :=
  .answered {
    success := succeeds
    errorCode := .unspecified
    dirtyKernel := false
    entries := request.entries.map fun entry =>
      { nodeId := entry.nodeId, interface := entry.interface, success := succeeds
        errorCode := .unspecified, verified := true, dirtyKernel := false, loss := none
        survey := none } }

/-- Surroundings whose agents refuse the requests of a kind and acknowledge every other, on a clock
that ticks once a reading. -/
def surroundingsRefusing (refuses : Request → Bool) : Surroundings where
  agents := fun _ request => uniformReply (!refuses request) request
  clock := fun reading => reading
  compensable := fun _ _ => true

theorem acknowledges_all (operation : Operation) (stage : Stage) (pair : Pair) :
    Acknowledges (surroundingsRefusing fun _ => false) operation stage pair := by
  intro n request _ _ entry hentry _
  exact ⟨_, List.mem_map_of_mem hentry, rfl, rfl⟩

end NodalArc.SchedulerRuns
