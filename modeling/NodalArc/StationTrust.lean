import NodalArc.GroundRecovery

/-! Runs in which reconcile passes and the proofs of untrusted stations alternate.  A pass handles
the result of each command right after it, before it touches the records again, so what its
failures leave remembered is read off the commands in its log; the desired links are read when a
failure is handled, and messages may have changed them by then. -/

namespace NodalArc.StationTrust

open OrderedDict
open GroundPolicy
open LinkRecord
open DispatchPlanner
open Actuation
open NodeAgentBatches
open DispatchActuator
open CommandVerdict
open Reconcile
open SchedulerRuns
open GroundRecovery
open StatefulProgram
open StatefulProgram.Program

variable (config : SchedulerConfig)

/-! ### The failures of a command -/

def FailedOf (sent : SentCommand) (gsId : NodeId) (planned : AgentAddr × Entry) : Prop :=
  OfStation config gsId planned.2.pair planned.2.linkType ∧
    ¬ AckedIn sent.exchanges (planned.1, planned.2.terminal)

instance (sent : SentCommand) (gsId : NodeId) (planned : AgentAddr × Entry) :
    Decidable (FailedOf config sent gsId planned) := inferInstanceAs (Decidable (_ ∧ _))

/-- The station's pairs that failed: a pair fails with any of its entries. -/
def failedPairsOf (sent : SentCommand) (gsId : NodeId) : List Pair :=
  ((sent.plan.filter fun planned => FailedOf config sent gsId planned).map fun planned =>
    planned.2.pair).dedup

def stationsOf (sent : SentCommand) : List NodeId :=
  (sent.plan.filterMap fun planned => gsIdForPair planned.2.pair config.gsCapacities).dedup

def failedStationsOf (sent : SentCommand) : List NodeId :=
  (stationsOf config sent).filter fun gsId => failedPairsOf config sent gsId ≠ []

/-- The terminals a command addressed for the station's pairs that failed. -/
def addressedOf (sent : SentCommand) (gsId : NodeId) : List (Pair × Terminal) :=
  (sent.plan.filter fun planned => planned.2.pair ∈ failedPairsOf config sent gsId).flatMap
    fun planned => planned.2.ends.map fun terminal => (planned.2.pair, terminal)

/-- The records when the failures of a command are handled: a delay change has recorded the links
it changed by then. -/
def actualWhenHandled (desired : Dict Pair LinkInfo) (sent : SentCommand) :
    Dict Pair ActiveLinkInfo :=
  if sent.operation = .setLatency then
    let changed := (sent.plan.map fun planned => planned.2.pair).filter fun pair =>
      ∀ ack ∈ expectedAcks sent.plan pair, AckedIn sent.exchanges ack
    sent.heldActual.update (.ofList (changed.filterMap fun pair =>
      ((desired.get? pair).map LinkInfo.activate).map fun info => (pair, info)))
  else sent.heldActual

/-! ### Runs -/

/-- The Scheduler with what it owes a proof of: for each station the terminals, with their pairs,
of every failure since the station was last clean. -/
structure Ledger where
  recovery : Recovery
  owed : NodeId → List (Pair × Terminal)

def noteFailure (desired : Dict Pair LinkInfo) (view : NodeId → DesiredView) (sent : SentCommand)
    (l : Ledger) (gsId : NodeId) : Ledger where
  recovery := rememberNonclean config (actualWhenHandled desired sent) (view gsId) gsId
    (failedPairsOf config sent gsId) l.recovery
  owed := Function.update l.owed gsId (l.owed gsId ++ addressedOf config sent gsId)

def noteCommand (desired : Dict Pair LinkInfo) (views : Nat → NodeId → DesiredView) (l : Ledger)
    (sent : SentCommand × Nat) : Ledger :=
  (failedStationsOf config sent.1).foldl (noteFailure config desired (views sent.2) sent.1) l

def Event.command? : Event → Option SentCommand
  | .command sent => some sent
  | _ => none

def newCommands (before after : List Event) : List SentCommand :=
  ((after.take (after.length - before.length)).filterMap Event.command?).reverse

theorem newCommands_append (events before : List Event) :
    newCommands before (events ++ before) = (events.filterMap Event.command?).reverse := by
  unfold newCommands
  rw [List.length_append, Nat.add_sub_cancel, List.take_left]

/-- A step: the due proof of a station, or a pass with the desired links as each of its commands'
failures is handled. -/
inductive TrustStep
  | verify (gsId : NodeId) (surroundings : Surroundings)
  | pass (turn : Turn) (views : Nat → NodeId → DesiredView)

def onRecovery {α : Type} (m : RecoveryM α) : Program SchedulerError Ledger α :=
  zoom Ledger.recovery (fun r l => { l with recovery := r }) m

def startedFrom (r : Recovery) (turn : Turn) : Turn :=
  { turn with intent := { turn.intent with verified := r.scheduler.gsActuation } }

def takeStep : TrustStep → Program SchedulerError Ledger Unit
  | .verify gsId surroundings => do
      let l ← get
      «when» ((l.recovery.scheduler.gsActuation gsId).state ≠ .clean) do
        onRecovery (verifyGsAgainstCurrentAuthority config surroundings gsId)
        modify fun l =>
          if (l.recovery.scheduler.gsActuation gsId).state = .clean then
            { l with owed := Function.update l.owed gsId [] }
          else l
  | .pass turn views => do
      let before ← get
      onRecovery (onScheduler (runTurn config (startedFrom before.recovery turn)))
      modify fun l =>
        (newCommands before.recovery.scheduler.log l.recovery.scheduler.log).zipIdx.foldl
          (noteCommand config turn.intent.desired views) l

/-- A Scheduler that just started: nothing is held, remembered or owed. -/
def freshLedger : Ledger where
  recovery := {
    scheduler := freshScheduler
    staleLinkInfos := ∅
    stalePairs := fun _ => []
    stale_ground := by simp }
  owed := fun _ => []

end NodalArc.StationTrust
