import NodalArc.DispatchPlanner
import NodalArc.StableSort

/-! Commands to the Node Agents and what the Scheduler concludes from their replies: the interface
entries of each command, the chunks sent to each agent, the classification of each reply and the
verdict on each pair. -/

namespace NodalArc.Actuation

open OrderedDict
open GroundPolicy
open LinkRecord

abbrev AgentAddr := String

inductive Operation
  | batchLinkUp
  | batchLinkDown
  | setLatency
  | kernelInventory
  /-- A KernelInventory whose entries ask what an end carries instead of proving it. -/
  | kernelSurvey
deriving DecidableEq, Repr

/-- The stages of a LinkUp (PREPARE, OPEN) and of a LinkDown (STOP_ADMISSION, CLOSE). -/
inductive Stage
  | prepare
  | «open»
  | stopAdmission
  | close
deriving DecidableEq, Repr

inductive Locality
  | sameNode
  | crossNode
deriving DecidableEq, Repr

/-- One interface entry of a command.  `pair` is the link the Scheduler planned the entry for. -/
structure Entry where
  pair : Pair
  nodeId : NodeId
  interface : String
  peerNodeId : NodeId
  peerInterface : String
  linkType : LinkType
  locality : Locality
  contactId : Option Contact
  /-- What a read-only inventory expects of the interface; no other command says. -/
  expectedAdminUp : Option Bool := none
deriving DecidableEq

def Entry.terminal (entry : Entry) : Terminal := (entry.nodeId, entry.interface)

def Entry.peerTerminal (entry : Entry) : Terminal := (entry.peerNodeId, entry.peerInterface)

/-- The ends an entry acts on.  A local ground link between pods of one server is wired and torn
down at both ends by one entry; every other entry acts on its own end. -/
def Entry.ends (entry : Entry) : List Terminal :=
  if entry.linkType = .ground ∧ entry.locality = .sameNode ∧ entry.contactId = none then
    [entry.terminal, entry.peerTerminal]
  else [entry.terminal]

def Entry.expecting (adminUp : Bool) (entry : Entry) : Entry :=
  { entry with expectedAdminUp := some adminUp }

@[simp] theorem Entry.ends_expecting {adminUp : Bool} {entry : Entry} :
    (entry.expecting adminUp).ends = entry.ends := rfl

/-- The entries of one command, each with the agent it goes to, in the order they were planned. -/
abbrev BatchPlan := List (AgentAddr × Entry)

/-- One request of a command: a chunk of its entries to one agent. -/
structure Request where
  agent : AgentAddr
  operation : Operation
  stage : Option Stage
  entries : List Entry
deriving DecidableEq

inductive ErrorCode
  | unspecified
  | staleSession
  | staleGeneration
  | invalidEnvelope
  | staleWriter
  | other (code : Nat)
deriving DecidableEq, Repr

def ErrorCode.isFence : ErrorCode → Bool
  | .staleSession | .staleGeneration | .invalidEnvelope | .staleWriter => true
  | _ => false

/-- What a long-delay end's kernel carries, as a survey read it. -/
structure EndSurvey where
  carriedContactId : Option Contact
  admissionStopped : Bool
  receiveLatencyMs : ℚ
  carriedPeer : Option Terminal
deriving DecidableEq

structure EntryResult where
  nodeId : NodeId
  interface : String
  success : Bool
  errorCode : ErrorCode
  verified : Bool
  dirtyKernel : Bool
  loss : Option EndLossCounts
  survey : Option EndSurvey
deriving DecidableEq

def EntryResult.terminal (result : EntryResult) : Terminal := (result.nodeId, result.interface)

def EntryResult.acked (result : EntryResult) : Bool :=
  result.success && result.verified && !result.dirtyKernel

structure Response where
  success : Bool
  errorCode : ErrorCode
  dirtyKernel : Bool
  entries : List EntryResult
deriving DecidableEq

/-- The outcome of one request: a response, or an exception of the transport. -/
inductive Reply
  | answered (response : Response)
  | unreachable
deriving DecidableEq

def Reply.entries : Reply → List EntryResult
  | .answered response => response.entries
  | .unreachable => []

inductive FailureClass
  | none
  | fence
  | groundKernelDirty
  | groundUnknown
  | agentUnreachable
  | groundCleanFailure
  | islFailure
deriving DecidableEq, Repr

abbrev Ack := AgentAddr × Terminal

structure AgentCommandResult where
  agentAddr : AgentAddr
  requested : List Terminal
  successAcks : List Ack
  failureClass : FailureClass
  dirtyKernel : Bool
  unknownOutcome : Bool
  fenceFailure : Bool
  writerFenced : Bool
  endLosses : Dict Terminal EndLossCounts
  surveys : Dict Terminal EndSurvey

/-- The requested and the returned interfaces are the same and the aggregate verdict is the
conjunction of the entries' verdicts. -/
def shapeOk (requested : List Terminal) (response : Response) : Bool :=
  decide (∀ t ∈ requested, t ∈ response.entries.map EntryResult.terminal) &&
  decide (∀ t ∈ response.entries.map EntryResult.terminal, t ∈ requested) &&
  (response.success == response.entries.all EntryResult.success)

def responseFailureClass (requested : List Terminal) (response : Response) : FailureClass :=
  if response.errorCode.isFence || response.entries.any (·.errorCode.isFence) then .fence
  else if (response.dirtyKernel || response.entries.any (·.dirtyKernel)) ||
      response.entries.any (fun entry => entry.success && !entry.verified) then .groundKernelDirty
  else if !shapeOk requested response then .groundUnknown
  else if response.success then .none
  else .groundCleanFailure

def classifyAgentResponse (requested : List Terminal) (agentAddr : AgentAddr)
    (response : Response) : AgentCommandResult :=
  let failureClass := responseFailureClass requested response
  { agentAddr
    requested
    successAcks := (response.entries.filter EntryResult.acked).map fun entry =>
      (agentAddr, entry.terminal)
    failureClass
    dirtyKernel := response.dirtyKernel || response.entries.any (·.dirtyKernel) ||
      failureClass = .groundKernelDirty || failureClass = .groundUnknown
    unknownOutcome := failureClass = .groundUnknown
    fenceFailure := failureClass = .fence
    writerFenced := response.errorCode = .staleWriter ||
      response.entries.any (·.errorCode = .staleWriter)
    -- a dirty entry is not acknowledged, but what it reports losing is taken
    endLosses := .ofList (response.entries.filterMap fun entry =>
      if entry.success && entry.verified then entry.loss.map fun loss => (entry.terminal, loss)
      else none)
    surveys := .ofList (response.entries.filterMap fun entry =>
      if entry.success && entry.verified then
        entry.survey.map fun survey => (entry.terminal, survey)
      else none) }

def classifyAgentException (requested : List Terminal) (agentAddr : AgentAddr) :
    AgentCommandResult where
  agentAddr := agentAddr
  requested := requested
  successAcks := []
  failureClass := .agentUnreachable
  dirtyKernel := true
  unknownOutcome := true
  fenceFailure := false
  writerFenced := false
  endLosses := ∅
  surveys := ∅

/-- A request with the reply it got. -/
structure Exchange where
  request : Request
  reply : Reply
deriving DecidableEq

def Exchange.classify (exchange : Exchange) : AgentCommandResult :=
  let requested := exchange.request.entries.map Entry.terminal
  match exchange.reply with
  | .answered response => classifyAgentResponse requested exchange.request.agent response
  | .unreachable => classifyAgentException requested exchange.request.agent

def failurePrecedence : List FailureClass :=
  [.fence, .groundKernelDirty, .groundUnknown, .agentUnreachable, .groundCleanFailure,
    .islFailure]

/-- One result for all chunks sent to one agent.  A single chunk passes through verbatim; several
are merged into a new result, which carries no loss and no survey. -/
def mergeAgentResults (addr : AgentAddr) : List AgentCommandResult → AgentCommandResult
  | [] =>
      { agentAddr := addr, requested := [], successAcks := [], failureClass := .none
        dirtyKernel := false, unknownOutcome := false, fenceFailure := false
        writerFenced := false, endLosses := ∅, surveys := ∅ }
  | [result] => result
  | results =>
      { agentAddr := addr
        requested := results.flatMap AgentCommandResult.requested
        successAcks := results.flatMap AgentCommandResult.successAcks
        failureClass := (failurePrecedence.find? fun candidate =>
          results.any fun result => result.failureClass = candidate).getD .none
        dirtyKernel := results.any AgentCommandResult.dirtyKernel
        unknownOutcome := results.any AgentCommandResult.unknownOutcome
        fenceFailure := results.any AgentCommandResult.fenceFailure
        writerFenced := results.any AgentCommandResult.writerFenced
        endLosses := ∅
        surveys := ∅ }

structure PairActuationResult where
  pair : Pair
  linkType : Option LinkType
  gsId : Option NodeId
  expectedIfaces : List Ack
  successfulIfaces : List Ack
  failureClass : FailureClass

def PairActuationResult.Success (result : PairActuationResult) : Prop :=
  result.expectedIfaces ≠ [] ∧ ∀ ack ∈ result.expectedIfaces, ack ∈ result.successfulIfaces

instance (result : PairActuationResult) : Decidable result.Success :=
  inferInstanceAs (Decidable (_ ∧ _))

structure ActuationResult where
  operation : Operation
  pairResults : List PairActuationResult
  agentResults : List AgentCommandResult

namespace ActuationResult

def succeededPairs (result : ActuationResult) : List Pair :=
  (result.pairResults.filter fun r => r.Success).map PairActuationResult.pair

def failedPairs (result : ActuationResult) : List Pair :=
  (result.pairResults.filter fun r => ¬ r.Success).map PairActuationResult.pair

def fenceFailure (result : ActuationResult) : Bool :=
  result.agentResults.any AgentCommandResult.fenceFailure

def writerFenced (result : ActuationResult) : Bool :=
  result.agentResults.any AgentCommandResult.writerFenced

def HasFailures (result : ActuationResult) : Prop :=
  result.failedPairs ≠ [] ∨ ∃ r ∈ result.agentResults, r.failureClass ≠ .none

instance (result : ActuationResult) : Decidable result.HasFailures :=
  inferInstanceAs (Decidable (_ ∨ _))

def endLosses (result : ActuationResult) : Dict Terminal EndLossCounts :=
  .ofList (result.agentResults.flatMap fun r => r.endLosses.entries)

def surveys (result : ActuationResult) : Dict Terminal EndSurvey :=
  .ofList (result.agentResults.flatMap fun r => r.surveys.entries)

end ActuationResult

def pairFailureClass (involved : List AgentCommandResult) (linkType : Option LinkType) :
    FailureClass :=
  let seen := fun failureClass => involved.any fun r => r.failureClass = failureClass
  if seen .fence then .fence
  else if linkType = some .isl ∧ involved.any (fun r => r.failureClass ≠ .none) then .islFailure
  else if involved = [] then if linkType = some .isl then .islFailure else .groundUnknown
  else if seen .groundKernelDirty then .groundKernelDirty
  else if seen .groundUnknown then .groundUnknown
  else if seen .groundCleanFailure then .groundCleanFailure
  else .none

/-- The acknowledgements a pair needs: one for each entry planned for it. -/
def expectedAcks (plan : BatchPlan) (pair : Pair) : List Ack :=
  (plan.filter fun planned => planned.2.pair = pair).map fun planned =>
    (planned.1, planned.2.terminal)

/-- Whether an agent's result bears on the acknowledgements a pair needs. -/
def AgentCommandResult.Involves (result : AgentCommandResult) (expected : List Ack) : Prop :=
  (∃ ack ∈ result.successAcks, ack ∈ expected) ∨
    ∃ terminal ∈ result.requested, (result.agentAddr, terminal) ∈ expected

instance (result : AgentCommandResult) (expected : List Ack) :
    Decidable (result.Involves expected) :=
  inferInstanceAs (Decidable (_ ∨ _))

def pairActuationResult (plan : BatchPlan) (agentResults : List AgentCommandResult)
    (linkType : Pair → Option LinkType) (gsId : Pair → Option NodeId) (pair : Pair) :
    PairActuationResult :=
  let expected := expectedAcks plan pair
  { pair
    linkType := linkType pair
    gsId := gsId pair
    expectedIfaces := expected
    successfulIfaces := (agentResults.flatMap AgentCommandResult.successAcks).filter (· ∈ expected)
    failureClass := pairFailureClass (agentResults.filter (·.Involves expected)) (linkType pair) }

def buildActuationResult (operation : Operation) (requestedPairs : List Pair) (plan : BatchPlan)
    (linkType : Pair → Option LinkType) (gsId : Pair → Option NodeId)
    (agentResults : List AgentCommandResult) : ActuationResult where
  operation := operation
  pairResults := requestedPairs.map (pairActuationResult plan agentResults linkType gsId)
  agentResults := agentResults

def maxInterfacesPerCommand : Nat := 64

/-- Consecutive chunks of at most 64 entries. -/
def chunks (entries : List Entry) : List (List Entry) :=
  (List.range ((entries.length + (maxInterfacesPerCommand - 1)) / maxInterfacesPerCommand)).map
    fun i => (entries.drop (maxInterfacesPerCommand * i)).take maxInterfacesPerCommand

def planAgents (plan : BatchPlan) : List AgentAddr :=
  (plan.map Prod.fst).reverse.dedup.reverse

def agentEntries (plan : BatchPlan) (agent : AgentAddr) : List Entry :=
  (plan.filter fun planned => planned.1 = agent).map Prod.snd

/-- Inventories are asked for in the order of the agents' addresses, other commands are sent as the
agents come up in their plans. -/
def inAgentOrder (plan : BatchPlan) : BatchPlan := StableSort.sortOn Prod.fst plan

theorem mem_inAgentOrder {planned : AgentAddr × Entry} {plan : BatchPlan} :
    planned ∈ inAgentOrder plan ↔ planned ∈ plan := StableSort.sortOn_perm.mem_iff

/-- Every request of a command, agent by agent and chunk by chunk. -/
def planRequests (operation : Operation) (stage : Option Stage) (plan : BatchPlan) :
    List Request :=
  (planAgents plan).flatMap fun agent => (chunks (agentEntries plan agent)).map fun entries =>
    { agent, operation, stage, entries }

/-- What each agent answered, merged over its chunks. -/
def agentResults (plan : BatchPlan) (exchanges : List Exchange) : List AgentCommandResult :=
  (planAgents plan).map fun agent => mergeAgentResults agent
    ((exchanges.filter fun exchange => exchange.request.agent = agent).map Exchange.classify)

end NodalArc.Actuation
