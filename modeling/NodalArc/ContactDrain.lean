import NodalArc.LinkRecord
import NodalArc.StatefulProgram

/-! The order of a long-delay contact's commands: open, stop admission, close each end.  The plan
of one reconcile is decided pair by pair from the contact the Scheduler holds and the contact the
desired state names. -/

namespace NodalArc.ContactDrain

open OrderedDict
open GroundPolicy
open LinkRecord

def terminals (info : LinkInfo) : String × String := (info.interfaceA, info.interfaceB)

def endTerminals (pair : Pair) (info : LinkInfo) : List Terminal :=
  [(pair.1, info.interfaceA), (pair.2, info.interfaceB)]

/-- The ends of a contact not yet closed: both while open, the draining ones while draining. -/
def remainingEnds (pair : Pair) (info : ActiveLinkInfo) : List NodeId :=
  match info.drain with
  | none => [pair.1, pair.2]
  | some drain => drain.ends.map DrainingEnd.nodeId

def endsOn (info : ActiveLinkInfo) (wanted : List Terminal) : List NodeId :=
  match info.drain with
  | none => []
  | some drain => (drain.ends.filter fun e => e.terminal ∈ wanted).map DrainingEnd.nodeId

/-- The drain of a contact whose transmitters both proved admission stopped at `stoppedMono`.  The
first node receives the second direction and the second node the first. -/
def startDrain (pair : Pair) (info : ActiveLinkInfo) (stoppedMono : ℚ) (reason : String) :
    Except SchedulerError Drain := do
  let contactA ← info.endContactId pair.1
  let contactB ← info.endContactId pair.2
  return {
    reason
    ends := [
      { nodeId := pair.1, interface := info.interfaceA
        closeDue := stoppedMono + info.latencyBToAMs / 1000, contactId := contactA },
      { nodeId := pair.2, interface := info.interfaceB
        closeDue := stoppedMono + info.latencyAToBMs / 1000, contactId := contactB }]
    closed := []
    ends_ne_nil := List.cons_ne_nil _ _ }

def recoveredReason : String := "scheduler_restart"

/-- The drain of a contact a restarted Scheduler found, once every end in `carried` proved
admission stopped.  Each end closes after the resolver's bound on the link's one-way delay. -/
def recoverDrain (pair : Pair) (info : ActiveLinkInfo) (carried : Dict NodeId Contact)
    (stoppedMono longestDelayS : ℚ) : Except SchedulerError Drain :=
  let ends := [(pair.1, info.interfaceA), (pair.2, info.interfaceB)].filterMap fun terminal =>
    (carried.get? terminal.1).map fun contact =>
      ({ nodeId := terminal.1, interface := terminal.2
         closeDue := stoppedMono + longestDelayS, contactId := contact } : DrainingEnd)
  -- every carried end must be an end of the pair, so no end found means none was carried
  if h : ends ≠ [] ∧ ∀ node ∈ carried.keys, node = pair.1 ∨ node = pair.2 then
    .ok { reason := recoveredReason, ends, closed := [], ends_ne_nil := h.1 }
  else .error (.recoveredDrainNeedsEnds pair)

/-- The draining ends of a record whose last packet has arrived by `nowMono`. -/
def dueNodes (nowMono : ℚ) (info : ActiveLinkInfo) : List NodeId :=
  match info.drain with
  | none => []
  | some drain => (drain.ends.filter fun e => e.closeDue ≤ nowMono).map DrainingEnd.nodeId

def dueEnds {K : Type} (records : List (K × ActiveLinkInfo)) (nowMono : ℚ) :
    List (K × List NodeId) :=
  (records.map fun record => (record.1, dueNodes nowMono record.2)).filter fun d => d.2 ≠ []

inductive ForcedCause
  | seek
  | scenario
deriving DecidableEq, Repr

def ForcedCause.closeCause : ForcedCause → EndCloseCause
  | .seek => .seek
  | .scenario => .scenario

/-- What one reconcile does to the contact of one pair. -/
inductive PairPlan
  /-- The held contact stays as it is, or there is none. -/
  | keep
  /-- The held contact ends at once; the desired contact, if there is one, opens after it. -/
  | force (cause : ForcedCause) (reopen : Bool)
  /-- Both transmitters stop admitting. -/
  | stop
  /-- The desired contact opens on other terminals beside the held one, which drains. -/
  | relocate (stopFirst : Bool)
  /-- The desired contact opens, in place if the pair still drains or the contact was renamed. -/
  | «open»
  /-- The delays of the open contact changed. -/
  | latency
deriving DecidableEq, Repr

def PairPlan.forced? : PairPlan → Option ForcedCause
  | .force cause _ => some cause
  | _ => none

def PairPlan.stops : PairPlan → Bool
  | .stop => true
  | .relocate stopFirst => stopFirst
  | _ => false

def PairPlan.opens : PairPlan → Bool
  | .force _ reopen => reopen
  | .relocate _ => true
  | .open => true
  | _ => false

def latencyToleranceMs : ℚ := 1 / 1000000000

def geometryChanged (held wanted : LinkInfo) : Bool :=
  decide (latencyToleranceMs < |held.latencyAToBMs - wanted.latencyAToBMs|) ||
  decide (latencyToleranceMs < |held.latencyBToAMs - wanted.latencyBToAMs|) ||
  decide (held.rangeKm ≠ wanted.rangeKm)

def requireContact (pair : Pair) (info : LinkInfo) : Except SchedulerError Contact :=
  match info.contact with
  | some contact => .ok contact
  | none => .error (.longDelayLinkWithoutContact pair)

/-- The decision for a pair that is held and desired, neither seeked away. -/
def planHeldAndWanted (held : ActiveLinkInfo) (heldContact : Contact) (wanted : LinkInfo)
    (wantedContact : Contact) : PairPlan :=
  if heldContact ≠ wantedContact ∧ terminals held.toLinkInfo ≠ terminals wanted then
    .relocate (decide (held.drain = none))
  else if held.drain ≠ none ∨ heldContact ≠ wantedContact then .open
  else if geometryChanged held.toLinkInfo wanted then .latency
  else .keep

def planPair (epochId : Nat) (downReasons : Dict Pair String) (pair : Pair)
    (held : Option ActiveLinkInfo) (wanted : Option LinkInfo) : Except SchedulerError PairPlan :=
  match held, wanted with
  | none, none => .ok .keep
  | none, some wanted => do
      let _ ← requireContact pair wanted
      return .open
  | some held, none => do
      let heldContact ← requireContact pair held.toLinkInfo
      if heldContact.epochId < epochId then return .force .seek false
      else if pair ∈ downReasons then return .force .scenario false
      else if held.drain = none then return .stop
      else return .keep
  | some held, some wanted => do
      let heldContact ← requireContact pair held.toLinkInfo
      let wantedContact ← requireContact pair wanted
      -- a seek ended every contact of the old epoch, draining ones included
      if heldContact.epochId < epochId then return .force .seek true
      else return planHeldAndWanted held heldContact wanted wantedContact

/-- What one reconcile does to the long-delay contacts. -/
structure LongDelayPlan where
  forced : List (Pair × ForcedCause)
  stop : List Pair
  opening : List Pair
  latency : List Pair
  relocate : List Pair
deriving DecidableEq

def LongDelayPlan.IsEmpty (plan : LongDelayPlan) : Prop :=
  plan.forced = [] ∧ plan.stop = [] ∧ plan.opening = [] ∧ plan.latency = [] ∧ plan.relocate = []

instance (plan : LongDelayPlan) : Decidable plan.IsEmpty :=
  inferInstanceAs (Decidable (_ ∧ _))

def decidedPairs (decisions : List (Pair × PairPlan)) (select : PairPlan → Bool) : List Pair :=
  (decisions.filter fun d => select d.2).map Prod.fst

def LongDelayPlan.ofDecisions (decisions : List (Pair × PairPlan)) : LongDelayPlan where
  forced := decisions.filterMap fun d => d.2.forced?.map fun cause => (d.1, cause)
  stop := decidedPairs decisions PairPlan.stops
  opening := decidedPairs decisions PairPlan.opens
  latency := decidedPairs decisions (· = .latency)
  relocate := decidedPairs decisions fun d => decide (d = .relocate true ∨ d = .relocate false)

def planLongDelayContacts (actual : Dict Pair ActiveLinkInfo) (desired : Dict Pair LinkInfo)
    (epochId : Nat) (downReasons : Dict Pair String) : Except SchedulerError LongDelayPlan := do
  let decisions ← (sortedPairs (actual.keys ++ desired.keys).dedup).mapM fun pair => do
    let decision ← planPair epochId downReasons pair (actual.get? pair) (desired.get? pair)
    return (pair, decision)
  return .ofDecisions decisions

end NodalArc.ContactDrain
