import NodalArc.GroundPolicy

/-! The Scheduler's link records: what the desired state says about a link, what the Scheduler
holds for a link it has up, and the drain of a long-delay contact whose transmitters stopped. -/

namespace NodalArc.LinkRecord

open GroundPolicy

/-- One interface of one node. -/
abbrev Terminal := NodeId × String

inductive LinkType
  | isl
  | ground
deriving DecidableEq, Repr

/-- One contact of a long-delay link, as the orbital engine names it: the epoch that opened it and
the simulation time it opened.  The source's `contact_id` text is injective in these two, so the
contact stands for its own name. -/
structure Contact where
  epochId : Nat
  openedAt : Int
deriving DecidableEq, Repr

def Contact.Earlier (c d : Contact) : Prop :=
  c.epochId < d.epochId ∨ (c.epochId = d.epochId ∧ c.openedAt ≤ d.openedAt)

instance : DecidableRel Contact.Earlier := fun c d =>
  inferInstanceAs (Decidable (c.epochId < d.epochId ∨
    (c.epochId = d.epochId ∧ c.openedAt ≤ d.openedAt)))

/-- Why a link end's contact ended. -/
inductive EndCloseCause
  | endOfContact
  | drainDeadline
  | seek
  | scenario
  | reopened
  | retargeted
deriving DecidableEq, Repr

/-- What one link end lost during its contact, as a LinkDown event carries it. -/
structure LinkEndLoss where
  nodeId : NodeId
  interface : String
  cause : EndCloseCause
  refusedBeforeOpen : Nat
  untransmittedAtStop : Nat
  admissionTaken : Nat
  transmitDropped : Nat
  queueDropped : Nat
  discardedAtClose : Nat
  discardedExact : Bool
deriving DecidableEq

/-- What one link end reported losing at one stage, counted since its last report. -/
structure EndLossCounts where
  admissionTaken : Nat
  queueDropped : Nat
  discardedAtClose : Nat
  discardedExact : Bool
  untransmittedAtStop : Nat
  transmitDropped : Nat
deriving DecidableEq

/-- What one long-delay end reported at its contact's OPEN and STOP. -/
structure StageLoss where
  refusedBeforeOpen : Nat := 0
  untransmittedAtStop : Nat := 0
  transmitDropped : Nat := 0
deriving DecidableEq

def StageLoss.plus (x y : StageLoss) : StageLoss where
  refusedBeforeOpen := x.refusedBeforeOpen + y.refusedBeforeOpen
  untransmittedAtStop := x.untransmittedAtStop + y.untransmittedAtStop
  transmitDropped := x.transmitDropped + y.transmitDropped

/-- One end of a draining contact that still receives.  It closes at `closeDue` on the Scheduler's
monotonic clock.  `contactId` is the contact the end's kernel carries. -/
structure DrainingEnd where
  nodeId : NodeId
  interface : String
  closeDue : ℚ
  contactId : Contact
deriving DecidableEq

def DrainingEnd.terminal (e : DrainingEnd) : Terminal := (e.nodeId, e.interface)

/-- A long-delay contact whose transmitters stopped admitting: the ends still receiving and what
each closed end lost.  A contact with no end left is torn down, so a drain names at least one. -/
structure Drain where
  reason : String
  ends : List DrainingEnd
  closed : List LinkEndLoss
  ends_ne_nil : ends ≠ []
deriving DecidableEq

/-- A link as the desired state describes it.  Delays are per direction in the pair's order.
`objectId` is the identity of the source's mutable object: a link that comes up keeps the desired
object, and what the object accumulates follows it. -/
structure LinkInfo where
  objectId : Nat
  interfaceA : String
  interfaceB : String
  latencyAToBMs : ℚ
  latencyBToAMs : ℚ
  linkType : LinkType
  rangeKm : Option ℚ
  authoritySimTime : Option ℚ
  authoritySource : Option String
  authoritySequence : Option Nat
  contact : Option Contact
deriving DecidableEq

/-- A link the Scheduler holds up: the description it was commanded with and, once both
transmitters of its contact proved admission stopped, its drain. -/
structure ActiveLinkInfo extends LinkInfo where
  drain : Option Drain
deriving DecidableEq

def LinkInfo.activate (info : LinkInfo) : ActiveLinkInfo := { info with drain := none }

inductive SchedulerError
  | localLinkCarriesNoContact
  | longDelayLinkWithoutContact (pair : Pair)
  | recoveredDrainNeedsEnds (pair : Pair)
  | keyError (node : NodeId)
  | missingHandoverMode (gsId : NodeId)
  | nonGroundPairInSegment (gsId : NodeId) (pair : Pair)
  | groundLinkWithoutStation (pair : Pair)
  | localLinkHasNoAdmissionStage (pair : Pair)
  | localLinkClosesBothEnds (pair : Pair)
  | closeNamesNoEnd (pair : Pair)
  | localLinkHasNoPrepare (pair : Pair)
  | missingDesiredPair (pair : Pair)
  | noDesiredContact (pair : Pair)
  | untraceableGeometry (pair : Pair)
  | futureGeometry (pair : Pair)
  | staleGeometry (pair : Pair)
  | unrepresentableLatency (pair : Pair)
  | missingTerminalRates (terminal : Terminal)
  | missingRange (pair : Pair)
  | unexpectedStageCounts (terminal : Terminal)
  | stoppedLinkWithoutContact (pair : Pair)
  | terminalsWantedByOpening (pair : Pair)
  | fencedWriter
  | actuationHalted
  | missingSurvey (pair : Pair)
  | carriedContactWithoutPeer (terminal : Terminal)
  | contactNamesTwoInterfaces (pair : Pair) (contact : Contact)
  | surveyFailed
  | contactOfUnclassedPair (pair : Pair) (contact : Contact)
  | openContactOlderThanAnother (pair : Pair) (contact : Contact)
  | recoveredStopFailed
  | repairTeardownFailed
  | repairProofFailed
  | repairRewireFailed
deriving DecidableEq, Repr

/-- The contact an end of a link carries: its draining end's, else the record's; a local link
carries none. -/
def ActiveLinkInfo.endContact? (info : ActiveLinkInfo) (nodeId : NodeId) : Option Contact :=
  match info.contact, info.drain with
  | none, _ => none
  | some contact, none => some contact
  | some contact, some drain =>
      match drain.ends.find? fun e => e.nodeId = nodeId with
      | some e => some e.contactId
      | none => some contact

def ActiveLinkInfo.endContactId (info : ActiveLinkInfo) (nodeId : NodeId) :
    Except SchedulerError Contact :=
  match info.endContact? nodeId with
  | some contact => .ok contact
  | none => .error .localLinkCarriesNoContact

end NodalArc.LinkRecord
