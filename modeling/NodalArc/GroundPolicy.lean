import NodalArc.OrderedDict

/-! Ground-link selection and handover policies: the scoring of a visible pair on its own merits,
and the decision whether a challenger may displace an incumbent. -/

namespace NodalArc.GroundPolicy

open OrderedDict

abbrev NodeId := String

/-- A link between two nodes.  The pairs of the allocator and of the Scheduler are normalized:
the smaller id comes first. -/
abbrev Pair := NodeId × NodeId

def sortedNodes (nodes : List NodeId) : List NodeId := nodes.dedup.insertionSort (· ≤ ·)

def pairLe (p q : Pair) : Prop := p.1 < q.1 ∨ (p.1 = q.1 ∧ p.2 ≤ q.2)

instance : DecidableRel pairLe := fun p q =>
  inferInstanceAs (Decidable (p.1 < q.1 ∨ (p.1 = q.1 ∧ p.2 ≤ q.2)))

def sortedPairs (pairs : List Pair) : List Pair := pairs.insertionSort pairLe

inductive SurfaceBody
  | earth
  | luna
  | mars
deriving DecidableEq, Repr

def SurfaceBody.alphabetical : SurfaceBody → Nat
  | .earth => 0
  | .luna => 1
  | .mars => 2

/-- The part of a visibility decision that selection and handover read. -/
structure GroundVisibility where
  satId : NodeId
  visible : Bool
  elevationDeg : ℚ
  remainingVisibleS : Option ℚ
deriving DecidableEq

inductive SelectionPolicySpec
  | highestElevation
  | lowestElevation
  | longestRemainingPass (lookaheadHorizonTicks : Nat) (positive : 0 < lookaheadHorizonTicks)
deriving DecidableEq

inductive HandoverPolicySpec
  | none
  | hysteresis (params : Dict String ℚ)
deriving DecidableEq

inductive RankingComponent
  | servicePriority
  | selectionScore
  | perGsRank
  | satelliteGroundTerminalCapacity
  | lexPair
deriving DecidableEq, Repr

inductive HandoverMode
  | bbm
  | mbb
deriving DecidableEq, Repr

inductive SuccessorAbortPolicy
  | hardRelease
  | softRetain
deriving DecidableEq, Repr

/-- Why a visible pair is not scheduled. -/
inductive UnscheduledReason
  | gsCapacity
  | satCapacity
  | hysteresisHold
  | incumbentHeld
  | bbmNoSpare
  | mbbOverlapLocked
  | replacedBySuccessor
  | successorAborted
  | failedSuccessor
  | failedAcquire
deriving DecidableEq, Repr

inductive PolicyError
  | missingRemainingVisible
  | negativeScore (policy : SelectionPolicySpec) (score : ℚ) (gsId satId : NodeId)
  | unsupportedHysteresisParameter (name : String)
  | discountFactorBelowOne (value : ℚ)
  | maskFadeRangeOutOfBounds (value : ℚ)
deriving DecidableEq

def rawScore (policy : SelectionPolicySpec) (visibility : GroundVisibility) :
    Except PolicyError ℚ :=
  match policy with
  | .highestElevation => .ok visibility.elevationDeg
  | .lowestElevation => .ok (90 - visibility.elevationDeg)
  | .longestRemainingPass _ _ =>
      match visibility.remainingVisibleS with
      | some seconds => .ok seconds
      | none => .error .missingRemainingVisible

def scoreCandidate (policy : SelectionPolicySpec) (visibility : GroundVisibility)
    (gsId satId : NodeId) : Except PolicyError ℚ := do
  let score ← rawScore policy visibility
  if score < 0 then
    .error (.negativeScore policy score gsId satId)
  else
    .ok score

/-- Parameters of handover dampening; a value outside its range cannot be built. -/
structure HysteresisParameters where
  discountFactor : ℚ
  maskFadeRangeDeg : ℚ
  one_le_discountFactor : 1 ≤ discountFactor
  maskFadeRangeDeg_pos : 0 < maskFadeRangeDeg
  maskFadeRangeDeg_le : maskFadeRangeDeg ≤ 90

namespace HysteresisParameters

def parameterNames : List String := ["discount_factor", "mask_fade_range_deg"]

def ofParams (params : Dict String ℚ) : Except PolicyError HysteresisParameters :=
  match params.keys.find? (· ∉ parameterNames) with
  | some name => .error (.unsupportedHysteresisParameter name)
  | none =>
      let discountFactor := params.getD "discount_factor" (115 / 100)
      let maskFadeRangeDeg := params.getD "mask_fade_range_deg" 5
      if hdiscount : 1 ≤ discountFactor then
        if hfade : 0 < maskFadeRangeDeg ∧ maskFadeRangeDeg ≤ 90 then
          .ok ⟨discountFactor, maskFadeRangeDeg, hdiscount, hfade.1, hfade.2⟩
        else .error (.maskFadeRangeOutOfBounds maskFadeRangeDeg)
      else .error (.discountFactorBelowOne discountFactor)

end HysteresisParameters

/-- Incumbent stickiness: none at the elevation mask, the full discount above the fade range, and
linear in between. -/
def computeEffectiveHysteresisDiscount (elevationDeg minElevationDeg : ℚ)
    (params : HysteresisParameters) : ℚ :=
  let fadeTop := minElevationDeg + params.maskFadeRangeDeg
  if elevationDeg ≤ minElevationDeg then 1
  else if fadeTop ≤ elevationDeg then params.discountFactor
  else 1 + (params.discountFactor - 1) *
    ((elevationDeg - minElevationDeg) / params.maskFadeRangeDeg)

inductive HandoverDecision
  | displace
  | hold (unscheduledReason : UnscheduledReason)
deriving DecidableEq, Repr

def evaluateHandover (policy : HandoverPolicySpec) (incumbentScore challengerScore : ℚ)
    (incumbentVisibility : GroundVisibility) (minElevationDeg : ℚ) :
    Except PolicyError HandoverDecision :=
  match policy with
  | .none =>
      .ok (if incumbentScore < challengerScore then .displace else .hold .incumbentHeld)
  | .hysteresis params => do
      let hysteresis ← HysteresisParameters.ofParams params
      let discount := computeEffectiveHysteresisDiscount incumbentVisibility.elevationDeg
        minElevationDeg hysteresis
      .ok (if incumbentScore * discount < challengerScore then .displace
        else .hold .hysteresisHold)

end NodalArc.GroundPolicy
