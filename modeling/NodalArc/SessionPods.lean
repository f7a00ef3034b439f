import NodalArc.OrderedDict
import NodalArc.StatefulProgram

/-! The Operator's view of the session pods: the classification of `session_pods.py`, the rows of
`wiring_status.py` that the pods carry, and the checks of the stored wiring manifest. -/

namespace NodalArc.SessionPods

open OrderedDict

/-- A logical node id as some record spells it. -/
abbrev NodeId := List Char

/-- Uids, run ids, digests, server names and other texts that are only compared. -/
abbrev Token := Nat

def canonicalNodeId (id : NodeId) : NodeId := id.map Char.toLower

inductive WiringPhase
  | hostPathMtu | managedInterfaceCleanup | sysctls | islInterfaces | mpls | groundInfrastructure
  | terrestrialInterfaces | podRouteFinalization | podSecurity
  deriving DecidableEq, Repr

inductive PhaseState
  | pendingPid | wiring | ready | failed | dirtyKernel
  deriving DecidableEq, Repr

/-- The row a Node Agent writes on a pod it wired. -/
structure NodeWiringStatus where
  nodeId : NodeId
  sessionId : Token
  wiringGeneration : Token
  podUid : Token
  status : PhaseState
  phases : List (WiringPhase × PhaseState)
  dirtyKernel : Bool
  phasesNodup : (phases.map Prod.fst).Nodup
  deriving DecidableEq

/-- The annotation that carries the row, as `decode_status` reads it. -/
inductive WiringProof
  | malformed
  | row (status : NodeWiringStatus)
  deriving DecidableEq

/-- The stored manifest's own fields, as `WiringManifest` validates them; `hosts` is the `host` of
each node. -/
structure WiringManifest where
  sessionId : Token
  wiringGeneration : Token
  requiredPhases : List WiringPhase
  hosts : Dict NodeId Token

def NodeWiringStatus.readyFor (row : NodeWiringStatus) (manifest : WiringManifest) : Bool :=
  decide (row.sessionId = manifest.sessionId) &&
  decide (row.wiringGeneration = manifest.wiringGeneration) &&
  decide (row.status = .ready) && !row.dirtyKernel &&
  decide ((∀ phase ∈ row.phases.map Prod.fst, phase ∈ manifest.requiredPhases) ∧
    ∀ phase ∈ manifest.requiredPhases, phase ∈ row.phases.map Prod.fst) &&
  row.phases.all fun phase => decide (phase.2 = .ready)

def NodeWiringStatus.hasFailed (row : NodeWiringStatus) : Bool :=
  decide (row.status = .failed) || decide (row.status = .dirtyKernel) || row.dirtyKernel

/-! ### Pods -/

structure OwnerIdentity where
  name : Token
  uid : Token
  deriving DecidableEq

/-- A listed pod, as far as the Operator reads it. -/
structure Pod where
  name : Token
  uid : Token
  nodeLabel : NodeId
  runLabel : Option Token
  ownerLabel : Option Token
  selection : Option Token
  owners : List OwnerIdentity
  deleting : Bool
  server : Option Token
  ip : Option Token
  phaseRunning : Bool
  containers : Nat
  containersRunning : List Bool
  wiringProof : Option WiringProof
  deriving DecidableEq

variable {pods : List Pod}

inductive PodClass
  | current | replaceable | surplus | terminating | foreign
  deriving DecidableEq, Repr

/-- Everything that makes a session pod current. -/
structure SessionPodIdentity where
  owner : OwnerIdentity
  runLabel : Token
  selectionIdentity : Token
  expectedNodeIds : List NodeId
  nodup : expectedNodeIds.Nodup

variable {identity : SessionPodIdentity}

namespace SessionPodIdentity

/-- `for_session`: an empty node set, or one whose canonical ids collide, is refused. -/
def forSession (owner : OwnerIdentity) (runLabel selection : Token) (nodeIds : List NodeId) :
    Option { identity : SessionPodIdentity //
      identity.expectedNodeIds = nodeIds.map canonicalNodeId } :=
  if h : nodeIds ≠ [] ∧ (nodeIds.map canonicalNodeId).Nodup then
    some ⟨⟨owner, runLabel, selection, nodeIds.map canonicalNodeId, h.2⟩, rfl⟩
  else none

def expectedCount (identity : SessionPodIdentity) : Nat := identity.expectedNodeIds.length

/-- `classify`: the one currency rule for Ready claims and deletion decisions alike. -/
def classify (identity : SessionPodIdentity) (pod : Pod) : PodClass :=
  if identity.owner ∉ pod.owners then .foreign
  else if pod.deleting then .terminating
  else if canonicalNodeId pod.nodeLabel ∉ identity.expectedNodeIds then .surplus
  else if pod.runLabel ≠ some identity.runLabel ∨ pod.ownerLabel ≠ some identity.owner.uid ∨
      pod.selection ≠ some identity.selectionIdentity then .replaceable
  else .current

end SessionPodIdentity

def workloadsRunning (pod : Pod) : Bool :=
  pod.phaseRunning && decide (pod.containers ≠ 0) &&
    decide (pod.containersRunning.length = pod.containers) && pod.containersRunning.all id

/-- One session pod as one observation saw it. -/
structure ObservedPod where
  name : Token
  uid : Token
  nodeId : NodeId
  podClass : PodClass
  server : Option Token
  ip : Option Token
  running : Bool
  wiringProof : Option WiringProof
  deriving DecidableEq

variable {pod : ObservedPod}

def ObservedPod.provisioned (pod : ObservedPod) : Bool := pod.server.isSome && pod.ip.isSome

def observed (identity : SessionPodIdentity) (pod : Pod) : ObservedPod where
  name := pod.name
  uid := pod.uid
  nodeId := canonicalNodeId pod.nodeLabel
  podClass := identity.classify pod
  server := pod.server
  ip := pod.ip
  running := workloadsRunning pod
  wiringProof := pod.wiringProof

/-- Membership, placement and addresses derived from one observation, which holds at most one
current pod for a node. -/
structure SessionPodView where
  identity : SessionPodIdentity
  pods : List ObservedPod
  nodup : ((pods.filter fun pod => pod.podClass = .current).map ObservedPod.nodeId).Nodup

/-- `observe_session_pods` on one listing; two current pods for a node are refused. -/
def observeSessionPods (identity : SessionPodIdentity) (pods : List Pod) : Option SessionPodView :=
  if h : (((pods.map (observed identity)).filter fun pod => pod.podClass = .current).map
      ObservedPod.nodeId).Nodup then
    some ⟨identity, pods.map (observed identity), h⟩
  else none

namespace SessionPodView

variable (view : SessionPodView)

def ofClass (classes : List PodClass) : List ObservedPod :=
  view.pods.filter fun pod => pod.podClass ∈ classes

def current : List ObservedPod := view.pods.filter fun pod => pod.podClass = .current

def foreign : List ObservedPod := view.ofClass [.foreign]

def terminating : List ObservedPod := view.ofClass [.terminating]

def deletable : List ObservedPod := view.ofClass [.replaceable, .surplus]

def missingNodeIds : List NodeId :=
  view.identity.expectedNodeIds.filter fun id => id ∉ view.current.map ObservedPod.nodeId

def provisionedCount : Nat := (view.current.filter fun pod => pod.provisioned).length

def runningCount : Nat := (view.current.filter fun pod => pod.running).length

def complete : Bool := view.missingNodeIds.isEmpty && decide (view.pods.length = view.current.length)

/-- `placement`: a node without a scheduled current pod is refused. -/
def placement : Option (Dict NodeId Token) :=
  let placed := Dict.ofList (view.current.filterMap fun pod =>
    pod.server.map fun server => (pod.nodeId, server))
  if ∀ id ∈ view.identity.expectedNodeIds, id ∈ placed then some placed else none

variable {view}

theorem mem_current : pod ∈ view.current ↔ pod ∈ view.pods ∧ pod.podClass = .current := by
  simp [current]

theorem nodup_nodeIds : (view.current.map ObservedPod.nodeId).Nodup := view.nodup

theorem eq_of_nodeId {other : ObservedPod} (h : pod ∈ view.current) (h' : other ∈ view.current)
    (heq : pod.nodeId = other.nodeId) : pod = other :=
  List.inj_on_of_nodup_map view.nodup_nodeIds h h' heq

theorem ofClass_eq_nil {classes : List PodClass} :
    view.ofClass classes = [] ↔ ∀ pod ∈ view.pods, pod.podClass ∉ classes := by
  simp [ofClass, List.filter_eq_nil_iff]

theorem missingNodeIds_eq_nil : view.missingNodeIds = [] ↔
    ∀ id ∈ view.identity.expectedNodeIds, ∃ pod ∈ view.current, pod.nodeId = id := by
  simp [missingNodeIds, List.filter_eq_nil_iff]

end SessionPodView

theorem observeSessionPods_spec {view : SessionPodView}
    (h : observeSessionPods identity pods = some view) :
    view.identity = identity ∧ view.pods = pods.map (observed identity) := by
  unfold observeSessionPods at h
  split at h
  · cases h
    exact ⟨rfl, rfl⟩
  · cases h

theorem nodeId_mem_expected {view : SessionPodView}
    (h : observeSessionPods identity pods = some view) (hpod : pod ∈ view.current)
    : pod.nodeId ∈ view.identity.expectedNodeIds := by
  obtain ⟨hidentity, hpods⟩ := observeSessionPods_spec h
  obtain ⟨hmem, hclass⟩ := SessionPodView.mem_current.mp hpod
  rw [hpods, List.mem_map] at hmem
  obtain ⟨listed, -, rfl⟩ := hmem
  rw [hidentity]
  by_contra hnot
  simp only [observed, SessionPodIdentity.classify] at hclass hnot
  rw [if_pos hnot] at hclass
  split at hclass
  · cases hclass
  · split at hclass <;> cases hclass

theorem length_current {view : SessionPodView} (h : observeSessionPods identity pods = some view)
    (hmissing : view.missingNodeIds = []) :
    view.current.length = view.identity.expectedCount := by
  have hperm : (view.current.map ObservedPod.nodeId).Perm view.identity.expectedNodeIds := by
    refine (List.perm_ext_iff_of_nodup view.nodup_nodeIds view.identity.nodup).mpr fun id => ?_
    constructor
    · intro hid
      obtain ⟨pod, hpod, rfl⟩ := List.mem_map.mp hid
      exact nodeId_mem_expected h hpod
    · intro hid
      obtain ⟨pod, hpod, rfl⟩ := SessionPodView.missingNodeIds_eq_nil.mp hmissing id hid
      exact List.mem_map_of_mem hpod
  rw [SessionPodIdentity.expectedCount, ← hperm.length_eq, List.length_map]

theorem forall_of_filter_length {α : Type*} {p : α → Bool} {xs : List α}
    (h : xs.length ≤ (xs.filter p).length) : ∀ x ∈ xs, p x = true :=
  List.length_filter_eq_length_iff.mp (le_antisymm (List.length_filter_le p xs) h)

/-- Exactly the pods a session needs: one current pod for every expected node, with a network and
every container running, and no other session pod. -/
structure PodsReady (view : SessionPodView) : Prop where
  current : ∀ pod ∈ view.pods, pod.podClass = .current
  unique : ∀ id ∈ view.identity.expectedNodeIds, ∃! pod, pod ∈ view.pods ∧ pod.nodeId = id
  expected : ∀ pod ∈ view.pods, pod.nodeId ∈ view.identity.expectedNodeIds
  provisioned : ∀ pod ∈ view.pods, pod.provisioned = true
  running : ∀ pod ∈ view.pods, pod.running = true

theorem podsReady_of_counts {view : SessionPodView}
    (h : observeSessionPods identity pods = some view)
    (hclasses : ∀ pod ∈ view.pods, pod.podClass = .current) (hmissing : view.missingNodeIds = [])
    (hprovisioned : view.identity.expectedCount ≤ view.provisionedCount)
    (hrunning : view.identity.expectedCount ≤ view.runningCount) : PodsReady view := by
  have hcurrent : ∀ pod ∈ view.pods, pod ∈ view.current := fun pod hpod =>
    SessionPodView.mem_current.mpr ⟨hpod, hclasses pod hpod⟩
  have hlength := length_current h hmissing
  refine ⟨hclasses, fun id hid => ?_, fun pod hpod => nodeId_mem_expected h (hcurrent pod hpod),
    fun pod hpod => ?_, fun pod hpod => ?_⟩
  · obtain ⟨pod, hpod, hnode⟩ := SessionPodView.missingNodeIds_eq_nil.mp hmissing id hid
    refine ⟨pod, ⟨(SessionPodView.mem_current.mp hpod).1, hnode⟩, ?_⟩
    rintro other ⟨hother, heq⟩
    exact SessionPodView.eq_of_nodeId (hcurrent other hother) hpod (heq.trans hnode.symm)
  · exact forall_of_filter_length (hlength ▸ hprovisioned) pod (hcurrent pod hpod)
  · exact forall_of_filter_length (hlength ▸ hrunning) pod (hcurrent pod hpod)

end NodalArc.SessionPods
