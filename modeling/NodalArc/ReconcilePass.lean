import NodalArc.SessionPods

/-! One pass of the session driver of `handlers.py`: reading the CR, computing the generation's
runtime, auditing a Ready session and reconciling, with every Kubernetes call of the pass a named
call that the API server answers or fails. -/

namespace NodalArc.ReconcilePass

open OrderedDict
open StatefulProgram
open Program
open SessionPods

/-! ### Calls and answers -/

/-- How a Kubernetes call fails: an `ApiException` with its status, an HTTP error or an OS error. -/
inductive Failure
  | api (status : Nat)
  | http
  | os
  deriving DecidableEq, Repr

inductive Exception
  | gone
  | failed (failure : Failure)
  | fetchFailed
  | retryable
  | workload
  | permanent
  | valueError
  | runtimeError
  deriving DecidableEq, Repr

inductive Phase
  | pending | rendering | creating | wiring | ready | error | terminating
  deriving DecidableEq, Repr

inductive Service
  | ome | scheduler
  deriving DecidableEq, Repr

/-- Which of the two places of a pass reads: the Ready audit or the reconciler. -/
inductive Reader
  | audit | reconcile
  deriving DecidableEq, Repr

/-- Where the catalog upload is listed: for the runtime of a generation, or again while Ready. -/
inductive Resolving
  | runtime | ready
  deriving DecidableEq, Repr

inductive ManifestRead
  | matching
  | wiring (reader : Reader)
  deriving DecidableEq, Repr

inductive Call
  | readCr
  | patchStatus (n : Nat)
  | patchProgress (n : Nat)
  | patchHeartbeat (n : Nat)
  | listUpload (at' : Resolving)
  | readGeneration
  | listOwned
  | deleteOwned (uid : Token)
  | listServices
  | deleteRuntimeConfig
  | listRetired
  | patchRetired (name : Token)
  | listPods (reader : Reader)
  | deletePod (uid : Token)
  | listAgents
  | createArtifact (name : Token)
  | readArtifact (name : Token)
  | readSecret
  | createSecret
  | listServers
  | createPod (node : NodeId)
  | readPod (node : NodeId)
  | deleteBlocking (node : NodeId)
  | readManifest (at' : ManifestRead)
  | listPlacedServers
  | listAddresses
  | createManifest
  | replaceManifest
  | readRuntimeConfig
  | createRuntimeConfig
  | replaceRuntimeConfig
  | listRolled
  | patchRolled (name : Token)
  | listDeployments (reader : Reader) (service : Service)
  | listServicePods (reader : Reader) (service : Service)
  | readProof (reader : Reader) (pod : Token)
  deriving DecidableEq, Repr

structure CrStatus where
  phase : Option Phase
  observedGeneration : Option Nat
  statusFields : Option Token
  platformHash : Option Token
  runtimeHash : Option Token

structure Cr where
  uid : Token
  generation : Nat
  deleting : Bool
  status : CrStatus

/-- The payload key of the manifest's ConfigMap, as `decode_wiring_manifest_payload` reads it.
`valid` says whether the manifest contract accepts the fields left out here. -/
structure ManifestDocument where
  sessionId : Option Token
  wiringGeneration : Option Token
  requiredPhases : List WiringPhase
  nodes : Option (Dict NodeId Token)
  valid : Bool

inductive Payload
  | missing
  | undecodable
  | document (document : ManifestDocument)

structure StoredManifest where
  sessionId : Option Token
  platformHash : Option Token
  wiringGeneration : Option Token
  nodeCount : Option Nat
  payload : Payload

structure Deployment where
  name : Token
  runAnnotation : Option Token
  hashAnnotation : Option Token
  generation : Nat
  observedGeneration : Nat
  specReplicas : Option Nat
  replicas : Nat
  updated : Nat
  ready : Nat
  available : Nat
  unavailable : Nat
  terminating : Nat

structure ServicePod where
  name : Option Token
  uid : Option Token
  deleting : Bool
  hashAnnotation : Option Token
  deriving DecidableEq

/-- `RuntimeConfigProof`, its content (run, upload and digests) as one value. -/
structure RuntimeProof where
  origin : Service
  content : Token
  crUid : Token
  crGeneration : Nat
  podUid : Token
  release : Token
  build : Token
  deriving DecidableEq

structure DeploymentContext where
  crUid : Token
  crGeneration : Nat
  content : Token
  release : Token
  build : Token

/-- The hashes and release fields that `_verify_runtime` computes for a resolved session. -/
structure Verified where
  platformHash : Token
  runtimeHash : Token
  proofFields : Token
  release : Token
  build : Token

structure Verification where
  platformHash : Token
  runtimeHash : Token
  proofFields : Token
  context : DeploymentContext

structure Resolution where
  nodeIds : List NodeId
  content : Token

/-- `_SessionRuntime`, whose deployment context is that of its own CR generation and whose pods are
those of its own nodes. -/
structure Runtime where
  uid : Token
  generation : Nat
  sessionRunId : Token
  resolution : Resolution
  verification : Verification
  identity : SessionPodIdentity
  bound : verification.context.crUid = uid ∧ verification.context.crGeneration = generation ∧
    verification.context.content = resolution.content
  expected : identity.expectedNodeIds = resolution.nodeIds.map canonicalNodeId

/-- What the API server and the installed catalog answer in one pass.  A refusal that no call
causes is a missing value or `false`. -/
structure World where
  faults : Call → Option Failure
  crName : Token
  driverUid : Token
  cr : Cr
  sessionRunId : Option Token
  sanitize : Token → Token
  resolve : Resolving → Option Resolution
  verify : Resolving → Option Verified
  prepare : Option Token
  generationLive : Bool
  owned : List (Token × Bool)
  services : List Deployment
  retired : List Deployment
  pods : Reader → List Pod
  agents : List Token
  deployable : Bool
  artifacts : List Token
  artifactMatches : Token → Bool
  secret : Option Bool
  longDelay : Bool
  budgetKept : Bool
  blocking : NodeId → Pod
  stalls : NodeId → Nat
  manifest : ManifestRead → Option StoredManifest
  placedBudgetKept : Bool
  wireable : Bool
  addressed : Bool
  wiringGeneration : Dict NodeId Token → Token
  runtimeConfig : Option Bool
  rolled : List Deployment
  deployments : Reader → Service → List Deployment
  servicePods : Reader → Service → List ServicePod
  proof : Reader → Token → Option RuntimeProof

/-- What a pass has done: the calls it made, the phases it published, the manifest it wrote,
whether it entered the reconciler, and the runtime its driver holds. -/
structure PassLog where
  made : List Call
  patches : Nat
  published : List Phase
  written : Option StoredManifest
  reconciling : Bool
  held : Option Runtime
  dropped : Bool

abbrev Pass := Program Exception PassLog

/-- The state of a driver that holds a runtime at the start of a pass. -/
def PassLog.start (held : Option Runtime) : PassLog where
  made := []
  patches := 0
  published := []
  written := none
  reconciling := false
  held := held
  dropped := false

variable (w : World)

def ask (call : Call) : Pass Unit := do
  modify fun log => { log with made := log.made ++ [call] }
  match w.faults call with
  | some failure => throw (.failed failure)
  | none => pure ()

def onApi {α : Type} (m : Pass α) (handler : Nat → Pass α) : Pass α :=
  tryCatch m fun e =>
    match e with
    | .failed (.api status) => handler status
    | e => throw e

/-- `_update_status`, for the generation of the pass. -/
def patchPhase (call : Nat → Call) (phase : Phase) : Pass Unit := do
  let log ← get
  modify fun log => { log with patches := log.patches + 1 }
  onApi (ask w (call log.patches)) fun status =>
    throw (if status = 404 then .gone else .failed (.api status))
  modify fun log => { log with published := log.published ++ [phase] }

def publish (phase : Phase) : Pass Unit := patchPhase w .patchStatus phase

def progress : Pass Unit := patchPhase w .patchProgress .creating

def refuse {α : Type} (value : Option α) (e : Exception) : Pass α :=
  match value with
  | some a => pure a
  | none => throw e

/-! ### The runtime of a generation -/

/-- `_resolve_active_session` and `_verify_runtime`.  `read_catalog_upload` turns every failure of
its one list into a typed refusal. -/
def runtimeInputs (at' : Resolving) : Pass (Resolution × Verified) := do
  tryCatch (ask w (.listUpload at')) fun _ => throw .fetchFailed
  let resolution ← refuse (w.resolve at') .valueError
  let verified ← refuse (w.verify at') .valueError
  return (resolution, verified)

def boundRuntime (runId : Token) (resolution : Resolution) (verified : Verified)
    (identity : { identity : SessionPodIdentity //
      identity.expectedNodeIds = resolution.nodeIds.map canonicalNodeId }) : Runtime where
  uid := w.cr.uid
  generation := w.cr.generation
  sessionRunId := runId
  resolution := resolution
  verification := ⟨verified.platformHash, verified.runtimeHash, verified.proofFields,
    ⟨w.cr.uid, w.cr.generation, resolution.content, verified.release, verified.build⟩⟩
  identity := identity.1
  bound := ⟨rfl, rfl, rfl⟩
  expected := identity.2

def deleteObserved (call : Call) : Pass Bool :=
  onApi (do ask w call; return false) fun status =>
    if status = 404 then pure false
    else if status = 409 then pure true
    else throw (.failed (.api status))

/-- Request the deletion of pods one after another; the first conflict ends the loop. -/
def deletePods (call : Token → Call) : List Token → Pass Unit
  | [] => pure ()
  | uid :: rest => do
      let conflicted ← deleteObserved w (call uid)
      if conflicted then pure () else deletePods call rest

def convergeSelectionFailure : Pass Unit := do
  ask w .readGeneration
  if w.generationLive then
    ask w .listOwned
    deletePods w .deleteOwned ((w.owned.filter fun pod => !pod.2).map Prod.fst)
    publish w (if w.owned ≠ [] then .creating else .error)
  else pure ()

/-- The prepared workloads and the pod identity of a verified session. -/
def preparedRuntime (runId : Token) (resolution : Resolution) (verified : Verified) :
    Pass (Option Runtime) :=
  match w.prepare with
  | none => do
      convergeSelectionFailure w
      return none
  | some selection =>
      match SessionPodIdentity.forSession ⟨w.crName, w.cr.uid⟩ (w.sanitize runId) selection
          resolution.nodeIds with
      | none => do
          publish w .error
          return none
      | some identity =>
          return some (boundRuntime w runId resolution verified identity)

def sessionRuntime : Pass (Option Runtime) :=
  match w.sessionRunId with
  | none => do
      publish w .error
      return none
  | some runId => do
      let inputs ← tryCatch (do return some (← runtimeInputs w .runtime)) fun _ => do
        publish w .error
        return none
      match inputs with
      | none => return none
      | some (resolution, verified) => preparedRuntime w runId resolution verified

/-! ### Session services -/

/-- `roll_session_services`: a Deployment whose template carries the binding is left alone, and
failed patches are reported together. -/
def rollSessionServices (listing : Call) (patch : Token → Call) (deployments : List Deployment)
    (runtimeHash sessionRunId : Option Token) : Pass Unit := do
  ask w listing
  let failures ← deployments.foldlM (fun (failures : Nat) deployment =>
    if deployment.hashAnnotation = runtimeHash ∧ deployment.runAnnotation = sessionRunId then
      pure failures
    else onApi (do ask w (patch deployment.name); return failures) fun _ => pure (failures + 1)) 0
  require (failures = 0) .runtimeError

def servicesOnOtherRun (deployments : List Deployment) (sessionRunId : Token) : List Deployment :=
  deployments.filter fun deployment =>
    (deployment.runAnnotation.isSome || deployment.hashAnnotation.isSome) &&
      decide (deployment.runAnnotation ≠ some sessionRunId)

def retireSessionServices : Pass Unit := do
  onApi (ask w .deleteRuntimeConfig) fun status =>
    if status = 404 then pure () else throw (.failed (.api status))
  rollSessionServices w .listRetired .patchRetired w.retired none none

/-- Services that serve another run are retired first; `false` when the check itself failed. -/
def retireOtherRuns (runtime : Runtime) : Pass Bool :=
  onApi (do
    ask w .listServices
    «when» (servicesOnOtherRun w.services runtime.sessionRunId ≠ []) (retireSessionServices w)
    return true) fun _ => pure false

/-! ### Creating the session's objects -/

def ensureImmutableConfigMap (name : Token) : Pass Unit :=
  onApi (ask w (.createArtifact name)) fun status => do
    if status = 409 then
      ask w (.readArtifact name)
      require (w.artifactMatches name = true) .workload
    else throw (.failed (.api status))

/-- A request whose exception is kept as its result, as a future keeps it. -/
def attempt (m : Pass Unit) : Pass (Option Exception) :=
  tryCatch (do m; return none) fun e => pure (some e)

/-- Every request is made; then the first failure is raised. -/
def ensureArtifacts : Pass Unit := do
  let failure ← w.artifacts.foldlM (fun (first : Option Exception) name => do
    let failure ← attempt (ensureImmutableConfigMap w name)
    return first <|> failure) none
  match failure with
  | some e => throw e
  | none => pure ()

def createTerminalSshKeys : Pass Unit := do
  let found ← onApi (do
      ask w .readSecret
      match w.secret with
      | none => throw (.failed (.api 404))
      | some true => return true
      | some false => throw .retryable) fun status =>
    if status = 404 then pure false else throw (.failed (.api status))
  if found then pure ()
  else onApi (ask w .createSecret) fun status =>
    if status = 409 then pure () else throw (.failed (.api status))

/-- `check_long_delay_queue_capacity`: the servers are listed only for a session with long-delay
links. -/
def checkQueueCapacity (listing : Call) (kept : Bool) : Pass Unit :=
  if w.longDelay then do
    ask w listing
    require (kept = true) .permanent
  else pure ()

/-- `ensure_session_configmaps`.  `deployable` stands for its checks of the resolved session. -/
def ensureSessionConfigMaps : Pass Unit := do
  progress w
  ask w .listAgents
  require (w.agents ≠ []) .permanent
  -- Resolving, using the definitions, expanding, validating: one progress message each.
  progress w
  progress w
  progress w
  progress w
  require (w.deployable = true) .permanent
  progress w
  progress w
  ensureArtifacts w
  progress w
  createTerminalSshKeys w
  progress w
  progress w
  checkQueueCapacity w .listServers w.budgetKept

/-- `_create_pod_with_conflict_check`. -/
def createWorkloadPod (identity : SessionPodIdentity) (node : NodeId) : Pass Unit :=
  onApi (ask w (.createPod node)) fun status => do
    if status = 409 then
      ask w (.readPod node)
      match identity.classify (w.blocking node) with
      | .current => pure ()
      | .foreign | .terminating => throw .valueError
      | .replaceable | .surplus => do
          let _ ← deleteObserved w (.deleteBlocking node)
    else throw (.failed (.api status))

/-- A message for every ten seconds in which no pod completes. -/
def beats : Nat → Pass Unit
  | 0 => pure ()
  | n + 1 => do
      patchPhase w .patchHeartbeat .creating
      beats n

/-- The heartbeat thread while a pod is awaited.  An exception ends the thread and is lost. -/
def heartbeat (alive : Bool) (node : NodeId) : Pass Bool :=
  if alive then do
    let failure ← attempt (beats w (w.stalls node))
    return failure.isNone
  else pure false

/-- The pods created so far, the failures so far and whether the heartbeat thread lives. -/
structure Creation where
  created : Nat
  failures : List Exception
  alive : Bool

/-- One created pod, with a progress message for every 25 pods and for the last. -/
def createOne (identity : SessionPodIdentity) (total : Nat) (creation : Creation)
    (node : NodeId) : Pass Creation := do
  let alive ← heartbeat w creation.alive node
  let failure ← attempt (createWorkloadPod w identity node)
  match failure with
  | some e => return { creation with failures := creation.failures ++ [e], alive }
  | none =>
      let created := creation.created + 1
      let failure ← attempt (if created % 25 = 0 ∨ created = total then progress w
        else pure ())
      return { created, failures := creation.failures ++ failure.toList, alive }

def Exception.isApi : Exception → Bool
  | .failed (.api _) => true
  | _ => false

/-- `ensure_session_pods`: every pod is tried; the failures are raised together, as the API failure
they are when all of them are. -/
def ensureSessionPods (runtime : Runtime) : Pass Unit := do
  progress w
  let creation ← runtime.resolution.nodeIds.foldlM
    (createOne w runtime.identity runtime.resolution.nodeIds.length) ⟨0, [], true⟩
  match creation.failures with
  | [] => pure ()
  | e :: rest => throw (if (e :: rest).all Exception.isApi then e else .runtimeError)

/-- Condition 4: the ensure pipeline for missing pods. -/
def deploy (runtime : Runtime) : Pass Bool := do
  publish w .creating
  let failure ← attempt (do
    ensureSessionConfigMaps w
    ensureSessionPods w runtime)
  match failure with
  | none => do
      publish w .creating
      return false
  | some .retryable => do
      publish w .pending
      return true
  | some .workload => do
      convergeSelectionFailure w
      return false
  | some (.failed (.api _)) => do
      publish w .creating
      return true
  | some _ => do
      publish w .error
      return false

/-! ### The wiring manifest -/

/-- `WiringManifest.model_validate` of a decoded payload. -/
def ManifestDocument.validate (document : ManifestDocument) : Option WiringManifest :=
  match document.sessionId, document.wiringGeneration, document.nodes with
  | some sessionId, some generation, some nodes =>
      if document.valid then some ⟨sessionId, generation, document.requiredPhases, nodes⟩ else none
  | _, _, _ => none

def StoredManifest.decode (stored : StoredManifest) : Option WiringManifest :=
  match stored.payload with
  | .document document => document.validate
  | _ => none

/-- `_wiring_manifest_matches_spec`, for the data of a stored ConfigMap. -/
def manifestMatches (runtime : Runtime) (stored : StoredManifest) : Bool :=
  decide (stored.sessionId = some runtime.identity.runLabel) &&
  decide (stored.platformHash = some runtime.verification.platformHash) &&
  decide (stored.nodeCount = some runtime.identity.expectedCount) &&
  match stored.payload with
  | .document document =>
      (match document.nodes with
        | some nodes => decide (nodes.keys.length = runtime.identity.expectedCount)
        | none => false) &&
      decide (document.sessionId = some runtime.identity.runLabel) &&
      decide (document.wiringGeneration = stored.wiringGeneration)
  | _ => false

/-- The manifest the writer stores for an observed placement. -/
def writtenManifest (runtime : Runtime) (hosts : Dict NodeId Token) : StoredManifest where
  sessionId := some runtime.identity.runLabel
  platformHash := some runtime.verification.platformHash
  wiringGeneration := some (w.wiringGeneration hosts)
  nodeCount := some hosts.keys.length
  payload := .document
    { sessionId := some runtime.identity.runLabel
      wiringGeneration := some (w.wiringGeneration hosts)
      requiredPhases := [.hostPathMtu, .managedInterfaceCleanup, .sysctls, .islInterfaces, .mpls,
        .groundInfrastructure, .terrestrialInterfaces, .podRouteFinalization, .podSecurity]
      nodes := some hosts
      valid := true }

/-- The `host` of every manifest node: the server of the pod under its canonical id; a node without
one is refused. -/
def hostsOf (nodeIds : List NodeId) (placement : Dict NodeId Token) : Option (Dict NodeId Token) :=
  if ∀ id ∈ nodeIds, canonicalNodeId id ∈ placement then
    some (Dict.ofList (nodeIds.filterMap fun id =>
      (placement.get? (canonicalNodeId id)).map fun server => (id, server)))
  else none

/-- `write_wiring_manifest`.  `wireable` stands for the writer's checks of the resolved session and
`addressed` for the address every server must report. -/
def writeWiringManifest (runtime : Runtime) (view : SessionPodView) : Pass Unit := do
  let placement ← refuse view.placement .valueError
  checkQueueCapacity w .listPlacedServers w.placedBudgetKept
  require (w.wireable = true) .valueError
  let hosts ← refuse (hostsOf runtime.resolution.nodeIds placement) .valueError
  ask w .listAddresses
  require (w.addressed = true) .valueError
  onApi (ask w .createManifest) fun status =>
    if status = 409 then ask w .replaceManifest else throw (.failed (.api status))
  modify fun log => { log with written := some (writtenManifest w runtime hosts) }

/-- The publication of a manifest that is not this run's. -/
def publishManifest (runtime : Runtime) (view : SessionPodView) : Pass Bool := do
  publish w .creating
  let failure ← attempt (writeWiringManifest w runtime view)
  match failure with
  | some .retryable => do
      publish w .pending
      return true
  | some _ => do
      publish w .error
      return false
  | none => do
      publish w .wiring
      return false

/-- The rows the current pods carry, by the node each row names. -/
def wiringRows (pods : List ObservedPod) : Option (Dict NodeId NodeWiringStatus) :=
  pods.foldlM (fun rows pod =>
    match pod.wiringProof with
    | none => some rows
    | some .malformed => none
    | some (.row row) =>
        if canonicalNodeId row.nodeId ≠ pod.nodeId ∨ row.podUid ≠ pod.uid then none
        else some (rows.insert row.nodeId row)) ∅

/-- `check_wiring_complete` on the data read: whether every manifest node's pod carries ready proof,
and how many do; `none` for a refused proof. -/
def wiringComplete (stored : StoredManifest) (view : SessionPodView) : Option (Bool × Nat) := do
  let manifest ← stored.decode
  guard (manifest.hosts.keys.length = view.identity.expectedCount)
  let rows ← wiringRows view.current
  if rows.keys = [] then return (false, 0)
  guard (∀ id ∈ rows.keys, id ∈ manifest.hosts)
  let current := rows.filter fun _ row => decide (row.sessionId = manifest.sessionId) &&
    decide (row.wiringGeneration = manifest.wiringGeneration)
  guard (∀ id ∈ manifest.hosts.keys, ∀ row, current.get? id = some row → row.hasFailed = false)
  let ready := (manifest.hosts.keys.filter fun id =>
    (current.get? id).any fun row => row.readyFor manifest).length
  return (decide (ready = view.identity.expectedCount), ready)

def checkWiringComplete (reader : Reader) (view : SessionPodView) : Pass (Bool × Nat) := do
  ask w (.readManifest (.wiring reader))
  match w.manifest (.wiring reader) with
  | none => throw (.failed (.api 404))
  | some stored => refuse (wiringComplete stored view) .valueError

/-! ### The services' runtime -/

def runtimeSessionConfigMatches : Pass Bool :=
  onApi (do
    ask w .readRuntimeConfig
    match w.runtimeConfig with
    | none => return false
    | some current => return current) fun status =>
      if status = 404 then pure false else throw (.failed (.api status))

/-- The session services start: the runtime ConfigMap and the roll; `false` when an API call
failed. -/
def startServices (runtime : Runtime) : Pass Bool :=
  onApi (do
    let current ← runtimeSessionConfigMatches w
    «when» (current = false) <| onApi (ask w .createRuntimeConfig) fun status =>
      if status = 409 then ask w .replaceRuntimeConfig else throw (.failed (.api status))
    rollSessionServices w .listRolled .patchRolled w.rolled
      (some runtime.verification.runtimeHash) (some runtime.sessionRunId)
    return true) fun _ => pure false

def desiredReplicas (deployment : Deployment) : Nat :=
  match deployment.specReplicas with
  | none | some 0 => 1
  | some n => n

/-- The rollout conditions of `check_platform_runtime_ready` on one Deployment. -/
def rolledOut (deployment : Deployment) (runtimeHash : Token) : Bool :=
  decide (deployment.hashAnnotation = some runtimeHash) &&
  decide (deployment.generation ≠ 0) &&
  decide (deployment.generation ≤ deployment.observedGeneration) &&
  decide (deployment.replicas = desiredReplicas deployment) &&
  decide (deployment.updated = desiredReplicas deployment) &&
  decide (deployment.ready = desiredReplicas deployment) &&
  decide (deployment.available = desiredReplicas deployment) &&
  decide (deployment.unavailable = 0) && decide (deployment.terminating = 0)

def expectedProof (service : Service) (runtime : Runtime) (podUid : Token) : RuntimeProof where
  origin := service
  content := runtime.resolution.content
  crUid := runtime.verification.context.crUid
  crGeneration := runtime.verification.context.crGeneration
  podUid := podUid
  release := runtime.verification.context.release
  build := runtime.verification.context.build

/-- One pod's proof; a proof that cannot be read is a proof not shown. -/
def podProved (reader : Reader) (service : Service) (runtime : Runtime) (pod : ServicePod) :
    Pass Bool :=
  match pod.name, pod.uid with
  | some name, some uid =>
      if runtime.verification.context.content ≠ runtime.resolution.content then throw .valueError
      else tryCatch (do
        ask w (.readProof reader name)
        match w.proof reader name with
        | none => return false
        | some shown => return decide (shown = expectedProof service runtime uid)) fun _ => pure false
  | _, _ => return false

def allProved (reader : Reader) (service : Service) (runtime : Runtime) :
    List ServicePod → Pass Bool
  | [] => pure true
  | pod :: rest => do
      let proved ← podProved w reader service runtime pod
      if proved then allProved reader service runtime rest else pure false

/-- One service of `check_platform_runtime_ready`. -/
def serviceReady (reader : Reader) (service : Service) (runtime : Runtime) : Pass Bool := do
  ask w (.listDeployments reader service)
  match w.deployments reader service with
  | [deployment] =>
      if rolledOut deployment runtime.verification.runtimeHash then do
        ask w (.listServicePods reader service)
        if ((w.servicePods reader service).all fun pod => !pod.deleting &&
            decide (pod.hashAnnotation = some runtime.verification.runtimeHash)) &&
            decide ((w.servicePods reader service).length = desiredReplicas deployment) then
          allProved w reader service runtime (w.servicePods reader service)
        else return false
      else return false
  | _ => return false

def checkPlatformRuntimeReady (reader : Reader) (runtime : Runtime) : Pass Bool := do
  let ome ← serviceReady w reader .ome runtime
  if ome then serviceReady w reader .scheduler runtime else pure false

/-! ### Reconciling -/

/-- Wired and running: start the services, and publish Ready once both prove this generation. -/
def finishSession (runtime : Runtime) : Pass Bool := do
  let started ← startServices w runtime
  if started then do
    let platform ← onApi (do return some (← checkPlatformRuntimeReady w .reconcile runtime))
      fun _ => pure none
    match platform with
    | none => return true
    | some false => do
        publish w .wiring
        return true
    | some true => do
        publish w .ready
        return false
  else return true

inductive WiringCheck
  | unread
  | invalid
  | checked (complete : Bool) (wired : Nat)

def reconcilerWiring (view : SessionPodView) : Pass WiringCheck :=
  tryCatch (do
    let (complete, wired) ← checkWiringComplete w .reconcile view
    return .checked complete wired) fun e =>
      match e with
      | .failed (.api _) => pure .unread
      | .valueError => pure .invalid
      | e => throw e

/-- The manifest is this run's: wiring, then the workloads, then the services. -/
def reconcileWired (runtime : Runtime) (view : SessionPodView) : Pass Bool := do
  let check ← reconcilerWiring w view
  match check with
  | .unread => return true
  | .invalid => do
      publish w .error
      return false
  | .checked false _ => do
      publish w .wiring
      return false
  | .checked true _ =>
      if view.runningCount < runtime.identity.expectedCount then do
        publish w .wiring
        return false
      else finishSession w runtime

/-- `_wiring_manifest_matches_spec`. -/
def manifestCurrent (runtime : Runtime) : Pass Bool :=
  onApi (do
    ask w (.readManifest .matching)
    match w.manifest .matching with
    | none => return false
    | some stored => return manifestMatches runtime stored) fun status =>
      if status = 404 then pure false else throw (.failed (.api status))

/-- `_reconcile_session` on its one observation of the session pods. -/
def reconcileView (runtime : Runtime) (view : SessionPodView) : Pass Bool :=
  if view.foreign ≠ [] then do
    publish w .pending
    return false
  else if view.deletable ≠ [] then do
    deletePods w .deletePod (view.deletable.map ObservedPod.uid)
    publish w .creating
    return false
  else if view.terminating ≠ [] then do
    publish w .pending
    return false
  else if view.missingNodeIds ≠ [] then deploy w runtime
  else if view.provisionedCount < runtime.identity.expectedCount then do
    publish w .creating
    return false
  else do
    let current ← manifestCurrent w runtime
    if current then reconcileWired w runtime view else publishManifest w runtime view

def reconcileSession (runtime : Runtime) : Pass Bool := do
  modify fun log => { log with reconciling := true }
  let retired ← retireOtherRuns w runtime
  if retired then do
    ask w (.listPods .reconcile)
    match observeSessionPods runtime.identity (w.pods .reconcile) with
    | none => do
        publish w .error
        return false
    | some view => reconcileView w runtime view
  else return true

/-! ### The Ready audit and the pass -/

inductive ReadyInputs
  | current | changed | unreadable | invalid
  deriving DecidableEq, Repr

def readyInputs (runtime : Runtime) : Pass ReadyInputs :=
  tryCatch (do
    let inputs ← runtimeInputs w .ready
    return if inputs.2.runtimeHash ≠ runtime.verification.runtimeHash then .changed else .current)
    fun e =>
      match e with
      | .failed _ | .fetchFailed => pure .unreadable
      | _ => do
          publish w .error
          return .invalid

/-- Whether the CR's status carries what a Ready session publishes. -/
def statusCarries (runtime : Runtime) : Bool :=
  decide (w.cr.status.statusFields = some runtime.verification.proofFields) &&
  decide (w.cr.status.platformHash = some runtime.verification.platformHash) &&
  decide (w.cr.status.runtimeHash = some runtime.verification.runtimeHash)

/-- The audit's wiring check: a refused proof counts as not wired. -/
def auditWiring (view : SessionPodView) : Pass (Option Bool) :=
  tryCatch (do
    let (complete, _) ← checkWiringComplete w .audit view
    return some complete) fun e =>
      match e with
      | .failed (.api _) => pure none
      | .valueError => pure (some false)
      | e => throw e

/-- The audit once the pods are current. -/
def auditServices (runtime : Runtime) (view : SessionPodView) : Pass Bool := do
  let wired ← auditWiring w view
  match wired with
  | none => return true
  | some false => reconcileSession w runtime
  | some true => do
      let platform ← onApi (do return some (← checkPlatformRuntimeReady w .audit runtime))
        fun _ => pure none
      match platform with
      | none => return true
      | some false => reconcileSession w runtime
      | some true => if statusCarries w runtime then return false else reconcileSession w runtime

def auditReady (runtime : Runtime) : Pass Bool := do
  let listed ← onApi (do
    ask w (.listPods .audit)
    return true) fun _ => pure false
  if listed then
    match observeSessionPods runtime.identity (w.pods .audit) with
    | none => reconcileSession w runtime
    | some view =>
        if view.complete && decide (view.runningCount = runtime.identity.expectedCount) then
          auditServices w runtime view
        else reconcileSession w runtime
  else return true

/-- The part of a pass that has its runtime. -/
def driveRuntime (runtime : Runtime) : Pass Bool :=
  if w.cr.status.phase = some .ready then do
    let inputs ← readyInputs w runtime
    match inputs with
    | .changed => do
        modify fun log => { log with held := none, dropped := true }
        return true
    | .unreadable => return true
    | .invalid => return false
    | .current => auditReady w runtime
  else reconcileSession w runtime

/-- The runtime the driver holds, if it serves this generation; otherwise a new one. -/
def heldRuntime : Pass (Option Runtime) := do
  let log ← get
  match log.held with
  | some runtime =>
      if runtime.uid = w.cr.uid ∧ runtime.generation = w.cr.generation then return some runtime
      else do
        let computed ← sessionRuntime w
        modify fun log => { log with held := computed }
        return computed
  | none => do
      let computed ← sessionRuntime w
      modify fun log => { log with held := computed }
      return computed

def driveOnce : Pass Bool :=
  if w.cr.status.phase = some .error ∧ w.cr.generation ≠ 0 ∧
      w.cr.status.observedGeneration = some w.cr.generation then return false
  else do
    let runtime ← heldRuntime w
    match runtime with
    | none => return false
    | some runtime => driveRuntime w runtime

/-- `_driver_pass`: a CR that is absent, another object or being deleted ends the driver. -/
def driverPass : Pass Bool := do
  onApi (ask w .readCr) fun status =>
    throw (if status = 404 then .gone else .failed (.api status))
  require (w.cr.uid = w.driverUid ∧ w.cr.deleting = false) .gone
  driveOnce w

/-! ### Rules -/

section Rules

variable {w : World} {α : Type} {s : PassLog} {Q : Unit → PassLog → Prop}
    {E : Exception → PassLog → Prop}

def PassLog.make (log : PassLog) (call : Call) : PassLog := { log with made := log.made ++ [call] }

theorem wp_ask {call : Call} : wp (ask w call) s Q E ↔
    (w.faults call = none → Q () (s.make call)) ∧
      ∀ failure, w.faults call = some failure → E (.failed failure) (s.make call) := by
  unfold ask
  rw [wp_bind, wp_modify]
  cases hfault : w.faults call with
  | none => simp [PassLog.make]
  | some failure => simp [PassLog.make]

theorem wp_onApi {m : Pass α} {handler : Nat → Pass α} {Q : α → PassLog → Prop} :
    wp (onApi m handler) s Q E ↔ wp m s Q fun e s' =>
      (∀ status, e = .failed (.api status) → wp (handler status) s' Q E) ∧
        (e.isApi = false → E e s') := by
  unfold onApi
  rw [wp_tryCatch]
  refine iff_of_eq (congrArg (wp m s Q) (funext fun e => funext fun s' => propext ?_))
  cases e with
  | failed failure => cases failure <;> simp [Exception.isApi]
  | _ => simp [Exception.isApi]

theorem wp_refuse {value : Option α} {e : Exception} {Q : α → PassLog → Prop} :
    wp (refuse value e) s Q E ↔ (∀ a, value = some a → Q a s) ∧ (value = none → E e s) := by
  cases value <;> simp [refuse]

theorem wp_attempt {m : Pass Unit} {Q : Option Exception → PassLog → Prop} :
    wp (attempt m) s Q E ↔ wp m s (fun _ => Q none) fun e => Q (some e) := by
  unfold attempt
  rw [wp_tryCatch, wp_bind]
  rfl

end Rules

/-! ### A session of one node -/

namespace OneNode

def node : NodeId := ['a']

def row : NodeWiringStatus where
  nodeId := node
  sessionId := 7
  wiringGeneration := 61
  podUid := 42
  status := .ready
  phases := [(.hostPathMtu, .ready), (.managedInterfaceCleanup, .ready), (.sysctls, .ready),
    (.islInterfaces, .ready), (.mpls, .ready), (.groundInfrastructure, .ready),
    (.terrestrialInterfaces, .ready), (.podRouteFinalization, .ready), (.podSecurity, .ready)]
  dirtyKernel := false
  phasesNodup := by decide

def pod : Pod where
  name := 41
  uid := 42
  nodeLabel := node
  runLabel := some 7
  ownerLabel := some 1
  selection := some 31
  owners := [⟨2, 1⟩]
  deleting := false
  server := some 51
  ip := some 52
  phaseRunning := true
  containers := 1
  containersRunning := [true]
  wiringProof := some (.row row)

def manifest : StoredManifest where
  sessionId := some 7
  platformHash := some 21
  wiringGeneration := some 61
  nodeCount := some 1
  payload := .document
    { sessionId := some 7
      wiringGeneration := some 61
      requiredPhases := row.phases.map Prod.fst
      nodes := some (Dict.ofList [(node, 51)])
      valid := true }

def deployment (name : Token) : Deployment where
  name := name
  runAnnotation := some 7
  hashAnnotation := some 22
  generation := 1
  observedGeneration := 1
  specReplicas := some 1
  replicas := 1
  updated := 1
  ready := 1
  available := 1
  unavailable := 0
  terminating := 0

def servicePod : Service → ServicePod
  | .ome => ⟨some 71, some 72, false, some 22⟩
  | .scheduler => ⟨some 73, some 74, false, some 22⟩

def shownProof (name : Token) : Option RuntimeProof :=
  if name = 71 then some ⟨.ome, 11, 1, 1, 72, 24, 25⟩
  else if name = 73 then some ⟨.scheduler, 11, 1, 1, 74, 24, 25⟩
  else none

/-- The answers to a pass over one wired and running node whose CR is in a given phase. -/
def world (phase : Phase) : World where
  faults := fun _ => none
  crName := 2
  driverUid := 1
  cr := ⟨1, 1, false, ⟨some phase, some 1, some 23, some 21, some 22⟩⟩
  sessionRunId := some 7
  sanitize := id
  resolve := fun _ => some ⟨[node], 11⟩
  verify := fun _ => some ⟨21, 22, 23, 24, 25⟩
  prepare := some 31
  generationLive := true
  owned := []
  services := [deployment 81, deployment 82]
  retired := [deployment 81, deployment 82]
  pods := fun _ => [pod]
  agents := [51]
  deployable := true
  artifacts := [91]
  artifactMatches := fun _ => true
  secret := some true
  longDelay := false
  budgetKept := true
  blocking := fun _ => pod
  stalls := fun _ => 1
  manifest := fun _ => some manifest
  placedBudgetKept := true
  wireable := true
  addressed := true
  wiringGeneration := fun _ => 61
  runtimeConfig := some true
  rolled := [deployment 81, deployment 82]
  deployments := fun _ service =>
    match service with
    | .ome => [deployment 81]
    | .scheduler => [deployment 82]
  servicePods := fun _ service => [servicePod service]
  proof := fun _ => shownProof

def runtime : Runtime :=
  boundRuntime (world .wiring) 7 ⟨[node], 11⟩ ⟨21, 22, 23, 24, 25⟩
    ⟨⟨⟨2, 1⟩, 7, 31, [node], by decide⟩, by decide⟩

end OneNode

end NodalArc.ReconcilePass
