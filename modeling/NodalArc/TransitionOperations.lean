import NodalArc.FileSystem

/-! Durable records of session transitions: the record functions, the adapter that keeps the
records in memory and the adapter that keeps one file a record. -/

namespace NodalArc.TransitionOperations

open OrderedDict
open FileSystem

abbrev OperationId := String

/-- A point in time, in microseconds. -/
abbrev Timestamp := Int

inductive OperationState
  | reserved
  | collecting
  | uploading
  | verifying
  | switching
  | succeeded
  | failed
  | cancelled
deriving DecidableEq, Repr

def OperationState.terminal : OperationState → Bool
  | .succeeded | .failed | .cancelled => true
  | _ => false

/-- The order of the states before the end; a terminal state has none. -/
def OperationState.order : OperationState → Option Nat
  | .reserved => some 0
  | .collecting => some 1
  | .uploading => some 2
  | .verifying => some 3
  | .switching => some 4
  | .succeeded | .failed | .cancelled => none

structure OperationSource where
  kind : String
  logicalId : String
deriving DecidableEq, Repr

structure OperationFacts where
  documentDigest : Option String
  closureDigest : Option String
  resolvedSemanticDigest : Option String
  fileCount : Option Nat
  totalBytes : Option Nat
  release : String
  build : String
deriving DecidableEq, Repr

structure OperationEvent where
  state : OperationState
  occurredAt : Timestamp
  detail : Option String
deriving DecidableEq, Repr

structure OperationFailure where
  code : String
  message : String
  causeType : Option String
deriving DecidableEq, Repr

structure RuntimeResult where
  sessionId : String
  generation : Nat
deriving DecidableEq, Repr

structure RuntimePlan where
  namespaceName : String
  name : String
deriving DecidableEq, Repr

structure RuntimeStatusProof where
  observedGeneration : Option Nat
  phase : Option String
  sessionId : Option String
  podCount : Option Nat
  readyPods : Option Nat
  wiredPods : Option Nat
  documentDigest : Option String
  closureDigest : Option String
  resolvedSemanticDigest : Option String
  release : Option String
  build : Option String
deriving DecidableEq, Repr

structure SpecObservation where
  namespaceName : String
  name : String
  generation : Nat
  status : RuntimeStatusProof
deriving DecidableEq, Repr

/-- The server-only values of a record before they are checked together. -/
structure ProvenanceFields where
  sourceRevision : Option String
  repositoryGeneration : Option String
  uploadId : Option String
  uploadResourceNames : List String
  runtimePlan : Option RuntimePlan
  constellationSpec : Option SpecObservation
deriving DecidableEq, Repr

/-- The observed spec is the one the runtime plan names. -/
def ProvenanceFields.PlanMatches (fields : ProvenanceFields) : Prop :=
  ∀ observation, fields.constellationSpec = some observation →
    ∃ plan, fields.runtimePlan = some plan ∧ observation.namespaceName = plan.namespaceName ∧
      observation.name = plan.name

instance (fields : ProvenanceFields) : Decidable fields.PlanMatches :=
  match hspec : fields.constellationSpec, hplan : fields.runtimePlan with
  | none, _ => .isTrue fun _ h => nomatch hspec.symm.trans h
  | some observation, none => .isFalse fun h => by
      obtain ⟨plan, h, -⟩ := h observation hspec
      exact nomatch hplan.symm.trans h
  | some observation, some plan =>
      decidable_of_iff (observation.namespaceName = plan.namespaceName ∧
        observation.name = plan.name) (by
        constructor
        · rintro h observation' hobservation
          obtain rfl := Option.some.inj (hspec.symm.trans hobservation)
          exact ⟨plan, hplan, h⟩
        · intro h
          obtain ⟨plan', hplan', h⟩ := h observation hspec
          obtain rfl := Option.some.inj (hplan.symm.trans hplan')
          exact h)

structure Provenance extends ProvenanceFields where
  names_unique : uploadResourceNames.Nodup
  names_need_upload : uploadResourceNames ≠ [] → uploadId.isSome
  plan_matches : toProvenanceFields.PlanMatches
deriving DecidableEq

/-- Exactly one update. -/
inductive ProvenancePatch
  | uploadResource (name : String)
  | constellationSpec (observation : SpecObservation)
deriving DecidableEq, Repr

inductive StateRefusal
  | terminalImmutable
  | regression (current requested : OperationState)
  | successWithFailure
  | failureEvidenceOnly
  | nonterminalWithEvidence
  | uploadIdRequired
  | specIdentityChanged
deriving DecidableEq, Repr

inductive ValueRefusal
  | operationId
  | eventDetail
  | duplicateResourceNames
  | resourceNamesNeedUpload
  | specNeedsPlan
  | unsupportedCharacters
  | finalEventMismatch
  | failureRequired
  | unexpectedEvidence
deriving DecidableEq, Repr

inductive StoreError
  | notFound
  | conflict (activeOperationId : OperationId)
  | state (reason : StateRefusal)
  | value (reason : ValueRefusal)
  | unreadable (name : Name)
  | multipleActive
  | verificationFailed
  | notPersisted
  | rootNotDirectory
  | os (error : OsError)
deriving DecidableEq, Repr

instance : FromOs StoreError := ⟨.os⟩

def ensure (c : Prop) [Decidable c] (e : StoreError) : Except StoreError Unit :=
  if c then .ok () else .error e

/-- A letter or digit followed by 15 to 127 letters, digits, underscores and hyphens. -/
def operationIdPattern (operationId : OperationId) : Bool :=
  match operationId.toList with
  | [] => false
  | c :: rest =>
      c.isAlphanum && decide (15 ≤ rest.length) && decide (rest.length ≤ 127) &&
        rest.all fun c => c.isAlphanum || c == '_' || c == '-'

def validatedOperationId (operationId : OperationId) : Except StoreError OperationId := do
  ensure (operationIdPattern operationId) (.value .operationId)
  .ok operationId

def operationEvent (state : OperationState) (occurredAt : Timestamp) (detail : Option String) :
    Except StoreError OperationEvent := do
  ensure (∀ text ∈ detail, 1 ≤ text.length ∧ text.length ≤ 512) (.value .eventDetail)
  .ok { state, occurredAt, detail }

def ProvenanceFields.validated (fields : ProvenanceFields) : Except StoreError Provenance :=
  if hunique : fields.uploadResourceNames.Nodup then
    if hupload : fields.uploadResourceNames ≠ [] → fields.uploadId.isSome then
      if hplan : fields.PlanMatches then .ok ⟨fields, hunique, hupload, hplan⟩
      else .error (.value .specNeedsPlan)
    else .error (.value .resourceNamesNeedUpload)
  else .error (.value .duplicateResourceNames)

structure Record where
  operationId : OperationId
  state : OperationState
  source : OperationSource
  facts : OperationFacts
  createdAt : Timestamp
  updatedAt : Timestamp
  events : List OperationEvent
  failure : Option OperationFailure
  runtime : Option RuntimeResult
  version : Nat
  provenance : Provenance
deriving DecidableEq

def Record.validated (record : Record) : Except StoreError Record := do
  ensure (operationIdPattern record.operationId) (.value .unsupportedCharacters)
  ensure (record.events.getLast?.map OperationEvent.state = some record.state)
    (.value .finalEventMismatch)
  ensure (¬ ((record.state = .failed ∨ record.state = .cancelled) ∧ record.failure = none))
    (.value .failureRequired)
  ensure (¬ (record.state.terminal = false ∧
    (record.failure.isSome ∨ record.runtime.isSome))) (.value .unexpectedEvidence)
  .ok record

structure Reservation where
  source : OperationSource
  facts : OperationFacts
  provenance : Provenance
deriving DecidableEq

/-! ### Record functions -/

def newRecord (operationId : OperationId) (reservation : Reservation) (now : Timestamp) :
    Except StoreError Record := do
  let operationId ← validatedOperationId operationId
  let event ← operationEvent .reserved now (some "Transition reserved")
  Record.validated {
    operationId, state := .reserved, source := reservation.source, facts := reservation.facts
    createdAt := now, updatedAt := now, events := [event], failure := none, runtime := none
    version := 1, provenance := reservation.provenance }

def checkEvidence (state : OperationState) (failure : Option OperationFailure)
    (runtime : Option RuntimeResult) : Except StoreError Unit :=
  match state with
  | .succeeded => ensure (failure = none) (.state .successWithFailure)
  | .failed | .cancelled =>
      ensure (¬ (failure = none ∨ runtime ≠ none)) (.state .failureEvidenceOnly)
  | _ => ensure (¬ (failure ≠ none ∨ runtime ≠ none)) (.state .nonterminalWithEvidence)

/-- What a new state asks of the current one: the states before the end never go back. -/
def regresses (current requested : OperationState) : Bool :=
  match requested.order, current.order with
  | some new, some old => new < old
  | _, _ => false

/-- `none` when nothing changes. -/
def advancedRecord (current : Record) (state : OperationState) (detail : Option String)
    (failure : Option OperationFailure) (runtime : Option RuntimeResult) (now : Timestamp) :
    Except StoreError (Option Record) :=
  if current.state.terminal then
    if current.state = state then .ok none else .error (.state .terminalImmutable)
  else do
    ensure (regresses current.state state = false) (.state (.regression current.state state))
    checkEvidence state failure runtime
    let event ← operationEvent state now detail
    let record ← Record.validated { current with
      state, updatedAt := now, events := current.events ++ [event], failure, runtime
      version := current.version + 1 }
    .ok (some record)

/-- The provenance after a patch, `none` when nothing changes. -/
def patchProvenance (provenance : Provenance) :
    ProvenancePatch → Except StoreError (Option Provenance)
  | .uploadResource name => do
      ensure provenance.uploadId.isSome (.state .uploadIdRequired)
      if name ∈ provenance.uploadResourceNames then .ok none
      else do
        let patched ← ProvenanceFields.validated { provenance with
          uploadResourceNames := provenance.uploadResourceNames ++ [name] }
        .ok (some patched)
  | .constellationSpec observation => do
      ensure (∀ existing ∈ provenance.constellationSpec,
        existing.namespaceName = observation.namespaceName ∧ existing.name = observation.name ∧
          existing.generation = observation.generation) (.state .specIdentityChanged)
      if provenance.constellationSpec = some observation then .ok none
      else do
        let patched ← ProvenanceFields.validated { provenance with
          constellationSpec := some observation }
        .ok (some patched)

def patchedProvenance (current : Record) (patch : ProvenancePatch) (now : Timestamp) :
    Except StoreError (Option Record) := do
  ensure (current.state.terminal = false) (.state .terminalImmutable)
  match ← patchProvenance current.provenance patch with
  | none => .ok none
  | some provenance => do
      let record ← Record.validated { current with
        updatedAt := now, version := current.version + 1, provenance }
      .ok (some record)

/-! ### The store in memory -/

abbrev Records := Dict OperationId Record

inductive Call
  | reserve (operationId : OperationId) (reservation : Reservation) (now : Timestamp)
  | getOperation (operationId : OperationId)
  | active
  | advance (operationId : OperationId) (state : OperationState) (detail : Option String)
      (failure : Option OperationFailure) (runtime : Option RuntimeResult) (now : Timestamp)
  | updateProvenance (operationId : OperationId) (patch : ProvenancePatch) (now : Timestamp)
deriving DecidableEq

def activeRecord (records : Records) : Option Record :=
  records.values.find? fun record => !record.state.terminal

/-- What a call changes a record to, where it addresses an existing one. -/
def changedRecord (current : Record) : Call → Except StoreError (Option Record)
  | .advance _ state detail failure runtime now =>
      advancedRecord current state detail failure runtime now
  | .updateProvenance _ patch now => patchedProvenance current patch now
  | _ => .ok none

def addressed (records : Records) (operationId : OperationId) : Except StoreError Record := do
  let operationId ← validatedOperationId operationId
  match records.get? operationId with
  | some record => .ok record
  | none => .error .notFound

def changeInMemory (records : Records) (operationId : OperationId) (call : Call) :
    Except StoreError (Option Record × Records) := do
  let current ← addressed records operationId
  let changed ← changedRecord current call
  let updated := changed.getD current
  .ok (some updated, records.insert operationId updated)

/-- A call on the records in memory: its result and the records after it. -/
def inMemory (records : Records) : Call → Except StoreError (Option Record × Records)
  | .reserve operationId reservation now =>
      match activeRecord records with
      | some active => .error (.conflict active.operationId)
      | none =>
          if operationId ∈ records then .error (.conflict operationId)
          else do
            let record ← newRecord operationId reservation now
            .ok (some record, records.insert operationId record)
  | .getOperation operationId => do
      let record ← addressed records operationId
      .ok (some record, records)
  | .active => .ok (activeRecord records, records)
  | call@(.advance operationId ..) => changeInMemory records operationId call
  | call@(.updateProvenance operationId ..) => changeInMemory records operationId call

def recordsAfter (records : Records) (call : Call) : Records :=
  match inMemory records call with
  | .ok (_, after) => after
  | .error _ => records

/-! ### The store of files -/

def recordSuffix : List Char := ".json".toList

def recordName (operationId : OperationId) : Name :=
  String.ofList (operationId.toList ++ recordSuffix)

def temporaryName (operationId random : String) : Name :=
  "." ++ operationId ++ "." ++ random ++ ".tmp"

def recordId? (name : Name) : Option OperationId :=
  if recordSuffix <:+ name.toList then
    some (String.ofList (name.toList.take (name.toList.length - recordSuffix.length)))
  else none

/-- The serialized form of a record, which reads back as the record. -/
structure Codec (β : Type) where
  encode : Record → β
  decode : β → Option Record
  decode_encode : ∀ record, decode (encode record) = some record

/-- Contents up to what a reader makes of them: a record, or a text that is none. -/
def parsedCodec : Codec (Option Record) where
  encode := some
  decode := id
  decode_encode _ := rfl

/-- The choice of a temporary file's random part: its name is not in use. -/
structure TemporaryNames (β : Type) (root : Path) where
  random : Disk β → OperationId → String
  unused : ∀ disk operationId, temporaryName operationId (random disk operationId) :: root ∉ disk

def longestName {β : Type} (disk : Disk β) : Nat :=
  (disk.keys.map fun path => (path.headD "").length).foldr max 0

/-- Names longer than any in use. -/
def longerNames (β : Type) (root : Path) : TemporaryNames β root where
  random disk _ := String.ofList (List.replicate (longestName disk) 'x')
  unused disk operationId hmem := by
    have hlength : (temporaryName operationId
        (String.ofList (List.replicate (longestName disk) 'x'))).length ≤ longestName disk :=
      List.le_max_of_le' 0 (List.mem_map.mpr ⟨_, hmem, rfl⟩) le_rfl
    simp only [temporaryName, String.length_append, String.length_ofList,
      List.length_replicate] at hlength
    have hdot : ".".length = 1 := rfl
    omega

/-- The steps of a write at which the operating system is called. -/
inductive WriteStep
  | makeTemporary
  | changeMode
  | writeContent
  | syncContent
  | closeStream
  | replace
  | verify
  | openDirectory
  | syncDirectory
  | closeDirectory
  | closeDescriptor
  | removeTemporary
deriving DecidableEq, Repr

inductive Step
  | makeRoot
  | changeRootMode
  | glob
  | exists (path : Path)
  | isFile (path : Path)
  | read (path : Path)
  | writing (step : WriteStep)
deriving DecidableEq, Repr

section Files

variable {β : Type} [DecidableEq β] [Inhabited β] (codec : Codec β) {root : Path}
    (names : TemporaryNames β root)

abbrev StoreProgram (β : Type) := FileProgram Step StoreError β

def raise {α : Type} (e : StoreError) : StoreProgram β α := throw (.raised e)

def lifted {α : Type} : Except StoreError α → StoreProgram β α
  | .ok a => pure a
  | .error e => raise e

def recordPath (root : Path) (operationId : OperationId) : StoreProgram β Path := do
  let operationId ← lifted (validatedOperationId operationId)
  return recordName operationId :: root

def readPath (path : Path) (name : Name) : StoreProgram β Record := do
  let content ← catching (readFile (.read path) path) fun _ => raise (.unreadable name)
  match codec.decode content with
  | some record => return record
  | none => raise (.unreadable name)

/-- The record files of the directory.  A listing that fails is taken for an empty one. -/
def globRecords (root : Path) : StoreProgram β (List Name) := do
  let found ← catching (listDirectory .glob root) fun _ => pure []
  return (found.filter fun name => (recordId? name).isSome).insertionSort (· ≤ ·)

def readActive (root : Path) : StoreProgram β (Option Record) := do
  let recordNames ← globRecords root
  let records ← recordNames.mapM fun name => readPath codec (name :: root) name
  match records.filter fun record => !record.state.terminal with
  | [] => return none
  | [active] => return some active
  | _ :: _ :: _ => raise .multipleActive

/-- The part of a write that its exception handler surrounds. -/
def replaceThrough (temporary target : Path) (payload : β) : StoreProgram β Unit := do
  touch (.writing .changeMode)
  write (.writing .writeContent) temporary payload
  syncFile (.writing .syncContent) temporary
  touch (.writing .closeStream)
  replaceFile (.writing .replace) temporary target
  let written ← readFile (.writing .verify) target
  if written ≠ payload then raise .verificationFailed
  touch (.writing .openDirectory)
  syncDirectory (.writing .syncDirectory)
  touch (.writing .closeDirectory)

def cleanUp (temporary : Path) (e : StoreError) : StoreProgram β Unit := do
  catching (touch (.writing .closeDescriptor)) fun _ => pure ()
  catching (unlink (.writing .removeTemporary) temporary) fun _ => pure ()
  match e with
  | .verificationFailed => raise .verificationFailed
  | _ => raise .notPersisted

def writeRecord (record : Record) : StoreProgram β Unit := do
  let target ← recordPath root record.operationId
  let before ← get
  let temporary := temporaryName record.operationId
    (names.random before.disk record.operationId) :: root
  create (.writing .makeTemporary) temporary
  catching (replaceThrough temporary target (codec.encode record)) (cleanUp temporary)

/-- A question about a path that a failure of the operating system answers with no. -/
def asked (step : Step) (holds : Disk β → Bool) : StoreProgram β Bool :=
  catching (look step fun d => .ok (holds d)) fun _ => pure false

def present (path : Path) : StoreProgram β Bool := asked (.exists path) fun d => decide (path ∈ d)

def isFile (path : Path) : StoreProgram β Bool :=
  asked (.isFile path) fun d => d.get? path matches some (.file ..)

def readExisting (root : Path) (operationId : OperationId) : StoreProgram β Record := do
  let path ← recordPath root operationId
  if ← isFile path then readPath codec path (recordName operationId)
  else raise .notFound

def changeOnDisk (operationId : OperationId) (call : Call) : StoreProgram β (Option Record) := do
  let current ← readExisting codec root operationId
  match ← lifted (changedRecord current call) with
  | none => return some current
  | some updated => do
      writeRecord codec names updated
      return some updated

def onDisk : Call → StoreProgram β (Option Record)
  | .reserve operationId reservation now => do
      match ← readActive codec root with
      | some active => raise (.conflict active.operationId)
      | none => do
          let target ← recordPath root operationId
          if ← present target then raise (.conflict operationId)
          let record ← lifted (newRecord operationId reservation now)
          writeRecord codec names record
          return some record
  | .getOperation operationId => do
      let record ← readExisting codec root operationId
      return some record
  | .active => readActive codec root
  | call@(.advance operationId ..) => changeOnDisk codec names operationId call
  | call@(.updateProvenance operationId ..) => changeOnDisk codec names operationId call

def openStore (root : Path) : StoreProgram β Unit := do
  let w ← get
  match w.disk.get? root with
  | some .directory => pure ()
  | some (.file ..) => raise .rootNotDirectory
  | none => mkdir .makeRoot root
  touch .changeRootMode

end Files

end NodalArc.TransitionOperations
