import NodalArc.TransitionOperations

/-! The adapter of files refines the adapter in memory: call by call it gives the same answers,
and a call cut off at any point leaves the records from before it or from after it. -/

namespace NodalArc.TransitionStore

open OrderedDict
open FileSystem
open StatefulProgram
open StatefulProgram.Program
open TransitionOperations

variable {call : Call} {name : Name} {id : OperationId} {result : Option Record}
  {path target temporary : Path} {current r record updated : Record} {after : Records}
  {e : StoreError} {α : Type}

/-! ### Names -/

theorem recordId?_recordName (id : OperationId) : recordId? (recordName id) = some id := by
  unfold recordId? recordName
  rw [if_pos (by simp), String.toList_ofList, List.length_append, Nat.add_sub_cancel,
    List.take_left' rfl, String.ofList_toList]

theorem recordName_of_recordId? (h : recordId? name = some id) :
    name = recordName id := by
  unfold recordId? at h
  split at h
  next hsuffix =>
    obtain ⟨stem, hstem⟩ := hsuffix
    obtain rfl := Option.some.inj h
    rw [recordName, ← hstem, List.length_append, Nat.add_sub_cancel, List.take_left' rfl,
      String.toList_ofList, hstem, String.ofList_toList]
  next => cases h

theorem recordName_injective : Function.Injective recordName := fun id id' h =>
  Option.some.inj ((recordId?_recordName id).symm.trans (h ▸ recordId?_recordName id'))

theorem temporaryName_ne_recordName (id random id' : String) :
    temporaryName id random ≠ recordName id' := by
  intro h
  have hlast := congrArg (fun name : Name => name.toList.reverse.head?) h
  simp [temporaryName, recordName, recordSuffix, String.toList_append] at hlast

/-! ### Records -/

def Progress (r r' : Record) : Prop :=
  r' = r ∨ (r.state.terminal = false ∧ r.version < r'.version ∧
    regresses r.state r'.state = false)

theorem regresses_trans {s t u : OperationState} (hst : regresses s t = false)
    (htu : regresses t u = false) (ht : t.terminal = false) : regresses s u = false := by
  cases s <;> cases t <;> cases u <;> revert hst htu ht <;> decide

theorem Progress.trans {s t : Record} (hrs : Progress r s) (hst : Progress s t) :
    Progress r t := by
  rcases hrs with rfl | ⟨hr, hversion, hstate⟩
  · exact hst
  · rcases hst with rfl | ⟨hs, hversion', hstate'⟩
    · exact .inr ⟨hr, hversion, hstate⟩
    · exact .inr ⟨hr, hversion.trans hversion', regresses_trans hstate hstate' hs⟩

theorem eq_of_validated {record' : Record} (h : record.validated = .ok record') :
    record' = record ∧ operationIdPattern record.operationId := by
  simp only [Record.validated, bind_eq_ok_iff, ensure] at h
  obtain ⟨_, hid, _, -, _, -, _, -, h⟩ := h
  refine ⟨(Except.ok.inj h).symm, ?_⟩
  split at hid
  · assumption
  · cases hid

theorem changedRecord_spec (h : changedRecord current call = .ok (some updated)) :
    updated.operationId = current.operationId ∧ current.state.terminal = false ∧
      current.version < updated.version ∧ regresses current.state updated.state = false := by
  cases call with
  | reserve | getOperation | active => cases h
  | advance id state detail failure runtime now =>
    simp only [changedRecord, advancedRecord] at h
    split at h
    · split at h <;> cases h
    next hterminal =>
      simp only [bind_eq_ok_iff] at h
      obtain ⟨_, hregress, _, -, event, -, record, hrecord, h⟩ := h
      obtain rfl := Option.some.inj (Except.ok.inj h)
      rw [(eq_of_validated hrecord).1]
      refine ⟨rfl, by simpa using hterminal, Nat.lt_succ_self _, ?_⟩
      unfold ensure at hregress
      split at hregress
      · assumption
      · cases hregress
  | updateProvenance id patch now =>
    simp only [changedRecord, patchedProvenance, bind_eq_ok_iff] at h
    obtain ⟨_, hterminal, patched, -, h⟩ := h
    cases patched with
    | none => cases h
    | some provenance =>
      simp only [bind_eq_ok_iff] at h
      obtain ⟨record, hrecord, h⟩ := h
      obtain rfl := Option.some.inj (Except.ok.inj h)
      rw [(eq_of_validated hrecord).1]
      unfold ensure at hterminal
      split at hterminal
      next hopen =>
        refine ⟨rfl, hopen, Nat.lt_succ_self _, ?_⟩
        change regresses current.state current.state = false
        cases current.state <;> rfl
      next => cases hterminal

theorem newRecord_spec {reservation : Reservation} {now : Timestamp}
    (h : newRecord id reservation now = .ok record) :
    record.operationId = id ∧ operationIdPattern id := by
  simp only [newRecord, validatedOperationId, bind_eq_ok_iff] at h
  obtain ⟨id', ⟨_, -, hid⟩, event, -, hrecord⟩ := h
  obtain rfl := Except.ok.inj hid
  obtain ⟨rfl, hpattern⟩ := eq_of_validated hrecord
  exact ⟨rfl, hpattern⟩

/-- Each record is kept under its own id, and at most one has not ended. -/
structure Consistent (records : Records) : Prop where
  named : ∀ id r, records.get? id = some r → r.operationId = id ∧ operationIdPattern id
  single : ∀ id id' r r', records.get? id = some r → records.get? id' = some r' →
    r.state.terminal = false → r'.state.terminal = false → id = id'

theorem consistent_empty : Consistent ∅ := by
  constructor
  · intro id r h
    cases h
  · intro id id' r r' h
    cases h

variable {records : Records}

theorem terminal_of_activeRecord_none (h : activeRecord records = none)
    (hr : records.get? id = some r) : r.state.terminal = true := by
  have hmem : r ∈ records.values :=
    List.mem_map.mpr ⟨(id, r), Dict.get?_eq_some_iff.mp hr, rfl⟩
  simpa using List.find?_eq_none.mp h r hmem

theorem Consistent.insert (h : Consistent records)
    (hid : record.operationId = id ∧ operationIdPattern id)
    (hsingle : record.state.terminal = false → ∀ id' r, records.get? id' = some r →
      r.state.terminal = false → id' = id) : Consistent (records.insert id record) := by
  constructor
  · intro id' r hr
    rw [Dict.get?_insert] at hr
    split at hr
    next heq =>
      obtain rfl := Option.some.inj hr
      exact heq ▸ hid
    next => exact h.named id' r hr
  · intro a b r s ha hb hr hs
    rw [Dict.get?_insert] at ha hb
    split at ha <;> split at hb
    next heqa heqb => rw [heqa, heqb]
    next heqa _ =>
      obtain rfl := Option.some.inj ha
      exact heqa.trans (hsingle hr b s hb hs).symm
    next _ heqb =>
      obtain rfl := Option.some.inj hb
      exact (hsingle hs a r ha hr).trans heqb.symm
    next => exact h.single a b r s ha hb hr hs

/-- What a call that returns did to the records. -/
inductive Effect (records : Records) : Records → Prop
  | nothing : Effect records records
  | added {id : OperationId} {record : Record} (free : activeRecord records = none)
      (absent : id ∉ records) (named : record.operationId = id ∧ operationIdPattern id) :
      Effect records (records.insert id record)
  | changed {id : OperationId} {current updated : Record}
      (held : records.get? id = some current) (same : updated.operationId = current.operationId)
      (progress : Progress current updated) : Effect records (records.insert id updated)

theorem addressed_eq_ok_iff :
    addressed records id = .ok record ↔
      operationIdPattern id = true ∧ records.get? id = some record := by
  simp only [addressed, validatedOperationId, ensure, bind_eq_ok_iff]
  constructor
  · rintro ⟨id', ⟨_, hpattern, hid⟩, h⟩
    obtain rfl := Except.ok.inj hid
    split at hpattern
    next hvalid =>
      refine ⟨hvalid, ?_⟩
      split at h
      next record' hget =>
        rw [hget, Except.ok.inj h]
      next => cases h
    next => cases hpattern
  · rintro ⟨hvalid, hget⟩
    refine ⟨id, ⟨(), by rw [if_pos hvalid], rfl⟩, ?_⟩
    rw [hget]

theorem effect_of_changeInMemory
    (h : changeInMemory records id call = .ok (result, after)) :
    Effect records after := by
  simp only [changeInMemory, bind_eq_ok_iff] at h
  obtain ⟨current, hcurrent, changed, hchanged, h⟩ := h
  obtain ⟨-, rfl⟩ := Prod.mk.inj (Except.ok.inj h)
  have hheld := (addressed_eq_ok_iff.mp hcurrent).2
  cases changed with
  | none => exact .changed hheld rfl (.inl rfl)
  | some updated =>
    obtain ⟨hid, hprogress⟩ := changedRecord_spec hchanged
    exact .changed hheld hid (.inr hprogress)

theorem effect_of_inMemory (h : inMemory records call = .ok (result, after))
    : Effect records after := by
  cases call with
  | reserve id reservation now =>
    simp only [inMemory] at h
    split at h
    next => cases h
    next hfree =>
      split at h
      next => cases h
      next habsent =>
        rw [bind_eq_ok_iff] at h
        obtain ⟨record, hrecord, h⟩ := h
        obtain ⟨-, rfl⟩ := Prod.mk.inj (Except.ok.inj h)
        exact .added hfree habsent (newRecord_spec hrecord)
  | getOperation id =>
    simp only [inMemory, bind_eq_ok_iff] at h
    obtain ⟨record, -, h⟩ := h
    obtain ⟨-, rfl⟩ := Prod.mk.inj (Except.ok.inj h)
    exact .nothing
  | active =>
    obtain ⟨-, rfl⟩ := Prod.mk.inj (Except.ok.inj h)
    exact .nothing
  | advance => exact effect_of_changeInMemory h
  | updateProvenance => exact effect_of_changeInMemory h

theorem effect_recordsAfter (records : Records) (call : Call) :
    Effect records (recordsAfter records call) := by
  unfold recordsAfter
  split
  next result after h => exact effect_of_inMemory h
  next => exact .nothing

theorem Effect.consistent (h : Effect records after)
    (hrecords : Consistent records) : Consistent after := by
  cases h with
  | nothing => exact hrecords
  | added free absent named =>
    refine hrecords.insert named fun _ id' r hr hopen => ?_
    rw [terminal_of_activeRecord_none free hr] at hopen
    cases hopen
  | changed held same progress =>
    refine hrecords.insert (same ▸ hrecords.named _ _ held) fun hopen id' r hr hrest =>
      hrecords.single _ _ _ _ hr held hrest ?_
    rcases progress with rfl | ⟨hcurrent, -, -⟩
    · exact hopen
    · exact hcurrent

theorem Effect.progress (h : Effect records after)
    (hr : records.get? id = some r) :
    ∃ r', after.get? id = some r' ∧ Progress r r' := by
  cases h with
  | nothing => exact ⟨r, hr, .inl rfl⟩
  | @added new record free absent named =>
    refine ⟨r, ?_, .inl rfl⟩
    rw [Dict.get?_insert, if_neg, hr]
    rintro rfl
    exact absent (Dict.mem_of_get? hr)
  | @changed changed current updated held same progress =>
    rw [Dict.get?_insert]
    by_cases heq : id = changed
    · subst heq
      obtain rfl := Option.some.inj (held.symm.trans hr)
      exact ⟨updated, if_pos rfl, progress⟩
    · exact ⟨r, by rw [if_neg heq, hr], .inl rfl⟩

def memoryAfter (records : Records) (calls : List Call) : Records :=
  calls.foldl recordsAfter records

theorem consistent_memoryAfter (h : Consistent records) (calls : List Call) :
    Consistent (memoryAfter records calls) := by
  induction calls generalizing records with
  | nil => exact h
  | cons call calls ih => exact ih ((effect_recordsAfter records call).consistent h)

theorem progress_memoryAfter (records : Records) (calls : List Call)
    (hr : records.get? id = some r) :
    ∃ r', (memoryAfter records calls).get? id = some r' ∧ Progress r r' := by
  induction calls generalizing records r with
  | nil => exact ⟨r, hr, .inl rfl⟩
  | cons call calls ih =>
    obtain ⟨s, hs, hrs⟩ := (effect_recordsAfter records call).progress hr
    obtain ⟨t, ht, hst⟩ := ih (recordsAfter records call) hs
    exact ⟨t, ht, hrs.trans hst⟩

/-! ### Records on disk -/

section Files

variable {β : Type} (codec : Codec β) {root : Path} {disk : Disk β} {records : Records}
    {w : World Step β} {random : String} {faults : WriteStep → Fault β}

/-- The files of the directory are the records, and synced. -/
structure Mirrors (root : Path) (disk : Disk β) (records : Records) : Prop where
  directory : disk.get? root = some .directory
  files : ∀ id, disk.get? (recordName id :: root) =
    (records.get? id).map fun record => .file (codec.encode record) true

variable {codec}

theorem Mirrors.mem_iff (h : Mirrors codec root disk records) :
    recordName id :: root ∈ disk ↔ id ∈ records := by
  rw [Dict.mem_iff, h.files, Dict.mem_iff]
  cases records.get? id <;> simp

theorem Mirrors.file_ne_directory (h : Mirrors codec root disk records) :
    disk.get? (recordName id :: root) ≠ some .directory := by
  rw [h.files]
  cases records.get? id <;> simp

theorem durable_mirrors (records : Records) :
    Durable fun disk => Mirrors codec root disk records := by
  refine fun torn disk h => ⟨?_, fun id => ?_⟩
  · rw [settle, Dict.get?_mapValues, h.directory]
    rfl
  · rw [settle, Dict.get?_mapValues, h.files]
    cases records.get? id <;> rfl

theorem ne_temporary (id random : String) : root ≠ temporaryName id random :: root :=
  fun h => absurd (congrArg List.length h) (by simp)

theorem recordPath_ne_temporary (id random id' : String) :
    recordName id' :: root ≠ temporaryName id random :: root :=
  fun h => temporaryName_ne_recordName id random id' (List.cons.inj h).1.symm

theorem Mirrors.insert_temporary (h : Mirrors codec root disk records) (id : OperationId)
    (random : String) (node : Node β) :
    Mirrors codec root (disk.insert (temporaryName id random :: root) node) records := by
  constructor
  · rw [Dict.get?_insert, if_neg (ne_temporary id random), h.directory]
  · intro id'
    rw [Dict.get?_insert, if_neg (recordPath_ne_temporary id random id'), h.files]

theorem Mirrors.erase_temporary (h : Mirrors codec root disk records) (id : OperationId)
    (random : String) :
    Mirrors codec root (disk.erase (temporaryName id random :: root)) records := by
  constructor
  · rw [Dict.get?_erase, if_neg (ne_temporary id random), h.directory]
  · intro id'
    rw [Dict.get?_erase, if_neg (recordPath_ne_temporary id random id'), h.files]

theorem Mirrors.insert (h : Mirrors codec root disk records) (record : Record) :
    Mirrors codec root (disk.insert (recordName record.operationId :: root)
      (.file (codec.encode record) true)) (records.insert record.operationId record) := by
  constructor
  · rw [Dict.get?_insert, if_neg fun hroot => absurd (congrArg List.length hroot) (by simp),
      h.directory]
  · intro id
    rw [Dict.get?_insert, Dict.get?_insert, h.files]
    by_cases heq : id = record.operationId
    · rw [if_pos (by rw [heq]), if_pos heq]
      rfl
    · rw [if_neg fun hname => heq (recordName_injective (List.cons.inj hname).1), if_neg heq]

theorem recordPath_eq (h : operationIdPattern id = true) :
    (recordPath root id : StoreProgram β Path) = pure (recordName id :: root) := by
  have hvalid : validatedOperationId id = .ok id := by
    simp [validatedOperationId, ensure, h, bind, Except.bind]
  unfold recordPath
  rw [hvalid]
  rfl

def listed (records : Records) (found : List Name) : List Record :=
  found.filterMap fun name => (recordId? name).bind records.get?

theorem filterMap_get?_keys (records : Records) :
    records.keys.filterMap records.get? = records.values := by
  rw [Dict.keys, Dict.values, List.filterMap_map]
  have hentry : ∀ entry ∈ records.entries, (records.get? ∘ Prod.fst) entry = some entry.2 :=
    fun entry hmem => Dict.get?_eq_some_iff.mpr hmem
  rw [List.filterMap_congr hentry, List.filterMap_eq_map']

theorem Mirrors.listed_perm (h : Mirrors codec root disk records) {found : List Name}
    (hfound : found.Perm ((children disk root).filter fun name => (recordId? name).isSome)) :
    (listed records found).Perm records.values := by
  have hids : (found.filterMap recordId?).Perm records.keys := by
    refine (List.perm_ext_iff_of_nodup ?_ records.keys_nodup).mpr fun id => ?_
    · refine ((hfound.nodup_iff).mpr ((nodup_children disk root).filter _)).filterMap ?_
      intro name name' id hname hname'
      rw [recordName_of_recordId? hname, recordName_of_recordId? hname']
    · rw [List.mem_filterMap, Dict.mem_keys_iff, ← h.mem_iff]
      constructor
      · rintro ⟨name, hname, hid⟩
        obtain rfl := recordName_of_recordId? hid
        exact mem_children.mp (List.mem_of_mem_filter (hfound.mem_iff.mp hname))
      · intro hmem
        refine ⟨recordName id, hfound.mem_iff.mpr (List.mem_filter.mpr
          ⟨mem_children.mpr hmem, ?_⟩), recordId?_recordName id⟩
        rw [recordId?_recordName]
        rfl
  have hperm := hids.filterMap records.get?
  rw [List.filterMap_filterMap, filterMap_get?_keys] at hperm
  exact hperm

theorem Consistent.open_records (h : Consistent records) :
    records.values.filter (fun record => !record.state.terminal) =
      (activeRecord records).toList := by
  have hhead : (records.values.filter fun record => !record.state.terminal).head? =
      activeRecord records := List.head?_filter ..
  have hentries : records.values.filter (fun record => !record.state.terminal) =
      (records.entries.filter fun entry => !entry.2.state.terminal).map Prod.snd := by
    rw [Dict.values, List.filter_map]
    rfl
  have hnodup : ((records.entries.filter fun entry => !entry.2.state.terminal).map
      Prod.fst).Nodup := records.nodup.sublist (List.filter_sublist.map _)
  rw [← hhead, hentries]
  have hmem : ∀ entry ∈ records.entries.filter fun entry => !entry.2.state.terminal,
      records.get? entry.1 = some entry.2 ∧ entry.2.state.terminal = false := by
    intro entry hentry
    rw [List.mem_filter] at hentry
    exact ⟨Dict.get?_eq_some_iff.mpr hentry.1, by simpa using hentry.2⟩
  generalize records.entries.filter (fun entry => !entry.2.state.terminal) = unfinished
    at hmem hnodup
  match unfinished with
  | [] => rfl
  | [entry] => rfl
  | entry :: entry' :: rest =>
    obtain ⟨hget, hopen⟩ := hmem entry List.mem_cons_self
    obtain ⟨hget', hopen'⟩ := hmem entry' (List.mem_cons_of_mem _ List.mem_cons_self)
    have heq := h.single _ _ _ _ hget hget' hopen hopen'
    simp [heq] at hnodup

/-- What goes wrong in an attempt: only steps of a write. -/
def during (faults : WriteStep → Fault β) : Step → Fault β
  | .writing step => faults step
  | _ => .none

section Reads

variable (hfaults : w.faults = during faults)

include hfaults

theorem computes_readPath (h : w.disk.get? path = some (.file (codec.encode record) true)) :
    Computes (readPath codec path name) w (.ok record) := by
  have hread : Computes (readFile (.read path) path : StoreProgram β β) w
      (.ok (codec.encode record)) := computes_look (congrFun hfaults _) (onFile_ok h)
  refine computes_bind (g := fun _ => .ok record) (computes_catching hread) fun content hcontent => ?_
  obtain rfl := Except.ok.inj hcontent
  rw [codec.decode_encode]
  exact computes_pure

theorem computes_asked {step : Step} {holds : Disk β → Bool} (hstep : ∀ s, step ≠ .writing s) :
    Computes (asked step holds) w (.ok (holds w.disk)) := by
  refine computes_catching (computes_look ?_ rfl)
  rw [hfaults]
  cases step with
  | writing s => exact absurd rfl (hstep s)
  | _ => rfl

theorem computes_readActive (h : Mirrors codec root w.disk records)
    (hconsistent : Consistent records) :
    Computes (readActive codec root) w (.ok (activeRecord records)) := by
  have hsorted := List.perm_insertionSort (· ≤ ·)
    ((children w.disk root).filter fun name => (recordId? name).isSome)
  generalize hfound : ((children w.disk root).filter fun name =>
    (recordId? name).isSome).insertionSort (· ≤ ·) = found at hsorted
  have hglob : Computes (globRecords root) w (.ok found) := by
    have hlist : Computes (listDirectory .glob root : StoreProgram β (List Name)) w
        (.ok (children w.disk root)) := by
      refine computes_look (congrFun hfaults _) ?_
      rw [h.directory]
    refine computes_bind (g := fun _ => .ok found) (computes_catching hlist) fun names hnames => ?_
    obtain rfl := Except.ok.inj hnames
    rw [hfound]
    exact computes_pure
  have hread : Computes (found.mapM fun name => readPath codec (name :: root) name) w
      (.ok (listed records found)) := by
    refine computes_mapM fun name hname => ?_
    obtain ⟨hchild, hid⟩ := List.mem_filter.mp (hsorted.mem_iff.mp hname)
    obtain ⟨id, hid⟩ := Option.isSome_iff_exists.mp hid
    obtain rfl := recordName_of_recordId? hid
    obtain ⟨record, hrecord⟩ := Dict.mem_iff.mp (h.mem_iff.mp (mem_children.mp hchild))
    refine ⟨record, by rw [hid]; exact hrecord, computes_readPath hfaults ?_⟩
    rw [h.files, hrecord]
    rfl
  refine computes_bind (g := fun _ => .ok (activeRecord records)) hglob fun names hnames => ?_
  obtain rfl := Except.ok.inj hnames
  refine computes_bind (g := fun _ => .ok (activeRecord records)) hread fun read hread' => ?_
  obtain rfl := Except.ok.inj hread'
  have hopen := (h.listed_perm hsorted).filter fun record => !record.state.terminal
  rw [hconsistent.open_records] at hopen
  cases hactive : activeRecord records with
  | none =>
    rw [hactive, Option.toList_none, List.perm_nil] at hopen
    rw [hopen]
    exact computes_pure
  | some active =>
    rw [hactive, Option.toList_some, List.perm_singleton] at hopen
    rw [hopen]
    exact computes_pure

theorem computes_readExisting (h : Mirrors codec root w.disk records) (id : OperationId) :
    Computes (readExisting codec root id) w (addressed records id) := by
  unfold readExisting addressed
  cases hvalid : validatedOperationId id with
  | error e =>
    refine computes_bind (r := .error e) (g := fun _ => .error e) ?_ fun _ h => by cases h
    unfold recordPath
    rw [hvalid]
    exact computes_throw
  | ok id' =>
    have hsame : id' = id ∧ operationIdPattern id = true := by
      simp only [validatedOperationId, ensure, bind_eq_ok_iff] at hvalid
      obtain ⟨_, hpattern, hid⟩ := hvalid
      split at hpattern
      next hmatch => exact ⟨(Except.ok.inj hid).symm, hmatch⟩
      next => cases hpattern
    obtain ⟨rfl, hpattern⟩ := hsame
    rw [recordPath_eq hpattern, pure_bind]
    have hfile := h.files id'
    have hread : ∀ f : OperationId → Except StoreError Record, (Except.ok id' >>= f) = f id' :=
      fun _ => rfl
    rw [hread]
    refine computes_bind (g := fun _ => _) (computes_asked hfaults (by simp)) fun found hfound => ?_
    obtain rfl := Except.ok.inj hfound
    cases hget : records.get? id' with
    | none =>
      rw [hget] at hfile
      rw [hfile]
      exact computes_throw
    | some record =>
      rw [hget] at hfile
      rw [hfile]
      exact computes_readPath hfaults hfile

end Reads

/-! ### Writing a record -/

variable [DecidableEq β] [Inhabited β] (names : TemporaryNames β root)

/-- The records from before a write or from after it. -/
def Either (codec : Codec β) (root : Path) (records after : Records) (disk : Disk β) : Prop :=
  Mirrors codec root disk records ∨ Mirrors codec root disk after

omit [DecidableEq β] [Inhabited β] in
theorem durable_either (codec : Codec β) (root : Path) (records after : Records) :
    Durable (Either codec root records after) :=
  (durable_mirrors records).or (durable_mirrors after)

omit [Inhabited β] in
theorem wp_replaceThrough {content : β} {synced : Bool}
    (hafter : after = records.insert record.operationId record)
    (hw : w.Versions (Either codec root records after)) (h : Mirrors codec root w.disk records)
    (hfile : w.disk.get? (temporaryName id random :: root) = some (.file content synced)) :
    wp (replaceThrough (temporaryName id random :: root) (recordName record.operationId :: root)
        (codec.encode record)) w (fun _ w' => Mirrors codec root w'.disk after)
      fun _ w' => w.Struck (Either codec root records after) w' := by
  have hP := durable_either codec root records after
  unfold replaceThrough
  rw [wp_bind]
  refine wp_touch hP hw ?_ fun _ _ h => h
  rw [wp_bind]
  have hwritten := h.insert_temporary id random (.file (codec.encode record) false)
  have hw₁ := hw.change (.inl hwritten)
  refine wp_alter hP hw (fun _ => .inl (h.insert_temporary id random _)) (onFile_ok hfile) ?_ fun _ _ h => h
  rw [wp_bind]
  have hsynced := hwritten.insert_temporary id random (.file (codec.encode record) true)
  have hw₂ := hw₁.change (.inl hsynced)
  refine wp_alter hP hw₁ (fun _ => .inl hwritten)
    (onFile_ok (by rw [World.change, Dict.get?_insert, if_pos rfl])) ?_ fun _ _ h => h
  rw [wp_bind]
  refine wp_touch hP hw₂ ?_ fun _ _ h => h
  rw [wp_bind]
  -- The temporary file is synced before it takes the record's place.
  have hreplaced := (hsynced.erase_temporary id random).insert record
  rw [← hafter] at hreplaced
  have hw₃ := hw₂.change (.inr hreplaced)
  refine wp_alter hP hw₂ (fun _ => .inl hsynced) (moveOver_ok
    (by rw [World.change, Dict.get?_insert, if_pos rfl]) hsynced.file_ne_directory) ?_ fun _ _ h => h
  rw [wp_bind]
  refine wp_look hP hw₃ (onFile_ok (by rw [World.change, Dict.get?_insert, if_pos rfl])) ?_
    fun _ _ h => h
  simp only [ne_eq, not_true_eq_false, if_false]
  rw [wp_bind]
  refine wp_touch hP hw₃ ?_ fun _ _ h => h
  rw [wp_bind]
  refine wp_syncDirectory hP hw₃ ?_ fun _ _ h => h
  refine wp_touch hP (fun d hd => .inr ?_) hreplaced fun _ _ h => h
  obtain rfl := List.mem_singleton.mp hd
  exact hreplaced

omit [DecidableEq β] [Inhabited β] in
theorem wp_cleanUp {P : Disk β → Prop} {Q : Unit → World Step β → Prop} (hP : Durable P)
    (herase : ∀ d, P d → P (d.erase temporary)) (hmet : w.met = true) (hw : w.Versions P) :
    wp (cleanUp temporary e) w Q fun _ w' => w'.met = true ∧ w'.Versions P := by
  unfold cleanUp
  rw [wp_bind]
  refine wp_imp (wp_suppressed (wp_touch hP hw ⟨hmet, hw⟩ fun _ _ h => h.2)) ?_
  rintro _ w₁ ⟨hmet₁, hw₁⟩
  rw [wp_bind]
  have hunlink : wp (unlink (.writing .removeTemporary) temporary : StoreProgram β Unit) w₁
      (fun _ w' => w'.met = true ∧ w'.Versions P) fun _ w' => w'.met = true ∧ w'.Versions P := by
    have hdisk := hw₁ _ List.mem_cons_self
    refine wp_alter_cases hP hw₁ (fun _ => hdisk) (fun d hd => ?_) (fun _ _ => ⟨hmet₁, hw₁⟩)
      fun _ _ h => h.2
    obtain ⟨_, _, rfl⟩ := exists_of_onFile hd
    exact ⟨hmet₁, hw₁.change (herase _ hdisk)⟩
  refine wp_imp (wp_suppressed hunlink) fun _ w₂ h₂ => ?_
  cases e <;> exact h₂

theorem wp_writeRecord (hid : operationIdPattern record.operationId = true)
    (h : Mirrors codec root w.disk records) (hw : w.earlier = []) :
    wp (writeRecord codec names record) w
      (fun _ w' => Mirrors codec root w'.disk (records.insert record.operationId record))
      fun _ w' => w.Struck (Either codec root records
        (records.insert record.operationId record)) w' := by
  have hP := durable_either codec root records (records.insert record.operationId record)
  have hversions : w.Versions (Either codec root records
      (records.insert record.operationId record)) := by
    intro d hd
    rw [hw] at hd
    obtain rfl := List.mem_singleton.mp hd
    exact .inl h
  unfold writeRecord
  rw [recordPath_eq hid, pure_bind, wp_bind, wp_get, wp_bind]
  generalize hrandom : names.random w.disk record.operationId = random
  have hunused : temporaryName record.operationId random :: root ∉ w.disk :=
    hrandom ▸ names.unused w.disk record.operationId
  have hcreated := h.insert_temporary record.operationId random (.file default false)
  refine wp_alter hP hversions (fun _ => .inl h) (addEntry_ok hunused h.directory) ?_ fun _ _ h => h
  rw [wp_catching]
  refine wp_mono (wp_replaceThrough rfl (hversions.change (.inl hcreated)) hcreated
    (by rw [World.change, Dict.get?_insert, if_pos rfl])) (fun _ _ h => h) ?_
  rintro (_ | e) w' ⟨hcalm, hmet, hfiles⟩
  · exact ⟨hcalm, hmet, hfiles⟩
  · refine wp_mono (wp_cleanUp hP ?_ hmet hfiles) (fun _ _ h => h) fun _ _ h => ⟨hcalm, h⟩
    exact fun d => Or.imp (·.erase_temporary _ _) (·.erase_temporary _ _)

/-! ### Calls -/

/-- The program does to the files what the call does to the records: it ends as the call in
memory ends, and where a fault stops it the files are those of before or those of after. -/
def Performs (codec : Codec β) (root : Path) (m : StoreProgram β (Option Record))
    (w : World Step β) (records : Records)
    (outcome : Except StoreError (Option Record × Records)) : Prop :=
  wp m w (fun result w' => ∃ after, outcome = .ok (result, after) ∧ Mirrors codec root w'.disk after)
    fun stop w' =>
      (∃ e, stop = .raised e ∧ outcome = .error e ∧ Mirrors codec root w'.disk records) ∨
      ∃ result after, outcome = .ok (result, after) ∧ w.Struck (Either codec root records after) w'

variable {outcome : Except StoreError (Option Record × Records)}

omit [DecidableEq β] [Inhabited β] in
theorem performs_raise (h : Mirrors codec root w.disk records) (houtcome : outcome = .error e) :
    Performs codec root (raise e) w records outcome :=
  .inl ⟨e, rfl, houtcome, h⟩

omit [DecidableEq β] [Inhabited β] in
theorem performs_bind {m : StoreProgram β α} {f : α → StoreProgram β (Option Record)}
    {r : Except StoreError α} (hm : Computes m w r) (h : Mirrors codec root w.disk records)
    (hok : ∀ a, r = .ok a → Performs codec root (f a) w records outcome)
    (herror : ∀ e, r = .error e → outcome = .error e) :
    Performs codec root (m >>= f) w records outcome := by
  unfold Performs
  rw [wp_bind]
  cases r with
  | ok a => exact (wp_of_exec_ok hm).mpr (hok a rfl)
  | error e => exact (wp_of_exec_error hm).mpr (performs_raise h (herror e rfl))

theorem performs_write (h : Mirrors codec root w.disk records) (hw : w.earlier = [])
    (hid : operationIdPattern record.operationId = true)
    (houtcome : outcome = .ok (some record, records.insert record.operationId record)) :
    Performs codec root (do
      writeRecord codec names record
      return some record) w records outcome := by
  unfold Performs
  rw [wp_bind]
  refine wp_mono (wp_writeRecord names hid h hw) ?_ ?_
  · exact fun _ _ hfiles => ⟨_, houtcome, hfiles⟩
  · exact fun _ _ hstruck => .inr ⟨_, _, houtcome, hstruck⟩

omit [DecidableEq β] [Inhabited β] in
theorem computes_lifted (r : Except StoreError α) :
    Computes (lifted r : StoreProgram β α) w r := by
  cases r with
  | ok a => exact computes_pure
  | error e => exact computes_throw

section Calls

variable (h : Mirrors codec root w.disk records) (hconsistent : Consistent records)
    (hfaults : w.faults = during faults) (hw : w.earlier = [])

include h hconsistent hfaults hw

theorem performs_changeOnDisk (id : OperationId) (call : Call) :
    Performs codec root (changeOnDisk codec names id call) w records
      (changeInMemory records id call) := by
  unfold changeOnDisk changeInMemory
  refine performs_bind (computes_readExisting hfaults h id) h ?_ fun e he => by rw [he]; rfl
  intro current hcurrent
  have hget := (addressed_eq_ok_iff.mp hcurrent).2
  rw [hcurrent]
  change Performs codec root _ w records (changedRecord current call >>= fun changed =>
    .ok (some (changed.getD current), records.insert id (changed.getD current)))
  refine performs_bind (computes_lifted (changedRecord current call)) h ?_
    fun e he => by rw [he]; rfl
  intro changed hchanged
  rw [hchanged]
  cases changed with
  | none =>
    refine ⟨_, rfl, h.directory, fun id' => ?_⟩
    rw [h.files, Option.getD_none, Dict.get?_insert]
    by_cases heq : id' = id
    · rw [if_pos heq, heq, hget]
    · rw [if_neg heq]
  | some updated =>
    have hnamed := hconsistent.named id current hget
    have hid : updated.operationId = id := (changedRecord_spec hchanged).1.trans hnamed.1
    refine performs_write names h hw (by rw [hid]; exact hnamed.2) ?_
    rw [hid]
    rfl

theorem performs_onDisk (call : Call) :
    Performs codec root (onDisk codec names call) w records (inMemory records call) := by
  cases call with
  | reserve id reservation now =>
    refine performs_bind (computes_readActive hfaults h hconsistent) h ?_ nofun
    intro active hactive
    obtain rfl := Except.ok.inj hactive
    cases hfree : activeRecord records with
    | some active =>
      refine performs_raise h ?_
      simp only [inMemory, hfree]
    | none =>
      by_cases hpattern : operationIdPattern id = true
      · have hmem : decide (recordName id :: root ∈ w.disk) = decide (id ∈ records) :=
          decide_eq_decide.mpr h.mem_iff
        simp only [recordPath_eq hpattern, pure_bind]
        refine performs_bind (computes_asked hfaults (by simp)) h ?_ nofun
        intro found hfound
        obtain rfl := Except.ok.inj hfound
        rw [hmem]
        by_cases hheld : id ∈ records
        · simp only [hheld, decide_true, if_true]
          refine performs_raise h ?_
          simp only [inMemory, hfree, hheld, if_true]
        · simp only [hheld, decide_false, Bool.false_eq_true, if_false]
          refine performs_bind (computes_lifted (newRecord id reservation now)) h ?_ ?_
          · intro record hrecord
            obtain ⟨hid, -⟩ := newRecord_spec hrecord
            refine performs_write names h hw (by rw [hid]; exact hpattern) ?_
            simp only [inMemory, hfree, hheld, if_false, hrecord, hid]
            rfl
          · intro e he
            simp only [inMemory, hfree, hheld, if_false, he]
            rfl
      · have hinvalid : validatedOperationId id = .error (.value .operationId) := by
          simp [validatedOperationId, ensure, hpattern, bind, Except.bind]
        have habsent : id ∉ records := fun hmem => by
          obtain ⟨record, hrecord⟩ := Dict.mem_iff.mp hmem
          exact hpattern (hconsistent.named id record hrecord).2
        have hpath : (recordPath root id : StoreProgram β Path) =
            raise (.value .operationId) := by
          unfold recordPath
          rw [hinvalid]
          rfl
        rw [hpath]
        refine performs_raise h ?_
        simp only [inMemory, hfree, habsent, if_false, newRecord, hinvalid]
        rfl
  | getOperation id =>
    refine performs_bind (computes_readExisting hfaults h id) h ?_ fun e he => ?_
    · intro record hrecord
      refine ⟨records, ?_, h⟩
      simp only [inMemory, hrecord]
      rfl
    · simp only [inMemory, he]
      rfl
  | active => exact (wp_of_exec_ok (computes_readActive hfaults h hconsistent)).mpr ⟨_, rfl, h⟩
  | advance id => exact performs_changeOnDisk names h hconsistent hfaults hw id _
  | updateProvenance id => exact performs_changeOnDisk names h hconsistent hfaults hw id _

end Calls

/-! ### Histories -/

/-- A call with what goes wrong at the steps of its write. -/
structure Attempt (β : Type) where
  call : Call
  faults : WriteStep → Fault β

def Attempt.calm (call : Call) : Attempt β := ⟨call, fun _ => .none⟩

/-- An attempt on a store whose files are all written back. -/
def attempted (codec : Codec β) (disk : Disk β) (attempt : Attempt β) :
    Except (Stop StoreError) (Option Record) × World Step β :=
  (onDisk codec names attempt.call).exec ⟨disk, [], during attempt.faults, false⟩

/-- The disk after attempts.  The next one starts, on a store reopened after a crash, when what a
failed one left unsynced is written back. -/
def diskAfter (codec : Codec β) (disk : Disk β) (attempts : List (Attempt β)) : Disk β :=
  attempts.foldl (fun disk attempt => (attempted names codec disk attempt).2.disk) disk

/-- The calls whose effect is kept: only one that met a fault may be lost. -/
inductive Kept (codec : Codec β) : Disk β → List (Attempt β) → List Call → Prop
  | nil (disk : Disk β) : Kept codec disk [] []
  | took {disk : Disk β} {attempt : Attempt β} {attempts : List (Attempt β)} {calls : List Call}
      (rest : Kept codec (attempted names codec disk attempt).2.disk attempts calls) :
      Kept codec disk (attempt :: attempts) (attempt.call :: calls)
  | lost {disk : Disk β} {attempt : Attempt β} {attempts : List (Attempt β)} {calls : List Call}
      (met : (attempted names codec disk attempt).2.met = true)
      (rest : Kept codec (attempted names codec disk attempt).2.disk attempts calls) :
      Kept codec disk (attempt :: attempts) calls

def answersInMemory : Records → List Call → List (Except StoreError (Option Record))
  | _, [] => []
  | records, call :: calls =>
      (inMemory records call).map Prod.fst :: answersInMemory (recordsAfter records call) calls

def answersOnDisk (codec : Codec β) :
    Disk β → List Call → List (Except (Stop StoreError) (Option Record))
  | _, [] => []
  | disk, call :: calls =>
      (attempted names codec disk (.calm call)).1 ::
        answersOnDisk codec (attempted names codec disk (.calm call)).2.disk calls

def freshDisk (root : Path) : Disk β := Dict.ofList [(root, .directory)]

omit [DecidableEq β] [Inhabited β] in
theorem mirrors_freshDisk : Mirrors codec root (freshDisk root) ∅ := by
  constructor
  · simp [freshDisk, Dict.ofList]
  · intro id
    simp [freshDisk, Dict.ofList]

section Histories

variable (h : Mirrors codec root disk records) (hconsistent : Consistent records)

include h hconsistent

theorem mirrors_attempted (attempt : Attempt β) :
    Mirrors codec root (attempted names codec disk attempt).2.disk
        (recordsAfter records attempt.call) ∨
      (attempted names codec disk attempt).2.met = true ∧
        Mirrors codec root (attempted names codec disk attempt).2.disk records := by
  have hperforms := performs_onDisk names (w := ⟨disk, [], during attempt.faults, false⟩) h
    hconsistent rfl rfl attempt.call
  unfold Performs wp at hperforms
  unfold recordsAfter attempted
  split at hperforms
  next result w' hexec =>
    obtain ⟨after, houtcome, hfiles⟩ := hperforms
    rw [hexec, houtcome]
    exact .inl hfiles
  next stop w' hexec =>
    rw [hexec]
    rcases hperforms with ⟨e, -, houtcome, hfiles⟩ | ⟨result, after, houtcome, -, hmet, hfiles⟩
    · rw [houtcome]
      exact .inl hfiles
    · rw [houtcome]
      rcases hfiles _ List.mem_cons_self with hfiles | hfiles
      · exact .inr ⟨hmet, hfiles⟩
      · exact .inl hfiles

theorem attempted_calm (call : Call) :
    (attempted names codec disk (.calm call)).1 =
        ((inMemory records call).map Prod.fst).mapError Stop.raised ∧
      Mirrors codec root (attempted names codec disk (.calm call)).2.disk
        (recordsAfter records call) := by
  have hperforms := performs_onDisk names (w := ⟨disk, [], during fun _ => .none, false⟩) h
    hconsistent rfl rfl call
  unfold Performs wp at hperforms
  unfold recordsAfter attempted Attempt.calm
  split at hperforms
  next result w' hexec =>
    obtain ⟨after, houtcome, hfiles⟩ := hperforms
    rw [hexec, houtcome]
    exact ⟨rfl, hfiles⟩
  next stop w' hexec =>
    rw [hexec]
    rcases hperforms with ⟨e, rfl, houtcome, hfiles⟩ | ⟨_, _, _, hcalm, -⟩
    · rw [houtcome]
      exact ⟨rfl, hfiles⟩
    · refine absurd (fun step => ?_) hcalm
      cases step <;> rfl

theorem answers_agree (calls : List Call) : answersOnDisk names codec disk calls =
      (answersInMemory records calls).map (Except.mapError Stop.raised) := by
  induction calls generalizing disk records with
  | nil => rfl
  | cons call calls ih =>
    obtain ⟨hanswer, hfiles⟩ := attempted_calm names h hconsistent call
    rw [answersOnDisk, answersInMemory, List.map_cons, hanswer,
      ih hfiles ((effect_recordsAfter records call).consistent hconsistent)]

theorem kept_of_mirrors (attempts : List (Attempt β)) : ∃ kept, Kept names codec disk attempts kept ∧
      Mirrors codec root (diskAfter names codec disk attempts) (memoryAfter records kept) := by
  induction attempts generalizing disk records with
  | nil => exact ⟨[], .nil disk, h⟩
  | cons attempt attempts ih =>
    rcases mirrors_attempted names h hconsistent attempt with htook | ⟨hmet, hlost⟩
    · obtain ⟨kept, hkept, hfiles⟩ :=
        ih htook ((effect_recordsAfter records attempt.call).consistent hconsistent)
      exact ⟨attempt.call :: kept, hkept.took, hfiles⟩
    · obtain ⟨kept, hkept, hfiles⟩ := ih hlost hconsistent
      exact ⟨kept, hkept.lost hmet, hfiles⟩

end Histories

theorem kept_of_attempts (attempts : List (Attempt β)) :
    ∃ kept, Kept names codec (freshDisk root) attempts kept ∧
      Mirrors codec root (diskAfter names codec (freshDisk root) attempts) (memoryAfter ∅ kept) :=
  kept_of_mirrors names mirrors_freshDisk consistent_empty attempts

omit [DecidableEq β] [Inhabited β] in
theorem computes_openStore (h : Mirrors codec root disk records) :
    Computes (openStore root) ⟨disk, [], fun _ => .none, false⟩ (.ok ()) := by
  refine computes_get ?_
  simp only [h.directory]
  exact rfl

/-- A reservation cut off at the sync of the directory, by a crash that undoes the replacement. -/
def undoneReserve : Attempt (Option Record) where
  call := .reserve "operation-0000001" {
    source := ⟨"catalog", "demo"⟩
    facts := ⟨none, none, none, none, none, "1", "1"⟩
    provenance := ⟨⟨none, none, none, [], none, none⟩, by decide, by decide, by decide⟩ } 0
  faults step := if step = .syncDirectory then .crash 1 none else .none

/-- What a reader finds of an operation. -/
def readBack (codec : Codec β) (disk : Disk β) (id : OperationId) : Option Record :=
  (attempted names codec disk (.calm (.getOperation id))).1.toOption.join

theorem readBack_eq_some_iff (h : Mirrors codec root disk records)
    (hconsistent : Consistent records) (id : OperationId) (r : Record) :
    readBack names codec disk id = some r ↔
      operationIdPattern id = true ∧ records.get? id = some r := by
  rw [readBack, (attempted_calm names h hconsistent (.getOperation id)).1, ← addressed_eq_ok_iff]
  cases haddressed : addressed records id <;>
    simp [inMemory, haddressed, bind, Except.bind, Except.map, Except.mapError, Except.toOption]

/-- Records that stay, make progress only, and of which at most one has not ended. -/
structure Lasting (before after : OperationId → Option Record) : Prop where
  progress : ∀ id r, before id = some r → ∃ r', after id = some r' ∧ Progress r r'
  single : ∀ id id' r r', after id = some r → after id' = some r' → r.state.terminal = false →
    r'.state.terminal = false → id = id'

end Files

end NodalArc.TransitionStore
