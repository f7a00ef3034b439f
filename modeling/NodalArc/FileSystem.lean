import NodalArc.OrderedDict
import NodalArc.StatefulProgram

/-! A tree of files and directories whose calls may fail, or be cut off by a crash.  A crash is
not an exception: no handler sees it, and it may undo what was not synced. -/

namespace NodalArc.FileSystem

open OrderedDict
open StatefulProgram
open StatefulProgram.Program

abbrev Name := String

/-- The name of an entry followed by the names of the directories around it, innermost first. -/
abbrev Path := List Name

inductive Node (β : Type)
  | directory
  | file (content : β) (synced : Bool)
deriving DecidableEq, Repr

inductive OsError
  | notFound
  | alreadyExists
  | notDirectory
  | isDirectory
  | failed
deriving DecidableEq, Repr

abbrev Disk (β : Type) := Dict Path (Node β)

/-- What happens at a step.  A failed write may leave any content.  A crash undoes some of the
last changes and leaves any content in the files that were not synced. -/
inductive Fault (β : Type)
  | none
  | fails (torn : Option β)
  | crash (undone : Nat) (torn : β)
deriving DecidableEq, Repr

/-- The disk, the disks since the directory was last synced (newest first), what goes wrong at
which step, and whether something has. -/
structure World (ι β : Type) where
  disk : Disk β
  earlier : List (Disk β)
  faults : ι → Fault β
  met : Bool

inductive Stop (ε : Type)
  | crash
  | raised (e : ε)
deriving DecidableEq, Repr

/-- The exception an error of the operating system becomes. -/
class FromOs (ε : Type) where
  fromOs : OsError → ε

export FromOs (fromOs)

abbrev FileProgram (ι ε β : Type) := Program (Stop ε) (World ι β)

variable {ι ε β α σ : Type}

/-- A file that was not synced keeps some content. -/
def Node.settled (torn : β) : Node β → Node β
  | .file _ false => .file torn true
  | node => node

def settle (torn : β) (d : Disk β) : Disk β := d.mapValues fun _ => Node.settled torn

namespace World

def change (w : World ι β) (disk : Disk β) : World ι β :=
  { w with disk, earlier := w.disk :: w.earlier }

def crashed (w : World ι β) (undone : Nat) (torn : β) : World ι β :=
  { w with disk := settle torn ((w.disk :: w.earlier).getD undone w.disk), earlier := [], met := true }

/-- The property holds of the disk and of all that a crash may bring back. -/
def Versions (P : Disk β → Prop) (w : World ι β) : Prop := ∀ d ∈ w.disk :: w.earlier, P d

def Calm (w : World ι β) : Prop := ∀ step, w.faults step = .none

/-- Something went wrong since `w`, and every version has the property. -/
def Struck (P : Disk β → Prop) (w w' : World ι β) : Prop :=
  ¬ w.Calm ∧ w'.met = true ∧ w'.Versions P

end World

def Durable (P : Disk β → Prop) : Prop := ∀ torn d, P d → P (settle torn d)

variable {P : Disk β → Prop} {w : World ι β} {d : Disk β}

theorem World.Versions.change (h : w.Versions P) (hd : P d) : (w.change d).Versions P := by
  intro e he
  rcases List.mem_cons.mp he with rfl | he
  · exact hd
  · exact h e he

theorem World.Versions.crashed (h : w.Versions P) (hP : Durable P) (undone : Nat) (torn : β) :
    (w.crashed undone torn).Versions P := by
  intro e he
  obtain rfl := List.mem_singleton.mp he
  refine hP torn _ ?_
  rw [List.getD_eq_getElem?_getD]
  cases hfound : (w.disk :: w.earlier)[undone]? with
  | none => exact h _ List.mem_cons_self
  | some found => exact h _ (List.mem_of_getElem? hfound)

theorem Durable.or {Q : Disk β → Prop} (hP : Durable P) (hQ : Durable Q) :
    Durable fun d => P d ∨ Q d := fun torn d => Or.imp (hP torn d) (hQ torn d)

/-! ### Steps -/

variable {step : ι} {torn : β → Disk β → Disk β} {a : α} {Q : α → World ι β → Prop}
    {E : Stop ε → World ι β → Prop} {m : FileProgram ι ε β α} {r : Except ε α}

section Steps

variable [FromOs ε]

def untorn (_ : β) (d : Disk β) : Disk β := d

/-- What goes wrong at a step, and what part of a change that leaves. -/
def meet (step : ι) (torn : β → Disk β → Disk β) : FileProgram ι ε β Unit := do
  let w ← get
  match w.faults step with
  | .none => pure ()
  | .fails part => do
      set { part.elim w fun content => w.change (torn content w.disk) with met := true }
      throw (.raised (fromOs .failed))
  | .crash undone content => do
      set (w.crashed undone content)
      throw .crash

/-- A step that reads. -/
def look (step : ι) (read : Disk β → Except OsError α) : FileProgram ι ε β α := do
  meet step untorn
  let w ← get
  match read w.disk with
  | .ok a => return a
  | .error e => throw (.raised (fromOs e))

/-- A step that changes the disk. -/
def alter (step : ι) (effect : Disk β → Except OsError (Disk β)) (torn : β → Disk β → Disk β) :
    FileProgram ι ε β Unit := do
  meet step torn
  let w ← get
  match effect w.disk with
  | .ok disk => set (w.change disk)
  | .error e => throw (.raised (fromOs e))

/-- A step that changes nothing on the disk: a permission, a descriptor. -/
def touch (step : ι) : FileProgram ι ε β Unit := meet step untorn

/-- From here on a crash brings no earlier disk back. -/
def syncDirectory (step : ι) : FileProgram ι ε β Unit := do
  meet step untorn
  modify fun w => { w with earlier := [] }

theorem wp_meet {Q : Unit → World ι β → Prop} (hP : Durable P) (hw : w.Versions P)
    (htorn : ∀ content, P (torn content w.disk)) (hQ : Q () w)
    (hE : ∀ stop w', w.Struck P w' → E stop w') : wp (meet step torn) w Q E := by
  simp only [meet, wp_bind, wp_get]
  cases hfault : w.faults step with
  | none => exact hQ
  | fails part =>
    have hcalm : ¬ w.Calm := fun h => by cases hfault.symm.trans (h step)
    cases part with
    | none => exact hE _ _ ⟨hcalm, rfl, hw⟩
    | some content => exact hE _ _ ⟨hcalm, rfl, hw.change (htorn content)⟩
  | crash undone content =>
    have hcalm : ¬ w.Calm := fun h => by cases hfault.symm.trans (h step)
    exact hE _ _ ⟨hcalm, rfl, hw.crashed hP undone content⟩

theorem wp_touch {Q : Unit → World ι β → Prop} (hP : Durable P) (hw : w.Versions P)
    (hQ : Q () w) (hE : ∀ stop w', w.Struck P w' → E stop w') : wp (touch step) w Q E :=
  wp_meet hP hw (fun _ => hw _ List.mem_cons_self) hQ hE

theorem wp_look {read : Disk β → Except OsError α} (hP : Durable P) (hw : w.Versions P)
    (hread : read w.disk = .ok a) (hQ : Q a w) (hE : ∀ stop w', w.Struck P w' → E stop w') :
    wp (look step read) w Q E := by
  unfold look
  rw [wp_bind]
  refine wp_touch hP hw ?_ hE
  rw [wp_bind, wp_get, hread]
  exact hQ

theorem wp_alter_cases {Q : Unit → World ι β → Prop} {effect : Disk β → Except OsError (Disk β)}
    (hP : Durable P) (hw : w.Versions P) (htorn : ∀ content, P (torn content w.disk))
    (hok : ∀ d, effect w.disk = .ok d → Q () (w.change d))
    (herror : ∀ e, effect w.disk = .error e → E (.raised (fromOs e)) w)
    (hE : ∀ stop w', w.Struck P w' → E stop w') : wp (alter step effect torn) w Q E := by
  unfold alter
  rw [wp_bind]
  refine wp_meet hP hw htorn ?_ hE
  rw [wp_bind, wp_get]
  cases heffect : effect w.disk with
  | ok d => exact hok d heffect
  | error e => exact herror e heffect

theorem wp_alter {Q : Unit → World ι β → Prop} {effect : Disk β → Except OsError (Disk β)}
    (hP : Durable P) (hw : w.Versions P) (htorn : ∀ content, P (torn content w.disk))
    (heffect : effect w.disk = .ok d) (hQ : Q () (w.change d))
    (hE : ∀ stop w', w.Struck P w' → E stop w') : wp (alter step effect torn) w Q E := by
  refine wp_alter_cases hP hw htorn (fun d' h => ?_) (fun e h => ?_) hE
  · obtain rfl := Except.ok.inj (heffect.symm.trans h)
    exact hQ
  · cases heffect.symm.trans h

theorem wp_syncDirectory {Q : Unit → World ι β → Prop} (hP : Durable P) (hw : w.Versions P)
    (hQ : Q () { w with earlier := [] }) (hE : ∀ stop w', w.Struck P w' → E stop w') :
    wp (syncDirectory step) w Q E := by
  unfold syncDirectory
  rw [wp_bind]
  exact wp_touch hP hw hQ hE

end Steps

/-- Handle an exception; a crash passes through. -/
def catching (m : Program (Stop ε) σ α) (handler : ε → Program (Stop ε) σ α) :
    Program (Stop ε) σ α := do
  let s ← get
  match m.exec s with
  | (.ok a, t) => do
      set t
      return a
  | (.error (.raised e), t) => do
      set t
      handler e
  | (.error .crash, t) => do
      set t
      throw .crash

theorem wp_catching {m : Program (Stop ε) σ α} {handler : ε → Program (Stop ε) σ α} {s : σ}
    {Q : α → σ → Prop} {E : Stop ε → σ → Prop} : wp (catching m handler) s Q E ↔
      wp m s Q fun stop t =>
        match stop with
        | .raised e => wp (handler e) t Q E
        | .crash => E .crash t := by
  rcases hexec : m.exec s with ⟨⟨_ | e⟩ | a, t⟩
  · rw [wp_of_exec_error hexec]
    simp only [catching, wp_bind, wp_get, hexec, wp_set, wp_throw]
  · rw [wp_of_exec_error hexec]
    simp only [catching, wp_bind, wp_get, hexec, wp_set]
  · rw [wp_of_exec_ok hexec]
    simp only [catching, wp_bind, wp_get, hexec, wp_set, wp_pure]

theorem wp_suppressed {m : Program (Stop ε) σ Unit} {s : σ} {P : σ → Prop}
    (h : wp m s (fun _ => P) fun _ => P) :
    wp (catching m fun _ => pure ()) s (fun _ => P) fun _ => P := by
  rw [wp_catching]
  refine wp_mono h (fun _ _ h => h) ?_
  rintro (_ | e) t h <;> exact h

/-! ### The calls of a file system -/

section Calls

variable [FromOs ε]

def addEntry (path : Path) (node : Node β) (d : Disk β) : Except OsError (Disk β) :=
  if path ∈ d then .error .alreadyExists
  else
    match d.get? path.tail with
    | some .directory => .ok (d.insert path node)
    | some (.file ..) => .error .notDirectory
    | none => .error .notFound

def mkdir (step : ι) (path : Path) : FileProgram ι ε β Unit :=
  alter step (addEntry path .directory) untorn

def create [Inhabited β] (step : ι) (path : Path) : FileProgram ι ε β Unit :=
  alter step (addEntry path (.file default false)) untorn

def onFile (path : Path) (f : β → Bool → α) (d : Disk β) : Except OsError α :=
  match d.get? path with
  | some (.file content synced) => .ok (f content synced)
  | some .directory => .error .isDirectory
  | none => .error .notFound

def write (step : ι) (path : Path) (content : β) : FileProgram ι ε β Unit :=
  alter step (fun d => onFile path (fun _ _ => d.insert path (.file content false)) d)
    fun part d => d.insert path (.file part false)

def syncFile (step : ι) (path : Path) : FileProgram ι ε β Unit :=
  alter step (fun d => onFile path (fun content _ => d.insert path (.file content true)) d) untorn

def readFile (step : ι) (path : Path) : FileProgram ι ε β β :=
  look step (onFile path fun content _ => content)

def unlink (step : ι) (path : Path) : FileProgram ι ε β Unit :=
  alter step (fun d => onFile path (fun _ _ => d.erase path) d) untorn

def moveOver (source target : Path) (d : Disk β) : Except OsError (Disk β) :=
  match d.get? target with
  | some .directory => .error .isDirectory
  | _ => onFile source (fun content synced =>
      (d.erase source).insert target (.file content synced)) d

/-- Replace a file by another one in a single step. -/
def replaceFile (step : ι) (source target : Path) : FileProgram ι ε β Unit :=
  alter step (moveOver source target) untorn

def children (d : Disk β) (dir : Path) : List Name :=
  d.keys.filterMap fun
    | [] => none
    | name :: parent => if parent = dir then some name else none

def listDirectory (step : ι) (dir : Path) : FileProgram ι ε β (List Name) :=
  look step fun d =>
    match d.get? dir with
    | some .directory => .ok (children d dir)
    | some (.file ..) => .error .notDirectory
    | none => .error .notFound

end Calls

theorem addEntry_ok {path : Path} {node : Node β} (habsent : path ∉ d)
    (hparent : d.get? path.tail = some .directory) :
    addEntry path node d = .ok (d.insert path node) := by
  rw [addEntry, if_neg habsent, hparent]

theorem onFile_ok {path : Path} {f : β → Bool → α} {content : β} {synced : Bool}
    (h : d.get? path = some (.file content synced)) : onFile path f d = .ok (f content synced) := by
  rw [onFile, h]

theorem exists_of_onFile {path : Path} {f : β → Bool → α} (h : onFile path f d = .ok a) :
    ∃ content synced, a = f content synced := by
  unfold onFile at h
  split at h
  next content synced _ => exact ⟨content, synced, (Except.ok.inj h).symm⟩
  all_goals cases h

theorem moveOver_ok {source target : Path} {content : β} {synced : Bool}
    (h : d.get? source = some (.file content synced)) (htarget : d.get? target ≠ some .directory) :
    moveOver source target d = .ok ((d.erase source).insert target (.file content synced)) := by
  unfold moveOver
  split
  next hdirectory => exact absurd hdirectory htarget
  next => exact onFile_ok h

theorem mem_children {dir : Path} {name : Name} : name ∈ children d dir ↔ name :: dir ∈ d := by
  simp only [children, List.mem_filterMap, Dict.mem_keys_iff]
  constructor
  · rintro ⟨_ | ⟨name', parent⟩, hpath, hname⟩
    · cases hname
    · simp only [Option.ite_none_right_eq_some, Option.some.injEq] at hname
      obtain ⟨rfl, rfl⟩ := hname
      exact hpath
  · intro hmem
    exact ⟨name :: dir, hmem, by simp⟩

theorem nodup_children (d : Disk β) (dir : Path) : (children d dir).Nodup := by
  refine d.keys_nodup.filterMap ?_
  rintro (_ | ⟨name, parent⟩) (_ | ⟨name', parent'⟩) found hfound hfound'
  · rfl
  · cases hfound
  · cases hfound'
  · simp only [Option.mem_def, Option.ite_none_right_eq_some, Option.some.injEq] at hfound hfound'
    obtain ⟨rfl, rfl⟩ := hfound
    obtain ⟨rfl, rfl⟩ := hfound'
    rfl

/-! ### Programs that only read -/

/-- The program changes nothing and ends with `r`. -/
def Computes (m : FileProgram ι ε β α) (w : World ι β) (r : Except ε α) : Prop :=
  m.exec w = (r.mapError .raised, w)

theorem computes_pure : Computes (pure a : FileProgram ι ε β α) w (.ok a) := rfl

theorem computes_throw {e : ε} :
    Computes (throw (.raised e) : FileProgram ι ε β α) w (.error e) := rfl

theorem computes_bind {γ : Type} {f : α → FileProgram ι ε β γ} {g : α → Except ε γ}
    (h : Computes m w r) (hf : ∀ a, r = .ok a → Computes (f a) w (g a)) :
    Computes (m >>= f) w (r >>= g) := by
  unfold Computes at h ⊢
  rw [exec_bind, h]
  cases r with
  | error e => rfl
  | ok a => exact hf a rfl

theorem computes_mapM {γ : Type} {xs : List α} {f : α → FileProgram ι ε β γ} {g : α → Option γ}
    (h : ∀ x ∈ xs, ∃ y, g x = some y ∧ Computes (f x) w (.ok y)) :
    Computes (xs.mapM f) w (.ok (xs.filterMap g)) := by
  induction xs with
  | nil => exact computes_pure
  | cons x xs ih =>
    obtain ⟨y, hy, hx⟩ := h x List.mem_cons_self
    rw [List.mapM_cons, List.filterMap_cons_some hy]
    refine computes_bind (g := fun y => .ok (y :: xs.filterMap g)) hx fun z _ => ?_
    have hrest := ih fun x hx => h x (List.mem_cons_of_mem _ hx)
    exact computes_bind (g := fun ys => .ok (z :: ys)) hrest fun _ _ => computes_pure

theorem computes_get {f : World ι β → FileProgram ι ε β α} (h : Computes (f w) w r) :
    Computes (get >>= f) w r := h

theorem computes_look [FromOs ε] {read : Disk β → Except OsError α} (hcalm : w.faults step = .none)
    (h : read w.disk = .ok a) : Computes (look step read : FileProgram ι ε β α) w (.ok a) := by
  have hmeet : Computes (meet step untorn : FileProgram ι ε β Unit) w (.ok ()) := by
    refine computes_get ?_
    rw [hcalm]
    exact computes_pure
  refine computes_bind (g := fun _ => .ok a) hmeet fun _ _ => computes_get ?_
  rw [h]
  exact computes_pure

theorem computes_catching {handler : ε → FileProgram ι ε β α} (h : Computes m w (.ok a)) :
    Computes (catching m handler) w (.ok a) := by
  refine computes_get ?_
  rw [show m.exec w = (.ok a, w) from h]
  exact computes_pure

end NodalArc.FileSystem
