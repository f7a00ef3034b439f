import NodalArc.CloseRounds
import NodalArc.PlannedCloses

/-! Opening long-delay contacts: the loops over prepared and opened pairs.  Each pair's turn
changes the records of that pair only, so it meets its records as they were before the loop. -/

namespace NodalArc.ContactOpening

open OrderedDict
open GroundPolicy
open LinkRecord
open ContactDrain
open Actuation
open NodeAgentBatches
open DispatchActuator
open Reconcile
open HeldRecords
open CommandRules
open CloseRounds
open PlannedCloses
open StatefulProgram
open StatefulProgram.Program

variable {config : SchedulerConfig} {env : Surroundings} {s t : Scheduler}
    {desired : Dict Pair LinkInfo} {ended : Dict Pair ActiveLinkInfo} {prepared : ActuationResult}
    {pair : Pair} {new : LinkInfo} {E : SchedulerError → Scheduler → Prop}

def OtherPairsKept (pair : Pair) (s t : Scheduler) : Prop :=
  ∀ key, key.pair ≠ pair → record? t key = record? s key

instance : Std.Refl (OtherPairsKept pair) := ⟨fun _ _ _ => rfl⟩

instance : IsTrans Scheduler (OtherPairsKept pair) :=
  ⟨fun _ _ _ hst htu key hkey => (htu key hkey).trans (hst key hkey)⟩

theorem otherPairsKept_of_otherKeysKept {key : RecordKey} (h : OtherKeysKept key s t) :
    OtherPairsKept key.pair s t := fun key' hkey => h key' fun heq => hkey (heq ▸ rfl)

theorem otherPairsKept_of_sameRecords (h : SameRecords s t) : OtherPairsKept pair s t := fun key _ => h key

theorem wp_forM_pairs {pairs : List Pair} {body : Pair → SchedulerM Unit}
    (I : List Pair → Scheduler → Prop) (hnodup : pairs.Nodup)
    (hframe : ∀ p ∈ pairs, Within (OtherPairsKept p) (body p))
    (hstep : ∀ done p t, p ∈ pairs → p ∉ done →
      (∀ key, key.pair = p → record? t key = record? s key) → I done t →
      wp (body p) t (fun _ => I (done ++ [p])) E)
    (hs : I [] s) : wp (forM pairs body) s (fun _ => I pairs) E := by
  refine wp_imp (wp_forM (fun done t => I done t ∧
    ∀ key, key.pair ∉ done → record? t key = record? s key) ?_ ⟨hs, fun _ _ => rfl⟩)
    fun _ t ht => ht.1
  rintro done p post t hsplit ⟨hI, hrest⟩
  have hp : p ∈ pairs := by simp [hsplit]
  have hfresh : p ∉ done := by
    rw [hsplit] at hnodup
    exact fun hmem => (List.nodup_append.mp hnodup).2.2 _ hmem _ List.mem_cons_self rfl
  refine wp_mono (wp_and (hstep done p t hp hfresh (fun key hkey => hrest key (hkey ▸ hfresh)) hI)
    (hframe p hp t)) ?_ fun _ _ h => h.1
  rintro _ u ⟨hI', hothers⟩
  refine ⟨hI', fun key hkey => ?_⟩
  rw [List.mem_append, List.mem_singleton, not_or] at hkey
  rw [hothers key hkey.2]
  exact hrest key hkey.1

theorem otherPairsKept_settleStopped {stopped : ActuationResult} {stoppedMono : ℚ} :
    Within (OtherPairsKept pair) (settleStopped stopped stoppedMono pair) := by
  refine within_bind within_heldLink fun info => within_bind within_require fun _ =>
    within_bind (fun s => ?_) fun _ => within_bind within_lift fun drain =>
      within_modify fun s key hkey => ?_
  · exact wp_mono (sameRecords_recordStageLosses s) (fun _ _ h => otherPairsKept_of_sameRecords h)
      fun _ _ h => otherPairsKept_of_sameRecords h
  · rw [record?_setRecord, if_neg]
    rintro rfl
    exact hkey rfl

/-! ### A prepared pair -/

theorem otherKeysKept_settleEnds (key : RecordKey) {info : ActiveLinkInfo} {drain : Drain}
    {gone : List NodeId} {lost : List LinkEndLoss} {reason : String} :
    Within (OtherKeysKept key) (settleEnds config key info drain gone lost reason) := fun _ =>
  wp_settleEnds (fun _ _ _ _ key' hkey => by simp [hkey]) fun _ key' hkey => by simp [hkey]

/-- The losses of the ends a PREPARE reopened under an earlier contact. -/
def reopenedLosses (s : Scheduler) (prepared : ActuationResult) (pair : Pair)
    (held : ActiveLinkInfo) (new : LinkInfo) : List LinkEndLoss :=
  (s.endLossRecords prepared pair held.toLinkInfo .reopened).filter fun loss =>
    loss.nodeId ∈ endsOn held (endTerminals pair new)

theorem wp_reopenOverlappingEnds (I : List ((Pair × Contact) × ActiveLinkInfo) → Scheduler → Prop)
    (hsettle : ∀ done contact held drain t, record? t (.overlap pair contact) = some held →
      held.drain = some drain → endsOn held (endTerminals pair new) ≠ [] → I done t →
      wp (settleEnds config (.overlap pair contact) held drain (endsOn held (endTerminals pair new))
        (reopenedLosses t prepared pair held new) drain.reason) t
        (fun _ => I (done ++ [((pair, contact), held)])) E)
    (hskip : ∀ done contact held t, record? t (.overlap pair contact) = some held →
      endsOn held (endTerminals pair new) = [] → I done t →
      I (done ++ [((pair, contact), held)]) t) (hs : I [] s) :
    wp (reopenOverlappingEnds config pair new prepared) s
      (fun _ => I ((sortedOverlapping s).filter fun held => held.1.1 = pair)) E := by
  rw [reopenOverlappingEnds, wp_bind, wp_get]
  have hpair : ∀ held ∈ (sortedOverlapping s).filter (fun held => held.1.1 = pair),
      held.1.1 = pair := fun held hheld => of_decide_eq_true (List.mem_filter.mp hheld).2
  refine wp_forM_records (fun held => .overlap held.1.1 held.1.2) Prod.snd I
    (sortedOverlapping_nodup.sublist (List.filter_sublist.map _))
    (fun held hheld => mem_sortedOverlapping_iff.mp (List.mem_filter.mp hheld).1) ?_ ?_ hs
  · intro held _
    cases held.2.drain with
    | none => exact within_pure
    | some drain => exact within_when fun _ => within_bind within_get fun _ =>
      otherKeysKept_settleEnds _
  · rintro done ⟨⟨p, contact⟩, held⟩ t hmem - hheld hI
    obtain rfl : p = pair := hpair _ hmem
    cases hdrain : held.drain with
    | none => exact hskip done contact held t hheld (by simp [endsOn, hdrain]) hI
    | some drain =>
      simp only [wp_when, wp_bind, wp_get]
      exact ⟨fun hends => hsettle done contact held drain t hheld hdrain hends hI,
        fun hends => hskip done contact held t hheld (not_ne_iff.mp hends) hI⟩

def endedReason (old : ActiveLinkInfo) : String :=
  match old.drain with
  | none => "vis_lost"
  | some drain => drain.reason

@[simp] theorem wp_endReopenedContact {old : ActiveLinkInfo} {Q : Unit → Scheduler → Prop} :
    wp (endReopenedContact config prepared pair old) s Q E ↔
      Q () (tornDown config (.current pair) old (endedReason old)
        (Scheduler.endedLosses s prepared pair old) s) := by
  cases hdrain : old.drain <;> simp [endReopenedContact, endedReason, hdrain, tornDown,
    RecordKey.pair]

theorem otherPairsKept_reopenOverlappingEnds :
    Within (OtherPairsKept pair) (reopenOverlappingEnds config pair new prepared) := fun s =>
  wp_reopenOverlappingEnds (fun _ => OtherPairsKept pair s)
    (fun _ contact _ _ t _ _ _ ht => wp_mono
      (otherKeysKept_settleEnds (.overlap pair contact) t)
      (fun _ _ h => IsTrans.trans _ _ _ ht (otherPairsKept_of_otherKeysKept h))
      fun _ _ h => IsTrans.trans _ _ _ ht (otherPairsKept_of_otherKeysKept h))
    (fun _ _ _ _ _ _ ht => ht) (Std.Refl.refl s)

def CurrentKept (s t : Scheduler) : Prop :=
  ∀ pair, record? t (.current pair) = record? s (.current pair)

instance : Std.Refl CurrentKept := ⟨fun _ _ => rfl⟩

theorem currentKept_reopenOverlappingEnds :
    Within CurrentKept (reopenOverlappingEnds config pair new prepared) := fun s =>
  wp_reopenOverlappingEnds (fun _ => CurrentKept s)
    (fun _ contact _ _ t _ _ _ ht => wp_mono
      (otherKeysKept_settleEnds (.overlap pair contact) t)
      (fun _ _ h p => (h (.current p) (by simp)).trans (ht p))
      fun _ _ h p => (h (.current p) (by simp)).trans (ht p))
    (fun _ _ _ _ _ _ ht => ht) (Std.Refl.refl s)

theorem otherPairsKept_settlePrepared :
    Within (OtherPairsKept pair) (settlePrepared config desired ended prepared pair) := by
  refine within_bind within_lift fun new =>
    within_bind otherPairsKept_reopenOverlappingEnds fun _ => ?_
  cases ended.get? pair with
  | none => exact within_pure
  | some old =>
    intro s
    rw [wp_endReopenedContact]
    intro key hkey
    rw [record?_tornDown, if_neg]
    rintro rfl
    exact hkey rfl

theorem otherPairsKept_settleOpened {opened : ActuationResult} :
    Within (OtherPairsKept pair) (settleOpened config desired opened pair) := by
  refine within_bind within_lift fun new => within_bind (fun s => ?_) fun _ => fun s => ?_
  · exact wp_mono (sameRecords_recordStageLosses s) (fun _ _ h => otherPairsKept_of_sameRecords h)
      fun _ _ h => otherPairsKept_of_sameRecords h
  · rw [wp_modify]
    intro key hkey
    rw [record?_addActual, if_neg]
    rintro rfl
    exact hkey rfl

end NodalArc.ContactOpening
