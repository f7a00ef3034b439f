import NodalArc.ContactPlan
import NodalArc.HeldRecords

/-! The records a pass plans to close: which they are, that each is the record held under its key,
and that no key is planned twice. -/

namespace NodalArc.PlannedCloses

open OrderedDict
open GroundPolicy
open LinkRecord
open ContactDrain
open DispatchActuator
open Reconcile
open HeldRecords
open ContactPlan
open StatefulProgram

variable {info : ActiveLinkInfo} {r : CloseRecord} {forced : List (Pair × ForcedCause)}
  {due : List (Pair × List NodeId)} {key : RecordKey} {α : Type}

variable {s : Scheduler} {downReasons : Dict Pair String} {plan : LongDelayPlan}

/-! ### Held records in order -/

theorem mem_sortedOverlapping_iff {held : (Pair × Contact) × ActiveLinkInfo} :
    held ∈ sortedOverlapping s ↔ record? s (.overlap held.1.1 held.1.2) = some held.2 := by
  rw [sortedOverlapping, List.mem_insertionSort, record?, Dict.get?_eq_some_iff]

theorem mem_sortedActual_iff {held : Pair × ActiveLinkInfo} :
    held ∈ sortedActual s ↔ record? s (.current held.1) = some held.2 := by
  rw [sortedActual, List.mem_insertionSort, record?, Dict.get?_eq_some_iff]

theorem sortedOverlapping_nodup : ((sortedOverlapping s).map fun held =>
    RecordKey.overlap held.1.1 held.1.2).Nodup := by
  have hkeys : ((sortedOverlapping s).map Prod.fst).Nodup :=
    ((List.perm_insertionSort _ _).map Prod.fst).nodup_iff.mpr s.overlapping.nodup
  have hmap : ((sortedOverlapping s).map fun held => RecordKey.overlap held.1.1 held.1.2) =
      ((sortedOverlapping s).map Prod.fst).map fun key => RecordKey.overlap key.1 key.2 := by
    rw [List.map_map]
    rfl
  rw [hmap]
  refine hkeys.map ?_
  rintro ⟨p, c⟩ ⟨p', c'⟩ h
  cases h
  rfl

theorem currentKeys_nodup {named : List (Pair × α)} (h : (named.map Prod.fst).Nodup) :
    (named.map fun d => RecordKey.current d.1).Nodup := by
  have hmap := h.map (f := RecordKey.current) fun _ _ heq => RecordKey.current.inj heq
  rwa [List.map_map] at hmap

theorem sortedActual_nodup : ((sortedActual s).map Prod.fst).Nodup :=
  ((List.perm_insertionSort _ _).map Prod.fst).nodup_iff.mpr s.actualLinks.nodup

/-! ### Forced closes -/

theorem mem_forcedCurrent_iff : r ∈ forcedCurrent s forced ↔ ∃ d ∈ forced, r.key = .current d.1 ∧
      record? s r.key = some r.info ∧ r.ends = remainingEnds d.1 r.info ∧
      r.cause = d.2.closeCause := by
  simp only [forcedCurrent, List.mem_filterMap, Option.map_eq_some_iff]
  constructor
  · rintro ⟨d, hd, info, hinfo, rfl⟩
    exact ⟨d, hd, rfl, hinfo, rfl, rfl⟩
  · rintro ⟨d, hd, hkey, hinfo, hends, hcause⟩
    rw [hkey] at hinfo
    refine ⟨d, hd, r.info, hinfo, ?_⟩
    cases r
    simp_all

theorem mem_forcedOverlap_iff :
    r ∈ forcedOverlap s downReasons ↔ ∃ pair contact cause, r.key = .overlap pair contact ∧
      record? s r.key = some r.info ∧
      forcedOverlapCause s.lastSnapshotEpochId downReasons pair r.info = some cause ∧
      r.ends = remainingEnds pair r.info ∧ r.cause = cause.closeCause := by
  simp only [forcedOverlap, List.mem_filterMap, Option.map_eq_some_iff, mem_sortedOverlapping_iff]
  constructor
  · rintro ⟨⟨⟨pair, contact⟩, info⟩, hinfo, cause, hcause, rfl⟩
    exact ⟨pair, contact, cause, rfl, hinfo, hcause, rfl, rfl⟩
  · rintro ⟨pair, contact, cause, hkey, hinfo, hcause, hends, hc⟩
    rw [hkey] at hinfo
    refine ⟨((pair, contact), r.info), hinfo, cause, hcause, ?_⟩
    cases r
    simp_all

theorem forced_current (h : r ∈ forcedCurrent s forced ++ forcedOverlap s downReasons) :
    record? s r.key = some r.info := by
  rcases List.mem_append.mp h with h | h
  · obtain ⟨_, -, -, hinfo, -⟩ := mem_forcedCurrent_iff.mp h
    exact hinfo
  · obtain ⟨_, _, _, -, hinfo, -⟩ := mem_forcedOverlap_iff.mp h
    exact hinfo

theorem nodup_keys_append {current overlap : List CloseRecord}
    (hcurrent : ∀ r ∈ current, ∃ pair, r.key = .current pair)
    (hoverlap : ∀ r ∈ overlap, ∃ pair contact, r.key = .overlap pair contact)
    (hc : (current.map CloseRecord.key).Nodup) (ho : (overlap.map CloseRecord.key).Nodup) :
    ((current ++ overlap).map CloseRecord.key).Nodup := by
  rw [List.map_append]
  refine List.nodup_append.mpr ⟨hc, ho, ?_⟩
  rintro _ hkey _ hkey' rfl
  obtain ⟨r, hr, rfl⟩ := List.mem_map.mp hkey
  obtain ⟨r', hr', heq⟩ := List.mem_map.mp hkey'
  obtain ⟨pair, hpair⟩ := hcurrent r hr
  obtain ⟨pair', contact, hpair'⟩ := hoverlap r' hr'
  rw [hpair, hpair'] at heq
  cases heq

theorem forced_nodup (h : (forced.map Prod.fst).Nodup) :
    ((forcedCurrent s forced ++ forcedOverlap s downReasons).map CloseRecord.key).Nodup := by
  refine nodup_keys_append (fun r hr => ?_) (fun r hr => ?_) ?_ ?_
  · obtain ⟨d, -, hkey, -⟩ := mem_forcedCurrent_iff.mp hr
    exact ⟨d.1, hkey⟩
  · obtain ⟨pair, contact, _, hkey, -⟩ := mem_forcedOverlap_iff.mp hr
    exact ⟨pair, contact, hkey⟩
  · refine (currentKeys_nodup h).sublist (map_filterMap_sublist fun d r hr => ?_)
    obtain ⟨info, -, rfl⟩ := Option.map_eq_some_iff.mp hr
    rfl
  · refine sortedOverlapping_nodup.sublist (map_filterMap_sublist fun held r hr => ?_)
    obtain ⟨cause, -, rfl⟩ := Option.map_eq_some_iff.mp hr
    rfl

/-! ### Due closes -/

theorem mem_dueCurrent_iff :
    r ∈ dueCurrent s plan due ↔ ∃ d ∈ due, d.1 ∉ plan.relocate ∧ r.key = .current d.1 ∧
      record? s r.key = some r.info ∧ r.ends = d.2 ∧ r.cause = .drainDeadline := by
  simp only [dueCurrent, List.mem_filterMap, List.mem_filter, decide_eq_true_eq,
    Option.map_eq_some_iff]
  constructor
  · rintro ⟨d, ⟨hd, hstay⟩, info, hinfo, rfl⟩
    exact ⟨d, hd, hstay, rfl, hinfo, rfl, rfl⟩
  · rintro ⟨d, hd, hstay, hkey, hinfo, hends, hcause⟩
    rw [hkey] at hinfo
    refine ⟨d, ⟨hd, hstay⟩, r.info, hinfo, ?_⟩
    cases r
    simp_all

theorem mem_dueOverlap_iff {nowMono : ℚ} :
    r ∈ dueOverlap s nowMono ↔ r.ends ≠ [] ∧ ∃ pair contact, r.key = .overlap pair contact ∧
      record? s r.key = some r.info ∧ r.ends = dueNodes nowMono r.info ∧
      r.cause = .drainDeadline := by
  simp only [dueOverlap, List.mem_filter, List.mem_map, decide_eq_true_eq, mem_sortedOverlapping_iff]
  constructor
  · rintro ⟨⟨⟨⟨pair, contact⟩, info⟩, hinfo, rfl⟩, hne⟩
    exact ⟨hne, pair, contact, rfl, hinfo, rfl, rfl⟩
  · rintro ⟨hne, pair, contact, hkey, hinfo, hends, hcause⟩
    rw [hkey] at hinfo
    refine ⟨⟨((pair, contact), r.info), hinfo, ?_⟩, hne⟩
    cases r
    simp_all

theorem due_current {nowMono : ℚ} (h : r ∈ dueCurrent s plan due ++ dueOverlap s nowMono)
    : record? s r.key = some r.info := by
  rcases List.mem_append.mp h with h | h
  · obtain ⟨_, -, -, -, hinfo, -⟩ := mem_dueCurrent_iff.mp h
    exact hinfo
  · obtain ⟨-, _, _, -, hinfo, -⟩ := mem_dueOverlap_iff.mp h
    exact hinfo

theorem due_nodup {nowMono : ℚ} (h : (due.map Prod.fst).Nodup) :
    ((dueCurrent s plan due ++ dueOverlap s nowMono).map CloseRecord.key).Nodup := by
  refine nodup_keys_append (fun r hr => ?_) (fun r hr => ?_) ?_ ?_
  · obtain ⟨d, -, -, hkey, -⟩ := mem_dueCurrent_iff.mp hr
    exact ⟨d.1, hkey⟩
  · obtain ⟨-, pair, contact, hkey, -⟩ := mem_dueOverlap_iff.mp hr
    exact ⟨pair, contact, hkey⟩
  · refine (currentKeys_nodup h).sublist ?_
    refine (map_filterMap_sublist fun d r hr => ?_).trans (List.filter_sublist.map _)
    obtain ⟨info, -, rfl⟩ := Option.map_eq_some_iff.mp hr
    rfl
  · refine (sortedOverlapping_nodup (s := s)).sublist ?_
    rw [dueOverlap]
    refine (List.filter_sublist.map CloseRecord.key).trans ?_
    rw [List.map_map]
    exact List.Sublist.refl _

/-! ### Retargeted terminals -/

theorem mem_keyedRecords_iff {held : RecordKey × ActiveLinkInfo} :
    held ∈ keyedRecords s ↔ record? s held.1 = some held.2 := by
  obtain ⟨key, info⟩ := held
  simp only [keyedRecords, List.mem_append, List.mem_map, mem_sortedActual_iff,
    mem_sortedOverlapping_iff]
  cases key with
  | current pair => simp
  | overlap pair contact => simp

theorem keyedRecords_nodup : ((keyedRecords s).map Prod.fst).Nodup := by
  rw [keyedRecords, List.map_append, List.map_map, List.map_map]
  refine List.nodup_append.mpr ⟨currentKeys_nodup sortedActual_nodup, sortedOverlapping_nodup, ?_⟩
  rintro _ hkey _ hkey' rfl
  obtain ⟨_, -, rfl⟩ := List.mem_map.mp hkey
  obtain ⟨_, -, heq⟩ := List.mem_map.mp hkey'
  cases heq

def takenEnds (wanted : Dict Terminal Pair) (pair : Pair) (drain : Drain) : List NodeId :=
  (drain.ends.filter fun e => takenFrom wanted pair e.terminal).map DrainingEnd.nodeId

theorem retargetRecord_eq_ok_iff {wanted : Dict Terminal Pair} {closes : List CloseRecord} :
    retargetRecord wanted key info = .ok closes ↔ (info.drain = none ∧ closes = [] ∧
        ∀ terminal ∈ endTerminals key.pair info.toLinkInfo,
          takenFrom wanted key.pair terminal = false) ∨ ∃ drain, info.drain = some drain ∧
        closes = if takenEnds wanted key.pair drain = [] then []
          else [{ key, info, ends := takenEnds wanted key.pair drain, cause := .retargeted }] := by
  unfold retargetRecord
  cases hdrain : info.drain with
  | none =>
    dsimp only
    split
    · rename_i htaken
      obtain ⟨terminal, hmem, htaken⟩ := List.any_eq_true.mp htaken
      refine iff_of_false (by simp) ?_
      rintro (⟨-, -, hfree⟩ | ⟨drain, hd, -⟩)
      · rw [hfree terminal hmem] at htaken
        cases htaken
      · cases hd
    · rename_i hfree
      rw [Bool.not_eq_true, List.any_eq_false] at hfree
      simp only [Except.ok.injEq, true_and, reduceCtorEq, false_and, exists_false, or_false]
      constructor
      · rintro rfl
        exact ⟨rfl, fun terminal hmem => Bool.eq_false_of_not_eq_true (hfree terminal hmem)⟩
      · exact fun h => h.1.symm
  | some drain =>
    simp only [reduceCtorEq, false_and, Option.some.injEq, exists_eq_left', false_or]
    change (if takenEnds wanted key.pair drain = [] then Except.ok ([] : List CloseRecord) else
      Except.ok [⟨key, info, takenEnds wanted key.pair drain, .retargeted⟩]) = _ ↔ _
    rw [← apply_ite Except.ok, Except.ok.injEq]
    exact eq_comm

theorem map_flatten_mapM_sublist {β γ ε : Type} {f : α → Except ε (List β)} {g : β → γ}
    {h : α → γ} {xs : List α} {yss : List (List β)} (hys : xs.mapM f = .ok yss)
    (hkey : ∀ x ys, f x = .ok ys → (ys.map g).Sublist [h x]) :
    (yss.flatten.map g).Sublist (xs.map h) := by
  induction xs generalizing yss with
  | nil =>
    obtain rfl : [] = yss := by simpa [pure, Except.pure] using hys
    exact List.Sublist.refl _
  | cons x xs ih =>
    rw [List.mapM_cons, bind_eq_ok_iff] at hys
    obtain ⟨ys, hys, hrest⟩ := hys
    rw [bind_eq_ok_iff] at hrest
    obtain ⟨zss, hzss, hcons⟩ := hrest
    obtain rfl : ys :: zss = yss := by simpa [pure, Except.pure] using hcons
    rw [List.flatten_cons, List.map_append]
    exact (hkey x ys hys).append (ih hzss)

section Retargets

variable {wanted : Dict Terminal Pair} {retargets : List (List CloseRecord)}
    (h : ((keyedRecords s).mapM fun held => retargetRecord wanted held.1 held.2) = .ok retargets)

include h

theorem retargets_nodup : (retargets.flatten.map CloseRecord.key).Nodup := by
  refine keyedRecords_nodup.sublist (map_flatten_mapM_sublist h ?_)
  intro held closes hcloses
  rcases retargetRecord_eq_ok_iff.mp hcloses with ⟨-, rfl, -⟩ | ⟨drain, -, rfl⟩
  · exact List.nil_sublist _
  · split
    · exact List.nil_sublist _
    · exact List.Sublist.refl _

theorem mem_retargets_iff :
    r ∈ retargets.flatten ↔ record? s r.key = some r.info ∧ r.cause = .retargeted ∧
      ∃ drain, r.info.drain = some drain ∧ r.ends = takenEnds wanted r.key.pair drain ∧
        takenEnds wanted r.key.pair drain ≠ [] := by
  constructor
  · intro hr
    obtain ⟨closes, hcloses, hmem⟩ := List.mem_flatten.mp hr
    obtain ⟨⟨key, info⟩, hheld, hclose⟩ := exists_of_mem_mapM h hcloses
    rcases retargetRecord_eq_ok_iff.mp hclose with ⟨-, rfl, -⟩ | ⟨drain, hdrain, rfl⟩
    · cases hmem
    · split at hmem
      · cases hmem
      · rename_i hne
        obtain rfl := List.mem_singleton.mp hmem
        exact ⟨mem_keyedRecords_iff.mp hheld, rfl, drain, hdrain, rfl, hne⟩
  · rintro ⟨hinfo, hcause, drain, hdrain, hends, hne⟩
    have hheld : (r.key, r.info) ∈ keyedRecords s := mem_keyedRecords_iff.mpr hinfo
    obtain ⟨closes, hcloses, hclose⟩ := exists_ok_of_mapM h hheld
    refine List.mem_flatten.mpr ⟨closes, hcloses, ?_⟩
    rcases retargetRecord_eq_ok_iff.mp hclose with ⟨hopen, -⟩ | ⟨drain', hdrain', rfl⟩
    · rw [hdrain] at hopen
      cases hopen
    · obtain rfl : drain = drain' := Option.some.inj (hdrain.symm.trans hdrain')
      rw [if_neg hne]
      refine List.mem_singleton.mpr ?_
      cases r
      simp_all

theorem free_of_retargets (hinfo : record? s key = some info) (hdrain : info.drain = none) :
    ∀ terminal ∈ endTerminals key.pair info.toLinkInfo,
      takenFrom wanted key.pair terminal = false := by
  have hheld : (key, info) ∈ keyedRecords s := mem_keyedRecords_iff.mpr hinfo
  obtain ⟨closes, -, hclose⟩ := exists_ok_of_mapM h hheld
  rcases retargetRecord_eq_ok_iff.mp hclose with ⟨-, -, hfree⟩ | ⟨drain, hsome, -⟩
  · exact hfree
  · rw [hdrain] at hsome
    cases hsome

end Retargets

end NodalArc.PlannedCloses
