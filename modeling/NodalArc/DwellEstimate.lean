import NodalArc.OrderedDict

/-! The remaining time a station sees a satellite: a walk over the whole horizon at every tick, and a
walk that remembers, for each pair, how far its pass has been sampled. -/

namespace NodalArc.DwellEstimate

open OrderedDict

variable {start : Int}

variable {Gs Sat : Type} [LinearOrder Gs] [LinearOrder Sat]

structure DwellPassState where
  verifiedVisibleThrough : Int
  firstInvisible : Option Int
deriving DecidableEq, Repr

variable {entry : DwellPassState}

structure GroundPassLookahead (Gs : Type) where
  step : Int
  stepSeconds : ℚ
  horizonTicks : Int
  horizonTicksByGs : Dict Gs Int
  /-- The stations whose reference body the geometry knows. -/
  gsReferenceBodies : List Gs

inductive DwellError (Gs : Type)
  | horizonNotPositive
  | stepNotPositive
  | missingHorizons (stations : List Gs)
  | missingBodies (stations : List Gs)
deriving DecidableEq, Repr

section Program

variable (lookahead : GroundPassLookahead Gs)

def missingStations (candidates : List (Gs × Sat)) (known : Gs → Bool) : List Gs :=
  ((candidates.map Prod.fst).dedup.filter fun gs => !known gs).insertionSort (· ≤ ·)

def validateDwellInputs (candidates : List (Gs × Sat)) : Except (DwellError Gs) Unit := do
  if lookahead.horizonTicks ≤ 0 then throw .horizonNotPositive
  if lookahead.stepSeconds ≤ 0 then throw .stepNotPositive
  let missingHorizons := missingStations candidates fun gs => gs ∈ lookahead.horizonTicksByGs
  if missingHorizons ≠ [] then throw (.missingHorizons missingHorizons)
  let missingBodies := missingStations candidates fun gs => gs ∈ lookahead.gsReferenceBodies
  if missingBodies ≠ [] then throw (.missingBodies missingBodies)

/-- The horizon of the pair's station; the inputs were validated, so there is one. -/
def horizonOf (pair : Gs × Sat) : Int := lookahead.horizonTicksByGs.getD pair.1 0

def seconds (ticks : Int) : ℚ := ticks * lookahead.stepSeconds

/-! ### The walk that remembers -/

/-- Entries that cannot answer for the current tick are dropped. -/
def dropDead (memo : Dict (Gs × Sat) DwellPassState) : Dict (Gs × Sat) DwellPassState :=
  memo.filter fun _ entry =>
    !(entry.firstInvisible.any (· ≤ lookahead.step) || entry.verifiedVisibleThrough < lookahead.step)

/-- What the memo answers for a candidate, and the first tick to sample where it cannot. -/
def fromMemo (h : Int) : Option DwellPassState → ℚ × Option Int
  | some ⟨_, some firstInvisible⟩ =>
      if firstInvisible > lookahead.step + h then (seconds lookahead h, none)
      else (seconds lookahead (firstInvisible - lookahead.step - 1), none)
  | some ⟨verified, none⟩ =>
      if verified ≥ lookahead.step + h then (seconds lookahead h, none)
      else (seconds lookahead h, some (verified + 1))
  | none => (seconds lookahead h, some (lookahead.step + 1))

variable (visible : Gs × Sat → Int → Bool) (chunkTicks : ℕ+)

/-- What one chunk of samples says of a pair: its new entry, its answer if the pass ends within the
horizon, and the next tick to sample if the horizon is not reached. -/
def sampleChunk (pair : Gs × Sat) (start : Int) : DwellPassState × Option ℚ × Option Int :=
  let cap := lookahead.step + horizonOf lookahead pair
  match (List.range chunkTicks).find? fun k : Nat => !visible pair (start + k) with
  | some dark =>
      (⟨start + dark - 1, some (start + dark)⟩,
        if start + dark ≤ cap then some (seconds lookahead (start + dark - lookahead.step - 1)) else none,
        none)
  | none =>
      (⟨start + chunkTicks - 1, none⟩, none,
        if start + chunkTicks - 1 < cap then some (start + chunkTicks) else none)

/-- The memo and the answers so far. -/
structure Estimate (Gs Sat : Type) where
  memo : Dict (Gs × Sat) DwellPassState
  remaining : Dict (Gs × Sat) ℚ

def recordChunk (estimate : Estimate Gs Sat) (pending : (Gs × Sat) × Int) : Estimate Gs Sat :=
  let chunk := sampleChunk lookahead visible chunkTicks pending.1 pending.2
  { memo := estimate.memo.insert pending.1 chunk.1
    remaining := match chunk.2.1 with
      | some answer => estimate.remaining.insert pending.1 answer
      | none => estimate.remaining }

def recordRound (pending : List ((Gs × Sat) × Int)) (estimate : Estimate Gs Sat) : Estimate Gs Sat :=
  pending.foldl (recordChunk lookahead visible chunkTicks) estimate

def unresolved (pending : List ((Gs × Sat) × Int)) : List ((Gs × Sat) × Int) :=
  pending.filterMap fun entry =>
    (sampleChunk lookahead visible chunkTicks entry.1 entry.2).2.2.map fun next => (entry.1, next)

def work (pending : List ((Gs × Sat) × Int)) : Nat :=
  (pending.map fun entry => (lookahead.step + horizonOf lookahead entry.1 + 1 - entry.2).toNat + 1).sum

omit [LinearOrder Sat] in
theorem work_unresolved (pending : List ((Gs × Sat) × Int)) :
    work lookahead (unresolved lookahead visible chunkTicks pending) + pending.length ≤
      work lookahead pending := by
  induction pending with
  | nil => exact le_rfl
  | cons first rest ih =>
    have hchunk := chunkTicks.pos
    simp only [work, unresolved, List.filterMap_cons, List.length_cons, List.map_cons, List.sum_cons] at ih ⊢
    cases hnext : (sampleChunk lookahead visible chunkTicks first.1 first.2).2.2 with
    | none =>
      simp only [Option.map_none]
      omega
    | some next =>
      simp only [sampleChunk] at hnext
      split at hnext
      · cases hnext
      · simp only [Option.ite_none_right_eq_some, Option.some.injEq] at hnext
        simp only [Option.map_some, List.map_cons, List.sum_cons]
        omega

def walk (pending : List ((Gs × Sat) × Int)) (estimate : Estimate Gs Sat) : Estimate Gs Sat :=
  if pending = [] then estimate
  else walk (unresolved lookahead visible chunkTicks pending)
    (recordRound lookahead visible chunkTicks pending estimate)
termination_by work lookahead pending
decreasing_by
  have hwork := work_unresolved lookahead visible chunkTicks pending
  have hlength := List.length_pos_iff.mpr ‹_›
  omega

/-- The first answers: those of the memo, and the horizon for pairs to be sampled. -/
def firstAnswers (candidates : List (Gs × Sat)) (memo : Dict (Gs × Sat) DwellPassState) : Dict (Gs × Sat) ℚ :=
  Dict.ofList (candidates.map fun pair =>
    (pair, (fromMemo lookahead (horizonOf lookahead pair) (memo.get? pair)).1))

def walkStart (candidates : List (Gs × Sat)) (memo : Dict (Gs × Sat) DwellPassState) :
    List ((Gs × Sat) × Int) :=
  candidates.filterMap fun pair =>
    (fromMemo lookahead (horizonOf lookahead pair) (memo.get? pair)).2.map fun start => (pair, start)

def estimateRemainingVisibleSeconds (candidates : List (Gs × Sat))
    (memo : Dict (Gs × Sat) DwellPassState) : Except (DwellError Gs) (Estimate Gs Sat) := do
  validateDwellInputs lookahead candidates
  let memo := dropDead lookahead memo
  pure (walk lookahead visible chunkTicks (walkStart lookahead candidates memo)
    ⟨memo, firstAnswers lookahead candidates memo⟩)

/-! ### The walk over the whole horizon -/

def offsets (pair : Gs × Sat) : List Int :=
  (List.range (horizonOf lookahead pair).toNat).map fun k : Nat => (k : Int) + 1

def closePair (answers : Dict (Gs × Sat) ℚ × List (Gs × Sat)) (sample : (Gs × Sat) × Int) :
    Dict (Gs × Sat) ℚ × List (Gs × Sat) :=
  if sample.1 ∈ answers.2 ∨ visible sample.1 (lookahead.step + sample.2) then answers
  else (answers.1.insert sample.1 (seconds lookahead (sample.2 - 1)), sample.1 :: answers.2)

def sampled (candidates : List (Gs × Sat)) : List ((Gs × Sat) × Int) :=
  (candidates.insertionSort fun p q => toLex p ≤ toLex q).flatMap fun pair =>
    (offsets lookahead pair).map fun offset => (pair, offset)

def exhaustiveAnswers (candidates : List (Gs × Sat)) : Dict (Gs × Sat) ℚ :=
  let remaining := Dict.ofList (candidates.map fun pair => (pair, seconds lookahead (horizonOf lookahead pair)))
  ((sampled lookahead candidates).foldl (closePair lookahead visible) (remaining, [])).1

def estimateRemainingVisibleSecondsExhaustive (candidates : List (Gs × Sat)) :
    Except (DwellError Gs) (Dict (Gs × Sat) ℚ) := do
  validateDwellInputs lookahead candidates
  pure (exhaustiveAnswers lookahead visible candidates)

/-! ### What both compute -/

/-- The ticks after the current one up to the first at which the pair is not visible, at most the
horizon. -/
def dwellTicks (pair : Gs × Sat) : Int :=
  match (List.range (horizonOf lookahead pair).toNat).find? fun k : Nat =>
      !visible pair (lookahead.step + (k + 1)) with
  | some k => k
  | none => horizonOf lookahead pair

end Program

variable {lookahead : GroundPassLookahead Gs} {visible : Gs × Sat → Int → Bool} {chunkTicks : ℕ+}
  {pair : Gs × Sat}

omit [LinearOrder Sat] in
theorem dwellTicks_dark {tick : Int} (hafter : lookahead.step < tick)
    (hcap : tick ≤ lookahead.step + horizonOf lookahead pair) (hdark : visible pair tick = false)
    (hbefore : ∀ t, lookahead.step < t → t < tick → visible pair t = true) :
    dwellTicks lookahead visible pair = tick - lookahead.step - 1 := by
  have hfound : (List.range (horizonOf lookahead pair).toNat).find? (fun k : Nat =>
      !visible pair (lookahead.step + (k + 1))) = some (tick - lookahead.step - 1).toNat := by
    refine List.find?_range_eq_some.mpr ⟨?_, List.mem_range.mpr (by omega), fun j hj => ?_⟩
    · rw [show lookahead.step + (((tick - lookahead.step - 1).toNat : Int) + 1) = tick by omega, hdark]
      rfl
    · rw [hbefore _ (by omega) (by omega)]
      rfl
  rw [dwellTicks, hfound]
  exact Int.toNat_of_nonneg (by omega)

omit [LinearOrder Sat] in
theorem dwellTicks_lit (hlit : ∀ t, lookahead.step < t → t ≤ lookahead.step + horizonOf lookahead pair →
    visible pair t = true) : dwellTicks lookahead visible pair = horizonOf lookahead pair := by
  have hnone : (List.range (horizonOf lookahead pair).toNat).find? (fun k : Nat =>
      !visible pair (lookahead.step + (k + 1))) = none := by
    refine List.find?_range_eq_none.mpr fun k hk => ?_
    rw [hlit _ (by omega) (by omega)]
    rfl
  rw [dwellTicks, hnone]

/-! ### The exhaustive walk -/

theorem closePair_spec {samples : List ((Gs × Sat) × Int)} {answers : Dict (Gs × Sat) ℚ × List (Gs × Sat)} :
    (samples.foldl (closePair lookahead visible) answers).1.get? pair =
      if pair ∈ answers.2 then answers.1.get? pair
      else match (samples.filterMap fun sample => if sample.1 = pair then some sample.2 else none).find?
          fun offset => !visible pair (lookahead.step + offset) with
        | some offset => some (seconds lookahead (offset - 1))
        | none => answers.1.get? pair := by
  induction samples generalizing answers with
  | nil => simp
  | cons sample samples ih =>
    rw [List.foldl_cons, ih, List.filterMap_cons]
    by_cases hpair : sample.1 = pair
    · subst hpair
      by_cases hclosed : sample.1 ∈ answers.2
      · simp [closePair, hclosed]
      · cases hvisible : visible sample.1 (lookahead.step + sample.2) <;>
          simp [closePair, hclosed, hvisible]
    · unfold closePair
      split_ifs with hskip <;> simp_all [Ne.symm hpair]

theorem samples_of_pair {ordered : List (Gs × Sat)} (hnodup : ordered.Nodup) (hmem : pair ∈ ordered) :
    ((ordered.flatMap fun pair => (offsets lookahead pair).map fun offset => (pair, offset)).filterMap
      fun sample => if sample.1 = pair then some sample.2 else none) = offsets lookahead pair := by
  have hown : ∀ other : Gs × Sat, (((offsets lookahead other).map fun offset => (other, offset)).filterMap
      fun sample => if sample.1 = pair then some sample.2 else none) =
      if other = pair then offsets lookahead other else [] := by
    intro other
    split_ifs with heq <;> simp [List.filterMap_map, heq]
  rw [List.filterMap_flatMap]
  simp only [hown]
  induction ordered with
  | nil => cases hmem
  | cons other ordered ih =>
    obtain ⟨hnew, hnodup⟩ := List.nodup_cons.mp hnodup
    rw [List.flatMap_cons]
    by_cases heq : other = pair
    · subst heq
      have hrest : (ordered.flatMap fun other' => if other' = other then offsets lookahead other' else []) = [] :=
        List.flatMap_eq_nil_iff.mpr fun other' hother' => if_neg (by rintro rfl; exact hnew hother')
      rw [hrest, if_pos rfl, List.append_nil]
    · rw [if_neg heq, List.nil_append]
      exact ih hnodup ((List.mem_cons.mp hmem).resolve_left (Ne.symm heq))

theorem exhaustive_spec {candidates : List (Gs × Sat)} (hnodup : candidates.Nodup) (pair : Gs × Sat) :
    (exhaustiveAnswers lookahead visible candidates).get? pair =
      if pair ∈ candidates then some (seconds lookahead (dwellTicks lookahead visible pair)) else none := by
  have hordered := List.perm_insertionSort (fun p q : Gs × Sat => toLex p ≤ toLex q) candidates
  rw [exhaustiveAnswers, closePair_spec, if_neg List.not_mem_nil, sampled]
  split_ifs with hmem
  · rw [samples_of_pair (hordered.nodup_iff.mpr hnodup) (hordered.mem_iff.mpr hmem), Dict.get?_ofList_map,
      if_pos hmem, offsets, List.find?_map, dwellTicks]
    simp only [Function.comp_def]
    cases (List.range (horizonOf lookahead pair).toNat).find? fun k : Nat =>
      !visible pair (lookahead.step + (k + 1)) with
    | none => rfl
    | some k => simp
  · have hnone : ((sampled lookahead candidates).filterMap fun sample =>
        if sample.1 = pair then some sample.2 else none) = [] := by
      refine List.filterMap_eq_nil_iff.mpr fun sample hsample => if_neg ?_
      rintro rfl
      obtain ⟨other, hother, hsample⟩ := List.mem_flatMap.mp hsample
      obtain ⟨_, -, rfl⟩ := List.mem_map.mp hsample
      exact hmem (hordered.mem_iff.mp hother)
    rw [sampled] at hnone
    rw [hnone, Dict.get?_ofList_map, if_neg hmem]
    rfl

/-! ### The walk that remembers -/

/-- What an entry says of its pair holds after the tick. -/
structure Verified (visible : Gs × Sat → Int → Bool) (pair : Gs × Sat) (now : Int)
    (entry : DwellPassState) : Prop where
  lit : ∀ t, now < t → t ≤ entry.verifiedVisibleThrough → visible pair t = true
  dark : ∀ t, entry.firstInvisible = some t → t = entry.verifiedVisibleThrough + 1 ∧ visible pair t = false

omit [LinearOrder Gs] [LinearOrder Sat] in
theorem Verified.later {now now' : Int} (h : Verified visible pair now entry) (hle : now ≤ now')
    : Verified visible pair now' entry where
  lit := fun t ht => h.lit t (lt_of_le_of_lt hle ht)
  dark := h.dark

section Walk

variable (lookahead visible chunkTicks) {pending : List ((Gs × Sat) × Int)} (estimate : Estimate Gs Sat)

theorem record_other (h : pair ∉ pending.map Prod.fst) :
    (recordRound lookahead visible chunkTicks pending estimate).memo.get? pair = estimate.memo.get? pair ∧
    (recordRound lookahead visible chunkTicks pending estimate).remaining.get? pair =
      estimate.remaining.get? pair := by
  induction pending generalizing estimate with
  | nil => exact ⟨rfl, rfl⟩
  | cons first rest ih =>
    rw [List.map_cons, List.mem_cons, not_or] at h
    obtain ⟨hmemo, hremaining⟩ := ih (recordChunk lookahead visible chunkTicks estimate first) h.2
    rw [recordRound, List.foldl_cons, ← recordRound, hmemo, hremaining]
    simp only [recordChunk, Dict.get?_insert, if_neg h.1, true_and]
    split
    · rw [Dict.get?_insert, if_neg h.1]
    · rfl

theorem record_own (hnodup : (pending.map Prod.fst).Nodup) (h : (pair, start) ∈ pending) :
    (recordRound lookahead visible chunkTicks pending estimate).memo.get? pair =
      some (sampleChunk lookahead visible chunkTicks pair start).1 ∧
    (recordRound lookahead visible chunkTicks pending estimate).remaining.get? pair =
      (sampleChunk lookahead visible chunkTicks pair start).2.1.or (estimate.remaining.get? pair) := by
  induction pending generalizing estimate with
  | nil => cases h
  | cons first rest ih =>
    obtain ⟨hnew, hnodup⟩ := List.nodup_cons.mp hnodup
    rw [recordRound, List.foldl_cons, ← recordRound]
    rcases List.mem_cons.mp h with rfl | h
    · obtain ⟨hmemo, hremaining⟩ := record_other lookahead visible chunkTicks
        (recordChunk lookahead visible chunkTicks estimate (pair, start)) hnew
      rw [hmemo, hremaining]
      simp only [recordChunk, Dict.get?_insert, if_true, true_and]
      split
      next answer hanswer => simp [hanswer]
      next hanswer => simp [hanswer]
    · have hne : pair ≠ first.1 := fun heq => hnew (List.mem_map.mpr ⟨_, h, heq⟩)
      obtain ⟨hmemo, hremaining⟩ := ih (recordChunk lookahead visible chunkTicks estimate first) hnodup h
      rw [hmemo, hremaining]
      refine ⟨rfl, congrArg _ ?_⟩
      simp only [recordChunk]
      split
      · rw [Dict.get?_insert, if_neg hne]
      · rfl

omit [LinearOrder Sat] in
theorem unresolved_keys :
    List.Sublist ((unresolved lookahead visible chunkTicks pending).map Prod.fst) (pending.map Prod.fst) := by
  induction pending with
  | nil => exact List.Sublist.slnil
  | cons first rest ih =>
    rw [unresolved, List.filterMap_cons, ← unresolved]
    cases (sampleChunk lookahead visible chunkTicks first.1 first.2).2.2 with
    | none => exact ih.cons _
    | some next => exact ih.cons_cons _

theorem walk_other (h : pair ∉ pending.map Prod.fst) :
    (walk lookahead visible chunkTicks pending estimate).memo.get? pair = estimate.memo.get? pair ∧
    (walk lookahead visible chunkTicks pending estimate).remaining.get? pair = estimate.remaining.get? pair := by
  induction pending, estimate using walk.induct lookahead visible chunkTicks with
  | case1 estimate =>
    rw [walk, if_pos rfl]
    exact ⟨rfl, rfl⟩
  | case2 pending estimate hpending ih =>
    obtain ⟨hmemo, hremaining⟩ := ih fun hmem => h ((unresolved_keys lookahead visible chunkTicks).subset hmem)
    obtain ⟨hmemo', hremaining'⟩ := record_other lookahead visible chunkTicks estimate h
    rw [walk, if_neg hpending]
    exact ⟨hmemo.trans hmemo', hremaining.trans hremaining'⟩

omit [LinearOrder Sat] in
theorem not_mem_unresolved (hnodup : (pending.map Prod.fst).Nodup) (h : (pair, start) ∈ pending)
    (hnone : (sampleChunk lookahead visible chunkTicks pair start).2.2 = none) :
    pair ∉ (unresolved lookahead visible chunkTicks pending).map Prod.fst := by
  intro hmem
  obtain ⟨⟨_, next⟩, hnext, rfl⟩ := List.mem_map.mp hmem
  obtain ⟨⟨other, start'⟩, hother, heq⟩ := List.mem_filterMap.mp hnext
  obtain ⟨next', hnext', heq⟩ := Option.map_eq_some_iff.mp heq
  obtain ⟨rfl, rfl⟩ := Prod.mk.inj heq
  obtain ⟨-, rfl⟩ := Prod.mk.inj (List.inj_on_of_nodup_map hnodup h hother rfl)
  rw [hnone] at hnext'
  cases hnext'

theorem walk_own (hnodup : (pending.map Prod.fst).Nodup) (h : (pair, start) ∈ pending)
    (hafter : lookahead.step < start)
    (hlit : ∀ t, lookahead.step < t → t < start → visible pair t = true)
    (hremaining : estimate.remaining.get? pair = some (seconds lookahead (horizonOf lookahead
      pair))) : (walk lookahead visible chunkTicks pending estimate).remaining.get? pair =
        some (seconds lookahead (dwellTicks lookahead visible pair)) ∧
      ∃ entry, (walk lookahead visible chunkTicks pending estimate).memo.get? pair = some entry ∧
        Verified visible pair lookahead.step entry := by
  induction pending, estimate using walk.induct lookahead visible chunkTicks generalizing start with
  | case1 estimate => cases h
  | case2 pending estimate hpending ih =>
    rw [walk, if_neg hpending]
    obtain ⟨hmemo, hanswer⟩ := record_own lookahead visible chunkTicks estimate hnodup h
    rw [hremaining] at hanswer
    have hchunk := chunkTicks.pos
    have hother := not_mem_unresolved lookahead visible chunkTicks hnodup h
    cases hfind : (List.range chunkTicks).find? fun k : Nat => !visible pair (start + k) with
    | some dark =>
      obtain ⟨hdark, -, hbefore⟩ := List.find?_range_eq_some.mp hfind
      have hlit' : ∀ t, lookahead.step < t → t < start + dark → visible pair t = true := by
        intro t ht hlt
        by_cases hstart : t < start
        · exact hlit t ht hstart
        · have hk := hbefore (t - start).toNat (by omega)
          rw [show start + ((t - start).toNat : Int) = t by omega] at hk
          simpa using hk
      have hdark : visible pair (start + dark) = false := by simpa using hdark
      simp only [sampleChunk, hfind] at hmemo hanswer hother
      obtain ⟨hmemo', hremaining'⟩ := walk_other lookahead visible chunkTicks
        (recordRound lookahead visible chunkTicks pending estimate) (hother trivial)
      refine ⟨hremaining'.trans (hanswer.trans ?_), _, hmemo'.trans hmemo, ?_, ?_⟩
      · split_ifs with hcap
        · rw [dwellTicks_dark (by omega) hcap hdark hlit']
          rfl
        · rw [dwellTicks_lit fun t ht hle => hlit' t ht (by omega)]
          rfl
      · exact fun t ht hle => hlit' t ht (by simp only at hle; omega)
      · rintro t ⟨⟩
        exact ⟨by simp only; omega, hdark⟩
    | none =>
      have hlit' : ∀ t, lookahead.step < t → t < start + chunkTicks → visible pair t = true := by
        intro t ht hlt
        by_cases hstart : t < start
        · exact hlit t ht hstart
        · have hk := List.find?_range_eq_none.mp hfind (t - start).toNat (by omega)
          rw [show start + ((t - start).toNat : Int) = t by omega] at hk
          simpa using hk
      simp only [sampleChunk, hfind, Option.none_or] at hmemo hanswer hother
      by_cases hcap : start + chunkTicks - 1 < lookahead.step + horizonOf lookahead pair
      · refine ih ?_ ?_ (by omega) hlit' hanswer
        · exact hnodup.sublist (unresolved_keys lookahead visible chunkTicks)
        · refine List.mem_filterMap.mpr ⟨(pair, start), h, ?_⟩
          simp only [sampleChunk, hfind, if_pos hcap, Option.map_some]
      · obtain ⟨hmemo', hremaining'⟩ := walk_other lookahead visible chunkTicks
          (recordRound lookahead visible chunkTicks pending estimate) (hother (if_neg hcap))
        refine ⟨hremaining'.trans (hanswer.trans ?_), _, hmemo'.trans hmemo, ?_, ?_⟩
        · rw [dwellTicks_lit fun t ht hle => hlit' t ht (by omega)]
        · exact fun t ht hle => hlit' t ht (by simp only at hle; omega)
        · rintro t ⟨⟩

end Walk

def Sound (visible : Gs × Sat → Int → Bool) (now : Int) (memo : Dict (Gs × Sat) DwellPassState) : Prop :=
  ∀ pair entry, memo.get? pair = some entry → Verified visible pair now entry

omit [LinearOrder Sat] in
/-- One answer of the memo: either it is the dwell time, or sampling goes on where the pair is still
known to be visible. -/
theorem fromMemo_spec {entry : Option DwellPassState}
    (h : ∀ e, entry = some e → Verified visible pair lookahead.step e ∧
      lookahead.step ≤ e.verifiedVisibleThrough) :
    match (fromMemo lookahead (horizonOf lookahead pair) entry).2 with
    | none => (fromMemo lookahead (horizonOf lookahead pair) entry).1 =
        seconds lookahead (dwellTicks lookahead visible pair)
    | some start => (fromMemo lookahead (horizonOf lookahead pair) entry).1 =
        seconds lookahead (horizonOf lookahead pair) ∧ lookahead.step < start ∧
        ∀ t, lookahead.step < t → t < start → visible pair t = true := by
  rcases entry with - | ⟨verified, - | firstInvisible⟩
  · exact ⟨rfl, by omega, fun t ht hlt => by omega⟩
  · obtain ⟨hverified, hle⟩ := h _ rfl
    simp only [fromMemo]
    by_cases hcap : verified ≥ lookahead.step + horizonOf lookahead pair
    · rw [if_pos hcap]
      simp only
      rw [dwellTicks_lit fun t ht hle => hverified.lit t ht (le_trans hle hcap)]
    · rw [if_neg hcap]
      exact ⟨rfl, by simp only at hle; omega, fun t ht hlt => hverified.lit t ht (by simp only; omega)⟩
  · obtain ⟨hverified, hle⟩ := h _ rfl
    obtain ⟨hfirst, hdark⟩ := hverified.dark firstInvisible rfl
    simp only at hfirst hle
    simp only [fromMemo]
    split_ifs with hcap
    · simp only
      rw [dwellTicks_lit fun t ht hle => hverified.lit t ht (by simp only; omega)]
    · simp only
      rw [dwellTicks_dark (by omega) (by omega) hdark fun t ht hlt => hverified.lit t ht (by simp only; omega)]

/-- Both raise the same error, or answer alike for every pair. -/
def SameAnswer : Except (DwellError Gs) (Dict (Gs × Sat) ℚ) → Except (DwellError Gs) (Dict (Gs × Sat) ℚ) → Prop
  | .ok remaining, .ok remaining' => ∀ pair, remaining.get? pair = remaining'.get? pair
  | .error e, .error e' => e = e'
  | _, _ => False

theorem dropDead_spec {memo : Dict (Gs × Sat) DwellPassState}
    (hsound : Sound visible lookahead.step memo)
    (h : (dropDead lookahead memo).get? pair = some entry) :
    Verified visible pair lookahead.step entry ∧ lookahead.step ≤ entry.verifiedVisibleThrough := by
  obtain ⟨hentry, hlive⟩ := Dict.get?_filter_eq_some_iff.mp h
  simp only [Bool.not_eq_true', Bool.or_eq_false_iff, decide_eq_false_iff_not, not_lt] at hlive
  exact ⟨hsound pair entry hentry, hlive.2⟩

theorem walkStart_keys (lookahead : GroundPassLookahead Gs) (candidates : List (Gs × Sat)) (memo : Dict (Gs × Sat) DwellPassState) :
    List.Sublist ((walkStart lookahead candidates memo).map Prod.fst) candidates := by
  induction candidates with
  | nil => exact List.Sublist.slnil
  | cons pair rest ih =>
    rw [walkStart, List.filterMap_cons, ← walkStart]
    cases (fromMemo lookahead (horizonOf lookahead pair) (memo.get? pair)).2 with
    | none => exact ih.cons _
    | some start => exact ih.cons_cons _

theorem estimate_spec {candidates : List (Gs × Sat)} {memo : Dict (Gs × Sat) DwellPassState}
    (hnodup : candidates.Nodup) (hmemo : ∀ pair entry, memo.get? pair = some entry →
      Verified visible pair lookahead.step entry ∧ lookahead.step ≤ entry.verifiedVisibleThrough)
    (chunkTicks : ℕ+) (pair : Gs × Sat) :
    let estimate := walk lookahead visible chunkTicks (walkStart lookahead candidates memo)
      ⟨memo, firstAnswers lookahead candidates memo⟩
    (∀ entry, estimate.memo.get? pair = some entry → Verified visible pair lookahead.step entry) ∧
      estimate.remaining.get? pair =
        if pair ∈ candidates then some (seconds lookahead (dwellTicks lookahead visible pair)) else none := by
  intro estimate
  have hkeys := walkStart_keys lookahead candidates memo
  have hother : pair ∉ (walkStart lookahead candidates memo).map Prod.fst → _ :=
    walk_other lookahead visible chunkTicks ⟨memo, firstAnswers lookahead candidates memo⟩
  have hspec := fromMemo_spec (hmemo pair)
  split_ifs with hmem
  · have hfirst : (firstAnswers lookahead candidates memo).get? pair = some
        (fromMemo lookahead (horizonOf lookahead pair) (memo.get? pair)).1 := by
      rw [firstAnswers, Dict.get?_ofList_map, if_pos hmem]
    cases hstart : (fromMemo lookahead (horizonOf lookahead pair) (memo.get? pair)).2 with
    | none =>
      have hnot : pair ∉ (walkStart lookahead candidates memo).map Prod.fst := by
        intro hpending
        obtain ⟨_, hentry, rfl⟩ := List.mem_map.mp hpending
        obtain ⟨_, -, heq⟩ := List.mem_filterMap.mp hentry
        obtain ⟨start, hsome, rfl⟩ := Option.map_eq_some_iff.mp heq
        rw [hstart] at hsome
        cases hsome
      obtain ⟨hmemo', hremaining'⟩ := hother hnot
      simp only [hstart] at hspec
      refine ⟨fun entry hentry => (hmemo pair entry (hmemo'.symm.trans hentry)).1, ?_⟩
      exact hremaining'.trans (hfirst.trans (congrArg some hspec))
    | some start =>
      simp only [hstart] at hspec
      have hpending : (pair, start) ∈ walkStart lookahead candidates memo :=
        List.mem_filterMap.mpr ⟨pair, hmem, by rw [hstart]; rfl⟩
      obtain ⟨hanswer, entry, hentry, hverified⟩ := walk_own lookahead visible chunkTicks
        ⟨memo, firstAnswers lookahead candidates memo⟩ (hnodup.sublist hkeys) hpending hspec.2.1 hspec.2.2
        (hfirst.trans (congrArg some hspec.1))
      refine ⟨fun entry' hentry' => ?_, hanswer⟩
      obtain rfl := Option.some.inj (hentry.symm.trans hentry')
      exact hverified
  · obtain ⟨hmemo', hremaining'⟩ := hother fun hpending => hmem (hkeys.subset hpending)
    refine ⟨fun entry hentry => (hmemo pair entry (hmemo'.symm.trans hentry)).1, hremaining'.trans ?_⟩
    exact Dict.get?_ofList_map.trans (if_neg hmem)

/-! ### Calls one after the other -/

/-- One call: its candidates, a set, and whether the memo was dropped before it. -/
structure Call (Gs Sat : Type) where
  candidates : List (Gs × Sat)
  distinct : candidates.Nodup
  lookahead : GroundPassLookahead Gs
  dropped : Bool

/-- The answers of calls that carry the memo along; a call that raises leaves it as it was. -/
def runCalls (visible : Gs × Sat → Int → Bool) (chunkTicks : ℕ+) :
    Dict (Gs × Sat) DwellPassState → List (Call Gs Sat) → List (Except (DwellError Gs) (Dict (Gs × Sat) ℚ))
  | _, [] => []
  | memo, call :: calls =>
      let memo := if call.dropped then ∅ else memo
      match estimateRemainingVisibleSeconds call.lookahead visible chunkTicks call.candidates memo with
      | .ok estimate => .ok estimate.remaining :: runCalls visible chunkTicks estimate.memo calls
      | .error e => .error e :: runCalls visible chunkTicks memo calls

theorem runCalls_same {calls : List (Call Gs Sat)} {memo : Dict (Gs × Sat) DwellPassState}
    (hordered : calls.Pairwise fun call later => call.lookahead.step ≤ later.lookahead.step)
    (hsound : ∀ call ∈ calls, Sound visible call.lookahead.step memo) :
    List.Forall₂ SameAnswer (runCalls visible chunkTicks memo calls) (calls.map fun call =>
      estimateRemainingVisibleSecondsExhaustive call.lookahead visible call.candidates) := by
  induction calls generalizing memo with
  | nil => exact .nil
  | cons call calls ih =>
    obtain ⟨hlater, hordered⟩ := List.pairwise_cons.mp hordered
    have hkept : ∀ later ∈ call :: calls, Sound visible later.lookahead.step
        (if call.dropped then ∅ else memo) := by
      intro later hmem
      split
      · intro pair entry hentry
        cases hentry
      · exact hsound later hmem
    rw [runCalls, List.map_cons]
    simp only [estimateRemainingVisibleSeconds, estimateRemainingVisibleSecondsExhaustive]
    cases validateDwellInputs call.lookahead call.candidates with
    | error e => exact .cons rfl (ih hordered fun later hmem => hkept later (List.mem_cons_of_mem _ hmem))
    | ok _ =>
      have hspec := estimate_spec call.distinct
        (fun pair entry => dropDead_spec (hkept call List.mem_cons_self)) chunkTicks
      refine .cons (fun pair => ?_) (ih hordered fun later hmem pair entry hentry => ?_)
      · exact (hspec pair).2.trans (exhaustive_spec call.distinct pair).symm
      · exact ((hspec pair).1 entry hentry).later (hlater later hmem)

/-- The walk that remembers answers like the walk over the whole horizon. -/
theorem remembered_eq_exhaustive (visible : Gs × Sat → Int → Bool) (chunkTicks : ℕ+)
    (calls : List (Call Gs Sat))
    (hordered : calls.Pairwise fun call later => call.lookahead.step ≤ later.lookahead.step) :
    List.Forall₂ SameAnswer (runCalls visible chunkTicks ∅ calls) (calls.map fun call =>
      estimateRemainingVisibleSecondsExhaustive call.lookahead visible call.candidates) :=
  runCalls_same hordered fun _ _ _ _ hentry => nomatch hentry

/-- A station loses its satellite at tick 4; the second call answers from the memo of the first, the
third after the memo was dropped. -/
def passEnding : List (Call Nat Nat) :=
  let lookahead (step : Int) : GroundPassLookahead Nat := ⟨step, 10, 3, Dict.ofList [(0, 3)], [0]⟩
  [⟨[(0, 7)], by decide, lookahead 0, false⟩, ⟨[(0, 7)], by decide, lookahead 2, false⟩,
    ⟨[(0, 7)], by decide, lookahead 2, true⟩]

theorem passEnding_same :
    List.Forall₂ SameAnswer (runCalls (fun _ tick => tick < 4) 2 ∅ passEnding) (passEnding.map fun call =>
      estimateRemainingVisibleSecondsExhaustive call.lookahead (fun _ tick => tick < 4) call.candidates) :=
  remembered_eq_exhaustive _ 2 passEnding (by simp [passEnding])

end NodalArc.DwellEstimate
