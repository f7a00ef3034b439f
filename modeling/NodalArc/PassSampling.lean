import NodalArc.DwellEstimate
import NodalArc.GroundPolicy

/-! The ticks the pass estimate samples, against the lookahead the session's coverage reserves. -/

namespace NodalArc.PassSampling

open OrderedDict
open GroundPolicy
open DwellEstimate

variable {Gs Sat : Type} [LinearOrder Gs] [LinearOrder Sat]

/-- Future ticks sampled for one pair at a time. -/
def passSampleChunkTicks : ℕ+ := 32

section Program

variable (lookahead : GroundPassLookahead Gs) (visible : Gs × Sat → Int → Bool) (chunkTicks : ℕ+)

/-- The rounds of the sampling loop: in each the pairs still unresolved, with the first tick each
samples. -/
def rounds (pending : List ((Gs × Sat) × Int)) : List (List ((Gs × Sat) × Int)) :=
  if pending = [] then []
  else pending :: rounds (unresolved lookahead visible chunkTicks pending)
termination_by work lookahead pending
decreasing_by
  have hwork := work_unresolved lookahead visible chunkTicks pending
  have hlength := List.length_pos_iff.mpr ‹_›
  omega

omit [LinearOrder Sat] in
@[simp] theorem rounds_nil : rounds lookahead visible chunkTicks [] = [] := by
  rw [rounds, if_pos rfl]

theorem walk_eq_foldl_rounds (pending : List ((Gs × Sat) × Int)) (estimate : Estimate Gs Sat) :
    walk lookahead visible chunkTicks pending estimate =
      (rounds lookahead visible chunkTicks pending).foldl
        (fun estimate round => recordRound lookahead visible chunkTicks round estimate)
        estimate := by
  induction pending, estimate using walk.induct lookahead visible chunkTicks with
  | case1 estimate => rw [walk, if_pos rfl, rounds_nil, List.foldl_nil]
  | case2 pending estimate hpending ih =>
    rw [walk, rounds, if_neg hpending, if_neg hpending, List.foldl_cons, ih]

def sampledTicks (round : List ((Gs × Sat) × Int)) : List Int :=
  round.flatMap fun entry => (List.range chunkTicks).map fun k : Nat => entry.2 + k

/-- The rounds of a call; a call that raises has none. -/
def callRounds (candidates : List (Gs × Sat)) (memo : Dict (Gs × Sat) DwellPassState) :
    List (List ((Gs × Sat) × Int)) :=
  match validateDwellInputs lookahead candidates with
  | .ok _ => rounds lookahead visible chunkTicks
      (walkStart lookahead candidates (dropDead lookahead memo))
  | .error _ => []

/-- A call records its rounds one after another. -/
theorem estimate_eq_foldl_rounds (candidates : List (Gs × Sat))
    (memo : Dict (Gs × Sat) DwellPassState) :
    estimateRemainingVisibleSeconds lookahead visible chunkTicks candidates memo =
      (validateDwellInputs lookahead candidates).map fun _ =>
        (callRounds lookahead visible chunkTicks candidates memo).foldl
          (fun estimate round => recordRound lookahead visible chunkTicks round estimate)
          ⟨dropDead lookahead memo, firstAnswers lookahead candidates (dropDead lookahead memo)⟩ := by
  unfold estimateRemainingVisibleSeconds callRounds
  cases validateDwellInputs lookahead candidates with
  | error e => rfl
  | ok _ => exact congrArg Except.ok (walk_eq_foldl_rounds lookahead visible chunkTicks _ _)

end Program

def lookaheadHorizonTicks : SelectionPolicySpec → Option Nat
  | .longestRemainingPass horizon _ => some horizon
  | _ => none

/-- The horizon of each station whose policy looks ahead. -/
def horizonTicksByGs (policies : List (Gs × SelectionPolicySpec)) : Dict Gs Int :=
  Dict.ofList (policies.filterMap fun station =>
    (lookaheadHorizonTicks station.2).map fun horizon : Nat => (station.1, (horizon : Int)))

def coverageHorizonTicks (policies : List (Gs × SelectionPolicySpec)) : Nat :=
  (policies.filterMap fun station => lookaheadHorizonTicks station.2).max?.getD 0

/-- How many ticks beyond the current one the coverage of a session reserves. -/
def lookaheadTicks (policies : List (Gs × SelectionPolicySpec)) : Nat :=
  if coverageHorizonTicks policies = 0 then 0
  else coverageHorizonTicks policies + passSampleChunkTicks

variable {lookahead : GroundPassLookahead Gs} {visible : Gs × Sat → Int → Bool} {chunkTicks : ℕ+}
  {candidates : List (Gs × Sat)} {pending : List ((Gs × Sat) × Int)} {n : Nat} {largest : Int}
  {memo : Dict (Gs × Sat) DwellPassState} {policies : List (Gs × SelectionPolicySpec)}

/-- The stations' horizons are positive and none is larger than `largest`. -/
def Horizons (lookahead : GroundPassLookahead Gs) (largest : Int) : Prop :=
  ∀ gs horizon, lookahead.horizonTicksByGs.get? gs = some horizon →
    0 < horizon ∧ horizon ≤ largest

/-- Entries that start `n` chunks or more after the current tick, within the largest horizon. -/
def Ahead (lookahead : GroundPassLookahead Gs) (chunkTicks : ℕ+) (largest : Int) (n : Nat)
    (pending : List ((Gs × Sat) × Int)) : Prop :=
  ∀ entry ∈ pending, lookahead.step + 1 + chunkTicks * n ≤ entry.2 ∧
    entry.2 ≤ lookahead.step + largest ∧ horizonOf lookahead entry.1 ≤ largest

omit [LinearOrder Sat] in
theorem Ahead.unresolved (h : Ahead lookahead chunkTicks largest n pending) :
    Ahead lookahead chunkTicks largest (n + 1)
      (unresolved lookahead visible chunkTicks pending) := by
  intro entry hentry
  obtain ⟨⟨pair, start⟩, hpending, heq⟩ := List.mem_filterMap.mp hentry
  obtain ⟨next, hnext, rfl⟩ := Option.map_eq_some_iff.mp heq
  obtain ⟨hafter, -, hhorizon⟩ := h _ hpending
  simp only [sampleChunk] at hnext hhorizon
  split at hnext
  · cases hnext
  · simp only [Option.ite_none_right_eq_some, Option.some.injEq] at hnext
    refine ⟨?_, ?_, hhorizon⟩
    · push_cast
      linarith
    · simp only
      omega

omit [LinearOrder Sat] in
variable (visible) in
/-- By induction on the rounds: each starts a chunk after the one before. -/
theorem rounds_spec (h : Ahead lookahead chunkTicks largest n pending) :
    (∀ round ∈ rounds lookahead visible chunkTicks pending,
      Ahead lookahead chunkTicks largest 0 round) ∧
    (pending ≠ [] → chunkTicks * (n + (rounds lookahead visible chunkTicks pending).length) <
      largest + chunkTicks) := by
  induction pending using rounds.induct lookahead visible chunkTicks generalizing n with
  | case1 => exact ⟨by simp, by simp⟩
  | case2 pending hpending ih =>
    obtain ⟨hrounds, hlength⟩ := ih h.unresolved
    rw [rounds, if_neg hpending]
    refine ⟨List.forall_mem_cons.mpr ⟨fun entry hentry => ?_, hrounds⟩, fun _ => ?_⟩
    · obtain ⟨hafter, hrest⟩ := h entry hentry
      have : (0 : Int) ≤ chunkTicks * n := by positivity
      exact ⟨by simpa using by linarith, hrest⟩
    · by_cases hlast : DwellEstimate.unresolved lookahead visible chunkTicks pending = []
      · obtain ⟨entry, hentry⟩ := List.exists_mem_of_ne_nil _ hpending
        obtain ⟨hafter, hcap, -⟩ := h entry hentry
        simp only [hlast, rounds_nil, List.length_cons, List.length_nil]
        push_cast
        linarith
      · have := hlength hlast
        rw [List.length_cons]
        push_cast at this ⊢
        linarith

omit [LinearOrder Sat] in
theorem horizonOf_spec (hvalid : validateDwellInputs lookahead candidates = .ok ())
    (h : Horizons lookahead largest) {pair : Gs × Sat} (hmem : pair ∈ candidates) :
    0 < horizonOf lookahead pair ∧ horizonOf lookahead pair ≤ largest := by
  have hknown : pair.1 ∈ lookahead.horizonTicksByGs := by
    by_contra hmissing
    have hlisted : pair.1 ∈ missingStations candidates
        fun gs => gs ∈ lookahead.horizonTicksByGs := by
      rw [missingStations, (List.perm_insertionSort _ _).mem_iff]
      simpa [hmissing] using ⟨pair.2, hmem⟩
    simp only [validateDwellInputs, if_pos (List.ne_nil_of_mem hlisted)] at hvalid
    split_ifs at hvalid <;> cases hvalid
  obtain ⟨horizon, hhorizon⟩ := Dict.mem_iff.mp hknown
  rw [horizonOf, Dict.getD, hhorizon]
  exact h _ _ hhorizon

/-- What the memo keeps reaches the current tick, so no walk starts before the next one. -/
theorem ahead_walkStart (hvalid : validateDwellInputs lookahead candidates = .ok ())
    (h : Horizons lookahead largest) : Ahead lookahead chunkTicks largest 0
      (walkStart lookahead candidates (dropDead lookahead memo)) := by
  intro entry hentry
  obtain ⟨pair, hmem, heq⟩ := List.mem_filterMap.mp hentry
  obtain ⟨start, hstart, rfl⟩ := Option.map_eq_some_iff.mp heq
  obtain ⟨hpos, hlargest⟩ := horizonOf_spec hvalid h hmem
  suffices hahead : lookahead.step + 1 ≤ start ∧
      start ≤ lookahead.step + horizonOf lookahead pair from
    ⟨by simpa using hahead.1, hahead.2.trans (by simpa using hlargest), hlargest⟩
  rcases hmemo : (dropDead lookahead memo).get? pair with - | ⟨verified, - | dark⟩
  · obtain rfl : lookahead.step + 1 = start := by simpa [hmemo, fromMemo] using hstart
    omega
  · obtain ⟨-, hlive⟩ := Dict.get?_filter_eq_some_iff.mp hmemo
    simp only [hmemo, fromMemo] at hstart
    split_ifs at hstart with hcap
    obtain rfl := Option.some.inj hstart
    simp at hlive
    omega
  · simp only [hmemo, fromMemo] at hstart
    split_ifs at hstart

variable (visible chunkTicks candidates memo) in
/-- What one call samples, whatever the memo it finds. -/
theorem callRounds_spec (h : Horizons lookahead largest) :
    (∀ round ∈ callRounds lookahead visible chunkTicks candidates memo,
      ∀ tick ∈ sampledTicks chunkTicks round, 0 < largest ∧
        lookahead.step + 1 ≤ tick ∧ tick ≤ lookahead.step + largest + chunkTicks - 1) ∧
    (0 < largest →
      chunkTicks * ((callRounds lookahead visible chunkTicks candidates memo).length : Int) <
        largest + chunkTicks) := by
  have hnone : 0 < largest → chunkTicks * ((0 : Nat) : Int) < largest + chunkTicks :=
    fun hpos => by simpa using by positivity
  unfold callRounds
  cases hvalid : validateDwellInputs lookahead candidates with
  | error e => exact ⟨by simp, hnone⟩
  | ok _ =>
    have hahead : Ahead lookahead chunkTicks largest 0
        (walkStart lookahead candidates (dropDead lookahead memo)) := ahead_walkStart hvalid h
    obtain ⟨hrounds, hlength⟩ := rounds_spec visible hahead
    refine ⟨fun round hround tick htick => ?_, fun hpos => ?_⟩
    · obtain ⟨entry, hentry, htick⟩ := List.mem_flatMap.mp htick
      obtain ⟨k, hk, rfl⟩ := List.mem_map.mp htick
      obtain ⟨hafter, hcap, -⟩ := hrounds round hround entry hentry
      rw [List.mem_range] at hk
      simp only [Nat.cast_zero, mul_zero] at hafter
      omega
    · by_cases hempty : walkStart lookahead candidates (dropDead lookahead memo) = []
      · simpa [hempty] using hnone hpos
      · simpa using hlength hempty

theorem horizons_coverage (h : lookahead.horizonTicksByGs = horizonTicksByGs policies) :
    Horizons lookahead (coverageHorizonTicks policies) := by
  intro gs horizon hhorizon
  rw [h] at hhorizon
  obtain ⟨station, hstation, heq⟩ := List.mem_filterMap.mp (Dict.mem_of_get?_ofList hhorizon)
  obtain ⟨ticks, hticks, heq⟩ := Option.map_eq_some_iff.mp heq
  obtain ⟨rfl, rfl⟩ := Prod.mk.inj heq
  have hle : ticks ≤ coverageHorizonTicks policies :=
    List.le_max?_getD_of_mem (List.mem_filterMap.mpr ⟨station, hstation, hticks⟩)
  cases hpolicy : station.2 with
  | longestRemainingPass _ hpos =>
    simp only [hpolicy, lookaheadHorizonTicks, Option.some.injEq] at hticks
    omega
  | _ => simp [hpolicy, lookaheadHorizonTicks] at hticks

/-- The estimate is what its rounds record, every tick they sample lies after the call's step and
less than a chunk beyond its largest horizon, within what the session's coverage reserves, and the
sampling loop ends. -/
theorem sampling_within_coverage (lookahead : GroundPassLookahead Gs)
    (visible : Gs × Sat → Int → Bool) (candidates : List (Gs × Sat))
    (memo : Dict (Gs × Sat) DwellPassState) {largest : Int} (h : Horizons lookahead largest)
    (hpos : 0 < largest) :
    let sampled := callRounds lookahead visible passSampleChunkTicks candidates memo
    estimateRemainingVisibleSeconds lookahead visible passSampleChunkTicks candidates memo =
      (validateDwellInputs lookahead candidates).map (fun _ => sampled.foldl
        (fun estimate round => recordRound lookahead visible passSampleChunkTicks round estimate)
        ⟨dropDead lookahead memo, firstAnswers lookahead candidates (dropDead lookahead memo)⟩) ∧
    (∀ round ∈ sampled, ∀ tick ∈ sampledTicks passSampleChunkTicks round,
      lookahead.step + 1 ≤ tick ∧ tick ≤ lookahead.step + largest + passSampleChunkTicks - 1) ∧
    (∀ policies, lookahead.horizonTicksByGs = horizonTicksByGs policies →
      ∀ round ∈ sampled, ∀ tick ∈ sampledTicks passSampleChunkTicks round,
        tick < lookahead.step + lookaheadTicks policies) ∧
    (sampled.length : Int) ≤ ⌈(largest : ℚ) / passSampleChunkTicks⌉ + 1 := by
  intro sampled
  obtain ⟨hticks, hlength⟩ := callRounds_spec visible passSampleChunkTicks candidates memo h
  refine ⟨estimate_eq_foldl_rounds lookahead visible passSampleChunkTicks candidates memo,
    fun round hround tick htick => (hticks round hround tick htick).2, ?_, ?_⟩
  · intro policies hpolicies round hround tick htick
    have hspec := callRounds_spec visible passSampleChunkTicks candidates memo
      (horizons_coverage hpolicies)
    obtain ⟨hcoverage, -, hlast⟩ := hspec.1 round hround tick htick
    rw [lookaheadTicks, if_neg (by omega)]
    push_cast
    omega
  · have hcount := hlength hpos
    have hceil : (sampled.length : Int) - 1 < ⌈(largest : ℚ) / passSampleChunkTicks⌉ := by
      rw [Int.lt_ceil, lt_div_iff₀ (by norm_num [passSampleChunkTicks])]
      have : ((sampled.length : Int) - 1) * (passSampleChunkTicks : Int) < largest := by linarith
      exact_mod_cast this
    omega

/-- A fresh pair and one whose memo reaches 40 ticks on, with horizons of 10 and 60 ticks. -/
def twoHorizons : GroundPassLookahead Nat where
  step := 5
  stepSeconds := 10
  horizonTicks := 60
  horizonTicksByGs := Dict.ofList [(0, 10), (1, 60)]
  gsReferenceBodies := [0, 1]

theorem twoHorizons_sampled_within :
    let memo := Dict.ofList [((1, 8), (⟨45, none⟩ : DwellPassState))]
    let sampled := callRounds twoHorizons (fun _ _ => true) passSampleChunkTicks
      [(0, 7), (1, 8)] memo
    ∀ round ∈ sampled, ∀ tick ∈ sampledTicks passSampleChunkTicks round,
      6 ≤ tick ∧ tick ≤ 96 := by
  have h : Horizons twoHorizons 60 := by
    intro gs horizon hhorizon
    have hmem := Dict.mem_of_get?_ofList hhorizon
    simp only [List.mem_cons, Prod.mk.injEq, List.not_mem_nil, or_false] at hmem
    omega
  exact (sampling_within_coverage twoHorizons _ _ _ h (by decide)).2.1

end NodalArc.PassSampling
