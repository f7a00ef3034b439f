import NodalArc.GroundAllocator

/-! What the preparation of a tick guarantees: the candidates are the visible pairs, each once and
each under the station that sees it. -/

namespace NodalArc.GroundCandidates

open OrderedDict
open StatefulProgram
open GroundPolicy
open GroundAllocator

variable {config : GroundConfig} {tick : GroundTick} {gv : GroundVisibility}
    {acc acc' : List Candidate × List Pair} {gsId : NodeId} {pools : SatellitePools}
    {mapping : String} {K V : Type}

def VisibleIn (tick : GroundTick) (pair : Pair) : Prop :=
  ∃ gsId sats, tick.visiblePerStation.get? gsId = some sats ∧
    ∃ gv ∈ sats, gv.visible = true ∧ pair = normalizedPair gsId gv.satId

/-- The stations whose visibility a tick reports are known ground stations.  The tick computation
passes the visibility of the stations it has positions for, and their ids as the known ones. -/
def StationsKnown (config : GroundConfig) (tick : GroundTick) : Prop :=
  ∀ gsId ∈ tick.visiblePerStation, gsId ∈ config.groundStationIds

theorem ensure_eq_ok_iff {c : Prop} [Decidable c] {e : AllocationError} {u : Unit} :
    ensure c e = .ok u ↔ c := by
  by_cases h : c <;> simp [ensure, h]

theorem lookupKey_eq_ok_iff [DecidableEq K] {render : K → String} {d : Dict K V} {k : K} {v : V} :
    lookupKey mapping render d k = .ok v ↔ d.get? k = some v := by
  unfold lookupKey
  cases d.get? k <;> simp

theorem lookupNode_eq_ok_iff {d : Dict NodeId V} {k : NodeId} {v : V}
    : lookupNode mapping d k = .ok v ↔ d.get? k = some v := lookupKey_eq_ok_iff

theorem groundAndSatelliteIds_normalizedPair {satId g t : NodeId} {ids : List NodeId}
    (hgs : gsId ∈ ids) (h : groundAndSatelliteIds (normalizedPair gsId satId) ids = .ok (g, t)) :
    g = gsId ∧ t = satId := by
  rcases le_total gsId satId with hle | hle
  · simp only [groundAndSatelliteIds, normalizedPair, min_eq_left hle, max_eq_right hle, hgs,
      true_and, if_true] at h
    split at h
    · cases h
    · cases h
      exact ⟨rfl, rfl⟩
  · simp only [groundAndSatelliteIds, normalizedPair, min_eq_right hle, max_eq_left hle, hgs,
      and_true, if_true] at h
    split at h
    · cases h
    · cases h
      exact ⟨rfl, rfl⟩

/-- What a candidate says about itself, apart from its ranking. -/
structure CandidateOf (tick : GroundTick) (c : Candidate) : Prop where
  pair_eq : c.pair = normalizedPair c.gsId c.satId
  visible : ∃ sats, tick.visiblePerStation.get? c.gsId = some sats ∧
    ∃ gv ∈ sats, gv.visible = true ∧ gv.satId = c.satId

theorem CandidateOf.visibleIn {c : Candidate} (h : CandidateOf tick c) :
    VisibleIn tick c.pair := by
  obtain ⟨sats, hsats, gv, hgv, hvisible, hsat⟩ := h.visible
  exact ⟨c.gsId, sats, hsats, gv, hgv, hvisible, by rw [h.pair_eq, hsat]⟩

theorem addCandidate_eq_ok (h : addCandidate config pools gsId acc gv = .ok acc') :
    ∃ c : Candidate, acc' = (acc.1 ++ [c], acc.2 ++ [c.pair]) ∧ c.pair ∉ acc.2 ∧
      gv.visible = true ∧ c.gsId = gsId ∧ c.satId = gv.satId ∧
      c.pair = normalizedPair gsId gv.satId := by
  simp only [addCandidate, bind_eq_ok_iff, ensure_eq_ok_iff] at h
  obtain ⟨-, hvisible, -, hnew, policy, -, score, -, body, -, priority, -, h⟩ := h
  refine ⟨_, (Except.ok.inj h).symm, hnew, hvisible, rfl, rfl, rfl⟩

/-- The candidates of one station while they are collected: `visible` starts with the pairs seen
before the station. -/
structure StationProgress (tick : GroundTick) (gsId : NodeId) (seen : List Pair)
    (acc : List Candidate × List Pair) : Prop where
  visible_eq : acc.2 = seen ++ acc.1.map Candidate.pair
  nodup : acc.2.Nodup
  candidates : ∀ c ∈ acc.1, c.gsId = gsId ∧ CandidateOf tick c

theorem StationProgress.addCandidate {seen : List Pair} {sats : List GroundVisibility}
    (hsats : tick.visiblePerStation.get? gsId = some sats) (hgv : gv ∈ sats)
    (hacc : StationProgress tick gsId seen acc)
    (h : addCandidate config pools gsId acc gv = .ok acc') :
    StationProgress tick gsId seen acc' := by
  obtain ⟨c, rfl, hnew, hvisible, hgs, hsat, hpair⟩ := addCandidate_eq_ok h
  have hc : CandidateOf tick c :=
    { pair_eq := by rw [hpair, hgs, hsat]
      visible := ⟨sats, by rw [hgs, hsats], gv, hgv, hvisible, hsat.symm⟩ }
  refine ⟨by simp [hacc.visible_eq], ?_, ?_⟩
  · exact List.nodup_append.mpr ⟨hacc.nodup, List.nodup_singleton _, by
      rintro a ha b hb rfl
      exact hnew (List.mem_singleton.mp hb ▸ ha)⟩
  · intro d hd
    rcases List.mem_append.mp hd with hd | hd
    · exact hacc.candidates d hd
    · obtain rfl := List.mem_singleton.mp hd
      exact ⟨hgs, hc⟩

theorem exists_of_mem_rankStation {station : List Candidate} {c : Candidate}
    (h : c ∈ rankStation config station) :
    ∃ d ∈ station, c.pair = d.pair ∧ c.gsId = d.gsId ∧ c.satId = d.satId := by
  obtain ⟨i, hi, rfl⟩ := List.mem_mapIdx.mp h
  exact ⟨_, (List.mem_insertionSort _).mp (List.getElem_mem hi), rfl, rfl, rfl⟩

theorem map_pair_rankStation_perm (config : GroundConfig) (station : List Candidate) :
    ((rankStation config station).map Candidate.pair).Perm (station.map Candidate.pair) := by
  have h : (rankStation config station).map Candidate.pair =
      (station.insertionSort stationRankLe).map Candidate.pair := by
    apply List.ext_getElem <;> simp [rankStation]
  rw [h]
  exact (List.perm_insertionSort _ _).map _

/-- The candidates of the stations visited so far. -/
structure CandidatesProgress (tick : GroundTick) (acc : List Candidate × List Pair) : Prop where
  perm : acc.2.Perm (acc.1.map Candidate.pair)
  nodup : acc.2.Nodup
  candidates : ∀ c ∈ acc.1, CandidateOf tick c

theorem CandidatesProgress.addStation {station : NodeId × List GroundVisibility}
    (hstation : tick.visiblePerStation.get? station.1 = some station.2)
    (hacc : CandidatesProgress tick acc) (h : addStation config pools acc station = .ok acc')
    : CandidatesProgress tick acc' := by
  simp only [GroundAllocator.addStation, bind_eq_ok_iff, ensure_eq_ok_iff] at h
  obtain ⟨-, -, -, -, ⟨candidates, visible⟩, hfold, h⟩ := h
  obtain rfl := Except.ok.inj h
  have hprogress : StationProgress tick station.1 acc.2 (candidates, visible) :=
    foldlM_invariant (StationProgress tick station.1 acc.2)
      (fun gv hgv _ _ hb hstep => hb.addCandidate hstation hgv hstep) hfold
      ⟨by simp, hacc.nodup, by simp⟩
  obtain ⟨hvisible, hnodup, hcandidates⟩ := hprogress
  refine ⟨?_, hnodup, ?_⟩
  · simp only at hvisible
    rw [hvisible, List.map_append]
    exact hacc.perm.append (map_pair_rankStation_perm config candidates).symm
  · intro c hc
    rcases List.mem_append.mp hc with hc | hc
    · exact hacc.candidates c hc
    · obtain ⟨d, hd, hpair, hgs, hsat⟩ := exists_of_mem_rankStation hc
      obtain ⟨-, hdof⟩ := hcandidates d hd
      exact ⟨by rw [hpair, hgs, hsat, hdof.pair_eq], by rw [hgs, hsat]; exact hdof.visible⟩

/-- What the transitions of a tick rely on. -/
structure ContextFacts (ctx : AllocationContext) : Prop where
  candidateOf : ∀ c ∈ ctx.candidates, CandidateOf ctx.tick c
  station_mem : ∀ c ∈ ctx.candidates, c.gsId ∈ ctx.config.groundStationIds
  candidate_unique : ∀ c ∈ ctx.candidates, ∀ d ∈ ctx.candidates, c.pair = d.pair → c = d
  visible_iff : ∀ pair, pair ∈ ctx.visibleSet ↔ ∃ c ∈ ctx.candidates, c.pair = pair
  byPair : ∀ pair c, ctx.candidateByPair.get? pair = some c → c ∈ ctx.candidates ∧ c.pair = pair
  gsPools : ctx.gsTerminalPools = ctx.config.gsTerminalIndices
  gsPool_nodup : ∀ gsId pool, ctx.gsTerminalPools.get? gsId = some pool → pool.Nodup
  satPool_eq : ∀ satId body, satellitePool ctx.satTerminalPools satId body ≠ [] →
    satellitePool ctx.satTerminalPools satId body =
      satellitePool ctx.config.satGroundTerminalIndicesByBody satId body

theorem get?_ofList_map_eq_some {α : Type} [DecidableEq K] {key : α → K} {xs : List α} {k : K}
    {a : α} (h : (Dict.ofList (xs.map fun a => (key a, a))).get? k = some a) :
    a ∈ xs ∧ key a = k := by
  obtain ⟨b, hb, heq⟩ := List.mem_map.mp (Dict.mem_of_get?_ofList h)
  obtain ⟨rfl, rfl⟩ := Prod.mk.inj heq
  exact ⟨hb, rfl⟩

theorem candidatesProgress_of_foldlM
    (h : (sortedItems tick.visiblePerStation).foldlM (addStation config pools) ([], []) = .ok acc)
    : CandidatesProgress tick acc := by
  refine foldlM_invariant (CandidatesProgress tick) ?_ h ⟨by simp, by simp, by simp⟩
  intro station hstation b b' hb hstep
  have hmem : (station.1, station.2) ∈ tick.visiblePerStation.entries :=
    (List.mem_insertionSort _).mp hstation
  exact hb.addStation (Dict.get?_eq_some_iff.mpr hmem) hstep

theorem satellitePool_normalized (h : normalizeSatelliteTerminalPools config = .ok pools)
    (satId : NodeId) (body : SurfaceBody) (hne : satellitePool pools satId body ≠ []) :
    satellitePool pools satId body =
      satellitePool config.satGroundTerminalIndicesByBody satId body := by
  simp only [normalizeSatelliteTerminalPools, bind_eq_ok_iff] at h
  obtain ⟨-, -, -, -, h⟩ := h
  obtain rfl := Except.ok.inj h
  unfold satellitePool Dict.getD at *
  rw [Dict.get?_mapValues] at *
  cases hsat : config.satGroundTerminals.get? satId with
  | none => simp [hsat] at hne
  | some total => simp

theorem stationPool_nodup {pools : Dict NodeId (List Int)}
    (h : normalizeGroundTerminalPools config = .ok pools) {pool : List Int}
    (hpool : config.gsTerminalIndices.get? gsId = some pool) : pool.Nodup := by
  simp only [normalizeGroundTerminalPools, bind_eq_ok_iff] at h
  obtain ⟨⟨⟩, hall, -⟩ := h
  have hmem : (gsId, pool) ∈ sortedItems config.gsTerminalIndices :=
    (List.mem_insertionSort _).mpr (Dict.get?_eq_some_iff.mp hpool)
  have hcheck := forM_eq_ok_iff.mp hall _ hmem
  simp only [bind_eq_ok_iff, ensure_eq_ok_iff] at hcheck
  obtain ⟨-, -, -, hnodup, -⟩ := hcheck
  exact hnodup

theorem contextFacts_of_prepareContext {prior : GroundAuthority} {ctx : AllocationContext}
    (hknown : StationsKnown config tick) (h : prepareContext config tick prior = .ok ctx)
    : ContextFacts ctx := by
  simp only [prepareContext, bind_eq_ok_iff] at h
  obtain ⟨⟨⟩, hchecks, pools, hpools, candidates, hcandidates, priorHolder, -, h⟩ := h
  obtain rfl := Except.ok.inj h
  simp only [buildCandidates, bind_eq_ok_iff] at hcandidates
  obtain ⟨⟨collected, visibleSet⟩, hfold, hbuilt⟩ := hcandidates
  obtain rfl := Except.ok.inj hbuilt
  obtain ⟨hperm, hnodup, hof⟩ := candidatesProgress_of_foldlM hfold
  have hmem : ∀ c, c ∈ collected.insertionSort globalRankLe ↔ c ∈ collected := fun c =>
    List.mem_insertionSort _
  simp only [checkInputs, bind_eq_ok_iff] at hchecks
  obtain ⟨-, -, -, -, -, -, gsPools, hgsPools, -⟩ := hchecks
  refine
    { candidateOf := fun c hc => hof c ((hmem c).mp hc)
      station_mem := ?_
      candidate_unique := ?_
      visible_iff := ?_
      byPair := ?_
      gsPools := rfl
      gsPool_nodup := fun _ _ hpool => stationPool_nodup hgsPools hpool
      satPool_eq := satellitePool_normalized hpools }
  · intro c hc
    obtain ⟨sats, hsats, -⟩ := (hof c ((hmem c).mp hc)).visible
    exact hknown c.gsId (Dict.mem_of_get? hsats)
  · intro c hc d hd hpair
    exact List.inj_on_of_nodup_map (hperm.nodup_iff.mp hnodup) ((hmem c).mp hc) ((hmem d).mp hd)
      hpair
  · intro pair
    simp only [hmem]
    rw [hperm.mem_iff, List.mem_map]
  · intro pair c hc
    rw [hmem]
    exact get?_ofList_map_eq_some hc

section

variable {ctx : AllocationContext} {c d : Candidate} {g t : NodeId}

theorem ContextFacts.idsOf_eq (hctx : ContextFacts ctx) (hc : c ∈ ctx.candidates)
    (h : ctx.idsOf c.pair = .ok (g, t)) : g = c.gsId ∧ t = c.satId := by
  rw [AllocationContext.idsOf, (hctx.candidateOf c hc).pair_eq] at h
  exact groundAndSatelliteIds_normalizedPair (hctx.station_mem c hc) h

theorem ContextFacts.pair_eq_of_ends (hctx : ContextFacts ctx) (hc : c ∈ ctx.candidates)
    (hd : d ∈ ctx.candidates) (hgs : c.gsId = d.gsId) (hsat : c.satId = d.satId) :
    c.pair = d.pair := by
  rw [(hctx.candidateOf c hc).pair_eq, (hctx.candidateOf d hd).pair_eq, hgs, hsat]

theorem ContextFacts.candidate_of_visible (hctx : ContextFacts ctx) {pair : Pair}
    (h : pair ∈ ctx.visibleSet) : ∃ c ∈ ctx.candidates, c.pair = pair :=
  (hctx.visible_iff pair).mp h

end

end NodalArc.GroundCandidates
