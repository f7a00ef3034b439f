import Mathlib

/-! The packet limit of a link's delay queue against the burst of the rate shaper that fills it. -/

namespace NodalArc.QueueSizing

inductive SizingError where
  | shapingRate (rateMbps : ℚ)
  | mtu (mtuBytes : ℤ)
  | delay (delayMs : ℚ)
  | transmitRate (transmitMbps : ℚ)
  deriving DecidableEq, Repr

def inFlightPacketBytes : ℚ := 1500

def bufferPackets : ℤ := 1000

def shaperBurstSecondsDivisor : ℤ := 250

def mbpsToBytesPerSecond (rateMbps : ℚ) : Except SizingError ℤ :=
  if 0 < rateMbps then .ok ⌊rateMbps * 1000000 / 8 + 1 / 2⌋ else .error (.shapingRate rateMbps)

def shaperBurstBytes (rateMbps : ℚ) (mtuBytes : ℤ) : Except SizingError ℤ :=
  if mtuBytes ≤ 0 then .error (.mtu mtuBytes)
  else do
    let rate ← mbpsToBytesPerSecond rateMbps
    return max mtuBytes (rate / shaperBurstSecondsDivisor)

def bytesInFlight (transmitMbps delayMs : ℚ) : Except SizingError ℚ :=
  if delayMs < 0 then .error (.delay delayMs)
  else if 0 < transmitMbps then .ok (transmitMbps * 1000000 / 8 * delayMs / 1000)
  else .error (.transmitRate transmitMbps)

def queueLimitPackets (transmitMbps delayMs : ℚ) : Except SizingError ℤ := do
  let inFlight ← bytesInFlight transmitMbps delayMs
  return ⌈inFlight / inFlightPacketBytes⌉ + bufferPackets

def During {ι : Type} (release : ι → ℚ) (start length : ℚ) (frames : Finset ι) : Prop :=
  ∀ i ∈ frames, start ≤ release i ∧ release i ≤ start + length

/-- Over any interval the full frames released come to at most the rate times the interval and the
burst. -/
def Conforms {ι : Type} (rateMbps : ℚ) (burst mtuBytes : ℤ) (release : ι → ℚ) : Prop :=
  ∀ start length frames, 0 ≤ length → During release start length frames →
    (frames.card * mtuBytes : ℚ) ≤ rateMbps * 1000000 / 8 * length + burst

/-- No conforming stream of full frames has more of them in flight than the delay queue holds. -/
def HoldsEveryStream (rateMbps delayMs : ℚ) (mtuBytes : ℤ) : Prop :=
  ∃ burst limit, shaperBurstBytes rateMbps mtuBytes = .ok burst ∧
    queueLimitPackets rateMbps delayMs = .ok limit ∧
    ∀ (ι : Type) (release : ι → ℚ), Conforms rateMbps burst mtuBytes release →
      ∀ start frames, During release start (delayMs / 1000) frames → (frames.card : ℤ) ≤ limit

variable {rateMbps delayMs : ℚ} {mtuBytes burst limit : ℤ}

theorem shaperBurstBytes_eq (hrate : 0 < rateMbps) (hmtu : 0 < mtuBytes) :
    shaperBurstBytes rateMbps mtuBytes =
      .ok (max mtuBytes (⌊rateMbps * 1000000 / 8 + 1 / 2⌋ / 250)) := by
  rw [shaperBurstBytes, mbpsToBytesPerSecond, if_neg (not_le.mpr hmtu), if_pos hrate]
  rfl

theorem queueLimitPackets_eq (hrate : 0 < rateMbps) (hdelay : 0 ≤ delayMs) :
    queueLimitPackets rateMbps delayMs =
      .ok (⌈rateMbps * 1000000 / 8 * (delayMs / 1000) / 1500⌉ + 1000) := by
  rw [queueLimitPackets, bytesInFlight, if_neg (not_lt.mpr hdelay), if_pos hrate, mul_div_assoc]
  rfl

/-- A stream that sends each frame as soon as the shaper lets it through. -/
def greedy (bytesPerSecond : ℚ) (burst mtuBytes : ℤ) (i : ℕ) : ℚ :=
  max 0 (((i + 1) * mtuBytes - burst) / bytesPerSecond)

theorem conforms_greedy (hrate : 0 < rateMbps) (hmtu : 0 ≤ mtuBytes) (hburst : mtuBytes ≤ burst)
    (n : ℕ) : Conforms rateMbps burst mtuBytes fun i : Fin n =>
      greedy (rateMbps * 1000000 / 8) burst mtuBytes i := by
  intro start length frames hlength hduring
  set rate := rateMbps * 1000000 / 8
  have hrate' : 0 < rate := by positivity
  have hmtu' : (0 : ℚ) ≤ mtuBytes := by exact_mod_cast hmtu
  have hburst' : (mtuBytes : ℚ) ≤ burst := by exact_mod_cast hburst
  rcases frames.eq_empty_or_nonempty with rfl | hframes
  · have hflight : 0 ≤ rate * length := by positivity
    simp only [Finset.card_empty, Nat.cast_zero, zero_mul]
    linarith
  -- the frames lie between the first and the last of them
  set first := frames.min' hframes
  set last := frames.max' hframes
  have hcard : (frames.card : ℚ) ≤ last + 1 - first := by
    have hsub : frames ⊆ Finset.Icc first last := fun i hi =>
      Finset.mem_Icc.mpr ⟨frames.min'_le i hi, frames.le_max' i hi⟩
    have hle : first ≤ last := frames.min'_le _ (frames.max'_mem hframes)
    have hcount := Finset.card_le_card hsub
    rw [Fin.card_Icc] at hcount
    rw [le_sub_iff_add_le]
    have : frames.card + first ≤ last + 1 := by omega
    exact_mod_cast this
  have hbegin := (hduring first (frames.min'_mem hframes)).1
  have hend : ((last + 1) * mtuBytes - burst) / rate ≤ start + length :=
    (le_max_right _ _).trans (hduring last (frames.max'_mem hframes)).2
  rw [div_le_iff₀ hrate'] at hend
  have hbytes : (frames.card * mtuBytes : ℚ) ≤ (last + 1 - first) * mtuBytes := by gcongr
  rcases le_max_iff.mp hbegin with hzero | hwaits
  · have hfirst : 0 ≤ (first : ℚ) * mtuBytes := by positivity
    have hstart : start * rate ≤ 0 := mul_nonpos_of_nonpos_of_nonneg hzero hrate'.le
    linarith
  · rw [le_div_iff₀ hrate'] at hwaits
    linarith

theorem during_greedy {rate length : ℚ} {n : ℕ} (hrate : 0 < rate) (hmtu : 0 ≤ mtuBytes)
    (hlength : 0 ≤ length) (hfits : n * mtuBytes ≤ rate * length + burst) :
    During (fun i : Fin n => greedy rate burst mtuBytes i) 0 length Finset.univ := by
  refine fun i _ => ⟨le_max_left _ _, ?_⟩
  have hi : (i + 1 : ℚ) ≤ n := by exact_mod_cast i.isLt
  have hmtu' : (0 : ℚ) ≤ mtuBytes := by exact_mod_cast hmtu
  have hbytes : (i + 1 : ℚ) * mtuBytes ≤ n * mtuBytes := by gcongr
  rw [zero_add]
  refine max_le hlength ((div_le_iff₀ hrate).mpr ?_)
  linarith

/-- One queue holds every conforming stream exactly when the shaper never lets one frame more than
its limit through within the delay. -/
theorem holdsEveryStream_iff (hrate : 0 < rateMbps) (hdelay : 0 ≤ delayMs) (hmtu : 0 < mtuBytes)
    (hburst : shaperBurstBytes rateMbps mtuBytes = .ok burst)
    (hlimit : queueLimitPackets rateMbps delayMs = .ok limit) :
    HoldsEveryStream rateMbps delayMs mtuBytes ↔
      rateMbps * 1000000 / 8 * (delayMs / 1000) + burst < (limit + 1) * mtuBytes := by
  set rate := rateMbps * 1000000 / 8
  have hrate' : 0 < rate := by positivity
  have hmtu' : (0 : ℚ) < mtuBytes := by exact_mod_cast hmtu
  have hlength : 0 ≤ delayMs / 1000 := by positivity
  constructor
  · rintro ⟨burst', limit', hburst', hlimit', h⟩
    cases hburst.symm.trans hburst'
    cases hlimit.symm.trans hlimit'
    by_contra hmore
    have hle : mtuBytes ≤ burst := by
      cases (shaperBurstBytes_eq hrate hmtu).symm.trans hburst
      exact le_max_left _ _
    have hpos : 0 ≤ limit := by
      cases (queueLimitPackets_eq hrate hdelay).symm.trans hlimit
      positivity
    obtain ⟨n, rfl⟩ := Int.eq_ofNat_of_zero_le hpos
    have hcard := h _ _ (conforms_greedy hrate hmtu.le hle (n + 1)) 0 Finset.univ
      (during_greedy hrate' hmtu.le hlength (by push_cast; exact not_lt.mp hmore))
    rw [Finset.card_univ, Fintype.card_fin] at hcard
    omega
  · intro hfits
    refine ⟨burst, limit, hburst, hlimit, fun ι release hconforms start frames hduring => ?_⟩
    have hbytes := hconforms start _ frames hlength hduring
    have hcount : (frames.card : ℚ) < limit + 1 :=
      lt_of_mul_lt_mul_right (hbytes.trans_lt hfits) hmtu'.le
    exact Int.lt_add_one_iff.mp (by exact_mod_cast hcount)

theorem holdsEveryStream_of_burst_lt (hrate : 0 < rateMbps) (hdelay : 0 ≤ delayMs)
    (hmtu : 1500 ≤ mtuBytes) (hburst : shaperBurstBytes rateMbps mtuBytes = .ok burst)
    (hfits : burst < 1001 * mtuBytes) : HoldsEveryStream rateMbps delayMs mtuBytes := by
  rw [holdsEveryStream_iff hrate hdelay (by omega) hburst (queueLimitPackets_eq hrate hdelay)]
  set inFlight := rateMbps * 1000000 / 8 * (delayMs / 1000)
  have hmtu' : (1500 : ℚ) ≤ mtuBytes := by exact_mod_cast hmtu
  have hfits' : (burst : ℚ) < 1001 * mtuBytes := by exact_mod_cast hfits
  -- the limit counts what is in flight at 1500 bytes a packet, and no frame is smaller
  have hflight : inFlight ≤ ⌈inFlight / 1500⌉ * mtuBytes := by
    calc inFlight = inFlight / 1500 * 1500 := by ring
      _ ≤ ⌈inFlight / 1500⌉ * mtuBytes := by
        gcongr
        exact Int.le_ceil _
  push_cast
  linarith

/-- A terminal's delay queues hold every conforming stream of full frames, at every delay, exactly
when its shaper's burst is less than 1001 of them, as it is at every rate below 3002.999996 Mbit/s;
and the queue of one delay holds them exactly when what the shaper lets through within the delay is
less than one frame more than its limit. -/
theorem delay_queue_holds_iff (hrate : 0 < rateMbps) (hmtu : 1500 ≤ mtuBytes) :
    (∃ burst, shaperBurstBytes rateMbps mtuBytes = .ok burst ∧
      ((∀ delayMs, 0 ≤ delayMs → HoldsEveryStream rateMbps delayMs mtuBytes) ↔
        burst < 1001 * mtuBytes) ∧
      ∀ delayMs, 0 ≤ delayMs → ∃ limit, queueLimitPackets rateMbps delayMs = .ok limit ∧
        (HoldsEveryStream rateMbps delayMs mtuBytes ↔
          rateMbps * 1000000 / 8 * (delayMs / 1000) + burst < (limit + 1) * mtuBytes)) ∧
    (rateMbps < 3002.999996 →
      ∀ delayMs, 0 ≤ delayMs → HoldsEveryStream rateMbps delayMs mtuBytes) := by
  have hmtu' : 0 < mtuBytes := by omega
  have hburst := shaperBurstBytes_eq hrate hmtu'
  refine ⟨⟨_, hburst, ⟨fun h => ?_, fun hfits _ hdelay => ?_⟩, fun _ hdelay =>
    ⟨_, queueLimitPackets_eq hrate hdelay, ?_⟩⟩, fun hslow _ hdelay => ?_⟩
  · have hfits := (holdsEveryStream_iff hrate le_rfl hmtu' hburst
      (queueLimitPackets_eq hrate le_rfl)).mp (h 0 le_rfl)
    norm_num at hfits
    exact max_lt_iff.mpr (by exact_mod_cast hfits)
  · exact holdsEveryStream_of_burst_lt hrate hdelay hmtu hburst hfits
  · exact holdsEveryStream_iff hrate hdelay hmtu' hburst (queueLimitPackets_eq hrate hdelay)
  · refine holdsEveryStream_of_burst_lt hrate hdelay hmtu hburst (max_lt (by omega) ?_)
    have hfloor : ⌊rateMbps * 1000000 / 8 + 1 / 2⌋ < 375375000 := by
      rw [Int.floor_lt]
      push_cast
      linarith
    omega

theorem delay_queue_holds_at_100_mbps : shaperBurstBytes 100 1500 = .ok 50000 ∧
    ∀ delayMs, 0 ≤ delayMs → HoldsEveryStream 100 delayMs 1500 :=
  ⟨by decide +kernel, (delay_queue_holds_iff (by norm_num) le_rfl).2 (by norm_num)⟩

/-- The burst of a 10 Gbit/s terminal is 3333 standard frames. -/
theorem fast_burst_overflows_queue : shaperBurstBytes 10000 1500 = .ok 5000000 ∧
    queueLimitPackets 10000 0 = .ok 1000 ∧ ¬ HoldsEveryStream 10000 0 1500 := by
  have hburst : shaperBurstBytes 10000 1500 = .ok 5000000 := by decide +kernel
  have hlimit : queueLimitPackets 10000 0 = .ok 1000 := by decide +kernel
  refine ⟨hburst, hlimit, ?_⟩
  rw [holdsEveryStream_iff (by norm_num) le_rfl (by norm_num) hburst hlimit]
  norm_num

end NodalArc.QueueSizing
