import RtpCapture.Recorder.RecordedClock
import RtpCapture.Recorder.StopReasons

/-! # Tag timestamps and real time

A session is added with any clock rate, and the recorder divides by the whole number of ticks in a
millisecond. What the division loses adds up over a recording, a step of one second can be longer
than 1000 of these milliseconds, and a rate below 1000 Hz leaves nothing to divide by.

* **`RealSource`** — timestamps that advance by at most a second from packet to packet.
* **`KeepsRealTime`** — every tag timestamp is less than a millisecond off, and no division traps.
* **`TimedExactly`** — when this is so, said of the rate and the timestamps.
* **`record_realTime_iff`** — of every recording.
* **`timedExactly_of_dvd`** — a whole number of kilohertz is exact. -/

namespace RtpCapture

open Traced

/-! ## Real time -/

/-- The ticks a source has counted at packets behind one with timestamp `time` and count
`elapsed`. -/
def sentFrom : Word → ℕ → List Word → List ℕ
  | _, _, [] => []
  | time, elapsed, time' :: times =>
      (elapsed + (time' - time).toNat) :: sentFrom time' (elapsed + (time' - time).toNat) times

/-- **The ticks a source has counted** since its first packet. -/
def sentTicks : List Word → List ℕ
  | [] => []
  | time :: times => 0 :: sentFrom time 0 times

/-- **A source with `rate` ticks per second** that starts at a timestamp other than zero, advances by
at most a second from packet to packet and by less than `2 ^ 31` ticks in total. -/
structure RealSource (rate : ℕ) (times : List Word) : Prop where
  start : ∃ time rest, times = time :: rest ∧ time ≠ 0
  steps : times.IsChain fun time time' => (time' - time).toNat ≤ rate
  total : ∀ elapsed ∈ sentTicks times, elapsed < 2 ^ 31

/-- **A real millisecond**: the tag timestamp is less than one off. -/
def RealMillis (rate elapsed : ℕ) (stamp : Word) : Prop :=
  |(stamp.toNat : ℚ) - 1000 * elapsed / rate| < 1

/-- **A recording in real time**: no division traps, and each packet of `videoHandler` gets a
timestamp that is less than a millisecond off. -/
structure KeepsRealTime (rate : ℕ) (x : Recording RTPDump) : Prop where
  noTrap : x.outcome ≠ .error .divisionTrap
  stamps : List.Forall₂ (RealMillis rate) (sentTicks (entryTimes .video x.trace))
    (tagStamps .video x.trace)

/-- What the division by whole ticks loses has not added up to a millisecond: of `elapsed` ticks,
`elapsed / (rate / 1000)` milliseconds are counted, each too short by `rate % 1000` parts of
`rate`. -/
def NoDrift (rate elapsed : ℕ) : Prop :=
  elapsed / (rate / 1000) * (rate % 1000) < rate + 1000 * (elapsed % (rate / 1000))

/-- **When time is kept**: there is a tick in a millisecond, no step is taken for a gap, and the loss
has not added up to a millisecond at any packet. -/
structure TimedExactly (videoFrequency : Word) (times : List Word) : Prop where
  rate : 1000 ≤ videoFrequency.toNat
  gaps : times.IsChain fun time time' =>
    overOneSecond (time' - time) (videoFrequency.sdiv 1000) = false
  drift : ∀ elapsed ∈ sentTicks times, NoDrift videoFrequency.toNat elapsed

/-! ## Whole ticks per millisecond -/

/-- The divisor, as a signed and as an unsigned number. -/
theorem sdiv_thousand {videoFrequency : Word} (h : 1 ≤ videoFrequency.toInt) :
    (videoFrequency.sdiv 1000).toInt = videoFrequency.toNat / 1000 ∧
      (videoFrequency.sdiv 1000).toNat = videoFrequency.toNat / 1000 := by
  have hthousand : (1000 : Word).toInt = 1000 := by decide
  have hquotient := toInt_sdiv_of_pos (x := videoFrequency) (y := 1000) (by omega) (by decide)
  rw [hthousand] at hquotient
  have hnat := toInt_eq_toNat (x := videoFrequency) (by omega)
  have hnat' := toInt_eq_toNat (x := videoFrequency.sdiv 1000) (by omega)
  exact ⟨by omega, by omega⟩

/-- A step as a signed number. -/
theorem toInt_le_toNat (x : Word) : x.toInt ≤ x.toNat := by
  rw [BitVec.toInt_eq_toNat_cond]
  split <;> omega

/-- **A timestamp in whole milliseconds of `rate / 1000` ticks** is less than a millisecond off
exactly when there is no drift. -/
theorem realMillis_iff {rate elapsed : ℕ} {stamp : Word} (hrate : 1000 ≤ rate)
    (hstamp : stamp.toNat = elapsed / (rate / 1000)) :
    RealMillis rate elapsed stamp ↔ NoDrift rate elapsed := by
  unfold RealMillis NoDrift
  rw [hstamp]
  have hticks : 0 < rate / 1000 := Nat.div_pos hrate (by decide)
  have hlt := Nat.mod_lt elapsed hticks
  have hsplit := Nat.div_add_mod rate 1000
  have hsplit' := Nat.div_add_mod elapsed (rate / 1000)
  generalize elapsed / (rate / 1000) = m at hsplit' ⊢
  generalize elapsed % (rate / 1000) = rest at hsplit' hlt ⊢
  generalize rate % 1000 = lost at hsplit ⊢
  generalize rate / 1000 = ticks at hsplit hsplit' hticks hlt
  have hpos : (0 : ℚ) < rate := by exact_mod_cast (by omega : 0 < rate)
  -- how far the whole milliseconds are ahead
  have hahead : (m : ℚ) - 1000 * elapsed / rate = (m * lost - 1000 * rest) / rate := by
    rw [← hsplit', ← hsplit] at *
    field_simp
    push_cast
    ring
  have hrest : (1000 * rest : ℚ) < rate := by exact_mod_cast (by omega : 1000 * rest < rate)
  have hnonneg : (0 : ℚ) ≤ m * lost := by positivity
  rw [hahead, abs_div, abs_of_pos hpos, div_lt_one hpos, abs_lt]
  constructor
  · rintro ⟨-, h⟩
    exact_mod_cast (by linarith : (m * lost : ℚ) < rate + 1000 * rest)
  · intro h
    have hcast : (m * lost : ℚ) < rate + 1000 * rest := by exact_mod_cast h
    exact ⟨by linarith, by linarith⟩

/-- One timestamp is not right at two packets that are two milliseconds apart. -/
theorem not_realMillis_add {rate elapsed d : ℕ} {stamp : Word} (hrate : 0 < rate)
    (hd : 2 * rate ≤ 1000 * d) (h : RealMillis rate elapsed stamp) :
    ¬ RealMillis rate (elapsed + d) stamp := by
  intro h'
  have hpos : (0 : ℚ) < rate := by exact_mod_cast hrate
  have hfar : (2 : ℚ) ≤ 1000 * d / rate := by
    rw [le_div_iff₀ hpos]
    exact_mod_cast hd
  have hsum : (1000 * ((elapsed + d : ℕ) : ℚ) / rate) = 1000 * elapsed / rate + 1000 * d / rate := by
    push_cast
    ring
  rw [RealMillis, abs_lt] at h h'
  rw [hsum] at h'
  linarith [h.2, h'.1]

/-- **A step that is taken for a gap is long**: the float quotient of at most 512 milliseconds is at
most 512. -/
theorem lt_of_overOneSecond {d frequency : Word} (hpos : 0 < frequency.toInt)
    (hmax : frequency.toInt ≤ 2147483) (h : overOneSecond d frequency = true) :
    512 * frequency.toInt < d.toInt := by
  by_contra hshort
  have hne : frequency ≠ 0 := by
    rintro rfl
    simp at hpos
  have hfloat : Binary32.round (frequency.toInt : ℚ) = frequency.toInt :=
    Binary32.round_intCast (by rw [abs_of_pos hpos]; omega)
  have hposQ : (0 : ℚ) < frequency.toInt := by exact_mod_cast hpos
  rw [overOneSecond, if_neg hne, decide_eq_true_eq, hfloat] at h
  have hquotient : Binary32.round d.toInt / frequency.toInt ≤ (512 : ℚ) := by
    rw [div_le_iff₀ hposQ]
    rcases le_or_gt d.toInt 0 with hneg | hdiff
    · exact (Binary32.round_nonpos (by exact_mod_cast hneg)).trans (by positivity)
    · have hexact := Binary32.round_of_significand (m := frequency.toInt) 9
        (by rw [abs_of_pos hpos]; omega)
      have hmono := Binary32.round_mono (p := d.toInt) (q := frequency.toInt * 2 ^ (9 : ℤ))
        (by exact_mod_cast hdiff.le) (by norm_num; exact_mod_cast (by omega))
      rw [hexact] at hmono
      norm_num at hmono ⊢
      linarith
  have hsmall : Binary32.round (512 : ℚ) = 512 := by
    exact_mod_cast Binary32.round_intCast (m := 512) (by norm_num)
  rcases le_or_gt (Binary32.round (d.toInt : ℚ) / frequency.toInt) 0 with hneg | hquot
  · linarith [Binary32.round_nonpos hneg]
  · have hmono := Binary32.round_mono hquot.le hquotient
    rw [hsmall] at hmono
    linarith

/-! ## The clock -/

section Clock

variable {videoFrequency frequency : Word} {rate : ℕ}

/-- **Behind a packet whose timestamp is right**, the timestamps are right exactly as long as no step
is taken for a gap and nothing drifts. -/
theorem forall₂_realMillis_iff (hrate : 1000 ≤ rate) (hfrequency : frequency.toNat = rate / 1000)
    (hpos : 0 < frequency.toInt) (hmax : frequency.toInt ≤ 2147483) {time : Word} {elapsed : ℕ}
    {times : List Word} (hbase : time ≠ BitVec.ofNat 32 elapsed)
    (hnow : RealMillis rate elapsed (millis frequency elapsed))
    (htotal : ∀ e ∈ sentFrom time elapsed times, e < 2 ^ 31) :
    List.Forall₂ (RealMillis rate) (sentFrom time elapsed times)
        ((elapsedFrom frequency time elapsed times).map (millis frequency)) ↔
      ((time :: times).IsChain fun time time' =>
          overOneSecond (time' - time) frequency = false) ∧
        ∀ e ∈ sentFrom time elapsed times, NoDrift rate e := by
  -- induction on the packets; the count of the clock is that of the source until a gap
  induction times generalizing time elapsed with
  | nil => simp [sentFrom, elapsedFrom]
  | cons time' times ih =>
      have hstep : BitVec.ofNat 32 (time' - time).toNat = time' - time := by
        rw [BitVec.ofNat_toNat, BitVec.setWidth_eq]
      have hnat := toInt_eq_toNat hpos.le
      rw [sentFrom, List.forall_mem_cons] at htotal
      rw [sentFrom, elapsedFrom, List.map_cons, List.forall₂_cons, List.isChain_cons_cons,
        List.forall_mem_cons]
      by_cases hgap : overOneSecond (time' - time) frequency = true
      · -- the timestamp stands still while the source goes on
        have hstill : nextElapsed frequency time elapsed (time' - time).toNat = elapsed := by
          rw [nextElapsed, if_neg hbase, hstep, if_pos hgap]
        have hlong := lt_of_overOneSecond hpos hmax hgap
        have hsigned := toInt_le_toNat (time' - time)
        have hwrong := not_realMillis_add (d := (time' - time).toNat) (by omega) (by omega) hnow
        rw [hstill]
        constructor
        · rintro ⟨h, -⟩
          exact absurd h hwrong
        · rintro ⟨⟨h, -⟩, -⟩
          rw [hgap] at h
          cases h
      · have hcounted : nextElapsed frequency time elapsed (time' - time).toNat =
            elapsed + (time' - time).toNat := by
          rw [nextElapsed, if_neg hbase, hstep, if_neg hgap]
        have hbase' : time' ≠ BitVec.ofNat 32 (elapsed + (time' - time).toNat) := by
          intro hzero
          rw [BitVec.ofNat_add, hstep] at hzero
          exact hbase (by bv_omega)
        have hmillis : RealMillis rate (elapsed + (time' - time).toNat)
            (millis frequency (elapsed + (time' - time).toNat)) ↔
              NoDrift rate (elapsed + (time' - time).toNat) := by
          refine realMillis_iff hrate ?_
          rw [millis_low (by omega) htotal.1, hfrequency]
        rw [hcounted, hmillis]
        constructor
        · rintro ⟨hfirst, hrest⟩
          obtain ⟨hchain, hdrift⟩ := (ih hbase' (hmillis.mpr hfirst) htotal.2).mp hrest
          exact ⟨⟨Bool.eq_false_iff.mpr hgap, hchain⟩, hfirst, hdrift⟩
        · rintro ⟨⟨-, hchain⟩, hfirst, hdrift⟩
          exact ⟨hfirst, (ih hbase' (hmillis.mpr hfirst) htotal.2).mpr ⟨hchain, hdrift⟩⟩

/-- **A clock from its start.** -/
theorem stamps_realMillis_iff (hf : 1 ≤ videoFrequency.toInt) {times : List Word}
    (hsource : RealSource videoFrequency.toNat times) :
    List.Forall₂ (RealMillis videoFrequency.toNat) (sentTicks times)
        (Clock.start.stamps (videoFrequency.sdiv 1000) times) ↔
      TimedExactly videoFrequency times := by
  obtain ⟨time, rest, rfl, hzero⟩ := hsource.start
  obtain ⟨hsigned, hticks⟩ := sdiv_thousand hf
  by_cases hrate : 1000 ≤ videoFrequency.toNat
  swap
  · -- less than a tick per millisecond: the first division traps
    have hnone : videoFrequency.sdiv 1000 = 0 := by
      apply BitVec.eq_of_toNat_eq
      rw [hticks]
      show videoFrequency.toNat / 1000 = 0
      omega
    have htrap : Clock.start.stamps 0 (time :: rest) = [] := by
      rw [Clock.stamps, Clock.tick, intDiv, if_pos (.inl rfl)]
      rfl
    rw [hnone, htrap, sentTicks]
    exact iff_of_false (fun h => by cases h) fun h => hrate h.rate
  · have hlt := BitVec.toInt_lt (x := videoFrequency)
    have hnat := toInt_eq_toNat (x := videoFrequency) (by omega)
    have hpos : 0 < (videoFrequency.sdiv 1000).toInt := by omega
    have hmax : (videoFrequency.sdiv 1000).toInt ≤ 2147483 := by omega
    -- the first timestamp is 0 in both readings
    have hfirst : RealMillis videoFrequency.toNat 0 (millis (videoFrequency.sdiv 1000) 0) := by
      have hstamp : (millis (videoFrequency.sdiv 1000) 0).toNat = 0 := by simp [millis]
      rw [RealMillis, hstamp]
      norm_num
    have hbase : time ≠ BitVec.ofNat 32 0 := hzero
    have hrest := forall₂_realMillis_iff hrate hticks hpos hmax hbase hfirst
      (List.forall_mem_cons.mp hsource.total).2
    rw [Clock.stamps_start hpos, elapsedCounts, sentTicks, List.map_cons, List.forall₂_cons,
      hrest]
    have hdrift : NoDrift videoFrequency.toNat 0 := by
      simp [NoDrift]
      omega
    constructor
    · rintro ⟨-, hgaps, hdrifts⟩
      exact ⟨hrate, hgaps, List.forall_mem_cons.mpr ⟨hdrift, hdrifts⟩⟩
    · rintro ⟨-, hgaps, hdrifts⟩
      exact ⟨hfirst, hgaps, (List.forall_mem_cons.mp hdrifts).2⟩

/-- **A whole number of kilohertz is exact**, up to 16384 of them. -/
theorem timedExactly_of_dvd (hf : 1 ≤ videoFrequency.toInt) (hdvd : 1000 ∣ videoFrequency.toNat)
    (hmax : videoFrequency.toNat ≤ 16384000) {times : List Word}
    (hsource : RealSource videoFrequency.toNat times) : TimedExactly videoFrequency times := by
  obtain ⟨hsigned, hticks⟩ := sdiv_thousand hf
  have hnat := toInt_eq_toNat (x := videoFrequency) (by omega)
  have hrate : 1000 ≤ videoFrequency.toNat := Nat.le_of_dvd (by omega) hdvd
  have hwhole := Nat.div_mul_cancel hdvd
  refine ⟨hrate, hsource.steps.imp fun time time' hstep => ?_, fun elapsed _ => ?_⟩
  · have hstep' := toInt_le_toNat (time' - time)
    rw [← Bool.not_eq_true, overOneSecond_iff (by omega) (by omega)]
    omega
  · rw [NoDrift, Nat.mod_eq_zero_of_dvd hdvd, Nat.mul_zero]
    omega

end Clock

/-! ## Recordings -/

/-- **Tag timestamps and real time.** A session with any positive clock rate, whose video packets come
from a source with that rate: its tag timestamps are real milliseconds and no division traps exactly
when there is a tick in a millisecond, no step is taken for a gap, and the loss of the division has
not added up to a millisecond. -/
theorem record_realTime_iff (fileName : String) {videoFrequency : Word} (u : Uninitialised)
    (hf : 1 ≤ videoFrequency.toInt) (as : List Arrival) {times : List Word}
    (htimes : entryTimes .video
      ((RTPDump.construct fileName videoFrequency u).record as).trace = times)
    (hsource : RealSource videoFrequency.toNat times) :
    KeepsRealTime videoFrequency.toNat
        ((RTPDump.construct fileName videoFrequency u).record as) ↔
      TimedExactly videoFrequency times := by
  have hstamps := (record_keepsTime .video (.construct fileName videoFrequency u) as).stamps
  have hticks : (RTPDump.construct fileName videoFrequency u).ticks .video =
      videoFrequency.sdiv 1000 := rfl
  rw [construct_clock, hticks, htimes] at hstamps
  rw [← stamps_realMillis_iff hf hsource, ← hstamps]
  constructor
  · intro h
    rw [← htimes]
    exact h.stamps
  · intro h
    refine ⟨fun htrap => ?_, by rwa [htimes]⟩
    rw [hstamps, stamps_realMillis_iff hf hsource] at h
    have hrate := h.rate
    have hquotient := (sdiv_thousand hf).1
    have hpos : 0 < (RTPDump.construct fileName videoFrequency u).videoFrequency.toInt := by
      show 0 < (videoFrequency.sdiv 1000).toInt
      omega
    exact (record_stopReason (.inr hpos) as).stops _ htrap

/-- Two packets, one second apart. -/
theorem record_realTime_ninety : KeepsRealTime 90000
    ((RTPDump.construct "camera.flv" 90000 .zero).record ([1, 90001].map sampleArrival)) := by
  have hsource : RealSource (90000 : Word).toNat [1, 90001] :=
    ⟨⟨1, [90001], rfl, by decide⟩, List.isChain_pair.mpr (by decide), by decide⟩
  exact (record_realTime_iff "camera.flv" .zero (by decide) _ (entryTimes_samplePackets _)
    hsource).mpr (timedExactly_of_dvd (by decide) (by decide) (by decide) hsource)

/-- **Rates that do not keep time.** At 90 Hz, which is 90 kHz in the wrong unit, the first packet
stops the recorder with a division by zero. At 1500 Hz a millisecond has one and a half ticks: after
three ticks the tag timestamp is 3 where two milliseconds have passed. -/
theorem record_realTime_fails :
    (RealSource 90 (entryTimes .video
        ((RTPDump.construct "camera.flv" 90 .zero).record ([1].map sampleArrival)).trace) ∧
      ((RTPDump.construct "camera.flv" 90 .zero).record ([1].map sampleArrival)).outcome =
        .error .divisionTrap) ∧
    RealSource 1500 (entryTimes .video
        ((RTPDump.construct "camera.flv" 1500 .zero).record ([1, 4].map sampleArrival)).trace) ∧
      ¬ KeepsRealTime 1500
        ((RTPDump.construct "camera.flv" 1500 .zero).record ([1, 4].map sampleArrival)) := by
  have htrap : entryTimes .video ((RTPDump.construct "camera.flv" 90 .zero).record
      ([1].map sampleArrival)).trace = [1] := by decide +kernel
  have hsource : RealSource (1500 : Word).toNat [1, 4] :=
    ⟨⟨1, [4], rfl, by decide⟩, List.isChain_pair.mpr (by decide), by decide⟩
  have htimes := @entryTimes_samplePackets_at 1500 (by decide) [1, 4]
  refine ⟨⟨?_, ?_⟩, ?_, fun hkeeps => ?_⟩
  · rw [htrap]
    exact ⟨⟨1, [], rfl, by decide⟩, List.isChain_singleton _, by decide⟩
  · rfl
  · rw [htimes]
    exact hsource
  · have hstamps := (record_keepsTime .video (.construct "camera.flv" 1500 .zero)
      ([1, 4].map sampleArrival)).stamps
    have h := hkeeps.stamps
    rw [hstamps, htimes] at h
    have hexact := (stamps_realMillis_iff (by decide) hsource).mp h
    have hdrift : ¬ NoDrift (1500 : Word).toNat 3 := by
      unfold NoDrift
      decide
    exact hdrift (hexact.drift 3 (by decide))

end RtpCapture
