import RtpCapture.Recorder.RecordedClock

/-! # Jumps of the clock

The clock passes over a gap of more than a second. Every other discontinuity goes into the tag
timestamp: a packet that is late, one that lands before the base, a count of ticks that leaves the
range of an `int`, and a base that happens to be the value that means 'not set'.

* **`Clock.InReach`** — where a packet may land for its tag timestamp to stay within a second of the
  last one.
* **`Clock.tick_inReach`** — one packet: in reach, the tag timestamp stays within a second; and with
  at least two ticks per millisecond only then.
* **`record_within_second`** — the same of every recording.
* **`record_clock_thrown`** — a packet that lands a second before the base. -/

namespace RtpCapture

/-! ## Division by the ticks per millisecond -/

/-- **Two tag timestamps within a second**, as the unsigned numbers that are written. -/
def WithinSecond (stamp stamp' : Word) : Prop :=
  stamp'.toNat ≤ stamp.toNat + 1000 ∧ stamp.toNat ≤ stamp'.toNat + 1000

/-- Counts above `-frequency` have a nonnegative number of milliseconds. -/
theorem tdiv_of_gt {count frequency : ℤ} (hcount : -frequency < count) :
    count.tdiv frequency = max count 0 / frequency := by
  rcases le_or_gt 0 count with hnonneg | hneg
  · rw [max_eq_left hnonneg, Int.tdiv_eq_ediv_of_nonneg hnonneg]
  · have hzero : (-count).tdiv frequency = 0 := Int.tdiv_eq_zero_of_lt (by omega) (by omega)
    rw [Int.neg_tdiv, neg_eq_zero] at hzero
    rw [max_eq_right hneg.le, Int.zero_ediv, hzero]

/-- A word as an unsigned and as a signed number. -/
theorem toNat_eq_toInt (x : Word) :
    (x.toNat : ℤ) = if 0 ≤ x.toInt then x.toInt else x.toInt + 2 ^ 32 := by
  have hlt := x.isLt
  have hcond := BitVec.toInt_eq_toNat_cond x
  split at hcond
  · rw [if_pos (by omega), hcond]
  · rw [if_neg (by omega), hcond]
    omega

section

variable {frequency x : Word}

/-- The `int` division truncates, for a positive divisor. -/
theorem toInt_sdiv (hpos : 0 < frequency.toInt) :
    (x.sdiv frequency).toInt = x.toInt.tdiv frequency.toInt := by
  have hne : frequency ≠ -1#32 := by
    rintro rfl
    simp at hpos
  exact BitVec.toInt_sdiv_of_ne_or_ne _ _ (.inr hne)

/-- A count above `-frequency` is written as its milliseconds. -/
theorem toNat_sdiv_of_gt (hpos : 0 < frequency.toInt) (hx : -frequency.toInt < x.toInt) :
    ((x.sdiv frequency).toNat : ℤ) = x.toInt.tdiv frequency.toInt := by
  have hnonneg : 0 ≤ x.toInt.tdiv frequency.toInt := by
    rw [tdiv_of_gt hx]
    exact Int.ediv_nonneg (le_max_right _ _) hpos.le
  rw [toNat_eq_toInt, toInt_sdiv hpos, if_pos hnonneg]

/-- Any other count is written as a number close to `2 ^ 32`. -/
theorem toNat_sdiv_of_le (htwo : 2 ≤ frequency.toInt) (hx : x.toInt ≤ -frequency.toInt) :
    2 ^ 32 - 2 ^ 30 ≤ (x.sdiv frequency).toNat := by
  have hpos : 0 < frequency.toInt := by omega
  have hmin := BitVec.le_toInt x
  have hquotient : x.toInt.tdiv frequency.toInt = -(-x.toInt / frequency.toInt) := by
    rw [← Int.tdiv_eq_ediv_of_nonneg (by omega), Int.neg_tdiv, neg_neg]
  have hone : 1 ≤ -x.toInt / frequency.toInt := (Int.le_ediv_iff_mul_le hpos).mpr (by omega)
  have hmax : -x.toInt / frequency.toInt ≤ 2 ^ 30 :=
    Int.ediv_le_of_le_mul hpos (by omega)
  have hnat := toNat_eq_toInt (x.sdiv frequency)
  rw [toInt_sdiv hpos, hquotient, if_neg (by omega)] at hnat
  omega

/-- A count above `-frequency` is written as a number of at most `2 ^ 30`. -/
theorem toNat_sdiv_le (htwo : 2 ≤ frequency.toInt) (hx : -frequency.toInt < x.toInt) :
    (x.sdiv frequency).toNat ≤ 2 ^ 30 := by
  have hpos : 0 < frequency.toInt := by omega
  have hlt := BitVec.toInt_lt (x := x)
  have hmax : max x.toInt 0 / frequency.toInt ≤ 2 ^ 30 :=
    Int.ediv_le_of_le_mul hpos (by omega)
  have hnat := toNat_sdiv_of_gt hpos hx
  rw [tdiv_of_gt hx] at hnat
  omega

end

/-! ## Where a packet may land -/

/-- **Landing within a second**: from a count of elapsed ticks to another one, less than a millisecond
before the base at the worst, and no more than 1000 whole milliseconds from the current one. -/
structure LandsWithinSecond (frequency count count' : ℤ) : Prop where
  base : -frequency < count'
  back : (count.tdiv frequency - 1000) * frequency ≤ max count' 0
  ahead : count' < (count.tdiv frequency + 1001) * frequency

/-- Then the two numbers of milliseconds are within a second, and only then. -/
theorem landsWithinSecond_iff {frequency count count' : ℤ} (hpos : 0 < frequency)
    (hcount : -frequency < count) (hcount' : -frequency < count') :
    LandsWithinSecond frequency count count' ↔
      count'.tdiv frequency ≤ count.tdiv frequency + 1000 ∧
        count.tdiv frequency ≤ count'.tdiv frequency + 1000 := by
  have hms : 0 ≤ count.tdiv frequency := by
    rw [tdiv_of_gt hcount]
    exact Int.ediv_nonneg (le_max_right _ _) hpos.le
  have hback : (count.tdiv frequency - 1000) * frequency ≤ max count' 0 ↔
      count.tdiv frequency - 1000 ≤ count'.tdiv frequency := by
    rw [tdiv_of_gt hcount', Int.le_ediv_iff_mul_le hpos]
  have hahead : count' < (count.tdiv frequency + 1001) * frequency ↔
      count'.tdiv frequency < count.tdiv frequency + 1001 := by
    have hpositive : 0 < (count.tdiv frequency + 1001) * frequency := by positivity
    rw [tdiv_of_gt hcount', Int.ediv_lt_iff_lt_mul hpos]
    omega
  constructor
  · rintro ⟨-, h, h'⟩
    rw [hback] at h
    rw [hahead] at h'
    omega
  · rintro ⟨h, h'⟩
    exact ⟨hcount', hback.mpr (by omega), hahead.mpr (by omega)⟩

/-- The signed count of ticks from the base to the last packet. -/
def Clock.count (c : Clock) : ℤ := (c.lastTime - c.baseTime).toInt

/-- The tag timestamp of the last packet. -/
def Clock.stamp (frequency : Word) (c : Clock) : Word :=
  (c.lastTime - c.baseTime).sdiv frequency

/-- **In reach of the clock**: where no base is set, the tag timestamps start again from zero, so the
count must not have gone further than a second; otherwise the packet is a gap, or lands within a
second. -/
def Clock.InReach (frequency : Word) (c : Clock) (time : Word) : Prop :=
  if c.baseTime = 0 then c.count < 1001 * frequency.toInt
  else overOneSecond (time - c.lastTime) frequency = true ∨
    LandsWithinSecond frequency.toInt c.count (time - c.baseTime).toInt

section

variable {frequency : Word} {c c' : Clock} {time stamp : Word}

/-- Two clocks with counts above `-frequency`. -/
theorem withinSecond_iff (hpos : 0 < frequency.toInt) (hc : -frequency.toInt < c.count)
    (hc' : -frequency.toInt < c'.count) :
    WithinSecond (c.stamp frequency) (c'.stamp frequency) ↔
      LandsWithinSecond frequency.toInt c.count c'.count := by
  have hms := toNat_sdiv_of_gt hpos hc
  have hms' := toNat_sdiv_of_gt hpos hc'
  rw [landsWithinSecond_iff hpos hc hc', Clock.count, Clock.count, ← hms, ← hms']
  unfold WithinSecond Clock.stamp
  omega

/-- With at least two ticks per millisecond there is no way from before the base to behind it. -/
theorem WithinSecond.count_gt (htwo : 2 ≤ frequency.toInt) (hc : -frequency.toInt < c.count)
    (h : WithinSecond (c.stamp frequency) (c'.stamp frequency)) : -frequency.toInt < c'.count := by
  by_contra hbefore
  have hlarge := toNat_sdiv_of_le htwo (not_lt.mp hbefore)
  have hsmall := toNat_sdiv_le htwo hc
  have hahead := h.1
  unfold Clock.stamp at hahead
  omega

/-- The clock after a packet. -/
theorem Clock.tick_cases (hpos : 0 < frequency.toInt)
    (htick : c.tick frequency time = some (c', stamp)) :
    stamp = c'.stamp frequency ∧
      (c.baseTime = 0 ∧ c' = ⟨time, time⟩ ∨
        c.baseTime ≠ 0 ∧ overOneSecond (time - c.lastTime) frequency = true ∧
          c'.count = c.count ∧ c'.stamp frequency = c.stamp frequency ∨
        c.baseTime ≠ 0 ∧ ¬ overOneSecond (time - c.lastTime) frequency = true ∧
          c' = ⟨time, c.baseTime⟩) := by
  rw [Clock.tick_of_pos hpos] at htick
  obtain ⟨rfl, rfl⟩ := Prod.mk.inj (Option.some.inj htick)
  refine ⟨rfl, ?_⟩
  by_cases hbase : c.baseTime = 0
  · refine .inl ⟨hbase, ?_⟩
    rw [setBase, if_pos hbase, skipGap, sub_self, overOneSecond_zero]
    rfl
  · rw [setBase, if_neg hbase, skipGap]
    by_cases hgap : overOneSecond (time - c.lastTime) frequency = true
    · -- the base moves with the packet
      have hsame : time - (c.baseTime + (time - c.lastTime)) = c.lastTime - c.baseTime := by bv_omega
      refine .inr (.inl ⟨hbase, hgap, ?_⟩)
      rw [if_pos hgap]
      exact ⟨congrArg BitVec.toInt hsame, congrArg (BitVec.sdiv · frequency) hsame⟩
    · refine .inr (.inr ⟨hbase, hgap, ?_⟩)
      rw [if_neg hgap]

/-- **One packet**: in reach, its tag timestamp is within a second of the last one, and the count
stays above `-frequency`; with at least two ticks per millisecond only then. -/
theorem Clock.tick_inReach (hpos : 0 < frequency.toInt) (hc : -frequency.toInt < c.count)
    (htick : c.tick frequency time = some (c', stamp)) :
    (c.InReach frequency time →
        -frequency.toInt < c'.count ∧ WithinSecond (c.stamp frequency) stamp) ∧
      (2 ≤ frequency.toInt → WithinSecond (c.stamp frequency) stamp →
        c.InReach frequency time) := by
  obtain ⟨rfl, ⟨hbase, rfl⟩ | ⟨hbase, hgap, hcount, hstamp⟩ | ⟨hbase, hgap, rfl⟩⟩ :=
    Clock.tick_cases hpos htick
  · -- the count starts again from zero
    have hzero : (⟨time, time⟩ : Clock).count = 0 := by simp [count]
    have hreset : -frequency.toInt < (⟨time, time⟩ : Clock).count := by omega
    have hms : 0 ≤ c.count.tdiv frequency.toInt := by
      rw [tdiv_of_gt hc]
      exact Int.ediv_nonneg (le_max_right _ _) hpos.le
    have hreach : WithinSecond (c.stamp frequency) ((⟨time, time⟩ : Clock).stamp frequency) ↔
        c.count < 1001 * frequency.toInt := by
      have hlt : c.count.tdiv frequency.toInt < 1001 ↔ c.count < 1001 * frequency.toInt := by
        rw [tdiv_of_gt hc, Int.ediv_lt_iff_lt_mul hpos]
        omega
      rw [withinSecond_iff hpos hc hreset, landsWithinSecond_iff hpos hc hreset, hzero,
        Int.zero_tdiv]
      omega
    rw [InReach, if_pos hbase, hreach]
    exact ⟨fun h => ⟨hreset, h⟩, fun _ h => h⟩
  · -- a gap repeats the timestamp
    rw [InReach, if_neg hbase, hstamp, hcount]
    exact ⟨fun _ => ⟨hc, by unfold WithinSecond; omega⟩, fun _ _ => .inl hgap⟩
  · rw [InReach, if_neg hbase]
    -- otherwise the count is the distance from the base
    constructor
    · rintro (h | h)
      · exact absurd h hgap
      · have hlands : -frequency.toInt < (⟨time, c.baseTime⟩ : Clock).count := h.base
        exact ⟨hlands, (withinSecond_iff hpos hc hlands).mpr h⟩
    · intro htwo h
      exact .inr ((withinSecond_iff hpos hc (h.count_gt htwo hc)).mp h)

/-! ## Runs -/

/-- **Every packet is in reach** of the clock that the packets before it leave. -/
def AllInReach (frequency : Word) (c : Clock) (times : List Word) : Prop :=
  ∀ before time c', before ++ [time] <+: times → c.after frequency before = some c' →
    c'.InReach frequency time

/-- No timestamp is out of reach. -/
theorem allInReach_nil : AllInReach frequency c [] := by
  intro before time c' hpre
  simp at hpre

/-- The first timestamp is in reach, and the others are from the clock it leaves. -/
theorem allInReach_cons (htick : c.tick frequency time = some (c', stamp)) {times : List Word} :
    AllInReach frequency c (time :: times) ↔
      c.InReach frequency time ∧ AllInReach frequency c' times := by
  constructor
  · intro h
    refine ⟨h [] time c (List.prefix_append [time] times) rfl, fun before time' c₁ hpre hc₁ => ?_⟩
    refine h (time :: before) time' c₁ (List.cons_prefix_cons.mpr ⟨rfl, hpre⟩) ?_
    rw [Clock.after, htick]
    exact hc₁
  · rintro ⟨hfirst, hrest⟩ before time' c₁ hpre hc₁
    cases before with
    | nil =>
        obtain ⟨rfl, -⟩ := List.cons_prefix_cons.mp hpre
        obtain rfl := Option.some.inj hc₁
        exact hfirst
    | cons first before =>
        obtain ⟨rfl, hpre'⟩ := List.cons_prefix_cons.mp hpre
        rw [Clock.after, htick] at hc₁
        exact hrest before time' c₁ hpre' hc₁

/-- **A run of the clock**: neighbouring tag timestamps are within a second when every packet is in
reach, and with at least two ticks per millisecond only then. -/
theorem Clock.isChain_stamps (hpos : 0 < frequency.toInt) (hc : -frequency.toInt < c.count)
    (times : List Word) :
    (AllInReach frequency c times →
        (c.stamp frequency :: c.stamps frequency times).IsChain WithinSecond) ∧
      (2 ≤ frequency.toInt →
        (c.stamp frequency :: c.stamps frequency times).IsChain WithinSecond →
        AllInReach frequency c times) := by
  -- the count stays above `-frequency` as long as the packets are in reach
  induction times generalizing c with
  | nil => exact ⟨fun _ => List.isChain_singleton _, fun _ _ => allInReach_nil⟩
  | cons time times ih =>
      obtain ⟨c', stamp, htick⟩ : ∃ c' stamp, c.tick frequency time = some (c', stamp) :=
        ⟨_, _, Clock.tick_of_pos hpos c time⟩
      obtain ⟨hwithin, hreach⟩ := Clock.tick_inReach hpos hc htick
      have hstamps : c.stamps frequency (time :: times) =
          c'.stamp frequency :: c'.stamps frequency times := by
        rw [stamps, htick, ← (Clock.tick_cases hpos htick).1]
      rw [(Clock.tick_cases hpos htick).1] at hwithin hreach
      rw [hstamps, List.isChain_cons_cons, allInReach_cons htick]
      constructor
      · rintro ⟨hfirst, hrest⟩
        obtain ⟨hc', hnear⟩ := hwithin hfirst
        exact ⟨hnear, (ih hc').1 hrest⟩
      · rintro htwo ⟨hnear, hchain⟩
        have hfirst := hreach htwo hnear
        exact ⟨hfirst, (ih (hwithin hfirst).1).2 htwo hchain⟩

end

/-- **The recorded clock and discontinuities.** In every recording from a fresh recorder with at least
one tick per millisecond: when every packet is in reach of the clock of its handler, the tag
timestamps computed for neighbouring packets are within a second of each other; and with at least two
ticks per millisecond only then. -/
theorem record_within_second (fileName : String) (videoFrequency : Word) (u : Uninitialised)
    (as : List Arrival) (type : TagType) {frequency : Word} {times : List Word}
    (hfrequency : (RTPDump.construct fileName videoFrequency u).ticks type = frequency)
    (htimes : entryTimes type
      ((RTPDump.construct fileName videoFrequency u).record as).trace = times)
    (hpos : 1 ≤ frequency.toInt) :
    (AllInReach frequency .start times →
        (tagStamps type ((RTPDump.construct fileName videoFrequency u).record as).trace).IsChain
          WithinSecond) ∧
      (2 ≤ frequency.toInt →
        (tagStamps type ((RTPDump.construct fileName videoFrequency u).record as).trace).IsChain
          WithinSecond →
        AllInReach frequency .start times) := by
  have hzero : -frequency.toInt < Clock.start.count := by
    show -frequency.toInt < (0 - 0 : Word).toInt
    simp
    omega
  rw [(record_keepsTime type (.construct fileName videoFrequency u) as).stamps, construct_clock,
    hfrequency, htimes]
  -- the first tag timestamp is zero, as that of a clock that has not started
  have hfirst : (Clock.start.stamp frequency :: Clock.start.stamps frequency times).IsChain
      WithinSecond ↔ (Clock.start.stamps frequency times).IsChain WithinSecond := by
    cases times with
    | nil => simp [Clock.stamps]
    | cons time times =>
        have hsame : Clock.start.stamp frequency = millis frequency 0 :=
          congrArg (BitVec.sdiv · frequency) (sub_self 0)
        have hnear : WithinSecond (millis frequency 0) (millis frequency 0) :=
          ⟨Nat.le_add_right _ _, Nat.le_add_right _ _⟩
        rw [Clock.stamps, Clock.tick_start hpos, List.isChain_cons_cons, hsame]
        exact and_iff_right hnear
  rw [← hfirst]
  exact Clock.isChain_stamps hpos hzero times

/-- Two packets, one second apart. -/
theorem record_within_second_two_packets :
    (tagStamps .video ((RTPDump.construct "camera.flv" 90000 .zero).record
      ([1, 90001].map sampleArrival)).trace).IsChain WithinSecond := by
  have hfirst : Clock.start.InReach 90 1 := by
    rw [Clock.InReach, if_pos (show Clock.start.baseTime = 0 from rfl)]
    decide
  have hsecond : (Clock.at 1 0).InReach 90 90001 := by
    rw [Clock.InReach, if_neg (by decide)]
    exact .inr ⟨by decide, by decide, by decide⟩
  have hreach : AllInReach 90 .start [1, 90001] := by
    rw [allInReach_cons (Clock.tick_start (by decide) 1)]
    refine ⟨hfirst, ?_⟩
    rw [allInReach_cons (Clock.tick_of_pos (by decide) (Clock.at 1 0) 90001)]
    exact ⟨hsecond, allInReach_nil⟩
  exact (record_within_second "camera.flv" 90000 .zero ([1, 90001].map sampleArrival) .video
    ticks_ninety (entryTimes_samplePackets _) (by decide)).1 hreach

/-- **The clock is thrown** by a packet that lands a second before the base. -/
theorem record_clock_thrown :
    ¬ (tagStamps .video ((RTPDump.construct "camera.flv" 90000 .zero).record
      ([90001, 1].map sampleArrival)).trace).IsChain WithinSecond := by
  have hkeeps := (record_keepsTime .video (.construct "camera.flv" 90000 .zero)
    ([90001, 1].map sampleArrival)).stamps
  have hstamp : millis 90 0 = (Clock.at 90001 0).stamp 90 := by decide
  rw [ticks_ninety, entryTimes_samplePackets, construct_clock, Clock.stamps, Clock.tick_start (by decide),
    hstamp] at hkeeps
  rw [hkeeps]
  intro hchain
  have hreach := (@Clock.isChain_stamps 90 (Clock.at 90001 0) (by decide) (by decide) [1]).2
    (by decide) hchain
  have hlands := hreach [] 1 _ (List.prefix_refl _) rfl
  rw [Clock.InReach, if_neg (by decide)] at hlands
  rcases hlands with hgap | hlands
  · rw [overOneSecond_iff (by decide) (by decide)] at hgap
    exact absurd hgap (by decide)
  · exact absurd hlands.base (by decide)

end RtpCapture
