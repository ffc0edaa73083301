import RtpCapture.Recorder.RecordedClock

/-! # The clock in closed form

The base of a clock moves with every gap and is read by every later packet. What it comes to is one
number, the sum of the differences that were no gaps.

* **`ticksElapsed`** — the sum, modulo `2 ^ 32`, of the signed differences of neighbouring timestamps
  that are at most 1000 milliseconds.
* **`Clock.after_concat`** — as long as no base is the 'not set' value, the clock after a packet is its
  timestamp and that timestamp less the sum, and the tag timestamp is the sum in milliseconds.
* **`record_clock`** — the same of every recording. -/

namespace RtpCapture

/-! ## Differences that are no gaps -/

/-- The differences of neighbouring timestamps. -/
def differences : List Word → List Word
  | [] => []
  | [_] => []
  | time :: time' :: times => (time' - time) :: differences (time' :: times)

/-- **The ticks that have elapsed**: the differences of at most a second, added up. -/
def ticksElapsed (frequency : Word) (times : List Word) : Word :=
  ((differences times).filter fun d => d.toInt ≤ 1000 * frequency.toInt).sum

/-- **A base is set** at each of these packets: its value is not the one that means 'not set'. -/
def HasBase (frequency : Word) (times : List Word) : Prop :=
  ∀ before time, before ++ [time] <+: times →
    time - ticksElapsed frequency (before ++ [time]) ≠ 0

/-- **The float test is exact** on these differences; up to 16384 ticks per millisecond it always is
(`overOneSecond_iff`). -/
def ExactGaps (frequency : Word) (times : List Word) : Prop :=
  16384 < frequency.toInt → ∀ d ∈ differences times,
    overOneSecond d frequency = true ↔ 1000 * frequency.toInt < d.toInt

section

variable {frequency : Word}

/-- One more packet, one more difference. -/
theorem differences_concat (times : List Word) (time time' : Word) :
    differences (times ++ [time, time']) = differences (times ++ [time]) ++ [time' - time] := by
  induction times with
  | nil => rfl
  | cons first times ih =>
      -- what follows the first timestamp starts with the same one in both lists
      cases times with
      | nil => rfl
      | cons second times =>
          simp only [List.cons_append, differences]
          exact congrArg (List.cons (second - first)) ih

/-- A difference of at most a second is counted, a gap is not. -/
theorem ticksElapsed_concat (times : List Word) (time time' : Word) :
    ticksElapsed frequency (times ++ [time, time']) =
      ticksElapsed frequency (times ++ [time]) +
        if (time' - time).toInt ≤ 1000 * frequency.toInt then time' - time else 0 := by
  unfold ticksElapsed
  rw [differences_concat, List.filter_append, List.sum_append]
  congr 1
  generalize time' - time = d
  by_cases hcounted : d.toInt ≤ 1000 * frequency.toInt
  · simp [hcounted]
  · simp [hcounted]

/-- At the first packet nothing has elapsed. -/
@[simp] theorem ticksElapsed_singleton (time : Word) : ticksElapsed frequency [time] = 0 := rfl

/-- The base is set in a part of the timestamps if it is in all of them. -/
theorem HasBase.of_isPrefix {times times' : List Word} (h : HasBase frequency times')
    (hpre : times <+: times') : HasBase frequency times :=
  fun before time hbefore => h before time (hbefore.trans hpre)

/-- Without packets no base is asked for. -/
@[simp] theorem hasBase_nil : HasBase frequency [] := by
  intro before time hpre
  simp at hpre

/-- One more packet with a base. -/
theorem hasBase_concat {times : List Word} {time : Word} (h : HasBase frequency times)
    (hbase : time - ticksElapsed frequency (times ++ [time]) ≠ 0) :
    HasBase frequency (times ++ [time]) := by
  intro before time' hpre
  rcases List.prefix_concat_iff.mp hpre with hlast | hearlier
  · obtain ⟨rfl, hsame⟩ := List.append_inj' hlast rfl
    obtain rfl := List.singleton_inj.mp hsame
    exact hbase
  · exact h before time' hearlier

/-- The differences of the first timestamps come first. -/
theorem differences_isPrefix {times times' : List Word} (h : times <+: times') :
    differences times <+: differences times' := by
  obtain ⟨rest, rfl⟩ := h
  induction times with
  | nil => exact List.nil_prefix
  | cons first times ih =>
      cases times with
      | nil => exact List.nil_prefix
      | cons second times => exact List.cons_prefix_cons.mpr ⟨rfl, ih⟩

/-- The gaps of the first timestamps are exact if all are. -/
theorem ExactGaps.of_isPrefix {times times' : List Word} (h : ExactGaps frequency times')
    (hpre : times <+: times') : ExactGaps frequency times :=
  fun hlarge d hd => h hlarge d ((differences_isPrefix hpre).subset hd)

/-- The test on the last difference. -/
theorem ExactGaps.last (hpos : 0 < frequency.toInt) {times : List Word} {time time' : Word}
    (h : ExactGaps frequency (times ++ [time, time'])) :
    overOneSecond (time' - time) frequency = true ↔ 1000 * frequency.toInt < (time' - time).toInt := by
  by_cases hlarge : 16384 < frequency.toInt
  · apply h hlarge
    rw [differences_concat]
    simp
  · exact overOneSecond_iff hpos (by omega)

/-! ## The clock -/

/-- **The next packet**: with the base set, the clock counts a difference of at most a second and
passes over a gap. -/
theorem Clock.tick_set (hpos : 0 < frequency.toInt) {time time' elapsed : Word}
    (hbase : time - elapsed ≠ 0)
    (hexact : overOneSecond (time' - time) frequency = true ↔
      1000 * frequency.toInt < (time' - time).toInt) {elapsed' : Word}
    (helapsed : elapsed' = elapsed +
      if (time' - time).toInt ≤ 1000 * frequency.toInt then time' - time else 0) :
    (⟨time, time - elapsed⟩ : Clock).tick frequency time' =
      some (⟨time', time' - elapsed'⟩, elapsed'.sdiv frequency) := by
  have hset : (⟨time, time - elapsed⟩ : Clock).setBase time' = ⟨time, time - elapsed⟩ := by
    rw [Clock.setBase, if_neg hbase]
  have hmoved : ((⟨time, time - elapsed⟩ : Clock).skipGap frequency time').baseTime =
      time' - elapsed' := by
    rw [Clock.skipGap]
    by_cases hgap : 1000 * frequency.toInt < (time' - time).toInt
    · -- a gap: the base moves by the difference
      rw [if_pos (hexact.mpr hgap), helapsed, if_neg (by omega)]
      show time - elapsed + (time' - time) = _
      bv_omega
    · rw [if_neg (fun h => hgap (hexact.mp h)), helapsed, if_pos (by omega)]
      show time - elapsed = _
      bv_omega
  have hcancel : time' - (time' - elapsed') = elapsed' := by bv_omega
  rw [Clock.tick_of_pos hpos, hset, hmoved, hcancel]

/-- **The closed form**, packet by packet. -/
theorem Clock.after_concat (hpos : 0 < frequency.toInt) (times : List Word) (time : Word)
    (hbase : HasBase frequency times) (hexact : ExactGaps frequency (times ++ [time])) :
    Clock.start.after frequency (times ++ [time]) =
        some ⟨time, time - ticksElapsed frequency (times ++ [time])⟩ ∧
      Clock.start.stamps frequency (times ++ [time]) =
        Clock.start.stamps frequency times ++
          [(ticksElapsed frequency (times ++ [time])).sdiv frequency] := by
  -- induction from the end: the clock before the packet is that of the one before it
  induction times using List.reverseRecOn generalizing time with
  | nil =>
      have hfirst := Clock.tick_start hpos time
      rw [List.nil_append, ticksElapsed_singleton]
      constructor
      · rw [Clock.after, hfirst]
        rfl
      · simp only [Clock.stamps, hfirst]
        rfl
  | append_singleton times last ih =>
      rw [List.append_assoc] at hexact ⊢
      have hshorter : times ++ [last] <+: times ++ ([last] ++ [time]) := by
        rw [← List.append_assoc]
        exact List.prefix_append _ _
      obtain ⟨hclock, -⟩ := ih last (hbase.of_isPrefix (List.prefix_append _ _))
        (hexact.of_isPrefix hshorter)
      -- the base was set, so the packet counts on
      have htick := Clock.tick_set hpos (hbase times last (List.prefix_refl _))
        (hexact.last hpos) (ticksElapsed_concat times last time)
      constructor
      · rw [← List.append_assoc, Clock.after_append hclock, Clock.after, htick]
        rw [List.append_assoc]
        rfl
      · rw [← List.append_assoc, Clock.stamps_append hclock, Clock.stamps, htick]
        rw [List.append_assoc]
        rfl

/-- The tag timestamps of all packets. -/
theorem Clock.stamps_eq (hpos : 0 < frequency.toInt) {times : List Word}
    (hbase : HasBase frequency times.dropLast) (hexact : ExactGaps frequency times) :
    Clock.start.stamps frequency times = (List.range times.length).map fun n =>
      (ticksElapsed frequency (times.take (n + 1))).sdiv frequency := by
  induction times using List.reverseRecOn with
  | nil => rfl
  | append_singleton times time ih =>
      rw [List.dropLast_concat] at hbase
      obtain ⟨-, hstamps⟩ := Clock.after_concat hpos times time hbase hexact
      have hshorter : times.dropLast <+: times := List.dropLast_prefix times
      rw [hstamps, ih (hbase.of_isPrefix hshorter)
        (hexact.of_isPrefix (List.prefix_append _ _)), List.length_append, List.length_singleton,
        List.range_succ, List.map_append, List.map_singleton]
      -- a count looks at no packet after its own
      congr 1
      · apply List.map_congr_left
        intro n hn
        rw [List.take_append_of_le_length (by have := List.mem_range.mp hn; omega)]
      · rw [List.take_of_length_le (by simp)]

end

/-! ## Recordings -/

/-- A gap leaves the count of elapsed ticks where it was. -/
theorem ticksElapsed_gap {frequency : Word} {times : List Word} {n : ℕ}
    (hn : n + 1 < times.length)
    (hgap : 1000 * frequency.toInt < (times[n + 1] - times[n]).toInt) :
    ticksElapsed frequency (times.take (n + 2)) = ticksElapsed frequency (times.take (n + 1)) := by
  have hlast : times.take (n + 1) = times.take n ++ [times[n]] :=
    List.take_succ_eq_append_getElem (by omega)
  have hnext : times.take (n + 2) = times.take n ++ [times[n], times[n + 1]] := by
    rw [List.take_succ_eq_append_getElem hn, hlast, List.append_assoc]
    rfl
  rw [hnext, ticksElapsed_concat, if_neg (by omega), hlast]
  exact BitVec.add_zero _

/-- **The recorded clock in closed form.** In every recording from a fresh recorder with at least one
tick per millisecond: as long as every packet but the last leaves a base set, the handler of a tag
type computes for its `n`-th packet the ticks elapsed up to it in milliseconds, a gap leaves that
number where it was, and the timestamp of the last packet, and that less the ticks elapsed, are left
in the two fields. -/
theorem record_clock (fileName : String) (videoFrequency : Word) (u : Uninitialised)
    (as : List Arrival) (type : TagType) {frequency : Word} {times : List Word}
    (hfrequency : (RTPDump.construct fileName videoFrequency u).ticks type = frequency)
    (htimes : entryTimes type
      ((RTPDump.construct fileName videoFrequency u).record as).trace = times)
    (hpos : 1 ≤ frequency.toInt) (hbase : HasBase frequency times.dropLast)
    (hexact : ExactGaps frequency times) :
    (tagStamps type ((RTPDump.construct fileName videoFrequency u).record as).trace =
        (List.range times.length).map fun n =>
          (ticksElapsed frequency (times.take (n + 1))).sdiv frequency) ∧
      (∀ n (hn : n + 1 < times.length),
        1000 * frequency.toInt < (times[n + 1] - times[n]).toInt →
        (tagStamps type ((RTPDump.construct fileName videoFrequency u).record as).trace)[n + 1]? =
          (tagStamps type ((RTPDump.construct fileName videoFrequency u).record as).trace)[n]?) ∧
      ∀ d before time,
        ((RTPDump.construct fileName videoFrequency u).record as).outcome = .ok d →
        times = before ++ [time] →
        d.clock type = ⟨time, time - ticksElapsed frequency times⟩ := by
  -- the tags are those of a clock on the timestamps of the handler's calls
  have hkeeps := record_keepsTime type (.construct fileName videoFrequency u) as
  have hstamps := hkeeps.stamps
  rw [construct_clock, hfrequency, htimes, Clock.stamps_eq hpos hbase hexact] at hstamps
  refine ⟨hstamps, ?_, ?_⟩
  · intro n hn hgap
    rw [hstamps, List.getElem?_map, List.getElem?_map, List.getElem?_range hn,
      List.getElem?_range (by omega)]
    exact congrArg (fun elapsed => some (elapsed.sdiv frequency)) (ticksElapsed_gap hn hgap)
  · intro d before time hd hlast
    have hafter := (hkeeps.clock d hd).1
    rw [construct_clock, hfrequency, htimes] at hafter
    rw [hlast, List.dropLast_concat] at hbase
    rw [hlast] at hexact hafter ⊢
    rw [(Clock.after_concat hpos before time hbase hexact).1] at hafter
    exact (Option.some.inj hafter).symm

/-- Three packets: one second, then a gap of a little more. -/
theorem record_clock_three_packets :
    tagStamps .video ((RTPDump.construct "camera.flv" 90000 .zero).record
        ([1, 90001, 180002].map sampleArrival)).trace = [0, 1000, 1000] ∧
      ∃ d, ((RTPDump.construct "camera.flv" 90000 .zero).record
          ([1, 90001, 180002].map sampleArrival)).outcome = .ok d ∧
        d.clock .video = ⟨180002, 90002⟩ := by
  have hfirst : HasBase 90 [1] := hasBase_concat hasBase_nil (by decide)
  have hbase : HasBase 90 [1, 90001] := hasBase_concat hfirst (by decide)
  have hclock := record_clock "camera.flv" 90000 .zero ([1, 90001, 180002].map sampleArrival) .video
    ticks_ninety (entryTimes_samplePackets _) (by decide) hbase (fun hlarge => absurd hlarge (by decide))
  obtain ⟨d, hd⟩ := samplePackets_returns [1, 90001, 180002]
  refine ⟨hclock.1.trans (by decide), d, hd, ?_⟩
  exact (hclock.2.2 d [1, 90001] 180002 hd rfl).trans (by decide)

end RtpCapture
