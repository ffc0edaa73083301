import Mathlib.Data.BitVec
import Mathlib.Tactic.NormNum
import RtpCapture.Foundations.Binary32

/-! # The tag clock

`videoHandler` and `audioHandler` turn the 32-bit RTP timestamp of a packet into the millisecond
timestamp of a tag with the same few lines; only the number of ticks per millisecond differs
(`m_videoFrequency` against the constant `8`). The clock keeps the timestamp of the last packet and
a base; a difference of more than one second to the last packet moves the base by that difference,
and the tag timestamp is the signed difference to the base divided by the ticks per millisecond.

* **`Clock.tick`** — those lines, with `int` as a 32-bit two's complement word.
* **`overOneSecond`** — the test `time_diff > 1000` on the `float` quotient.
* **`nextElapsed`** — the same step on the sender's side: how many ticks have been counted since the
  base was set. `Clock.tick_at` says that the clock after a packet is determined by the packet's
  timestamp and that count, and that the tag timestamp is a function of the count alone. -/

namespace RtpCapture

/-- The C types `int` and `u_int32_t`. -/
abbrev Word := BitVec 32

/-- The two time fields one handler keeps. -/
structure Clock where
  /-- `audioLastTime` / `videoLastTime`. -/
  lastTime : Word
  /-- `base_audio_time` / `base_video_time`; zero means that no base has been set. -/
  baseTime : Word
  deriving DecidableEq, Repr

/-- The constructor's `(0)` initialisers. -/
def Clock.start : Clock := ⟨0, 0⟩

/-- `(float)diff / frequency > 1000`: both operands are converted to `float` and the quotient is
rounded to `float`. A zero frequency gives an infinity of the sign of `diff`, or a NaN. -/
def overOneSecond (diff frequency : Word) : Bool :=
  if frequency = 0 then decide (0 < diff.toInt)
  else decide (1000 < Binary32.round (Binary32.round diff.toInt / Binary32.round frequency.toInt))

/-- Signed division of two `int`s; a zero divisor and `INT_MIN / -1` trap. -/
def intDiv (x y : Word) : Option Word :=
  if y = 0 ∨ (x = BitVec.intMin 32 ∧ y = -1) then none else some (x.sdiv y)

/-- `if (base == 0) { base = time; last = time; }` -/
def Clock.setBase (c : Clock) (time : Word) : Clock :=
  if c.baseTime = 0 then ⟨time, time⟩ else c

/-- `if (time_diff > 1000) base = base + (time - last);` -/
def Clock.skipGap (c : Clock) (frequency time : Word) : Clock :=
  if overOneSecond (time - c.lastTime) frequency then
    { c with baseTime := c.baseTime + (time - c.lastTime) }
  else c

/-- **One packet on the clock**: the new time fields and the timestamp of its tag, or nothing when
the division traps. -/
def Clock.tick (frequency : Word) (c : Clock) (time : Word) : Option (Clock × Word) :=
  let c := (c.setBase time).skipGap frequency time
  (intDiv (time - c.baseTime) frequency).map fun timestamp =>
    ({ c with lastTime := time }, timestamp)

/-! ## The gap test on ordinary clock rates -/

/-- A packet with the timestamp of its predecessor is never a gap. -/
@[simp] theorem overOneSecond_zero (frequency : Word) : overOneSecond 0 frequency = false := by
  simp [overOneSecond]

/-- A quotient of at most `1000` rounds to at most `1000`. -/
theorem round_quot_le {diff frequency : Word} (hpos : 0 < frequency.toInt)
    (hle : frequency.toInt ≤ 16384) (hgap : diff.toInt ≤ 1000 * frequency.toInt) :
    Binary32.round (Binary32.round diff.toInt / frequency.toInt) ≤ 1000 := by
  have hposQ : (0 : ℚ) < frequency.toInt := by exact_mod_cast hpos
  have hthousand : Binary32.round 1000 = 1000 := by
    exact_mod_cast Binary32.round_intCast (m := 1000) (by norm_num)
  rcases le_or_gt diff.toInt 0 with hneg | hdiff
  · have hround : Binary32.round (diff.toInt : ℚ) ≤ 0 :=
      Binary32.round_nonpos (by exact_mod_cast hneg)
    have hquot := Binary32.round_nonpos (div_nonpos_of_nonpos_of_nonneg hround hposQ.le)
    linarith
  · have hround : Binary32.round (diff.toInt : ℚ) = diff.toInt :=
      Binary32.round_intCast (by rw [abs_of_pos hdiff]; omega)
    have hquot : (diff.toInt : ℚ) / frequency.toInt ≤ 1000 := by
      rw [div_le_iff₀ hposQ]
      exact_mod_cast hgap
    have hmono := Binary32.round_mono
      (div_nonneg (by exact_mod_cast hdiff.le) hposQ.le) hquot
    rw [hround]
    rwa [hthousand] at hmono

/-- A greater one rounds to at least the float that follows `1000`. -/
theorem lt_round_quot {diff frequency : Word} (hpos : 0 < frequency.toInt)
    (hle : frequency.toInt ≤ 16384) (hgap : 1000 * frequency.toInt < diff.toInt) :
    1000 < Binary32.round (Binary32.round diff.toInt / frequency.toInt) := by
  have hposQ : (0 : ℚ) < frequency.toInt := by exact_mod_cast hpos
  have hnext : Binary32.round (1000 + 1 / 16384) = 1000 + 1 / 16384 := by
    have h := Binary32.round_of_significand (m := 16384001) (-14) (by norm_num)
    norm_num at h ⊢
    exact h
  have hfloat : (1000 + 1 / 16384 : ℚ) * frequency.toInt ≤ Binary32.round diff.toInt := by
    have hleQ : (frequency.toInt : ℚ) ≤ 16384 := by exact_mod_cast hle
    rcases lt_or_ge diff.toInt (2 ^ 24) with hsmall | hlarge
    · rw [Binary32.round_intCast (by rw [abs_of_pos (by omega)]; omega)]
      have hstep : (1000 * frequency.toInt + 1 : ℚ) ≤ diff.toInt := by exact_mod_cast hgap
      linarith
    · have hmono := Binary32.round_mono (p := 2 ^ 24) (by norm_num)
        (show (2 ^ 24 : ℚ) ≤ diff.toInt by exact_mod_cast hlarge)
      have hpow : Binary32.round (2 ^ 24) = 2 ^ 24 := by
        have h := Binary32.round_of_significand (m := 1) 24 (by norm_num)
        norm_num at h ⊢
        exact h
      rw [hpow] at hmono
      linarith
  have hquot : (1000 + 1 / 16384 : ℚ) ≤ Binary32.round diff.toInt / frequency.toInt := by
    rwa [le_div_iff₀ hposQ]
  have hmono := Binary32.round_mono (by norm_num) hquot
  rw [hnext] at hmono
  linarith

/-- **The float test is exact** for at most `16384` ticks per millisecond: no quotient of two such
integers lies so close above `1000` that it rounds down to it. -/
theorem overOneSecond_iff {diff frequency : Word} (hpos : 0 < frequency.toInt)
    (hle : frequency.toInt ≤ 16384) :
    overOneSecond diff frequency = true ↔ 1000 * frequency.toInt < diff.toInt := by
  have hne : frequency ≠ 0 := by
    rintro rfl
    simp at hpos
  have hfreq : Binary32.round (frequency.toInt : ℚ) = frequency.toInt :=
    Binary32.round_intCast (by rw [abs_of_pos hpos]; omega)
  simp only [overOneSecond, if_neg hne, decide_eq_true_eq, hfreq]
  constructor
  · intro h
    by_contra hgap
    exact absurd h (not_lt.mpr (round_quot_le hpos hle (not_lt.mp hgap)))
  · exact lt_round_quot hpos hle

/-! ## The clock as a count of elapsed ticks -/

/-- **The count of elapsed ticks after a step of `d` ticks**, when `elapsed` ticks had been counted
at the packet with timestamp `time`. A timestamp equal to the count modulo `2 ^ 32` leaves the base
at its 'not set' value, so that the next packet starts a new count; a step the float test takes for
more than a second is not counted. -/
def nextElapsed (frequency time : Word) (elapsed d : ℕ) : ℕ :=
  if time = BitVec.ofNat 32 elapsed then 0
  else if overOneSecond (BitVec.ofNat 32 d) frequency then elapsed
  else elapsed + d

/-- The time fields after a packet with timestamp `time` at which `elapsed` ticks are counted. -/
def Clock.at (time : Word) (elapsed : ℕ) : Clock := ⟨time, time - BitVec.ofNat 32 elapsed⟩

/-- The tag timestamp at a count of elapsed ticks: its low 32 bits divided as an `int`. -/
def millis (frequency : Word) (elapsed : ℕ) : Word := (BitVec.ofNat 32 elapsed).sdiv frequency

/-- Division by a positive number of ticks does not trap. -/
theorem intDiv_of_pos {x y : Word} (hpos : 0 < y.toInt) : intDiv x y = some (x.sdiv y) := by
  rw [intDiv, if_neg]
  rintro (rfl | ⟨-, rfl⟩) <;> simp at hpos

/-- An `int` that is not negative, as an unsigned number. -/
theorem toInt_eq_toNat {x : Word} (h : 0 ≤ x.toInt) : x.toInt = x.toNat := by
  have hlt := x.isLt
  have hcond := BitVec.toInt_eq_toNat_cond x
  split at hcond
  · exact hcond
  · omega

/-- The quotient of a nonnegative by a positive `int`. -/
theorem toInt_sdiv_of_pos {x y : Word} (hx : 0 ≤ x.toInt) (hy : 0 < y.toInt) :
    (x.sdiv y).toInt = x.toInt / y.toInt := by
  have hne : y ≠ -1#32 := by rintro rfl; simp at hy
  rw [BitVec.toInt_sdiv_of_ne_or_ne _ _ (.inr hne), Int.tdiv_eq_ediv_of_nonneg hx]

/-- A rate of at least `1000` Hz is a positive number of ticks per millisecond. -/
theorem sdiv_thousand_pos {frequency : Word} (h : 1000 ≤ frequency.toInt) :
    0 < (frequency.sdiv 1000).toInt := by
  have hthousand : (1000 : Word).toInt = 1000 := by decide
  rw [toInt_sdiv_of_pos (by omega) (by decide), hthousand]
  omega

/-- With a positive number of ticks a packet always gets a timestamp, counted from the base that
`setBase` and `skipGap` leave. -/
theorem Clock.tick_of_pos {frequency : Word} (hpos : 0 < frequency.toInt) (c : Clock)
    (time : Word) :
    c.tick frequency time =
      some (⟨time, ((c.setBase time).skipGap frequency time).baseTime⟩,
        (time - ((c.setBase time).skipGap frequency time).baseTime).sdiv frequency) := by
  rw [Clock.tick, intDiv_of_pos hpos]
  rfl

/-- The first packet sets the base and gets timestamp zero. -/
theorem Clock.tick_start {frequency : Word} (hpos : 0 < frequency.toInt) (time : Word) :
    Clock.start.tick frequency time = some (Clock.at time 0, millis frequency 0) := by
  rw [Clock.tick_of_pos hpos]
  simp [Clock.start, Clock.setBase, Clock.skipGap, Clock.at, millis]

/-- **The base after a step** is the timestamp less the count of elapsed ticks. -/
theorem Clock.baseTime_at_step (frequency time : Word) (elapsed d : ℕ) :
    (((Clock.at time elapsed).setBase (time + BitVec.ofNat 32 d)).skipGap frequency
        (time + BitVec.ofNat 32 d)).baseTime =
      time + BitVec.ofNat 32 d - BitVec.ofNat 32 (nextElapsed frequency time elapsed d) := by
  have hstep : time + BitVec.ofNat 32 d - time = BitVec.ofNat 32 d := by bv_omega
  by_cases hunset : time = BitVec.ofNat 32 elapsed
  · -- the base is zero: this packet sets it anew
    simp [Clock.at, Clock.setBase, Clock.skipGap, nextElapsed, hunset]
  · have hset : (Clock.at time elapsed).setBase (time + BitVec.ofNat 32 d) =
        Clock.at time elapsed := by
      rw [Clock.setBase, if_neg]
      intro hzero
      exact hunset (by simp only [Clock.at] at hzero; bv_omega)
    rw [hset, Clock.skipGap, nextElapsed, if_neg hunset]
    simp only [Clock.at, hstep]
    split
    · -- a gap: base and timestamp move together
      bv_omega
    · rw [BitVec.ofNat_add]
      bv_omega

/-- **One step on the clock is one step of the count.** -/
theorem Clock.tick_at {frequency : Word} (hpos : 0 < frequency.toInt) (time : Word)
    (elapsed d : ℕ) :
    (Clock.at time elapsed).tick frequency (time + BitVec.ofNat 32 d) =
      some (Clock.at (time + BitVec.ofNat 32 d) (nextElapsed frequency time elapsed d),
        millis frequency (nextElapsed frequency time elapsed d)) := by
  have hcancel : ∀ x y : Word, x - (x - y) = y := fun x y => by bv_omega
  rw [Clock.tick_of_pos hpos, Clock.baseTime_at_step, hcancel]
  rfl

end RtpCapture
