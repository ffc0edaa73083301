import RtpCapture.Recorder.Clock

/-! # The clock of a steady source

A source is steady when each timestamp is ahead of its predecessor by at most one second. The tag
timestamp is a function of the count of elapsed ticks (`millis`), so whether it ever falls is a
question about the counts.

* **`millis_mono`** — the tag timestamp grows with the count up to `2 ^ 32` ticks less one
  millisecond.
* **`millis_step`** — one step of a steady source: the tag timestamp does not fall exactly when the
  count stays in that range and does not start again from a millisecond or more.
* **`stamps_nonDecreasing_iff`** — the same for whole runs. -/

namespace RtpCapture

/-! ## Milliseconds -/

section Millis

variable {frequency : Word}

/-- In the first half of the range of an `int` the quotient is that of naturals. -/
theorem millis_low (hmax : frequency.toNat ≤ 2147483) {elapsed : ℕ} (h : elapsed < 2 ^ 31) :
    (millis frequency elapsed).toNat = elapsed / frequency.toNat := by
  have hmsb : (BitVec.ofNat 32 elapsed).msb = false := by
    rw [BitVec.msb_eq_false_iff_two_mul_lt, BitVec.toNat_ofNat]
    omega
  have hmsb' : frequency.msb = false := by
    rw [BitVec.msb_eq_false_iff_two_mul_lt]
    omega
  rw [millis, BitVec.sdiv_eq, hmsb, hmsb']
  show (BitVec.ofNat 32 elapsed / frequency).toNat = _
  rw [BitVec.toNat_udiv, BitVec.toNat_ofNat, Nat.mod_eq_of_lt (by omega)]

/-- In the second half the `int` is negative, and so is the quotient. -/
theorem millis_high (hmax : frequency.toNat ≤ 2147483) {elapsed : ℕ} (hlow : 2 ^ 31 ≤ elapsed)
    (hhigh : elapsed < 2 ^ 32) :
    (millis frequency elapsed).toNat =
      (2 ^ 32 - (2 ^ 32 - elapsed) / frequency.toNat) % 2 ^ 32 := by
  have hmsb : (BitVec.ofNat 32 elapsed).msb = true := by
    rw [BitVec.msb_eq_true_iff_two_mul_ge, BitVec.toNat_ofNat]
    omega
  have hmsb' : frequency.msb = false := by
    rw [BitVec.msb_eq_false_iff_two_mul_lt]
    omega
  rw [millis, BitVec.sdiv_eq, hmsb, hmsb']
  show (-((-BitVec.ofNat 32 elapsed) / frequency)).toNat = _
  rw [BitVec.toNat_neg, BitVec.toNat_udiv, BitVec.toNat_neg, BitVec.toNat_ofNat,
    Nat.mod_eq_of_lt hhigh, Nat.mod_eq_of_lt (by omega : 2 ^ 32 - elapsed < 2 ^ 32)]

/-- Counts that differ by `2 ^ 32` give one timestamp. -/
theorem millis_add (frequency : Word) (elapsed : ℕ) :
    millis frequency (2 ^ 32 + elapsed) = millis frequency elapsed := by
  rw [millis, millis, BitVec.ofNat_add]
  simp

variable (hpos : 0 < frequency.toNat) (hmax : frequency.toNat ≤ 2147483)
include hpos hmax

/-- Up to `2 ^ 32` less one millisecond, the second half reaches from `2 ^ 31` up. -/
theorem millis_high_of_le {elapsed : ℕ} (hlow : 2 ^ 31 ≤ elapsed)
    (hle : elapsed + frequency.toNat ≤ 2 ^ 32) :
    (millis frequency elapsed).toNat + (2 ^ 32 - elapsed) / frequency.toNat = 2 ^ 32 ∧
      2 ^ 31 ≤ (millis frequency elapsed).toNat := by
  have hquot : 1 ≤ (2 ^ 32 - elapsed) / frequency.toNat :=
    (Nat.one_le_div_iff hpos).mpr (by omega)
  have hquot' : (2 ^ 32 - elapsed) / frequency.toNat ≤ 2 ^ 31 :=
    (Nat.div_le_self _ _).trans (by omega)
  rw [millis_high hmax hlow (by omega), Nat.mod_eq_of_lt (by omega)]
  omega

/-- **The timestamp grows with the count** up to `2 ^ 32` less one millisecond. -/
theorem millis_mono {elapsed elapsed' : ℕ} (h : elapsed ≤ elapsed')
    (hle : elapsed' + frequency.toNat ≤ 2 ^ 32) :
    (millis frequency elapsed).toNat ≤ (millis frequency elapsed').toNat := by
  rcases lt_or_ge elapsed' (2 ^ 31) with hlow' | hhigh'
  · rw [millis_low hmax (h.trans_lt hlow'), millis_low hmax hlow']
    exact Nat.div_le_div_right h
  obtain ⟨heq', hbig'⟩ := millis_high_of_le hpos hmax hhigh' hle
  rcases lt_or_ge elapsed (2 ^ 31) with hlow | hhigh
  · have hsmall : elapsed / frequency.toNat ≤ elapsed := Nat.div_le_self _ _
    rw [millis_low hmax hlow]
    omega
  · obtain ⟨heq, -⟩ := millis_high_of_le hpos hmax hhigh (by omega)
    have hdiv : (2 ^ 32 - elapsed') / frequency.toNat ≤ (2 ^ 32 - elapsed) / frequency.toNat :=
      Nat.div_le_div_right (by omega)
    omega

/-- In that range the timestamp is zero during the first millisecond only. -/
theorem millis_eq_zero_iff {elapsed : ℕ} (hle : elapsed + frequency.toNat ≤ 2 ^ 32) :
    (millis frequency elapsed).toNat = 0 ↔ elapsed < frequency.toNat := by
  rcases lt_or_ge elapsed (2 ^ 31) with hlow | hhigh
  · rw [millis_low hmax hlow, Nat.div_eq_zero_iff]
    omega
  · obtain ⟨-, hbig⟩ := millis_high_of_le hpos hmax hhigh hle
    omega

/-- **Behind that range the timestamp falls**: a step of at most a second out of it goes to a
smaller timestamp. -/
theorem millis_wraps {elapsed d : ℕ} (hle : elapsed + frequency.toNat ≤ 2 ^ 32)
    (hd : d ≤ 1000 * frequency.toNat) (hover : 2 ^ 32 < elapsed + d + frequency.toNat) :
    (millis frequency (elapsed + d)).toNat < (millis frequency elapsed).toNat := by
  have hbefore : 0 < (millis frequency elapsed).toNat := by
    rw [Nat.pos_iff_ne_zero, ne_eq, millis_eq_zero_iff hpos hmax hle]
    omega
  rcases lt_or_ge (elapsed + d) (2 ^ 32) with hwithin | hbeyond
  · -- the last millisecond before `2 ^ 32` is rounded to zero
    have hzero : (2 ^ 32 - (elapsed + d)) / frequency.toNat = 0 :=
      Nat.div_eq_of_lt (by omega)
    rw [millis_high hmax (by omega) hwithin, hzero, Nat.sub_zero, Nat.mod_self]
    exact hbefore
  · -- beyond `2 ^ 32` the count starts again
    obtain ⟨rest, hrest⟩ := Nat.exists_eq_add_of_le hbeyond
    have hsmall : rest / frequency.toNat ≤ 999 := by
      have hlt : rest < 1000 * frequency.toNat := by omega
      have hdiv := (Nat.div_lt_iff_lt_mul hpos).mpr hlt
      omega
    have hhigh : 2 ^ 31 ≤ elapsed := by omega
    obtain ⟨heq, hbig⟩ := millis_high_of_le hpos hmax hhigh hle
    rw [hrest, millis_add, millis_low hmax (by omega)]
    omega

/-- **One step of a steady source.** The timestamp does not fall exactly when the count stays in
the range and does not fall itself from a millisecond or more. -/
theorem millis_step {time : Word} {elapsed d : ℕ} (hle : elapsed + frequency.toNat ≤ 2 ^ 32)
    (hd : d ≤ 1000 * frequency.toNat) :
    (millis frequency elapsed).toNat ≤
        (millis frequency (nextElapsed frequency time elapsed d)).toNat ↔
      nextElapsed frequency time elapsed d + frequency.toNat ≤ 2 ^ 32 ∧
        (elapsed ≤ nextElapsed frequency time elapsed d ∨ elapsed < frequency.toNat) := by
  unfold nextElapsed
  split
  · -- the count starts again
    have hzero : (millis frequency 0).toNat = 0 := by simp [millis]
    rw [hzero, Nat.le_zero, millis_eq_zero_iff hpos hmax hle]
    omega
  split
  · exact iff_of_true le_rfl ⟨hle, .inl le_rfl⟩
  by_cases hrange : elapsed + d + frequency.toNat ≤ 2 ^ 32
  · exact iff_of_true (millis_mono hpos hmax (by omega) hrange) ⟨hrange, .inl (by omega)⟩
  · have hfalls := millis_wraps hpos hmax hle hd (by omega)
    exact iff_of_false (Nat.not_le.mpr hfalls) fun h => hrange h.1

end Millis

/-! ## Runs of the clock -/

/-- **The tag timestamps of packets with the timestamps `times`**, up to a division trap. -/
def Clock.stamps (frequency : Word) : Clock → List Word → List Word
  | _, [] => []
  | c, time :: times =>
      match c.tick frequency time with
      | none => []
      | some (c', timestamp) => timestamp :: Clock.stamps frequency c' times

/-- The clock after these packets. -/
def Clock.after (frequency : Word) : Clock → List Word → Option Clock
  | c, [] => some c
  | c, time :: times =>
      match c.tick frequency time with
      | none => none
      | some (c', _) => Clock.after frequency c' times

/-- The clock after some timestamps and then others. -/
theorem Clock.after_append {frequency : Word} {c c' : Clock} {times : List Word}
    (h : c.after frequency times = some c') (times' : List Word) :
    c.after frequency (times ++ times') = c'.after frequency times' := by
  induction times generalizing c with
  | nil =>
      obtain rfl := Option.some.inj h
      rfl
  | cons time times ih =>
      rw [after] at h
      rw [List.cons_append, after]
      cases htick : c.tick frequency time with
      | none =>
          rw [htick] at h
          cases h
      | some result =>
          rw [htick] at h
          exact ih h

/-- The timestamps of packets in turn. -/
theorem Clock.stamps_append {frequency : Word} {c c' : Clock} {times : List Word}
    (h : c.after frequency times = some c') (times' : List Word) :
    c.stamps frequency (times ++ times') =
      c.stamps frequency times ++ c'.stamps frequency times' := by
  induction times generalizing c with
  | nil =>
      obtain rfl := Option.some.inj h
      rfl
  | cons time times ih =>
      rw [after] at h
      rw [List.cons_append, stamps, stamps]
      cases htick : c.tick frequency time with
      | none =>
          rw [htick] at h
          cases h
      | some result =>
          rw [htick] at h
          exact congrArg (List.cons result.2) (ih h)

/-- The counts of elapsed ticks at packets that follow one with timestamp `time` and count
`elapsed`. -/
def elapsedFrom (frequency : Word) : Word → ℕ → List Word → List ℕ
  | _, _, [] => []
  | time, elapsed, time' :: times =>
      nextElapsed frequency time elapsed (time' - time).toNat ::
        elapsedFrom frequency time' (nextElapsed frequency time elapsed (time' - time).toNat) times

/-- **The counts of elapsed ticks** of packets with the timestamps `times`; the first packet sets
the base. -/
def elapsedCounts (frequency : Word) : List Word → List ℕ
  | [] => []
  | time :: times => 0 :: elapsedFrom frequency time 0 times

/-- The tag timestamps are functions of the counts. -/
theorem Clock.stamps_at {frequency : Word} (hpos : 0 < frequency.toInt) (time : Word)
    (elapsed : ℕ) (times : List Word) :
    (Clock.at time elapsed).stamps frequency times =
      (elapsedFrom frequency time elapsed times).map (millis frequency) := by
  induction times generalizing time elapsed with
  | nil => rfl
  | cons time' times ih =>
      -- a step is a difference of timestamps modulo `2 ^ 32`
      have hstep : time + BitVec.ofNat 32 (time' - time).toNat = time' := by
        rw [BitVec.ofNat_toNat, BitVec.setWidth_eq]
        bv_omega
      have htick := Clock.tick_at hpos time elapsed (time' - time).toNat
      rw [hstep] at htick
      rw [stamps, htick]
      exact congrArg _ (ih time' _)

/-- From a fresh clock the tag timestamps are the counts in milliseconds. -/
theorem Clock.stamps_start {frequency : Word} (hpos : 0 < frequency.toInt) (times : List Word) :
    Clock.start.stamps frequency times = (elapsedCounts frequency times).map (millis frequency) := by
  cases times with
  | nil => rfl
  | cons time times =>
      rw [stamps, Clock.tick_start hpos]
      exact congrArg _ (Clock.stamps_at hpos time 0 times)

/-! ## Steady runs -/

/-- **A steady source**: each timestamp is ahead of its predecessor, modulo `2 ^ 32`, by at most
1000 milliseconds. -/
def Steady (frequency : Word) (times : List Word) : Prop :=
  times.IsChain fun time time' => (time' - time).toNat ≤ 1000 * frequency.toNat

/-- Timestamps that never fall, as unsigned numbers. -/
def NonDecreasing (stamps : List Word) : Prop :=
  stamps.Pairwise fun stamp stamp' => stamp.toNat ≤ stamp'.toNat

/-- **The counts stay in range**: at most `2 ^ 32` less one millisecond, and starting again only
from less than a millisecond. -/
def CountsInRange (frequency : Word) (times : List Word) : Prop :=
  (∀ elapsed ∈ elapsedCounts frequency times, elapsed + frequency.toNat ≤ 2 ^ 32) ∧
    (elapsedCounts frequency times).IsChain fun elapsed elapsed' =>
      elapsed ≤ elapsed' ∨ elapsed < frequency.toNat

/-- A list of timestamps that never fall is one in which neighbours do not. -/
theorem nonDecreasing_iff_isChain (stamps : List Word) :
    NonDecreasing stamps ↔ stamps.IsChain fun stamp stamp' => stamp.toNat ≤ stamp'.toNat := by
  have : IsTrans Word fun stamp stamp' => stamp.toNat ≤ stamp'.toNat :=
    ⟨fun _ _ _ => Nat.le_trans⟩
  exact List.isChain_iff_pairwise.symm

/-- A steady run from a count in range. -/
theorem isChain_millis_iff {frequency : Word} (hpos : 0 < frequency.toNat)
    (hmax : frequency.toNat ≤ 2147483) {time : Word} {elapsed : ℕ}
    (hle : elapsed + frequency.toNat ≤ 2 ^ 32) {times : List Word}
    (hsteady : Steady frequency (time :: times)) :
    ((elapsed :: elapsedFrom frequency time elapsed times).map (millis frequency)).IsChain
        (fun stamp stamp' => stamp.toNat ≤ stamp'.toNat) ↔
      (∀ e ∈ elapsedFrom frequency time elapsed times, e + frequency.toNat ≤ 2 ^ 32) ∧
        (elapsed :: elapsedFrom frequency time elapsed times).IsChain
          fun e e' => e ≤ e' ∨ e < frequency.toNat := by
  induction times generalizing time elapsed with
  | nil => simp [elapsedFrom]
  | cons time' times ih =>
      obtain ⟨hd, hrest⟩ := List.isChain_cons_cons.mp hsteady
      have hstep := @millis_step frequency hpos hmax time elapsed _ hle hd
      rw [elapsedFrom]
      generalize nextElapsed frequency time elapsed (time' - time).toNat = elapsed' at hstep ⊢
      rw [List.map_cons, List.map_cons, List.isChain_cons_cons, List.isChain_cons_cons,
        List.forall_mem_cons, hstep]
      -- a count that leaves the range breaks the chain at once
      by_cases hrange : elapsed' + frequency.toNat ≤ 2 ^ 32
      · have hrec := ih hrange hrest
        rw [List.map_cons] at hrec
        rw [hrec]
        tauto
      · tauto

/-- **The timestamps of a steady source never fall exactly when its counts stay in range.** -/
theorem stamps_nonDecreasing_iff {frequency : Word} (hpos : 0 < frequency.toInt)
    (hmax : frequency.toInt ≤ 2147483) {times : List Word} (hsteady : Steady frequency times) :
    NonDecreasing (Clock.start.stamps frequency times) ↔ CountsInRange frequency times := by
  have hnat := toInt_eq_toNat hpos.le
  rw [Clock.stamps_start hpos, nonDecreasing_iff_isChain]
  cases times with
  | nil => simp [CountsInRange, elapsedCounts]
  | cons time times =>
      have hzero : 0 + frequency.toNat ≤ 2 ^ 32 := by omega
      rw [elapsedCounts, isChain_millis_iff (by omega) (by omega) hzero hsteady, CountsInRange,
        elapsedCounts, List.forall_mem_cons]
      tauto

end RtpCapture
