import Mathlib.Tactic.Ring

/-! # Round robin service

A server goes round the queues `0, …, n - 1`, again and again: it starts a round, visits one queue
after the other, works at each as long as there is work, and ends the round. At each visit there is
work for at most `bound` steps. It may give up in the middle of its work, and comes to an end then.

* **`Server.Step`** — the steps of the server.
* **`Server.wait`** — how many steps it takes at most until the server is done with queue `i`.
* **`Server.Step.wait_lt`** — each of them shortens the wait; **`Server.wait_le`** bounds it. -/

/-- **Where the server is.** -/
inductive Server
  /-- Between two rounds. -/
  | outside
  /-- About to visit the `k`-th queue, or to end the round when there is none. -/
  | between (k : ℕ)
  /-- At the `k`-th queue, with the number of steps until there is no work left. -/
  | visiting (k work : ℕ)
  /-- It gave up; the number of steps until it has ended. -/
  | stopping (work : ℕ)
  deriving DecidableEq, Repr

namespace Server

variable {bound n i k : ℕ} {x y : Server}

/-- **A step of the server.** -/
inductive Step (bound n : ℕ) : Server → Server → Prop
  | start : Step bound n .outside (.between 0)
  | visit {k work : ℕ} (hk : k < n) (hwork : work ≤ bound) :
      Step bound n (.between k) (.visiting k work)
  | work {k work work' : ℕ} (hless : work' < work) :
      Step bound n (.visiting k work) (.visiting k work')
  | leave (k : ℕ) : Step bound n (.visiting k 0) (.between (k + 1))
  | stop {k : ℕ} (hk : n ≤ k) : Step bound n (.between k) .outside
  | giveUp {k work work' : ℕ} (hless : work' < work) :
      Step bound n (.visiting k work) (.stopping work')
  | finish {work work' : ℕ} (hless : work' < work) :
      Step bound n (.stopping work) (.stopping work')

/-- The work the server has begun. -/
def work : Server → ℕ
  | outside => 0
  | between _ => 0
  | visiting _ work => work
  | stopping work => work

/-- The steps until queue `i` is done with, before the visit of queue `k`: in this round, or in the
next one. -/
def turn (bound n i k : ℕ) : ℕ :=
  if k ≤ i then (i + 1 - k) * (bound + 2) else (n - k) * (bound + 2) + ((i + 1) * (bound + 2) + 2)

/-- **The steps until queue `i` is done with**, or the server has ended. -/
def wait (bound n i : ℕ) : Server → ℕ
  | outside => (i + 1) * (bound + 2) + 1
  | between k => turn bound n i k
  | visiting k work => work + 1 + if k = i then 0 else turn bound n i (k + 1)
  | stopping work => work

/-- A visit takes its share of the wait. -/
theorem turn_visit (hk : k < n) :
    bound + 2 + (if k = i then 0 else turn bound n i (k + 1)) ≤ turn bound n i k := by
  have hshare : ∀ m, (m + 1) * (bound + 2) = bound + 2 + m * (bound + 2) := fun m => by ring
  unfold turn
  rcases Nat.lt_trichotomy k i with hlt | rfl | hgt
  · have hleft : i + 1 - k = (i + 1 - (k + 1)) + 1 := by omega
    rw [if_neg hlt.ne, if_pos (Nat.succ_le_of_lt hlt), if_pos hlt.le, hleft, hshare]
  · rw [if_pos rfl, if_pos le_rfl, Nat.add_sub_cancel_left, Nat.one_mul]
  · have hleft : n - k = (n - (k + 1)) + 1 := by omega
    rw [if_neg hgt.ne', if_neg (by omega), if_neg (by omega), hleft, hshare (n - (k + 1))]
    exact (Nat.add_assoc ..).ge

/-- **Every step shortens the wait**, until the server is done with the queue. -/
theorem Step.wait_lt (h : Step bound n x y) (hi : i < n) (hwaiting : x ≠ .visiting i 0) :
    wait bound n i y < wait bound n i x := by
  cases h with
  | giveUp hless =>
      simp only [wait]
      omega
  | finish hless => exact hless
  | start => simp [wait, turn]
  | visit hk hwork =>
      have hshare := @turn_visit bound n i _ hk
      simp only [wait]
      omega
  | work hless => simpa [wait] using hless
  | leave k =>
      have hk : k ≠ i := fun h => hwaiting (h ▸ rfl)
      simp [wait, hk]
  | stop hk =>
      have hpast : ¬_ ≤ i := Nat.not_le.mpr (Nat.lt_of_lt_of_le hi hk)
      simp only [wait, turn, if_neg hpast]
      omega

/-- The turn of a queue comes within two rounds. -/
theorem turn_le (hi : i < n) : turn bound n i k ≤ (n + i + 1) * (bound + 2) := by
  unfold turn
  split
  · exact Nat.mul_le_mul_right _ (by omega)
  · next hk =>
      calc (n - k) * (bound + 2) + ((i + 1) * (bound + 2) + 2)
          ≤ (n - 1) * (bound + 2) + ((i + 1) * (bound + 2) + (bound + 2)) :=
            Nat.add_le_add (Nat.mul_le_mul_right _ (by omega)) (by omega)
        _ = (n - 1 + 1 + i + 1) * (bound + 2) := by ring
        _ = (n + i + 1) * (bound + 2) := by rw [Nat.sub_add_cancel (by omega)]

/-- **The wait is bounded**: two rounds over the queues before `i`, one over the others. -/
theorem wait_le (hi : i < n) (hwork : x.work ≤ bound) :
    wait bound n i x ≤ (n + i + 2) * (bound + 2) := by
  have hrounds : (n + i + 2) * (bound + 2) = (n + i + 1) * (bound + 2) + (bound + 2) := by ring
  cases x with
  | outside =>
      have hround : (i + 1) * (bound + 2) ≤ (n + i + 1) * (bound + 2) :=
        Nat.mul_le_mul_right _ (by omega)
      simp only [wait]
      omega
  | between k => exact (turn_le hi).trans (hrounds ▸ Nat.le_add_right _ _)
  | visiting k work =>
      have hturn := @turn_le bound n i (k + 1) hi
      simp only [wait, Server.work] at hwork ⊢
      split <;> omega
  | stopping work =>
      simp only [wait, Server.work] at hwork ⊢
      omega

/-- Between two rounds the queue may move to the front, and others may come and go. -/
theorem wait_outside_le {n' i' : ℕ} (hi : i' ≤ i) :
    wait bound n' i' .outside ≤ wait bound n i .outside := by
  have hround : (i' + 1) * (bound + 2) ≤ (i + 1) * (bound + 2) :=
    Nat.mul_le_mul_right _ (by omega)
  simp only [wait]
  omega

end Server
