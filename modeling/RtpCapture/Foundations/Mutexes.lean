import Mathlib.Data.Nat.Basic
import Mathlib.Logic.Function.Basic
import Mathlib.Logic.Relation

/-! # Mutexes

Threads lock and unlock mutexes. Who holds a mutex is part of the state; which mutexes a thread
ought to hold follows from where it is in its code.

* **`Locked holder holds`** — the two agree; so no two threads are in sections of one mutex
  (`Locked.exclusive`).
* **`Locked.move`**, **`Locked.lock`**, **`Locked.unlock`** — the steps a thread can take.
* **`LockProgram`** — what threads do with mutexes, and `LockStep`, any number of threads doing it.
* **`LockProgram.Respects.deadlockFree`** — when every thread locks above all it holds, no thread
  waits for itself and none waits in a cycle. -/

universe u v w

variable {κ : Type u} {θ : Type v} {ρ : Type w}

/-- **The holders of the mutexes are the threads inside their sections.** -/
def Locked (holder : κ → Option θ) (holds : θ → List κ) : Prop :=
  ∀ k t, holder k = some t ↔ k ∈ holds t

namespace Locked

variable {holder : κ → Option θ} {holds : θ → List κ} {k : κ} {t t' : θ} {l : List κ}

/-- **Mutual exclusion**: two threads in sections of one mutex are the same. -/
theorem exclusive (h : Locked holder holds) (ht : k ∈ holds t) (ht' : k ∈ holds t') : t = t' := by
  have hholder := (h k t).mpr ht
  rw [(h k t').mpr ht'] at hholder
  exact (Option.some.inj hholder).symm

variable [DecidableEq θ]

/-- A thread goes on inside the same sections. -/
theorem move (h : Locked holder holds) (hl : holds t = l) :
    Locked holder (Function.update holds t l) := by
  rw [← hl, Function.update_eq_self]
  exact h

variable [DecidableEq κ]

/-- **A thread locks a mutex** that nobody holds. -/
theorem lock (h : Locked holder holds) (hfree : holder k = none) (hl : l = k :: holds t) :
    Locked (Function.update holder k (some t)) (Function.update holds t l) := by
  intro j t'
  subst hl
  by_cases hj : j = k
  · subst hj
    rw [Function.update_self]
    by_cases heq : t' = t
    · simp [heq]
    · have hnot : j ∉ holds t' := by simp [← h j t', hfree]
      simp [Function.update_of_ne heq, hnot, Ne.symm heq]
  · rw [Function.update_of_ne hj, h j t']
    by_cases heq : t' = t
    · simp [heq, hj]
    · rw [Function.update_of_ne heq]

/-- **A thread unlocks the mutex** it locked last. -/
theorem unlock (h : Locked holder holds) (hl : holds t = k :: l) (hk : k ∉ l) :
    Locked (Function.update holder k none) (Function.update holds t l) := by
  intro j t'
  have hheld : k ∈ holds t := by simp [hl]
  by_cases hj : j = k
  · subst hj
    rw [Function.update_self]
    by_cases heq : t' = t
    · simp [heq, hk]
    · have hnot : j ∉ holds t' := fun ht' => heq (h.exclusive ht' hheld)
      simp [Function.update_of_ne heq, hnot]
  · rw [Function.update_of_ne hj, h j t']
    by_cases heq : t' = t
    · simp [heq, hl, hj]
    · rw [Function.update_of_ne heq]

omit [DecidableEq κ] [DecidableEq θ] in
/-- The sections determine the holders. -/
theorem unique {holder' : κ → Option θ} (h : Locked holder holds) (h' : Locked holder' holds) :
    holder = holder' := by
  funext j
  apply Option.ext
  intro t
  rw [h j t, h' j t]

end Locked

/-! ## Locking programs -/

/-- **What threads do with mutexes**: at a position a thread is inside some sections, the innermost
first, and may be about to lock a mutex, whether it will get it or not; `next p w p'` is a step from
`p` to `p'` that locks the mutex `w`, if there is one. -/
structure LockProgram (ρ : Type w) (κ : Type u) where
  holds : ρ → List κ
  wants : ρ → κ → Prop
  next : ρ → Option κ → ρ → Prop
  /-- What is locked was wanted. -/
  wants_of_next : ∀ {p k p'}, next p (some k) p' → wants p k

/-- **A program that respects an order** of the mutexes: what a thread is about to lock is above all
sections it is inside; a step that locks a mutex enters its section; any other step stays where it
is or leaves the innermost section. -/
structure LockProgram.Respects (prog : LockProgram ρ κ) (rank : κ → ℕ) : Prop where
  order : ∀ p k, prog.wants p k → ∀ j ∈ prog.holds p, rank j < rank k
  lock : ∀ p k p', prog.next p (some k) p' → prog.holds p' = k :: prog.holds p
  go : ∀ p p', prog.next p none p' → prog.holds p' = prog.holds p ∨
    ∃ k, prog.holds p = k :: prog.holds p' ∧ k ∉ prog.holds p'

/-- Threads at their positions, and the holders of the mutexes. -/
structure LockState (θ : Type v) (κ : Type u) (ρ : Type w) where
  holder : κ → Option θ
  position : θ → ρ

/-- **One step of one thread**; it waits until nobody holds the mutex. -/
inductive LockStep [DecidableEq θ] [DecidableEq κ] (prog : LockProgram ρ κ) (s : LockState θ κ ρ) :
    LockState θ κ ρ → Prop
  | lock {t : θ} {k : κ} {p : ρ} (hnext : prog.next (s.position t) (some k) p)
      (hfree : s.holder k = none) :
      LockStep prog s ⟨Function.update s.holder k (some t), Function.update s.position t p⟩
  | go {t : θ} {p : ρ} (hnext : prog.next (s.position t) none p)
      (hholds : prog.holds p = prog.holds (s.position t)) :
      LockStep prog s ⟨s.holder, Function.update s.position t p⟩
  | unlock {t : θ} {k : κ} {p : ρ} (hnext : prog.next (s.position t) none p)
      (hholds : prog.holds (s.position t) = k :: prog.holds p) :
      LockStep prog s ⟨Function.update s.holder k none, Function.update s.position t p⟩

namespace LockState

variable (prog : LockProgram ρ κ) (s : LockState θ κ ρ)

/-- The sections the threads are inside. -/
def holds (t : θ) : List κ := prog.holds (s.position t)

/-- **A thread waits for a thread**, possibly itself, that holds the mutex it is about to lock. -/
def WaitsFor (t t' : θ) : Prop :=
  ∃ k, prog.wants (s.position t) k ∧ s.holder k = some t'

/-- **No thread is about to lock a mutex that it holds, and no threads wait for each other in a
cycle.** -/
structure DeadlockFree : Prop where
  relock : ∀ t k, prog.wants (s.position t) k → s.holder k ≠ some t
  cycle : ∀ t, ¬ Relation.TransGen (s.WaitsFor prog) t t

end LockState

namespace LockProgram.Respects

variable {prog : LockProgram ρ κ} {rank : κ → ℕ} {s s' : LockState θ κ ρ}

/-- Threads that wait for one another hold higher and higher mutexes. -/
theorem deadlockFree (h : prog.Respects rank) (hlocked : Locked s.holder (s.holds prog)) :
    s.DeadlockFree prog := by
  -- along a path of waiting threads the last one holds a mutex not below the one waited for first
  have hpath : ∀ t t', Relation.TransGen (s.WaitsFor prog) t t' →
      ∃ k, prog.wants (s.position t) k ∧ ∃ j ∈ s.holds prog t', rank k ≤ rank j := by
    intro t t' hwaits
    induction hwaits with
    | single hedge =>
        obtain ⟨k, hwants, hholder⟩ := hedge
        exact ⟨k, hwants, k, (hlocked k _).mp hholder, Nat.le_refl _⟩
    | tail _ hedge ih =>
        obtain ⟨k, hwants, j, hj, hle⟩ := ih
        obtain ⟨k', hwants', hholder⟩ := hedge
        have hlt := h.order _ _ hwants' j hj
        exact ⟨k, hwants, k', (hlocked k' _).mp hholder, Nat.le_of_lt (Nat.lt_of_le_of_lt hle hlt)⟩
  refine ⟨fun t k hwants hholder => ?_, fun t hcycle => ?_⟩
  · exact Nat.lt_irrefl _ (h.order _ _ hwants k ((hlocked k t).mp hholder))
  · obtain ⟨k, hwants, j, hj, hle⟩ := hpath t t hcycle
    exact Nat.not_lt.mpr hle (h.order _ _ hwants j hj)

variable [DecidableEq θ] [DecidableEq κ]

/-- **A step keeps the holders inside their sections.** -/
theorem step_locked (h : prog.Respects rank) (hlocked : Locked s.holder (s.holds prog))
    (hstep : LockStep prog s s') : Locked s'.holder (s'.holds prog) := by
  have hholds : ∀ (holder : κ → Option θ) (t : θ) (p : ρ),
      (LockState.mk holder (Function.update s.position t p)).holds prog =
        Function.update (s.holds prog) t (prog.holds p) := by
    intro holder t p
    funext t'
    show prog.holds (Function.update s.position t p t') = _
    by_cases ht : t' = t
    · rw [ht, Function.update_self, Function.update_self]
    · rw [Function.update_of_ne ht, Function.update_of_ne ht]
      rfl
  -- a step changes one position, and at most one holder
  cases hstep with
  | lock hnext hfree =>
      rw [hholds]
      exact hlocked.lock hfree (h.lock _ _ _ hnext)
  | go hnext hsame =>
      rw [hholds]
      exact hlocked.move hsame.symm
  | @unlock t k p hnext hleave =>
      rw [hholds]
      refine hlocked.unlock hleave ?_
      rcases h.go _ _ hnext with hsame | ⟨k', hk', hnot⟩
      · exact absurd (congrArg List.length (hsame.trans hleave)) (by simp)
      · rw [hleave] at hk'
        exact (List.cons.inj hk').1 ▸ hnot

/-- **Whatever the threads do**, starting outside all sections. -/
theorem deadlockFree_of_reaches (h : prog.Respects rank) {s₀ : LockState θ κ ρ}
    (hinit : Locked s₀.holder (s₀.holds prog))
    (hreaches : Relation.ReflTransGen (LockStep prog) s₀ s) : s.DeadlockFree prog := by
  apply h.deadlockFree
  induction hreaches with
  | refl => exact hinit
  | tail _ hstep ih => exact h.step_locked ih hstep

end LockProgram.Respects
