import RtpCapture.Foundations.Traced
import Mathlib.Order.Bounds.Basic
import Mathlib.Order.Lattice.Nat

/-! # Numbers along a run

Two rules that follow a natural number through the states of a run.

* **`Traced.StepsMeet.exists_goal`** — a number that the steps of one kind decrease and the others do
  not increase: when there are enough steps of that kind, a goal is reached on the way.
* **`Traced.isGreatest_peak`** — a number that only records the greatest value of another one. -/

namespace Traced

universe u v w x

variable {ε : Type u} {φ : Type v} {σ : Type w} {ι : Type x} {step : σ → ι → Traced ε φ σ}
  {C : σ → ι → Prop}

/-- **Bounded progress.** Until a goal is reached every step taken keeps `Inv`, no step increases
`measure`, and the steps `mine` decrease it. A run with more of these than `measure` says goes
through a goal. -/
theorem StepsMeet.exists_goal (Inv goal : σ → Prop) (measure : σ → ℕ) (mine : ι → Bool)
    (hstep : ∀ s i s', Inv s → C s i → ¬goal s → (step s i).outcome = .ok s' →
      Inv s' ∧ measure s' + (if mine i then 1 else 0) ≤ measure s)
    {s s' : σ} {is : List ι} (hmeet : StepsMeet step C s is) (hinit : Inv s)
    (hrun : (run step s is).outcome = .ok s') (hcount : measure s < is.countP mine) :
    ∃ past s₁, past <+: is ∧ (run step s past).outcome = .ok s₁ ∧ Inv s₁ ∧ goal s₁ := by
  induction is generalizing s with
  | nil => simp at hcount
  | cons i is ih =>
      by_cases hgoal : goal s
      · exact ⟨[], s, List.nil_prefix, rfl, hinit, hgoal⟩
      · obtain ⟨s₁, hi, his, -⟩ := bind_eq_ok (by rw [run_cons] at hrun; exact hrun)
        obtain ⟨hinv, hmeasure⟩ := hstep s i s₁ hinit hmeet.1 hgoal hi
        rw [List.countP_cons] at hcount
        obtain ⟨past, s₂, hpast, hs₂, h⟩ := ih (hmeet.2 s₁ hi) hinv his (by omega)
        refine ⟨i :: past, s₂, List.cons_prefix_cons.mpr ⟨rfl, hpast⟩, ?_, h⟩
        rw [run_cons_of_ok hi]
        exact hs₂

/-- The levels of the states of a run, the first and the last among them. -/
def levels (step : σ → ι → Traced ε φ σ) (level : σ → ℕ) (s : σ) (is : List ι) : Set ℕ :=
  {n | ∃ past s₁, past <+: is ∧ (run step s past).outcome = .ok s₁ ∧ level s₁ = n}

/-- Without a step there is only the level of the state. -/
theorem levels_nil (level : σ → ℕ) (s : σ) : levels step level s [] = {level s} := by
  ext n
  constructor
  · rintro ⟨past, s₁, hpast, hs₁, rfl⟩
    obtain rfl := List.prefix_nil.mp hpast
    obtain rfl := Except.ok.inj hs₁
    rfl
  · rintro rfl
    exact ⟨[], s, List.nil_prefix, rfl, rfl⟩

/-- A step adds the level of the state it is taken in. -/
theorem levels_cons {level : σ → ℕ} {s s₁ : σ} {i : ι} (hi : (step s i).outcome = .ok s₁)
    (is : List ι) :
    levels step level s (i :: is) = insert (level s) (levels step level s₁ is) := by
  ext n
  constructor
  · rintro ⟨past, s₂, hpast, hs₂, rfl⟩
    rcases List.prefix_cons_iff.mp hpast with rfl | ⟨past, rfl, hpast'⟩
    · obtain rfl := Except.ok.inj hs₂
      exact .inl rfl
    · rw [run_cons_of_ok hi] at hs₂
      exact .inr ⟨past, s₂, hpast', hs₂, rfl⟩
  · rintro (rfl | ⟨past, s₂, hpast, hs₂, rfl⟩)
    · exact ⟨[], s, List.nil_prefix, rfl, rfl⟩
    · refine ⟨i :: past, s₂, List.cons_prefix_cons.mpr ⟨rfl, hpast⟩, ?_, rfl⟩
      rw [run_cons_of_ok hi]
      exact hs₂

/-- **A high-water mark.** When every step sets `peak` to the maximum of itself and of the new
`level`, it is the greatest of its first value and of all levels of the run. -/
theorem isGreatest_peak (Inv : σ → Prop) (peak level : σ → ℕ)
    (hstep : ∀ s i s', Inv s → (step s i).outcome = .ok s' →
      Inv s' ∧ peak s' = max (peak s) (level s'))
    {s s' : σ} {is : List ι} (hinit : Inv s) (hlevel : level s ≤ peak s)
    (hrun : (run step s is).outcome = .ok s') :
    IsGreatest ({peak s} ∪ levels step level s is) (peak s') := by
  induction is generalizing s with
  | nil =>
      obtain rfl : s = s' := by simpa using hrun
      rw [levels_nil]
      refine ⟨.inl rfl, ?_⟩
      rintro n (rfl | rfl)
      · exact le_rfl
      · exact hlevel
  | cons i is ih =>
      obtain ⟨s₁, hi, his, -⟩ := bind_eq_ok (by rw [run_cons] at hrun; exact hrun)
      obtain ⟨hinv, hpeak⟩ := hstep s i s₁ hinit hi
      obtain ⟨hmem, hupper⟩ := ih hinv (by rw [hpeak]; exact le_max_right _ _) his
      have hgrows : peak s ≤ peak s' :=
        (le_max_left _ _).trans (hpeak.symm.le.trans (hupper (.inl rfl)))
      rw [levels_cons hi]
      constructor
      · rcases hmem with hmem | hmem
        · -- the peak after the first step is the old one, or the level of the state it leaves
          rw [hmem, hpeak]
          rcases max_choice (peak s) (level s₁) with hmax | hmax
          · exact .inl hmax
          · rw [hmax]
            exact .inr (.inr ⟨[], s₁, List.nil_prefix, rfl, rfl⟩)
        · exact .inr (.inr hmem)
      · rintro n (rfl | rfl | hn)
        · exact hgrows
        · exact hlevel.trans hgrows
        · exact hupper (.inr hn)

end Traced
