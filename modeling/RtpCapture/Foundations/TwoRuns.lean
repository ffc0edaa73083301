import Mathlib.Data.List.Induction
import RtpCapture.Foundations.Traced

/-! # Two runs compared

Statements about two runs of a machine (that one input does not show in what another one causes,
that a change of all inputs changes nothing that is observed) compare two traced computations.

* **`Traced.Agree seen R x y`** — the observed parts of the traces are equal, and the two end at the
  same fault or return values that `R` relates; there is one rule for each way of building a
  computation.
* **`Traced.agree_of_prefixes`** — two runs on inputs that correspond one to one, with a relation
  that depends on the inputs read so far.
* **`Traced.run_filter`** — the unwinding rule: a run and a run from which the inputs of one kind
  were taken out. -/

universe u v w x

namespace Traced

variable {ε : Type u} {φ : Type v} {α β α' β' : Type w} {γ : Type x}

/-! ## A change of the value -/

/-- The same computation with another value at the end. -/
def mapValue (f : α → β) (x : Traced ε φ α) : Traced ε φ β := ⟨x.trace, x.outcome.map f⟩

/-- Another value is returned. -/
@[simp] theorem mapValue_pure (f : α → β) (a : α) :
    (pure a : Traced ε φ α).mapValue f = pure (f a) := rfl

/-- A fault has no value to change. -/
@[simp] theorem mapValue_fault (f : α → β) (e : φ) :
    (fault e : Traced ε φ α).mapValue f = fault e := rfl

/-- The value behind an event is changed. -/
@[simp] theorem mapValue_emit_bind (f : α → β) (e : ε) (k : PUnit → Traced ε φ α) :
    (emit e >>= k).mapValue f = emit e >>= fun u => (k u).mapValue f := rfl

/-- The value of a sequence is that of its second part. -/
theorem mapValue_bind (f : β → β') (x : Traced ε φ α) (k : α → Traced ε φ β) :
    (x >>= k).mapValue f = x >>= fun a => (k a).mapValue f := by
  cases hx : x.outcome with
  | ok a =>
      rw [bind_of_ok hx, bind_of_ok hx]
      rfl
  | error e =>
      rw [bind_of_error hx, bind_of_error hx]
      rfl

/-- Going on from another value. -/
theorem bind_mapValue (f : α → β) (x : Traced ε φ α) (k : β → Traced ε φ β') :
    x.mapValue f >>= k = x >>= fun a => k (f a) := by
  cases hx : x.outcome with
  | ok a =>
      have hmap : (x.mapValue f).outcome = .ok (f a) := congrArg (Except.map f) hx
      rw [bind_of_ok hx, bind_of_ok hmap]
      rfl
  | error e =>
      have hmap : (x.mapValue f).outcome = .error e := congrArg (Except.map f) hx
      rw [bind_of_error hx, bind_of_error hmap]
      rfl

/-! ## Agreement -/

/-- Two outcomes: the same fault, or related values. -/
def SameOutcome (R : α → β → Prop) : Except φ α → Except φ β → Prop
  | .ok a, .ok b => R a b
  | .error e, .error e' => e = e'
  | _, _ => False

/-- **Two computations agree** up to what is observed of their events and up to `R` on their
values. -/
structure Agree (seen : ε → Option γ) (R : α → β → Prop) (x : Traced ε φ α)
    (y : Traced ε φ β) : Prop where
  trace : x.trace.filterMap seen = y.trace.filterMap seen
  outcome : SameOutcome R x.outcome y.outcome

section Agree

variable {seen : ε → Option γ} {R : α → β → Prop} {S : α' → β' → Prop}
  {x : Traced ε φ α} {y : Traced ε φ β}

/-- A computation agrees with itself. -/
theorem agree_refl (x : Traced ε φ α) : Agree seen Eq x x := by
  refine ⟨rfl, ?_⟩
  cases x.outcome <;> rfl

/-- A computation that agrees with one that returns. -/
theorem Agree.ok (h : Agree seen R x y) {a : α} (ha : x.outcome = .ok a) :
    ∃ b, y.outcome = .ok b ∧ R a b := by
  have houtcome := h.outcome
  rw [ha] at houtcome
  cases hy : y.outcome with
  | ok b =>
      rw [hy] at houtcome
      exact ⟨b, rfl, houtcome⟩
  | error e =>
      rw [hy] at houtcome
      exact houtcome.elim

/-- A computation that returns agrees with one that returns. -/
theorem Agree.ok_left (h : Agree seen R x y) {b : β} (hb : y.outcome = .ok b) :
    ∃ a, x.outcome = .ok a ∧ R a b := by
  have houtcome := h.outcome
  rw [hb] at houtcome
  cases hx : x.outcome with
  | ok a =>
      rw [hx] at houtcome
      exact ⟨a, rfl, houtcome⟩
  | error e =>
      rw [hx] at houtcome
      exact houtcome.elim

/-- Related values agree. -/
theorem agree_pure {a : α} {b : β} (h : R a b) :
    Agree seen R (pure a : Traced ε φ α) (pure b) := ⟨rfl, h⟩

/-- A fault agrees with itself. -/
theorem agree_fault (e : φ) : Agree seen R (fault e) (fault e) := ⟨rfl, rfl⟩

/-- Events that look the same, in front of computations that agree. -/
theorem agree_emit_bind {e e' : ε} {k : PUnit → Traced ε φ α} {l : PUnit → Traced ε φ β}
    (he : seen e = seen e') (h : Agree seen R (k ⟨⟩) (l ⟨⟩)) :
    Agree seen R (emit e >>= k) (emit e' >>= l) := by
  refine ⟨?_, h.outcome⟩
  show (e :: (k ⟨⟩).trace).filterMap seen = (e' :: (l ⟨⟩).trace).filterMap seen
  rw [List.filterMap_cons, List.filterMap_cons, he, h.trace]

/-- An event that is not observed, in front of one of them. -/
theorem agree_emit_left {e : ε} {k : PUnit → Traced ε φ α} (he : seen e = none)
    (h : Agree seen R (k ⟨⟩) y) : Agree seen R (emit e >>= k) y := by
  refine ⟨?_, h.outcome⟩
  rw [emit_bind, List.filterMap_cons_none he]
  exact h.trace

/-- **The rule of sequence.** -/
theorem Agree.bind {k : α → Traced ε φ α'} {l : β → Traced ε φ β'} (h : Agree seen R x y)
    (hk : ∀ a b, x.outcome = .ok a → R a b → Agree seen S (k a) (l b)) :
    Agree seen S (x >>= k) (y >>= l) := by
  cases hx : x.outcome with
  | ok a =>
      obtain ⟨b, hy, hab⟩ := h.ok hx
      obtain ⟨htrace, houtcome⟩ := hk a b hx hab
      rw [bind_of_ok hx, bind_of_ok hy]
      refine ⟨?_, houtcome⟩
      rw [List.filterMap_append, List.filterMap_append, h.trace, htrace]
  | error e =>
      have houtcome := h.outcome
      rw [hx] at houtcome
      cases hy : y.outcome with
      | ok b =>
          rw [hy] at houtcome
          exact houtcome.elim
      | error e' =>
          rw [hy] at houtcome
          rw [bind_of_error hx, bind_of_error hy]
          exact ⟨h.trace, houtcome⟩

/-- The rule of consequence. -/
theorem Agree.imp {R' : α → β → Prop} (h : Agree seen R x y)
    (hR : ∀ a b, x.outcome = .ok a → R a b → R' a b) : Agree seen R' x y := by
  refine ⟨h.trace, ?_⟩
  have houtcome := h.outcome
  cases hx : x.outcome <;> cases hy : y.outcome <;> rw [hx, hy] at houtcome
  case ok.ok a b => exact hR a b hx houtcome
  all_goals exact houtcome

/-- A computation agrees with itself up to a change of its value. -/
theorem agree_mapValue {f : α → β} (h : ∀ a, x.outcome = .ok a → R a (f a)) :
    Agree seen R x (x.mapValue f) := by
  refine ⟨rfl, ?_⟩
  show SameOutcome R x.outcome (x.outcome.map f)
  cases hx : x.outcome with
  | ok a => exact h a hx
  | error e => rfl

/-- Two changes of the value of one computation. -/
theorem agree_mapValue_mapValue {z : Traced ε φ α'} {f : α' → α} {g : α' → β}
    (h : ∀ c, R (f c) (g c)) : Agree seen R (z.mapValue f) (z.mapValue g) := by
  refine ⟨rfl, ?_⟩
  show SameOutcome R (z.outcome.map f) (z.outcome.map g)
  cases z.outcome with
  | ok c => exact h c
  | error e => rfl

end Agree

/-! ## Runs -/

variable {σ σ' : Type w} {ι : Type x} {step : σ → ι → Traced ε φ σ}
  {step' : σ' → ι → Traced ε φ σ'} {seen : ε → Option γ} {R : σ → σ' → Prop}

/-- **A change of the state that every step commutes with** commutes with every run. -/
theorem run_mapValue {f : σ → σ'} {g : ι → ι}
    (hstep : ∀ s i, step' (f s) (g i) = (step s i).mapValue f) (s : σ) (is : List ι) :
    run step' (f s) (is.map g) = (run step s is).mapValue f := by
  induction is generalizing s with
  | nil => rfl
  | cons i is ih =>
      rw [List.map_cons, run_cons, run_cons, hstep, bind_mapValue, mapValue_bind]
      congr 1
      funext s'
      exact ih s'

/-- **Two runs compared prefix by prefix**: the relation and the steps that have to agree may depend
on the inputs both runs have read. -/
theorem agree_of_prefixes {S : List ι → σ → σ' → Prop} {f : ι → ι} {s : σ} {s' : σ'} {is : List ι}
    (hinit : S [] s s')
    (hstep : ∀ past i s₁ s₁', past ++ [i] <+: is → (run step s past).outcome = .ok s₁ →
      (run step' s' (past.map f)).outcome = .ok s₁' → S past s₁ s₁' →
      Agree seen (S (past ++ [i])) (step s₁ i) (step' s₁' (f i))) :
    Agree seen (S is) (run step s is) (run step' s' (is.map f)) := by
  induction is using List.reverseRecOn with
  | nil => exact agree_pure hinit
  | append_singleton is i ih =>
      have hagree := ih fun past j s₁ s₁' hpre =>
        hstep past j s₁ s₁' (hpre.trans (List.prefix_append is [i]))
      rw [List.map_append]
      cases hs₁ : (run step s is).outcome with
      | error e =>
          -- both runs have stopped before the last input
          have houtcome := hagree.outcome
          rw [hs₁] at houtcome
          cases hs₁' : (run step' s' (is.map f)).outcome with
          | ok s₁' =>
              rw [hs₁'] at houtcome
              exact houtcome.elim
          | error e' =>
              rw [hs₁'] at houtcome
              rw [run_append_of_error hs₁, run_append_of_error hs₁']
              refine ⟨hagree.trace, ?_⟩
              rw [hs₁, hs₁']
              exact houtcome
      | ok s₁ =>
          obtain ⟨s₁', hs₁', hrelated⟩ := hagree.ok hs₁
          obtain ⟨htrace, houtcome⟩ := hstep is i s₁ s₁' (List.prefix_refl _) hs₁ hs₁' hrelated
          rw [run_append_of_ok hs₁, run_append_of_ok hs₁', List.map_singleton, run_singleton,
            run_singleton]
          refine ⟨?_, houtcome⟩
          rw [List.filterMap_append, List.filterMap_append, hagree.trace, htrace]

/-- **The unwinding rule.** Steps on the inputs that are kept agree; steps on the others are not
observed and lead to states that correspond to the same state as before. Then a run that returns is
mirrored by the run on the inputs that are kept. -/
theorem run_filter {keep : ι → Bool}
    (hkeep : ∀ s s' i, R s s' → keep i = true → Agree seen R (step s i) (step' s' i))
    (hdrop : ∀ s s' i s₁, R s s' → keep i = false → (step s i).outcome = .ok s₁ →
      R s₁ s' ∧ (step s i).trace.filterMap seen = [])
    {s s₁ : σ} {s' : σ'} {is : List ι} (hinit : R s s')
    (hrun : (run step s is).outcome = .ok s₁) :
    (∃ s₁', (run step' s' (is.filter keep)).outcome = .ok s₁' ∧ R s₁ s₁') ∧
      (run step s is).trace.filterMap seen =
        (run step' s' (is.filter keep)).trace.filterMap seen := by
  -- induction on the inputs of the longer run; the relation is between the states reached
  induction is generalizing s s' with
  | nil =>
      obtain rfl : s = s₁ := by simpa using hrun
      exact ⟨⟨s', rfl, hinit⟩, rfl⟩
  | cons i is ih =>
      obtain ⟨s₂, hi, his, htrace⟩ := bind_eq_ok (by rw [run_cons] at hrun; exact hrun)
      rw [run_cons, htrace, List.filterMap_append]
      cases hkept : keep i with
      | true =>
          have hagree := hkeep s s' i hinit hkept
          obtain ⟨s₂', hi', hs₂⟩ := hagree.ok hi
          obtain ⟨hreturns, hseen⟩ := ih hs₂ his
          rw [List.filter_cons_of_pos hkept, run_cons_of_ok hi', List.filterMap_append,
            hagree.trace, hseen]
          exact ⟨hreturns, rfl⟩
      | false =>
          -- the shorter run does not move
          obtain ⟨hs₂, hsilent⟩ := hdrop s s' i s₂ hinit hkept hi
          obtain ⟨hreturns, hseen⟩ := ih hs₂ his
          rw [List.filter_cons_of_neg (by simp [hkept]), hsilent, hseen]
          exact ⟨hreturns, rfl⟩

/-- The other way round: when the steps on the inputs taken out always return, the full run returns
as soon as the run on the others does. -/
theorem returns_of_run_filter {keep : ι → Bool}
    (hkeep : ∀ s s' i, R s s' → keep i = true → Agree seen R (step s i) (step' s' i))
    (hdrop : ∀ s s' i, R s s' → keep i = false → ∃ s₁, (step s i).outcome = .ok s₁ ∧ R s₁ s')
    {s : σ} {s' s₁' : σ'} {is : List ι} (hinit : R s s')
    (hrun : (run step' s' (is.filter keep)).outcome = .ok s₁') :
    ∃ s₁, (run step s is).outcome = .ok s₁ := by
  induction is generalizing s s' with
  | nil => exact ⟨s, rfl⟩
  | cons i is ih =>
      cases hkept : keep i with
      | true =>
          rw [List.filter_cons_of_pos hkept, run_cons] at hrun
          obtain ⟨s₂', hi', his', -⟩ := bind_eq_ok hrun
          obtain ⟨s₂, hi, hs₂⟩ := (hkeep s s' i hinit hkept).ok_left hi'
          obtain ⟨s₁, hs₁⟩ := ih hs₂ his'
          rw [run_cons_of_ok hi]
          exact ⟨s₁, hs₁⟩
      | false =>
          obtain ⟨s₂, hi, hs₂⟩ := hdrop s s' i hinit hkept
          rw [List.filter_cons_of_neg (by simp [hkept])] at hrun
          obtain ⟨s₁, hs₁⟩ := ih hs₂ hrun
          rw [run_cons_of_ok hi]
          exact ⟨s₁, hs₁⟩

end Traced
