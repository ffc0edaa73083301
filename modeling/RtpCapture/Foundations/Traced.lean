import Mathlib.Data.List.Basic
import Mathlib.Tactic.Basic

/-! # Traced computations

A **traced computation** emits a list of events and then either returns a value or stops at a
fault; the events emitted before the fault are kept. A *machine* is a step function
`σ → ι → Traced ε φ σ` that is fed a list of inputs (`Traced.run`). Two notions carry every safety
statement about a machine:

* **`Always P l`** — every element of `l` satisfies `P` relative to the elements before it; it is
  used both of traces (`P history event`) and of input lists (`P past input`).
* **`Traced.Ensures P history x Q`** — the triple: every event `x` emits is allowed by `P` after
  `history`, and if `x` returns, the grown history and the value satisfy `Q`. There is one rule for
  each way of building a computation.
* **`Traced.run_always`** — the invariant rule: an invariant that ties the inputs read so far, the
  events emitted so far and the current state, and that every step preserves while emitting only
  events allowed by `P`, makes `P` hold along the whole run, up to the fault if there is one. -/

universe u v w x

/-- **A traced computation**: the events it emits and the value or the fault it ends with. -/
structure Traced (ε : Type u) (φ : Type v) (α : Type w) where
  /-- The events emitted, oldest first. -/
  trace : List ε
  /-- The value returned, or the fault the computation stopped at. -/
  outcome : Except φ α

/-! ## Lists all of whose elements are allowed by what precedes them -/

/-- **Every element is allowed by its history**: `P` holds of each element of `l` together with the
list of the elements before it. -/
def Always {α : Type u} (P : List α → α → Prop) (l : List α) : Prop :=
  ∀ past a rest, l = past ++ a :: rest → P past a

section Always

variable {α : Type u} {P Q : List α → α → Prop}

/-- The empty list has no elements to judge. -/
@[simp] theorem always_nil : Always P [] := by
  intro past a rest h
  simp at h

/-- Appending: the first part is judged on its own, the second after the first. -/
theorem always_append {l₁ l₂ : List α} :
    Always P (l₁ ++ l₂) ↔ Always P l₁ ∧ Always (fun past => P (l₁ ++ past)) l₂ := by
  constructor
  · intro h
    refine ⟨fun past a rest hl => h past a (rest ++ l₂) (by simp [hl]), ?_⟩
    intro past a rest hl
    exact h (l₁ ++ past) a rest (by simp [hl])
  · rintro ⟨h₁, h₂⟩ past a rest hl
    rcases List.append_eq_append_iff.mp hl with ⟨mid, hpast, hl₂⟩ | ⟨mid, hl₁, hrest⟩
    · subst hpast
      exact h₂ mid a rest hl₂
    · cases mid with
      | nil =>
          have hempty := h₂ [] a rest (by simpa using hrest.symm)
          simpa [hl₁] using hempty
      | cons b mid =>
          obtain ⟨rfl, -⟩ : a = b ∧ _ := by simpa using hrest
          exact h₁ past a mid hl₁

/-- A single element is judged by the empty history. -/
@[simp] theorem always_singleton {a : α} : Always P [a] ↔ P [] a := by
  constructor
  · intro h
    exact h [] a [] rfl
  · intro h past b rest hl
    cases past with
    | nil =>
        obtain ⟨rfl, -⟩ : a = b ∧ _ := by simpa using hl
        exact h
    | cons c past => simp at hl

/-- Prepending: the head is judged by the empty history, the tail after the head. -/
theorem always_cons {a : α} {l : List α} :
    Always P (a :: l) ↔ P [] a ∧ Always (fun past => P (a :: past)) l := by
  rw [← List.singleton_append, always_append, always_singleton]
  rfl

/-- Whether every element is allowed by its history is found by going through the list. -/
instance decidableAlways (P : List α → α → Prop) [∀ past a, Decidable (P past a)] :
    ∀ l, Decidable (Always P l)
  | [] => .isTrue always_nil
  | a :: l =>
    have := decidableAlways (fun past => P (a :: past)) l
    decidable_of_iff _ always_cons.symm

/-- A list of equal elements is judged by how many came before. -/
theorem always_replicate {a : α} {k : ℕ} (h : ∀ j, j < k → P (List.replicate j a) a) :
    Always P (List.replicate k a) := by
  intro past b rest hl
  have hlength := congrArg List.length hl
  rw [List.length_replicate, List.length_append, List.length_cons] at hlength
  have hpast : past = List.replicate past.length a :=
    List.eq_replicate_of_mem fun c hc => List.eq_of_mem_replicate (hl ▸ List.mem_append_left _ hc)
  have hmem : b ∈ List.replicate k a := by simp [hl]
  rw [hpast, List.eq_of_mem_replicate hmem]
  exact h _ (by omega)

/-- A weaker requirement holds along every list on which a stronger one does. -/
theorem Always.imp {l : List α} (h : Always P l) (hPQ : ∀ past a, P past a → Q past a) :
    Always Q l :=
  fun past a rest hl => hPQ past a (h past a rest hl)

/-- A requirement that holds of every element after any history holds along the list. -/
theorem always_of_forall {l : List α} (h : ∀ past, ∀ a ∈ l, P past a) : Always P l := by
  intro past a rest hl
  exact h past a (by simp [hl])

/-- A requirement that does not look at the history is a requirement on every element. -/
theorem Always.forall_mem {p : α → Prop} {l : List α} (h : Always (fun _ => p) l) :
    ∀ a ∈ l, p a := by
  intro a ha
  obtain ⟨past, rest, hl⟩ := List.append_of_mem ha
  exact h past a rest hl

end Always

namespace Traced

variable {ε : Type u} {φ : Type v} {α β : Type w}

/-! ## The monad -/

/-- Return a value without emitting anything. -/
def ret (a : α) : Traced ε φ α := ⟨[], .ok a⟩

/-- Stop at a fault. -/
def fault (f : φ) : Traced ε φ α := ⟨[], .error f⟩

/-- Emit one event. -/
def emit (e : ε) : Traced ε φ PUnit := ⟨[e], .ok ⟨⟩⟩

/-- Sequence two computations; nothing is emitted after a fault. -/
def andThen (x : Traced ε φ α) (k : α → Traced ε φ β) : Traced ε φ β :=
  match x.outcome with
  | .ok a => ⟨x.trace ++ (k a).trace, (k a).outcome⟩
  | .error f => ⟨x.trace, .error f⟩

instance : Monad (Traced ε φ) where
  pure := ret
  bind := andThen

/-- Returning emits nothing. -/
@[simp] theorem trace_pure (a : α) : (pure a : Traced ε φ α).trace = [] := rfl

/-- Returning returns. -/
@[simp] theorem outcome_pure (a : α) : (pure a : Traced ε φ α).outcome = .ok a := rfl

/-- A fault emits nothing. -/
@[simp] theorem trace_fault (f : φ) : (fault f : Traced ε φ α).trace = [] := rfl

/-- A fault stops. -/
@[simp] theorem outcome_fault (f : φ) : (fault f : Traced ε φ α).outcome = .error f := rfl

/-- An event is emitted. -/
@[simp] theorem trace_emit (e : ε) : (emit e : Traced ε φ PUnit).trace = [e] := rfl

/-- Emitting returns. -/
@[simp] theorem outcome_emit (e : ε) : (emit e : Traced ε φ PUnit).outcome = .ok ⟨⟩ := rfl

/-- Returning and continuing is continuing. -/
@[simp] theorem pure_bind (a : α) (k : α → Traced ε φ β) : (pure a >>= k) = k a := by
  show andThen (ret a) k = k a
  simp [andThen, ret]

/-- A fault ends the computation. -/
@[simp] theorem fault_bind (f : φ) (k : α → Traced ε φ β) : (fault f >>= k) = fault f := rfl

/-- Emitting an event and continuing puts the event in front of the trace. -/
@[simp] theorem emit_bind (e : ε) (k : PUnit → Traced ε φ β) :
    (emit e >>= k) = ⟨e :: (k ⟨⟩).trace, (k ⟨⟩).outcome⟩ := rfl

/-- Continuing after a computation that is known to return. -/
@[simp] theorem ok_bind (t : List ε) (a : α) (k : α → Traced ε φ β) :
    ((⟨t, .ok a⟩ : Traced ε φ α) >>= k) = ⟨t ++ (k a).trace, (k a).outcome⟩ := rfl

/-- The trace of a sequence whose first part returns. -/
theorem bind_of_ok {x : Traced ε φ α} {a : α} (h : x.outcome = .ok a) (k : α → Traced ε φ β) :
    (x >>= k) = ⟨x.trace ++ (k a).trace, (k a).outcome⟩ := by
  show andThen x k = _
  simp [andThen, h]

/-- The trace of a sequence whose first part stops. -/
theorem bind_of_error {x : Traced ε φ α} {f : φ} (h : x.outcome = .error f)
    (k : α → Traced ε φ β) : (x >>= k) = ⟨x.trace, .error f⟩ := by
  show andThen x k = _
  simp [andThen, h]

/-- What the first part emits is emitted by the sequence. -/
theorem mem_trace_bind_left {x : Traced ε φ α} {k : α → Traced ε φ β} {e : ε}
    (h : e ∈ x.trace) : e ∈ (x >>= k).trace := by
  cases hx : x.outcome with
  | ok a =>
      rw [bind_of_ok hx]
      exact List.mem_append_left _ h
  | error f =>
      rw [bind_of_error hx]
      exact h

/-- **Inversion of a sequence that returns**: both parts return, and the traces are appended. -/
theorem bind_eq_ok {x : Traced ε φ α} {k : α → Traced ε φ β} {b : β}
    (h : (x >>= k).outcome = .ok b) :
    ∃ a, x.outcome = .ok a ∧ (k a).outcome = .ok b ∧
      (x >>= k).trace = x.trace ++ (k a).trace := by
  cases hx : x.outcome with
  | ok a =>
      rw [bind_of_ok hx] at h
      exact ⟨a, rfl, h, by rw [bind_of_ok hx]⟩
  | error f =>
      rw [bind_of_error hx] at h
      cases h

/-! ## Computations of a component -/

/-- **A component's computation** seen from the system around it: its events and its faults are
translated. -/
def hoist {ε' : Type u} {φ' : Type v} (f : ε → ε') (g : φ → φ') (x : Traced ε φ α) :
    Traced ε' φ' α :=
  ⟨x.trace.map f, x.outcome.mapError g⟩

/-- **A fault that is caught**: the computation that stops at `f` returns nothing instead. -/
def catching [DecidableEq φ] (f : φ) (x : Traced ε φ α) : Traced ε φ (Option α) :=
  match x.outcome with
  | .ok a => ⟨x.trace, .ok (some a)⟩
  | .error g => if g = f then ⟨x.trace, .ok none⟩ else ⟨x.trace, .error g⟩

section Catching

variable [DecidableEq φ] {f g : φ} {x : Traced ε φ α}

/-- What was emitted before the fault is kept. -/
@[simp] theorem trace_catching : (x.catching f).trace = x.trace := by
  unfold catching
  split
  · rfl
  · split <;> rfl

/-- A computation that returns. -/
theorem catching_of_ok {a : α} (h : x.outcome = .ok a) :
    x.catching f = ⟨x.trace, .ok (some a)⟩ := by
  rw [catching, h]

/-- A computation that stops at the fault. -/
theorem catching_of_caught (h : x.outcome = .error f) : x.catching f = ⟨x.trace, .ok none⟩ := by
  rw [catching, h]
  exact if_pos rfl

/-- A computation that stops at another fault. -/
theorem catching_of_error (h : x.outcome = .error g) (hne : g ≠ f) :
    x.catching f = ⟨x.trace, .error g⟩ := by
  rw [catching, h]
  exact if_neg hne

end Catching

/-! ## Pre- and postconditions -/

/-- **The triple** of a computation that starts after the events `history`. -/
def Ensures (P : List ε → ε → Prop) (history : List ε) (x : Traced ε φ α)
    (Q : List ε → α → Prop) : Prop :=
  Always (fun pre => P (history ++ pre)) x.trace ∧
    ∀ a, x.outcome = .ok a → Q (history ++ x.trace) a

section Ensures

variable {P : List ε → ε → Prop} {history : List ε} {Q R : List ε → α → Prop}

/-- Returning ensures what holds already. -/
theorem ensures_pure {a : α} (h : Q history a) : Ensures P history (pure a : Traced ε φ α) Q :=
  ⟨by simp, fun b hb => by
    obtain rfl : a = b := by simpa using hb
    simpa using h⟩

/-- A fault ensures everything of the values returned. -/
theorem ensures_fault (f : φ) : Ensures P history (fault f : Traced ε φ α) Q :=
  ⟨by simp, fun b hb => by simp at hb⟩

/-- Emitting an event needs the event to be allowed. -/
theorem ensures_emit {e : ε} {Q : List ε → PUnit → Prop} (he : P history e)
    (h : Q (history ++ [e]) ⟨⟩) : Ensures P history (emit e : Traced ε φ PUnit) Q :=
  ⟨by simpa [emit] using he, fun _ _ => h⟩

/-- **The rule of sequence.** -/
theorem Ensures.bind {x : Traced ε φ α} {k : α → Traced ε φ β} {S : List ε → β → Prop}
    (hx : Ensures P history x Q) (hk : ∀ grown a, Q grown a → Ensures P grown (k a) S) :
    Ensures P history (x >>= k) S := by
  cases hout : x.outcome with
  | error f =>
      rw [bind_of_error hout]
      exact ⟨hx.1, fun b hb => by cases hb⟩
  | ok a =>
      obtain ⟨hallowed, hpost⟩ := hk _ a (hx.2 a hout)
      rw [bind_of_ok hout]
      refine ⟨always_append.mpr ⟨hx.1, ?_⟩, ?_⟩
      · simpa [List.append_assoc] using hallowed
      · intro b hb
        simpa [List.append_assoc] using hpost b hb

/-- Events in front of a computation. -/
theorem ensures_trace_append {x : Traced ε φ α} {t : List ε}
    (ht : Always (fun pre => P (history ++ pre)) t) (hx : Ensures P (history ++ t) x Q) :
    Ensures P history ⟨t ++ x.trace, x.outcome⟩ Q := by
  refine ⟨always_append.mpr ⟨ht, ?_⟩, fun a ha => ?_⟩
  · simpa [List.append_assoc] using hx.1
  · simpa [List.append_assoc] using hx.2 a ha

/-- Emitting an event and continuing. -/
theorem ensures_emit_bind {e : ε} {k : PUnit → Traced ε φ β} {S : List ε → β → Prop}
    (he : P history e) (hk : Ensures P (history ++ [e]) (k ⟨⟩) S) :
    Ensures P history (emit e >>= k) S :=
  (ensures_emit (Q := fun grown _ => grown = history ++ [e]) he rfl).bind
    fun _ _ hgrown => hgrown ▸ hk

/-- Emitting an event and returning. -/
theorem ensures_emit_pure {e : ε} {a : α} (he : P history e) (h : Q (history ++ [e]) a) :
    Ensures P history (⟨[e], .ok a⟩ : Traced ε φ α) Q :=
  ensures_emit_bind (k := fun _ => pure a) he (ensures_pure h)

/-- The rule of consequence. -/
theorem Ensures.imp {x : Traced ε φ α} (h : Ensures P history x Q)
    (hQ : ∀ grown a, Q grown a → R grown a) : Ensures P history x R :=
  ⟨h.1, fun a ha => hQ _ a (h.2 a ha)⟩

/-- **The rule of conjunction**: the postcondition of another triple may be added. -/
theorem Ensures.and {P' : List ε → ε → Prop} {x : Traced ε φ α} (h : Ensures P history x Q)
    (h' : Ensures P' history x R) :
    Ensures P history x (fun grown a => Q grown a ∧ R grown a) :=
  ⟨h.1, fun a ha => ⟨h.2 a ha, h'.2 a ha⟩⟩

end Ensures

/-- **What a computation stops with**: `F` holds of the fault and the events before it. -/
structure StopsWith (F : List ε → φ → Prop) (history : List ε) (x : Traced ε φ α) : Prop where
  stops : ∀ f, x.outcome = .error f → F (history ++ x.trace) f

section StopsWith

variable {F : List ε → φ → Prop} {history : List ε}

/-- A computation that returns does not stop. -/
theorem stopsWith_of_ok {x : Traced ε φ α} {a : α} (h : x.outcome = .ok a) :
    StopsWith F history x := by
  refine ⟨fun f hf => ?_⟩
  rw [h] at hf
  cases hf

/-- A fault stops with itself. -/
theorem stopsWith_fault {f : φ} (h : F history f) :
    StopsWith F history (fault f : Traced ε φ α) := by
  refine ⟨fun f' hf' => ?_⟩
  obtain rfl := Except.error.inj hf'
  rwa [trace_fault, List.append_nil]

/-- The rule of sequence: the second part is asked after what the first has emitted. -/
theorem StopsWith.bind {x : Traced ε φ α} {k : α → Traced ε φ β} (hx : StopsWith F history x)
    (hk : ∀ a, x.outcome = .ok a → StopsWith F (history ++ x.trace) (k a)) :
    StopsWith F history (x >>= k) := by
  refine ⟨fun f hf => ?_⟩
  cases hout : x.outcome with
  | error f' =>
      rw [bind_of_error hout] at hf ⊢
      obtain rfl := Except.error.inj hf
      exact hx.stops f' hout
  | ok a =>
      rw [bind_of_ok hout] at hf ⊢
      rw [← List.append_assoc]
      exact (hk a hout).stops f hf

/-- Emitting an event and continuing. -/
theorem stopsWith_emit_bind {e : ε} {k : PUnit → Traced ε φ β}
    (hk : StopsWith F (history ++ [e]) (k ⟨⟩)) : StopsWith F history (emit e >>= k) :=
  StopsWith.bind (stopsWith_of_ok (outcome_emit e)) fun _ _ => hk

end StopsWith

/-- **The ways a computation can end**: it stops before it emits anything, or emits `es` and returns
`a` with `R es a`. -/
def EndsIn (x : Traced ε φ α) (R : List ε → α → Prop) : Prop :=
  (∃ f, x = fault f) ∨ ∃ es a, x = ⟨es, .ok a⟩ ∧ R es a

/-- What holds of a computation that stops at once, and of each way to return. -/
theorem EndsIn.elim {x : Traced ε φ α} {R : List ε → α → Prop} {motive : Traced ε φ α → Prop}
    (hx : x.EndsIn R) (hfault : ∀ f, motive (fault f))
    (hok : ∀ es a, R es a → motive ⟨es, .ok a⟩) : motive x := by
  rcases hx with ⟨f, rfl⟩ | ⟨es, a, rfl, hR⟩
  · exact hfault f
  · exact hok es a hR

/-- A computation that returns a value has the events that go with it. -/
theorem EndsIn.exists_ok {x : Traced ε φ α} {R : List ε → α → Prop} (hx : x.EndsIn R) {a : α}
    (h : x.outcome = .ok a) : ∃ es, x = ⟨es, .ok a⟩ ∧ R es a := by
  rcases hx with ⟨f, rfl⟩ | ⟨es, b, rfl, hR⟩
  · cases h
  · obtain rfl := Except.ok.inj h
    exact ⟨es, rfl, hR⟩

/-- **The triple of a computation** is one for each way it can end. -/
theorem EndsIn.ensures {x : Traced ε φ α} {R Q : List ε → α → Prop} (hx : x.EndsIn R)
    {P : List ε → ε → Prop} {history : List ε}
    (h : ∀ es a, R es a → Ensures P history (⟨es, .ok a⟩ : Traced ε φ α) Q) :
    Ensures P history x Q :=
  hx.elim (motive := fun x => Ensures P history x Q) ensures_fault h

/-! ## Machines -/

variable {σ : Type w} {ι : Type x}

/-- **Run a machine** on a list of inputs, stopping at the first fault. -/
def run (step : σ → ι → Traced ε φ σ) : σ → List ι → Traced ε φ σ
  | s, [] => pure s
  | s, i :: is => step s i >>= fun s' => run step s' is

/-- A run on no inputs. -/
@[simp] theorem run_nil (step : σ → ι → Traced ε φ σ) (s : σ) : run step s [] = pure s := rfl

/-- A run takes the first step and goes on from where it leads. -/
theorem run_cons (step : σ → ι → Traced ε φ σ) (s : σ) (i : ι) (is : List ι) :
    run step s (i :: is) = step s i >>= fun s' => run step s' is := rfl

/-- A run of the machine that reads its inputs through `f`. -/
theorem run_map {κ : Type x} (step : σ → ι → Traced ε φ σ) (f : κ → ι) (s : σ) (is : List κ) :
    run step s (is.map f) = run (fun s i => step s (f i)) s is := by
  induction is generalizing s with
  | nil => rfl
  | cons i is ih =>
      rw [List.map_cons, run_cons, run_cons]
      congr 1
      funext s'
      exact ih s'

/-- A run on one input is a step. -/
@[simp] theorem run_singleton (step : σ → ι → Traced ε φ σ) (s : σ) (i : ι) :
    run step s [i] = step s i := by
  rw [run_cons]
  cases hi : (step s i).outcome with
  | error e => rw [bind_of_error hi, ← hi]
  | ok s' =>
      rw [bind_of_ok hi, run_nil, trace_pure, outcome_pure, List.append_nil, ← hi]

/-- The run on a list that starts with a step that returns. -/
theorem run_cons_of_ok {step : σ → ι → Traced ε φ σ} {s s' : σ} {i : ι}
    (h : (step s i).outcome = .ok s') (is : List ι) :
    run step s (i :: is) = ⟨(step s i).trace ++ (run step s' is).trace,
      (run step s' is).outcome⟩ := by
  rw [run_cons, bind_of_ok h]

/-- Running on an appended list is running on the second part after the first. -/
theorem run_append_of_ok {step : σ → ι → Traced ε φ σ} {s s' : σ} {is : List ι}
    (h : (run step s is).outcome = .ok s') (js : List ι) :
    run step s (is ++ js) = ⟨(run step s is).trace ++ (run step s' js).trace,
      (run step s' js).outcome⟩ := by
  induction is generalizing s with
  | nil =>
      obtain rfl : s = s' := by simpa using h
      simp
  | cons i is ih =>
      obtain ⟨s₁, hi, his, htrace⟩ := bind_eq_ok (by rw [run_cons] at h; exact h)
      rw [List.cons_append, run_cons_of_ok hi, run_cons_of_ok hi, ih his]
      simp

/-- A run that has stopped reads no further input. -/
theorem run_append_of_error {step : σ → ι → Traced ε φ σ} {s : σ} {is : List ι} {f : φ}
    (h : (run step s is).outcome = .error f) (js : List ι) :
    run step s (is ++ js) = run step s is := by
  induction is generalizing s with
  | nil => cases h
  | cons i is ih =>
      rw [List.cons_append, run_cons, run_cons]
      cases hi : (step s i).outcome with
      | error e => rw [bind_of_error hi, bind_of_error hi]
      | ok s' =>
          rw [run_cons_of_ok hi] at h
          rw [bind_of_ok hi, bind_of_ok hi, ih h]

/-- The last step of a run that goes on. -/
theorem exists_of_run_concat {step : σ → ι → Traced ε φ σ} {s s' : σ} {is : List ι} {i : ι}
    (h : (run step s (is ++ [i])).outcome = .ok s') :
    ∃ s₁, (run step s is).outcome = .ok s₁ ∧ (step s₁ i).outcome = .ok s' ∧
      (run step s (is ++ [i])).trace = (run step s is).trace ++ (step s₁ i).trace := by
  cases hbefore : (run step s is).outcome with
  | ok s₁ =>
      rw [run_append_of_ok hbefore, run_singleton] at h ⊢
      exact ⟨s₁, rfl, h, rfl⟩
  | error f =>
      rw [run_append_of_error hbefore, hbefore] at h
      cases h

/-- **The invariant rule.** `Inv past history s` ties the inputs read, the events emitted and the
state; each step taken on an input allowed by `Cond` preserves it and emits only events allowed by
`P`. Then so does a whole run on inputs allowed by `Cond`. -/
theorem run_always {step : σ → ι → Traced ε φ σ} (Inv : List ι → List ε → σ → Prop)
    (Cond : List ι → ι → Prop) {P : List ε → ε → Prop}
    (hstep : ∀ past history s i, Inv past history s → Cond past i →
      Ensures P history (step s i) (Inv (past ++ [i])))
    {s : σ} (hinit : Inv [] [] s) {is : List ι} (hcond : Always Cond is) :
    Ensures P [] (run step s is) (Inv is) := by
  -- induction on the inputs that are left, for every past that keeps the invariant
  suffices key : ∀ (is past : List ι) (history : List ε) (s : σ),
      Inv past history s → Always (fun earlier => Cond (past ++ earlier)) is →
      Ensures P history (run step s is) (Inv (past ++ is)) by
    simpa using key is [] [] s hinit (by simpa using hcond)
  intro is
  induction is with
  | nil =>
      intro past history s hinv _
      exact ensures_pure (by simpa using hinv)
  | cons i is ih =>
      intro past history s hinv hcond
      rw [always_cons] at hcond
      rw [run_cons]
      refine (hstep past history s i hinv (by simpa using hcond.1)).bind ?_
      intro grown s₁ hinv₁
      have hrest := ih (past ++ [i]) grown s₁ hinv₁ (by simpa using hcond.2)
      simpa using hrest

/-- **A run stops with what one of its steps stops with**, from a state with the invariant. -/
theorem run_stopsWith {step : σ → ι → Traced ε φ σ} {F : List ε → φ → Prop} {Inv : σ → Prop}
    (hstep : ∀ history s i, Inv s → StopsWith F history (step s i))
    (hinv : ∀ s s' i, Inv s → (step s i).outcome = .ok s' → Inv s') (history : List ε) {s : σ}
    (h : Inv s) (is : List ι) : StopsWith F history (run step s is) := by
  induction is generalizing history s with
  | nil => exact stopsWith_of_ok rfl
  | cons i is ih =>
      rw [run_cons]
      exact (hstep history s i h).bind fun s' hs' => ih _ (hinv s s' i h hs')

/-- The invariant rule for an invariant that does not look at the inputs. -/
theorem run_invariant {step : σ → ι → Traced ε φ σ} (Inv : List ε → σ → Prop)
    {P : List ε → ε → Prop}
    (hstep : ∀ history s i, Inv history s → Ensures P history (step s i) Inv)
    {s : σ} (hinit : Inv [] s) (is : List ι) : Ensures P [] (run step s is) Inv :=
  run_always (fun _ => Inv) (fun _ _ => True)
    (fun _ history s i hinv _ => hstep history s i hinv) hinit (fun _ _ _ _ => trivial)

/-- Whether a computation returns a value with a property is found by running it. -/
instance decidableReturns (x : Traced ε φ α) (p : α → Prop) [DecidablePred p] :
    Decidable (∃ a, x.outcome = .ok a ∧ p a) :=
  decidable_of_iff ((x.outcome.toOption.any fun a => decide (p a)) = true) (by
    cases x.outcome <;> simp [Except.toOption])

/-- **Reachable states**: those a machine can be in after some list of inputs. -/
def Reaches (step : σ → ι → Traced ε φ σ) (s : σ) (s' : σ) : Prop :=
  ∃ is, (run step s is).outcome = .ok s'

/-- A state reaches itself. -/
theorem Reaches.refl (step : σ → ι → Traced ε φ σ) (s : σ) : Reaches step s s := ⟨[], rfl⟩

/-- One more step. -/
theorem Reaches.step {step : σ → ι → Traced ε φ σ} {s s₁ s₂ : σ} {i : ι}
    (h : Reaches step s s₁) (hi : (step s₁ i).outcome = .ok s₂) : Reaches step s s₂ := by
  obtain ⟨is, his⟩ := h
  refine ⟨is ++ [i], ?_⟩
  rw [run_append_of_ok his, run_cons_of_ok hi]
  rfl

/-- **The reachability rule**: a state invariant preserved by every step holds of every reachable
state. -/
theorem Reaches.invariant {step : σ → ι → Traced ε φ σ} (Inv : σ → Prop)
    (hstep : ∀ s i s', Inv s → (step s i).outcome = .ok s' → Inv s')
    {s s' : σ} (hreach : Reaches step s s') (hinit : Inv s) : Inv s' := by
  obtain ⟨is, his⟩ := hreach
  refine (run_invariant (fun _ => Inv) (P := fun _ _ => True) ?_ hinit is).2 s' his
  intro history s i hinv
  exact ⟨fun _ _ _ _ => trivial, fun s' h => hstep s i s' hinv h⟩

/-- **Every step of a run meets a condition** on the state it is taken in and its input. -/
def StepsMeet (step : σ → ι → Traced ε φ σ) (C : σ → ι → Prop) : σ → List ι → Prop
  | _, [] => True
  | s, i :: is => C s i ∧ ∀ s', (step s i).outcome = .ok s' → StepsMeet step C s' is

/-- Whether every value that a computation returns has a property is found by running it. -/
instance decidableForallReturns (x : Traced ε φ α) (p : α → Prop) [DecidablePred p] :
    Decidable (∀ a, x.outcome = .ok a → p a) :=
  decidable_of_iff ((x.outcome.toOption.all fun a => decide (p a)) = true) (by
    cases x.outcome <;> simp [Except.toOption])

/-- Whether the steps of a run meet a condition is found by running it. -/
instance decidableStepsMeet (step : σ → ι → Traced ε φ σ) (C : σ → ι → Prop)
    [∀ s i, Decidable (C s i)] : ∀ (s : σ) (is : List ι), Decidable (StepsMeet step C s is)
  | _, [] => inferInstanceAs (Decidable True)
  | s, i :: is =>
    have : DecidablePred fun s' => StepsMeet step C s' is :=
      fun s' => decidableStepsMeet step C s' is
    inferInstanceAs (Decidable (C s i ∧
      ∀ s', (step s i).outcome = .ok s' → StepsMeet step C s' is))

/-- **The invariant rule under a condition**: an invariant that the steps which meet the condition
preserve holds at the end of every run made of such steps. -/
theorem StepsMeet.invariant {step : σ → ι → Traced ε φ σ} {C : σ → ι → Prop} (Inv : σ → Prop)
    (hstep : ∀ s i s', Inv s → C s i → (step s i).outcome = .ok s' → Inv s')
    {s s' : σ} {is : List ι} (h : StepsMeet step C s is) (hinit : Inv s)
    (hrun : (run step s is).outcome = .ok s') : Inv s' := by
  induction is generalizing s with
  | nil =>
      obtain rfl : s = s' := by simpa using hrun
      exact hinit
  | cons i is ih =>
      obtain ⟨s₁, hi, his, -⟩ := bind_eq_ok (by rw [run_cons] at hrun; exact hrun)
      exact ih (h.2 s₁ hi) (hstep s i s₁ hinit h.1 hi) his

/-- The steps of two runs one after the other. -/
theorem stepsMeet_append {step : σ → ι → Traced ε φ σ} {C : σ → ι → Prop} {s s' : σ} {is : List ι}
    (h : (run step s is).outcome = .ok s') (js : List ι) :
    StepsMeet step C s (is ++ js) ↔ StepsMeet step C s is ∧ StepsMeet step C s' js := by
  induction is generalizing s with
  | nil =>
      obtain rfl : s = s' := by simpa using h
      exact (iff_of_eq (true_and _)).symm
  | cons i is ih =>
      obtain ⟨s₁, hi, his, -⟩ := bind_eq_ok (by rw [run_cons] at h; exact h)
      -- the rest of the first run starts in the one state the step leaves
      have hrest : ∀ is', (∀ s₂, (step s i).outcome = .ok s₂ → StepsMeet step C s₂ is') ↔
          StepsMeet step C s₁ is' := by
        intro is'
        constructor
        · exact fun hmeets => hmeets s₁ hi
        · intro hmeets s₂ hs₂
          obtain rfl := Except.ok.inj (hi.symm.trans hs₂)
          exact hmeets
      rw [List.cons_append, StepsMeet, StepsMeet, hrest, hrest, ih his, and_assoc]

/-- **Steps that meet a condition meet another one** that an invariant of theirs yields. -/
theorem StepsMeet.imp {step : σ → ι → Traced ε φ σ} {C D : σ → ι → Prop} (Inv : σ → Prop)
    (hstep : ∀ s i s', Inv s → C s i → (step s i).outcome = .ok s' → Inv s')
    (hD : ∀ s i, Inv s → C s i → D s i) {s : σ} {is : List ι} (h : StepsMeet step C s is)
    (hinit : Inv s) : StepsMeet step D s is := by
  induction is generalizing s with
  | nil => trivial
  | cons i is ih =>
      exact ⟨hD s i hinit h.1, fun s' hs' => ih (h.2 s' hs') (hstep s i s' hinit h.1 hs')⟩

/-- The invariant rule under a condition, for what the steps emit. -/
theorem StepsMeet.ensures {step : σ → ι → Traced ε φ σ} {C : σ → ι → Prop}
    (Inv : List ε → σ → Prop) {P : List ε → ε → Prop}
    (hstep : ∀ history s i, Inv history s → C s i → Ensures P history (step s i) Inv)
    {s : σ} {is : List ι} (h : StepsMeet step C s is) {history : List ε} (hinit : Inv history s) :
    Ensures P history (run step s is) Inv := by
  -- induction on the inputs; the condition is asked of each state as it is reached
  induction is generalizing s history with
  | nil => exact ensures_pure hinit
  | cons i is ih =>
      have hi := hstep history s i hinit h.1
      rw [run_cons]
      cases houtcome : (step s i).outcome with
      | error f =>
          rw [bind_of_error houtcome]
          exact ⟨hi.1, fun _ hb => by cases hb⟩
      | ok s₁ =>
          rw [bind_of_ok houtcome]
          exact ensures_trace_append hi.1 (ih (h.2 s₁ houtcome) (hi.2 s₁ houtcome))

end Traced
