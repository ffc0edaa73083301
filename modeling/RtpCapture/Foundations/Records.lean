import Mathlib.Data.List.Basic
import Mathlib.Data.List.TakeDrop
import Mathlib.Tactic.Basic

/-! # Streams of records

A stream of records is the concatenation of their encodings. A reader takes one record off its state
with every call, or fails; `rest` says what of the stream a state has still ahead.

* **`stream`** — the concatenation.
* **`readAll`** — calling a reader until it fails.
* **`Takes`** — the reader takes a whole record off; `readAll_stream` is the rule for many of them.
* **`Cuts`** — how the reader deals with a record cut short: it takes the record when at least the
  first `need` elements of it are there. `readAll_take` says what is read of a stream cut anywhere.
* **`Shrinks`** — every record taken uses something up; then `readAll_ends`. -/

namespace Records

universe u

variable {α β ε ρ σ : Type u}

/-! ## Steps of a computation -/

/-- The state a computation has reached, whether it has succeeded or failed. -/
def after : EStateM.Result ε σ α → σ
  | .ok _ s => s
  | .error _ s => s

section Steps

variable {x : EStateM ε σ α} {s s' : σ} {a : α} {e : ε}

/-- A computation goes on behind a value. -/
theorem bind_ok (f : α → EStateM ε σ β) (h : x s = .ok a s') : (x >>= f) s = f a s' := by
  change EStateM.bind x f s = _
  rw [EStateM.bind, h]

/-- A computation ends with a failure. -/
theorem bind_error (f : α → EStateM ε σ β) (h : x s = .error e s') : (x >>= f) s = .error e s' := by
  change EStateM.bind x f s = _
  rw [EStateM.bind, h]

/-- A computation that succeeds has succeeded in both parts. -/
theorem of_bind_ok {f : α → EStateM ε σ β} {b : β} (h : (x >>= f) s = .ok b s') :
    ∃ a t, x s = .ok a t ∧ f a t = .ok b s' := by
  change EStateM.bind x f s = _ at h
  rw [EStateM.bind] at h
  split at h
  · rename_i a t hx
    exact ⟨a, t, hx, h⟩
  · cases h

end Steps

/-! ## Streams -/

variable {encode : ρ → List β}

/-- **The stream of some records.** -/
def stream (encode : ρ → List β) (rs : List ρ) : List β := rs.flatMap encode

/-- No records are no bytes. -/
@[simp] theorem stream_nil : stream encode [] = [] := rfl

/-- The bytes of the first record come first. -/
@[simp] theorem stream_cons (r : ρ) (rs : List ρ) :
    stream encode (r :: rs) = encode r ++ stream encode rs := rfl

/-- The bytes of some records and then of others. -/
@[simp] theorem stream_append (rs ss : List ρ) :
    stream encode (rs ++ ss) = stream encode rs ++ stream encode ss := List.flatMap_append

/-- **Read until a call fails**, with at most `n` calls; `next k` is the call with `k` calls left. The
result is the records and the failure, or no failure when the calls are used up. -/
def readAll (next : ℕ → EStateM ε σ ρ) : ℕ → σ → List ρ × Option ε
  | 0, _ => ([], none)
  | n + 1, s =>
      match next n s with
      | .ok r s' => (r :: (readAll next n s').1, (readAll next n s').2)
      | .error e _ => ([], some e)

section Reading

variable {next : ℕ → EStateM ε σ ρ} {ready : σ → Prop} {rest : σ → List β} {P : ρ → Prop}
  {s s' : σ} {r : ρ}

/-- A record that can be read is the first of those that are. -/
theorem readAll_of_ok {n : ℕ} (h : next n s = .ok r s') :
    readAll next (n + 1) s = (r :: (readAll next n s').1, (readAll next n s').2) := by
  rw [readAll, h]

/-- At an error the reading ends. -/
theorem readAll_of_error {n : ℕ} {e : ε} (h : next n s = .error e s') :
    readAll next (n + 1) s = ([], some e) := by
  rw [readAll, h]

/-- **Whole records are taken off** in the states that are `ready`, for the records with `P`. -/
def Takes (next : ℕ → EStateM ε σ ρ) (ready : σ → Prop) (rest : σ → List β) (encode : ρ → List β)
    (P : ρ → Prop) : Prop :=
  ∀ k s r tail, ready s → P r → rest s = encode r ++ tail →
    ∃ s', next k s = .ok r s' ∧ ready s' ∧ rest s' = tail

/-- **Reading a stream**, whatever is behind it. -/
theorem readAll_stream (htakes : Takes next ready rest encode P) {rs : List ρ}
    (hrs : ∀ r ∈ rs, P r) {tail : List β} (hready : ready s)
    (h : rest s = stream encode rs ++ tail) (n : ℕ) :
    ∃ s', ready s' ∧ rest s' = tail ∧ readAll next (rs.length + n) s =
      (rs ++ (readAll next n s').1, (readAll next n s').2) := by
  induction rs generalizing s with
  | nil => exact ⟨s, hready, h, by simp⟩
  | cons r rs ih =>
      rw [stream_cons, List.append_assoc] at h
      obtain ⟨s₁, hnext, hready₁, hrest⟩ :=
        htakes (rs.length + n) s r _ hready (hrs r List.mem_cons_self) h
      obtain ⟨s', hready', htail, hread⟩ :=
        ih (fun r' hr' => hrs r' (List.mem_cons_of_mem r hr')) hready₁ hrest
      refine ⟨s', hready', htail, ?_⟩
      rw [List.length_cons, Nat.add_right_comm, readAll_of_ok hnext, hread]
      rfl

/-- The records of a stream are the first ones read of it. -/
theorem prefix_readAll (htakes : Takes next ready rest encode P) {rs : List ρ}
    (hrs : ∀ r ∈ rs, P r) {tail : List β} (hready : ready s)
    (h : rest s = stream encode rs ++ tail) {n : ℕ} (hn : rs.length ≤ n) :
    rs <+: (readAll next n s).1 := by
  obtain ⟨m, rfl⟩ := Nat.exists_eq_add_of_le hn
  obtain ⟨s', -, -, hread⟩ := readAll_stream htakes hrs hready h m
  rw [hread]
  exact List.prefix_append _ _

/-! ## Streams cut short -/

/-- **How a record cut short is read**: it is taken off when its first `need` elements are there, and
the reading ends with `eof` when not. -/
structure Cuts (next : ℕ → EStateM ε σ ρ) (ready : σ → Prop) (rest : σ → List β)
    (encode : ρ → List β) (P : ρ → Prop) (need : ρ → ℕ) (eof : ε) : Prop where
  pos : ∀ r, P r → 0 < need r
  le_length : ∀ r, P r → need r ≤ (encode r).length
  taken : ∀ k s r j, ready s → P r → rest s = (encode r).take j → need r ≤ j →
    ∃ s', next k s = .ok r s' ∧ ready s' ∧ rest s' = []
  ended : ∀ k s r j, ready s → P r → rest s = (encode r).take j → j < need r →
    ∃ s', next k s = .error eof s'
  empty : ∀ k s, ready s → rest s = [] → ∃ s', next k s = .error eof s'

variable {need : ρ → ℕ} {eof : ε}

/-- **A stream cut anywhere**: the records read are the first `m`, where a record is among them when
the cut keeps what is needed of it. -/
theorem readAll_take (htakes : Takes next ready rest encode P)
    (hcuts : Cuts next ready rest encode P need eof) {rs : List ρ} (hrs : ∀ r ∈ rs, P r) {k n : ℕ}
    (hready : ready s) (h : rest s = (stream encode rs).take k) (hn : rs.length < n) :
    ∃ m, readAll next n s = (rs.take m, some eof) ∧ ∀ i (hi : i < rs.length),
      i < m ↔ (stream encode (rs.take i)).length + need rs[i] ≤ k := by
  induction rs generalizing s k n with
  | nil =>
      obtain ⟨n, rfl⟩ := Nat.exists_eq_add_of_le' hn
      obtain ⟨s', hnext⟩ := hcuts.empty n s hready (by simpa using h)
      refine ⟨0, readAll_of_error hnext, fun i hi => absurd hi (Nat.not_lt_zero i)⟩
  | cons r rs ih =>
      obtain ⟨n, rfl⟩ := Nat.exists_eq_add_of_le' (Nat.one_le_of_lt hn)
      have hr : P r := hrs r List.mem_cons_self
      rw [stream_cons, List.take_append] at h
      rcases Nat.lt_or_ge k (need r) with hk | hk
      case inl =>
        -- The cut leaves too little of the first record.
        have hle := hcuts.le_length r hr
        rw [Nat.sub_eq_zero_of_le (by omega), List.take_zero, List.append_nil] at h
        obtain ⟨s', hnext⟩ := hcuts.ended n s r k hready hr h hk
        refine ⟨0, readAll_of_error hnext, fun i hi => ⟨fun h0 => absurd h0 (Nat.not_lt_zero i), ?_⟩⟩
        intro hkept
        cases i with
        | zero =>
            simp only [List.take_zero, stream_nil, List.length_nil, List.getElem_cons_zero] at hkept
            omega
        | succ i =>
            simp only [List.take_succ_cons, stream_cons, List.length_append] at hkept
            omega
      case inr =>
        -- The first record is taken off, and the rest of the stream is cut as much shorter.
        obtain ⟨s₁, hnext, hready₁, hrest⟩ : ∃ s₁, next n s = .ok r s₁ ∧ ready s₁ ∧
            rest s₁ = (stream encode rs).take (k - (encode r).length) := by
          rcases Nat.lt_or_ge k (encode r).length with hlt | hge
          · rw [Nat.sub_eq_zero_of_le (Nat.le_of_lt hlt), List.take_zero] at h ⊢
            exact hcuts.taken n s r k hready hr (by simpa using h) hk
          · rw [List.take_of_length_le hge] at h
            exact htakes n s r _ hready hr h
        obtain ⟨m, hread, hm⟩ := ih (fun r' hr' => hrs r' (List.mem_cons_of_mem r hr')) hready₁
          hrest (Nat.lt_of_succ_lt_succ hn)
        refine ⟨m + 1, ?_, fun i hi => ?_⟩
        · rw [readAll_of_ok hnext, hread]
          rfl
        · cases i with
          | zero =>
              simpa using hk
          | succ i =>
              have hi' : i < rs.length := Nat.lt_of_succ_lt_succ hi
              have hneed := hcuts.pos _ (hrs rs[i] (List.mem_cons_of_mem r (List.getElem_mem hi')))
              rw [Nat.add_lt_add_iff_right, hm i hi']
              simp only [List.take_succ_cons, stream_cons, List.length_append,
                List.getElem_cons_succ]
              omega

/-! ## The end of a reading -/

/-- **Every record taken uses something up.** -/
def Shrinks (next : ℕ → EStateM ε σ ρ) (rest : σ → List β) : Prop :=
  ∀ k s r s', next k s = .ok r s' → (rest s').length < (rest s).length

/-- **The reading of any input ends** with a failure of the reader. -/
theorem readAll_ends (hshrinks : Shrinks next rest) {n : ℕ} (hn : (rest s).length < n) :
    ∃ e, (readAll next n s).2 = some e := by
  induction n generalizing s with
  | zero => exact absurd hn (Nat.not_lt_zero _)
  | succ n ih =>
      cases hnext : next n s with
      | ok r s' =>
          have hless := hshrinks n s r s' hnext
          rw [readAll_of_ok hnext]
          exact ih (by omega)
      | error e s' => exact ⟨e, by rw [readAll_of_error hnext]⟩

end Reading

end Records
