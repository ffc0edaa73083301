import Mathlib.Algebra.Group.Nat.Defs
import Mathlib.Data.List.Basic
import Mathlib.Data.List.GetD
import Mathlib.Data.List.Range
import Mathlib.Tactic.Basic

/-! # Byte memory

A pointer into byte-addressed memory is the function that gives the byte at each offset from it
(`Memory`). `Memory.read` and `Memory.write` are the two halves of `memcpy`: taking the bytes of a
range as a list, and storing a list of bytes at an offset. The lemmas say what a read sees after a
write: the bytes written, the old bytes of a disjoint range, or the concatenation when the write
extends the range read. `bigEndian32` is the four-byte network order of a 32-bit number. -/

/-- A byte. -/
abbrev Byte := BitVec 8

/-- **Memory seen from a pointer**: the byte at each offset. -/
abbrev Memory := ℕ → Byte

namespace Memory

/-- The `n` bytes at offset `off`. -/
def read (m : Memory) (off n : ℕ) : List Byte := (List.range n).map fun i => m (off + i)

/-- Store the bytes `src` at offset `off`. -/
def write (m : Memory) (off : ℕ) (src : List Byte) : Memory :=
  fun i => if off ≤ i then (src[i - off]?).getD (m i) else m i

/-- The pointer `off` bytes further. -/
def shift (m : Memory) (off : ℕ) : Memory := fun i => m (off + i)

/-- The memory that holds the list `l` at its start and zeros behind it. -/
def ofList (l : List Byte) : Memory := fun i => l.getD i 0

/-- As many bytes are read as were asked for. -/
@[simp] theorem length_read (m : Memory) (off n : ℕ) : (m.read off n).length = n := by
  simp [read]

/-- Reading no bytes. -/
@[simp] theorem read_zero (m : Memory) (off : ℕ) : m.read off 0 = [] := rfl

/-- A byte of the memory behind an offset. -/
@[simp] theorem shift_apply (m : Memory) (off i : ℕ) : m.shift off i = m (off + i) := rfl

/-- Reading through a shifted pointer. -/
@[simp] theorem read_shift (m : Memory) (a b n : ℕ) :
    (m.shift a).read b n = m.read (a + b) n := by
  simp [read, shift, Nat.add_assoc]

/-- A read splits at any point. -/
theorem read_add (m : Memory) (off a b : ℕ) :
    m.read off (a + b) = m.read off a ++ m.read (off + a) b := by
  simp [read, List.range_add, Nat.add_assoc]

/-- A nonempty read starts with the byte at its offset. -/
theorem read_succ (m : Memory) (off n : ℕ) :
    m.read off (n + 1) = m off :: m.read (off + 1) n := by
  rw [Nat.add_comm, read_add]
  simp [read]

/-- Reading back what the memory was made of. -/
theorem read_ofList (l : List Byte) : (ofList l).read 0 l.length = l := by
  refine List.ext_getElem (length_read ..) fun i _ hi => ?_
  simp [read, ofList, hi]

/-- The first bytes of a read. -/
theorem take_read (m : Memory) (off : ℕ) {k n : ℕ} (h : k ≤ n) :
    (m.read off n).take k = m.read off k := by
  obtain ⟨j, rfl⟩ := Nat.exists_eq_add_of_le h
  rw [read_add, List.take_left' (length_read m off k)]

/-- Two memories that agree on a range read the same there. -/
theorem read_congr {m m' : Memory} {off n : ℕ} (h : ∀ i, i < n → m (off + i) = m' (off + i)) :
    m.read off n = m'.read off n := by
  apply List.map_congr_left
  intro i hi
  exact h i (List.mem_range.mp hi)

/-- The head of a nonempty read. -/
theorem head_of_read {m : Memory} {off n : ℕ} {b : Byte} {l : List Byte}
    (h : m.read off n = b :: l) : m off = b := by
  cases n with
  | zero => simp at h
  | succ n =>
      rw [read_succ] at h
      exact (List.cons.inj h).1

/-! ## Reading after writing -/

/-- A byte before the range written is unchanged. -/
theorem write_apply_of_lt (m : Memory) {off i : ℕ} (src : List Byte) (h : i < off) :
    m.write off src i = m i := by
  simp [write, Nat.not_le.mpr h]

/-- A byte behind the range written is unchanged. -/
theorem write_apply_of_ge (m : Memory) {off i : ℕ} (src : List Byte)
    (h : off + src.length ≤ i) : m.write off src i = m i := by
  have hnone : src[i - off]? = none := List.getElem?_eq_none (by omega)
  simp [write, hnone]

/-- A byte inside the range written is the byte written there. -/
theorem write_apply_of_mem (m : Memory) {off i : ℕ} (src : List Byte) (h : i < src.length) :
    m.write off src (off + i) = src[i] := by
  simp [write, h]

/-- Overwriting a part of a list in memory. -/
theorem write_ofList (before after : List Byte) {src src' : List Byte}
    (hlength : src'.length = src.length) :
    (ofList (before ++ (src ++ after))).write before.length src' =
      ofList (before ++ (src' ++ after)) := by
  funext i
  unfold ofList
  rcases Nat.lt_or_ge i before.length with hi | hi
  · rw [write_apply_of_lt _ _ hi, List.getD_append _ _ _ _ hi, List.getD_append _ _ _ _ hi]
  obtain ⟨j, rfl⟩ := Nat.exists_eq_add_of_le hi
  have hskip : ∀ l : List Byte, (before ++ l).getD (before.length + j) 0 = l.getD j 0 := by
    intro l
    rw [List.getD_append_right _ _ _ _ (by omega), Nat.add_sub_cancel_left]
  rcases Nat.lt_or_ge j src'.length with hj | hj
  · rw [write_apply_of_mem _ _ hj, hskip, List.getD_append _ _ _ _ hj, List.getD_eq_getElem _ _ hj]
  · rw [write_apply_of_ge _ _ (by omega), hskip, hskip, List.getD_append_right _ _ _ _ hj,
      List.getD_append_right _ _ _ _ (by omega), hlength]

/-- **Reading a range disjoint from the range written** sees the old bytes. -/
theorem read_write_of_disjoint (m : Memory) {off off' n : ℕ} (src : List Byte)
    (h : off + n ≤ off' ∨ off' + src.length ≤ off) :
    (m.write off' src).read off n = m.read off n := by
  apply read_congr
  intro i hi
  rcases h with h | h
  · exact write_apply_of_lt m src (by omega)
  · exact write_apply_of_ge m src (by omega)

/-- **Reading the range written** gives the bytes written. -/
theorem read_write_self (m : Memory) (off : ℕ) (src : List Byte) :
    (m.write off src).read off src.length = src := by
  apply List.ext_getElem (by simp)
  intro i h₁ h₂
  simp only [read, List.getElem_map, List.getElem_range]
  exact write_apply_of_mem m src h₂

/-- **Reading across the end of the old contents**: a write at the end of a range extends it. -/
theorem read_write_append (m : Memory) (off n : ℕ) (src : List Byte) :
    (m.write (off + n) src).read off (n + src.length) = m.read off n ++ src := by
  rw [read_add, read_write_of_disjoint m src (Or.inl le_rfl), read_write_self]

end Memory

/-! ## Network byte order -/

/-- The four bytes of a 32-bit number, most significant first. -/
def bigEndian32 (n : ℕ) : List Byte :=
  [BitVec.ofNat 8 (n / 2 ^ 24), BitVec.ofNat 8 (n / 2 ^ 16), BitVec.ofNat 8 (n / 2 ^ 8),
    BitVec.ofNat 8 n]

/-- The big-endian form has four bytes. -/
@[simp] theorem length_bigEndian32 (n : ℕ) : (bigEndian32 n).length = 4 := rfl
