import RtpCapture.Foundations.ByteMemory

/-! # Length-prefixed frames

A sequence of byte strings is stored as a concatenation of frames, each the length of a string in
four bytes in network order and the string itself.

* **`Framing.frames`** — the concatenation.
* **`Framing.parse`** — taking it apart again.
* **`Framing.parse_frames`** — the round trip, for strings shorter than `2 ^ 32` bytes. -/

namespace Framing

/-- One frame. -/
def frame (l : List Byte) : List Byte := bigEndian32 l.length ++ l

/-- **The frames of some strings**, one after the other. -/
def frames (ls : List (List Byte)) : List Byte := ls.flatMap frame

/-- The number in four bytes, most significant first. -/
def ofBigEndian32 (b₃ b₂ b₁ b₀ : Byte) : ℕ :=
  ((b₃.toNat * 256 + b₂.toNat) * 256 + b₁.toNat) * 256 + b₀.toNat

/-- **Take frames apart**, until the bytes are used up; nothing when the last frame is incomplete. -/
def parse : List Byte → Option (List (List Byte))
  | [] => some []
  | b₃ :: b₂ :: b₁ :: b₀ :: rest =>
      if ofBigEndian32 b₃ b₂ b₁ b₀ ≤ rest.length then
        (parse (rest.drop (ofBigEndian32 b₃ b₂ b₁ b₀))).map
          (rest.take (ofBigEndian32 b₃ b₂ b₁ b₀) :: ·)
      else none
  | _ => none
termination_by bytes => bytes.length
decreasing_by
  rw [List.length_drop]
  simp only [List.length_cons]
  omega

/-- A number below `2 ^ 32` is read back. -/
theorem ofBigEndian32_bytes {n : ℕ} (h : n < 2 ^ 32) :
    ofBigEndian32 (BitVec.ofNat 8 (n / 2 ^ 24)) (BitVec.ofNat 8 (n / 2 ^ 16))
      (BitVec.ofNat 8 (n / 2 ^ 8)) (BitVec.ofNat 8 n) = n := by
  unfold ofBigEndian32
  simp only [BitVec.toNat_ofNat]
  omega

/-- One frame is taken off. -/
theorem parse_frame_append {l : List Byte} (h : l.length < 2 ^ 32) (rest : List Byte) :
    parse (frame l ++ rest) = (parse rest).map (l :: ·) := by
  have hlength := ofBigEndian32_bytes h
  have hfits : l.length ≤ (l ++ rest).length := by
    rw [List.length_append]
    exact Nat.le_add_right _ _
  rw [frame, bigEndian32, List.append_assoc]
  simp only [List.cons_append, List.nil_append]
  rw [parse, hlength, if_pos hfits, List.take_left, List.drop_left]

/-- **The round trip.** -/
theorem parse_frames {ls : List (List Byte)} (h : ∀ l ∈ ls, l.length < 2 ^ 32) :
    parse (frames ls) = some ls := by
  induction ls with
  | nil => exact parse.eq_1
  | cons l ls ih =>
      have hrest := ih fun l' hl' => h l' (List.mem_cons_of_mem l hl')
      rw [frames, List.flatMap_cons, ← frames, parse_frame_append (h l List.mem_cons_self), hrest]
      rfl

end Framing
