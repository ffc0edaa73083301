import RtpCapture.Recorder.Depacketizer

/-! # The assembly of access units

What `videoHandler` makes of the NAL units it is given, as a function of its calls: it counts
parameter sets until there are two, writes the sequence header, and from then on collects slices
until one carries the marker.

* **`Assembly`** — the abstract state: the count, the parameter sets stored last, the slices since
  the last tag and the slices of every tag; `Assembly.feed` is one call, `assemble` a list of them.
* **`pack`**, **`tagData`** — the length-prefixed concatenation of slices and the data of their tag.
* **`assemble_sets_le`**, **`assemble_sets_mono`** — the count never decreases and stays at two. -/

namespace RtpCapture

/-! ## The abstract assembly -/

/-- A slice: a NAL unit of type 5 or 1. -/
def Call.isSlice (c : Call) : Bool := c.type = 5 ∨ c.type = 1

/-- **The length-prefixed concatenation** of NAL units. -/
def pack (cs : List Call) : List Byte :=
  cs.flatMap fun c => bigEndian32 c.nal.length ++ c.nal

/-- **The data of the tag of some slices**: the five bytes chosen by the last of them, then all of
them with their lengths. -/
def tagData (cs : List Call) : List Byte :=
  avcVideoPacket ((cs.getLast?.map Call.type).getD 0) ++ pack cs

/-- The tag whose last slice is `c`. -/
theorem tagData_concat (cs : List Call) (c : Call) :
    tagData (cs ++ [c]) = avcVideoPacket c.type ++ pack (cs ++ [c]) := by
  simp [tagData]

/-- What is kept of a PPS. -/
def keptPps (nal : List Byte) : List Byte := nal.take (ppsKept nal.length)

/-- **The assembly.** -/
structure Assembly where
  /-- The parameter sets counted, of either kind. -/
  sets : ℕ
  /-- The SPS stored last. -/
  sps : Option (List Byte)
  /-- What was kept of the PPS stored last. -/
  pps : Option (List Byte)
  /-- The slices since the last tag. -/
  pending : List Call
  /-- The slices of each tag. -/
  flushed : List (List Call)
  deriving DecidableEq, Repr

namespace Assembly

/-- Nothing received yet. -/
def empty : Assembly := ⟨0, none, none, [], []⟩

/-- An SPS is stored and counted. -/
def storeSps (m : Assembly) (c : Call) : Assembly :=
  if c.type = 7 then { m with sets := m.sets + 1, sps := some c.nal } else m

/-- A PPS is stored and counted. -/
def storePps (m : Assembly) (c : Call) : Assembly :=
  if c.type = 8 then { m with sets := m.sets + 1, pps := some (keptPps c.nal) } else m

/-- A slice is collected, and the marker makes a tag of all of them. -/
def storeSlice (m : Assembly) (c : Call) : Assembly :=
  if c.isSlice then
    if c.marker then { m with pending := [], flushed := m.flushed ++ [m.pending ++ [c]] }
    else { m with pending := m.pending ++ [c] }
  else m

/-- **One call of `videoHandler`.** -/
def feed (m : Assembly) (c : Call) : Assembly :=
  if m.sets ≠ 2 then (m.storeSps c).storePps c else m.storeSlice c

end Assembly

/-- **The assembly after some calls.** -/
def assemble (cs : List Call) : Assembly := cs.foldl Assembly.feed .empty

/-- No calls, nothing assembled. -/
@[simp] theorem assemble_nil : assemble [] = .empty := rfl

/-- One more call. -/
@[simp] theorem assemble_concat (cs : List Call) (c : Call) :
    assemble (cs ++ [c]) = (assemble cs).feed c := by
  simp [assemble]

/-- Parameter sets do not touch the slices. -/
theorem Assembly.storeSets_slices (m : Assembly) (c : Call) :
    ((m.storeSps c).storePps c).pending = m.pending ∧
      ((m.storeSps c).storePps c).flushed = m.flushed := by
  unfold storeSps storePps
  split <;> split <;> exact ⟨rfl, rfl⟩

/-- A NAL unit counts at most once. -/
theorem Assembly.storeSets_sets (m : Assembly) (c : Call) :
    ((m.storeSps c).storePps c).sets = m.sets ∨ ((m.storeSps c).storePps c).sets = m.sets + 1 := by
  unfold storeSps storePps
  by_cases hsps : c.type = 7
  · rw [if_pos hsps, if_neg (by rw [hsps]; decide)]
    exact .inr rfl
  · rw [if_neg hsps]
    split
    · exact .inr rfl
    · exact .inl rfl

/-- Slices do not touch the count. -/
theorem Assembly.storeSlice_sets (m : Assembly) (c : Call) : (m.storeSlice c).sets = m.sets := by
  unfold storeSlice
  split <;> first | rfl | (split <;> rfl)

/-- **The count never decreases and stays at two.** -/
theorem Assembly.feed_sets (m : Assembly) (c : Call) (h : m.sets ≤ 2) :
    m.sets ≤ (m.feed c).sets ∧ (m.feed c).sets ≤ 2 := by
  unfold feed
  split
  · rcases m.storeSets_sets c with h' | h' <;> omega
  · rw [m.storeSlice_sets]
    exact ⟨le_rfl, h⟩

/-- At most two parameter sets are counted. -/
theorem assemble_sets_le (cs : List Call) : (assemble cs).sets ≤ 2 := by
  induction cs using List.reverseRecOn with
  | nil => exact Nat.zero_le 2
  | append_singleton cs c ih =>
      rw [assemble_concat]
      exact ((assemble cs).feed_sets c ih).2

/-- More calls do not take a parameter set back. -/
theorem assemble_sets_mono (cs cs' : List Call) :
    (assemble cs).sets ≤ (assemble (cs ++ cs')).sets := by
  induction cs' using List.reverseRecOn with
  | nil => simp
  | append_singleton cs' c ih =>
      rw [← List.append_assoc, assemble_concat]
      exact ih.trans ((assemble (cs ++ cs')).feed_sets c (assemble_sets_le _)).1

end RtpCapture
