import RtpCapture.Foundations.Framing
import RtpCapture.Flv.Encoder

/-! # Reading FLV files

`SrsFileReader` is the file of `srs_kernel_file.cpp`, `SrsFlvDecoder` the decoder of
`srs_kernel_flv.cpp` and `FlvContext` the functions of `srs_librtmp.cpp` that a player calls. A buffer
is given by its bytes before the call: a read that finds less than was asked for succeeds and leaves
the rest of the buffer as it was, so that what a player sees may depend on them.

* **`FlvContext.readTag`** — a tag header and the data it announces, the way a player reads a tag.
* **`readTag_takes`** — a whole tag is taken off the file.
* **`readTag_cuts`** — of a tag cut short, all but the last three bytes are needed.
* **`readTag_shrinks`** — every tag read uses up a byte of the file. -/

namespace RtpCapture

open Records

/-- `SrsFileReader`: the descriptor, the bytes in the file, and the offset of the next one. -/
structure SrsFileReader where
  fd : ℤ
  content : List Byte
  offset : ℕ

namespace SrsFileReader

/-- `is_open`. -/
def isOpen (f : SrsFileReader) : Bool := 0 < f.fd

/-- `open`, where the operating system returns the descriptor `fd` of a file with this content. -/
def openFile (fd : ℤ) (content : List Byte) : Except SrsFailure SrsFileReader :=
  if fd < 0 then .error (.error .systemFileOpene) else .ok ⟨fd, content, 0⟩

/-- The bytes that are still to be read. -/
def rest (f : SrsFileReader) : List Byte := f.content.drop f.offset

/-- `read` into `buf`, of as many bytes as it has: only a read of no byte at all is an error. -/
def read (buf : List Byte) : Srs SrsFileReader (List Byte) := fun f =>
  if (f.rest.take buf.length).length = 0 then .error (.error .systemFileEof) f
  else
    .ok (f.rest.take buf.length ++ buf.drop (f.rest.take buf.length).length)
      { f with offset := f.offset + (f.rest.take buf.length).length }

end SrsFileReader

/-! ## The decoder -/

namespace SrsFlvDecoder

/-- `read_header`, which looks at the signature only. -/
def readHeader (header : List Byte) : Srs SrsFileReader (List Byte) := do
  let h ← SrsFileReader.read header
  if h.getD 0 0 ≠ 0x46 ∨ h.getD 1 0 ≠ 0x4c ∨ h.getD 2 0 ≠ 0x56 then
    throw (.error .kernelFlvHeader)
  else return h

/-- `read_tag_header`: type, size of the data, and time. -/
def readTagHeader (th : List Byte) : Srs SrsFileReader (Byte × BitVec 32 × Word) := do
  let th ← SrsFileReader.read th
  return (th.getD 0 0 &&& 0x1f,
    BitVec.ofNat 32 (Framing.ofBigEndian32 0 (th.getD 1 0) (th.getD 2 0) (th.getD 3 0)),
    BitVec.ofNat 32
      (Framing.ofBigEndian32 (th.getD 7 0) (th.getD 4 0) (th.getD 5 0) (th.getD 6 0)))

/-- `read_tag_data`. -/
def readTagData (data : List Byte) : Srs SrsFileReader (List Byte) := SrsFileReader.read data

/-- `read_previous_tag_size`. -/
def readPreviousTagSize (previousTagSize : List Byte) : Srs SrsFileReader (List Byte) :=
  SrsFileReader.read previousTagSize

end SrsFlvDecoder

/-! ## The functions a player calls -/

namespace FlvContext

/-- `srs_flv_open_read`: the file of the context, or null. -/
def openRead (fd : ℤ) (content : List Byte) : Option SrsFileReader :=
  match SrsFileReader.openFile fd content with
  | .error _ => none
  | .ok reader => if reader.isOpen then some reader else none

/-- What the reading functions start with: the file must be open. -/
def whenReadable {α : Type} (x : Srs SrsFileReader α) : Srs SrsFileReader α := do
  if !(← get).isOpen then throw (.error .systemIoInvalid) else x

/-- `srs_flv_read_header`; `ts` is the local buffer of the size that follows. -/
def readHeader (header ts : List Byte) : Srs SrsFileReader (List Byte) :=
  whenReadable do
    let header ← SrsFlvDecoder.readHeader header
    let _ ← SrsFlvDecoder.readPreviousTagSize ts
    return header

/-- `srs_flv_read_tag_header`; `th` is the local buffer of the header. -/
def readTagHeader (th : List Byte) : Srs SrsFileReader (Byte × BitVec 32 × Word) :=
  whenReadable (SrsFlvDecoder.readTagHeader th)

/-- `srs_flv_read_tag_data`; `ts` is the local buffer of the size that follows. -/
def readTagData (data ts : List Byte) : Srs SrsFileReader (List Byte) :=
  whenReadable do
    let data ← SrsFlvDecoder.readTagData data
    let _ ← SrsFlvDecoder.readPreviousTagSize ts
    return data

/-- **A player reads a tag**: its header, and then as many bytes as it says. The buffers are taken
from memory that is not initialized. -/
def readTag (stale : Memory) : Srs SrsFileReader FlvTag := do
  let (type, size, time) ← readTagHeader (stale.read 0 srsFlvTagHeaderSize)
  let data ← readTagData (stale.read 15 size.toNat) (stale.read 11 srsFlvPreviousTagSize)
  return ⟨type, time, data⟩

/-- **A player reads a file**: the FLV header and then tags until a call fails, at most `n` of them.
The memory that is not initialized may differ from call to call. -/
def readFile (stale : ℕ → Memory) (n : ℕ) (f : SrsFileReader) :
    List FlvTag × Option SrsFailure :=
  match readHeader ((stale n).read 0 9) ((stale n).read 9 srsFlvPreviousTagSize) f with
  | .ok _ f' => readAll (fun k => readTag (stale k)) n f'
  | .error e _ => ([], some e)

end FlvContext

/-! ## Reading from a file -/

namespace SrsFileReader

variable {f f' : SrsFileReader} {buf got : List Byte}

/-- Moving the offset. -/
theorem rest_advance (f : SrsFileReader) (n : ℕ) :
    rest { f with offset := f.offset + n } = f.rest.drop n := by
  rw [rest, rest, List.drop_drop]

/-- At the end of the file. -/
theorem read_eof (buf : List Byte) (h : f.rest = []) :
    read buf f = .error (.error .systemFileEof) f := by
  simp [read, h]

/-- A read of no bytes looks like the end of the file. -/
theorem read_nil (f : SrsFileReader) : read [] f = .error (.error .systemFileEof) f := by
  simp [read]

/-- **A read** takes as many bytes as there are, up to the size of the buffer. -/
theorem read_ok (f : SrsFileReader) {buf : List Byte} (hbuf : buf ≠ []) (h : f.rest ≠ []) :
    ∃ f', read buf f = .ok (f.rest.take buf.length ++ buf.drop (f.rest.take buf.length).length) f' ∧
      f'.isOpen = f.isOpen ∧ f'.rest = f.rest.drop buf.length := by
  have hsome : (f.rest.take buf.length).length ≠ 0 := by
    have h₁ := List.length_pos_of_ne_nil hbuf
    have h₂ := List.length_pos_of_ne_nil h
    rw [List.length_take]
    omega
  refine ⟨_, if_neg hsome, rfl, ?_⟩
  rw [rest_advance, List.length_take]
  rcases Nat.le_total buf.length f.rest.length with hle | hle
  · rw [Nat.min_eq_left hle]
  · rw [Nat.min_eq_right hle, List.drop_length, List.drop_of_length_le hle]

/-- **A read that fills its buffer.** -/
theorem read_full {tail : List Byte} (hne : got ≠ []) (hlength : buf.length = got.length)
    (h : f.rest = got ++ tail) :
    ∃ f', read buf f = .ok got f' ∧ f'.isOpen = f.isOpen ∧ f'.rest = tail := by
  have hbuf : buf ≠ [] := by
    rintro rfl
    exact hne (List.eq_nil_of_length_eq_zero hlength.symm)
  obtain ⟨f', hread, hopen, hrest⟩ := read_ok f hbuf (by simp [h, hne])
  rw [h, hlength, List.take_left' rfl, List.drop_of_length_le hlength.le, List.append_nil] at hread
  rw [h, hlength, List.drop_left' rfl] at hrest
  exact ⟨f', hread, hopen, hrest⟩

/-- A read that succeeds has used something up. -/
theorem read_shrinks (h : read buf f = .ok got f') : f'.rest.length < f.rest.length := by
  have hbuf : buf ≠ [] := by
    rintro rfl
    rw [read_nil] at h
    cases h
  have hrest : f.rest ≠ [] := by
    intro hnil
    rw [read_eof buf hnil] at h
    cases h
  obtain ⟨f₁, hread, -, hdrop⟩ := read_ok f hbuf hrest
  obtain rfl : f₁ = f' := by
    rw [hread] at h
    exact (EStateM.Result.ok.inj h).2
  have h₁ := List.length_pos_of_ne_nil hbuf
  have h₂ := List.length_pos_of_ne_nil hrest
  rw [hdrop, List.length_drop]
  omega

end SrsFileReader

namespace FlvContext

variable {f f' : SrsFileReader} {stale : Memory} {t : FlvTag}

/-- An open file is read. -/
theorem whenReadable_of_isOpen {α : Type} (x : Srs SrsFileReader α) (hopen : f.isOpen = true) :
    whenReadable x f = x f := by
  change (if (!f.isOpen) = true then (throw (.error .systemIoInvalid) : Srs SrsFileReader α)
    else x) f = x f
  rw [hopen]
  rfl

/-- A file that is not open is not read. -/
theorem isOpen_of_whenReadable {α : Type} {x : Srs SrsFileReader α} {a : α}
    (h : whenReadable x f = .ok a f') : f.isOpen = true := by
  by_contra hclosed
  change (if (!f.isOpen) = true then (throw (.error .systemIoInvalid) : Srs SrsFileReader α)
    else x) f = _ at h
  rw [if_pos (by simpa using hclosed)] at h
  cases h

/-! ## Tag headers -/

/-- **A whole tag header is read back**, for a type of five bits and a size of 24 bits. -/
theorem readTagHeader_header (htype : t.type &&& 0x1f = t.type) (hsize : t.data.length < 2 ^ 24)
    {th : List Byte} (hth : th.length = srsFlvTagHeaderSize) (hopen : f.isOpen = true)
    {tail : List Byte} (h : f.rest = t.header ++ tail) :
    ∃ f', readTagHeader th f = .ok (t.type, BitVec.ofNat 32 t.data.length, t.time) f' ∧
      f'.isOpen = true ∧ f'.rest = tail := by
  obtain ⟨f', hread, hopen', hrest⟩ := SrsFileReader.read_full (List.cons_ne_nil _ _) hth h
  refine ⟨f', ?_, hopen'.trans hopen, hrest⟩
  rw [readTagHeader, whenReadable_of_isOpen _ hopen, SrsFlvDecoder.readTagHeader, bind_ok _ hread]
  have hzero : (0 : Byte) = BitVec.ofNat 8 (t.data.length / 2 ^ 24) := by
    rw [Nat.div_eq_of_lt hsize]
    rfl
  have hdata : Framing.ofBigEndian32 0 (BitVec.ofNat 8 (t.data.length / 2 ^ 16))
      (BitVec.ofNat 8 (t.data.length / 2 ^ 8)) (BitVec.ofNat 8 t.data.length) = t.data.length := by
    rw [hzero]
    exact Framing.ofBigEndian32_bytes (hsize.trans (by decide))
  have htime := Framing.ofBigEndian32_bytes t.time.isLt
  change EStateM.Result.ok (t.type &&& 0x1f,
    BitVec.ofNat 32 (Framing.ofBigEndian32 0 (BitVec.ofNat 8 (t.data.length / 2 ^ 16))
      (BitVec.ofNat 8 (t.data.length / 2 ^ 8)) (BitVec.ofNat 8 t.data.length)),
    BitVec.ofNat 32 (Framing.ofBigEndian32 (BitVec.ofNat 8 (t.time.toNat / 2 ^ 24))
      (BitVec.ofNat 8 (t.time.toNat / 2 ^ 16)) (BitVec.ofNat 8 (t.time.toNat / 2 ^ 8))
      (BitVec.ofNat 8 t.time.toNat))) f' = _
  rw [htype, hdata, htime, BitVec.ofNat_toNat, BitVec.setWidth_eq]

/-! ## Tags -/

/-- **A tag that a file can hold**: a type of five bits, and data of a size from 1 to `2 ^ 24 - 1`. -/
structure Storable (t : FlvTag) : Prop where
  type : t.type &&& 0x1f = t.type
  ne_nil : t.data ≠ []
  length_lt : t.data.length < 2 ^ 24

/-- At the end of the file. -/
theorem readTagHeader_eof (th : List Byte) (hopen : f.isOpen = true) (h : f.rest = []) :
    readTagHeader th f = .error (.error .systemFileEof) f := by
  rw [readTagHeader, whenReadable_of_isOpen _ hopen, SrsFlvDecoder.readTagHeader,
    bind_error _ (SrsFileReader.read_eof th h)]

/-- At the end of the file there is no data to read. -/
theorem readTagData_eof (data ts : List Byte) (hopen : f.isOpen = true) (h : f.rest = []) :
    readTagData data ts f = .error (.error .systemFileEof) f := by
  rw [readTagData, whenReadable_of_isOpen _ hopen, SrsFlvDecoder.readTagData,
    bind_error _ (SrsFileReader.read_eof data h)]

/-- **A tag is read** when its header and its data are there and a byte of the size behind them. -/
theorem readTag_ok (ht : Storable t) (hopen : f.isOpen = true) {tail : List Byte} (hne : tail ≠ [])
    (h : f.rest = t.header ++ (t.data ++ tail)) (stale : Memory) :
    ∃ f', readTag stale f = .ok t f' ∧ f'.isOpen = true ∧ f'.rest = tail.drop 4 := by
  obtain ⟨f₁, hheader, hopen₁, hrest₁⟩ :=
    readTagHeader_header ht.type ht.length_lt (Memory.length_read stale 0 _) hopen h
  have hsize : (BitVec.ofNat 32 t.data.length).toNat = t.data.length :=
    (BitVec.toNat_ofNat _ _).trans (Nat.mod_eq_of_lt (ht.length_lt.trans (by decide)))
  obtain ⟨f₂, hdata, hopen₂, hrest₂⟩ := SrsFileReader.read_full ht.ne_nil
    (Memory.length_read stale 15 t.data.length) hrest₁
  have hpts : stale.read 11 srsFlvPreviousTagSize ≠ [] := List.cons_ne_nil _ _
  obtain ⟨f₃, hpts, hopen₃, hrest₃⟩ := SrsFileReader.read_ok f₂ hpts (by rw [hrest₂]; exact hne)
  refine ⟨f₃, ?_, hopen₃.trans (hopen₂.trans hopen₁), by rw [hrest₃, hrest₂, Memory.length_read]; rfl⟩
  rw [readTag, bind_ok _ hheader]
  change (readTagData (stale.read 15 (BitVec.ofNat 32 t.data.length).toNat) _ >>= _) f₁ = _
  rw [hsize]
  have hread : readTagData (stale.read 15 t.data.length) (stale.read 11 srsFlvPreviousTagSize) f₁ =
      .ok t.data f₃ := by
    rw [readTagData, whenReadable_of_isOpen _ hopen₁, SrsFlvDecoder.readTagData, bind_ok _ hdata,
      SrsFlvDecoder.readPreviousTagSize, bind_ok _ hpts]
    rfl
  rw [bind_ok _ hread]
  rfl

/-- **A tag whose header is not complete** is the end of the file. -/
theorem readTag_of_length_le (hopen : f.isOpen = true) (h : f.rest.length ≤ srsFlvTagHeaderSize)
    (stale : Memory) : ∃ f', readTag stale f = .error (.error .systemFileEof) f' := by
  by_cases hnil : f.rest = []
  · exact ⟨f, bind_error _ (readTagHeader_eof _ hopen hnil)⟩
  have hbuf : stale.read 0 srsFlvTagHeaderSize ≠ [] := List.cons_ne_nil _ _
  obtain ⟨f₁, hread, hopen₁, hrest₁⟩ := SrsFileReader.read_ok f hbuf hnil
  have hend : f₁.rest = [] := by
    rw [hrest₁, Memory.length_read, List.drop_of_length_le h]
  have hheader : ∃ a, readTagHeader (stale.read 0 srsFlvTagHeaderSize) f = .ok a f₁ := by
    rw [readTagHeader, whenReadable_of_isOpen _ hopen, SrsFlvDecoder.readTagHeader, bind_ok _ hread]
    exact ⟨_, rfl⟩
  obtain ⟨⟨type, size, time⟩, hheader⟩ := hheader
  refine ⟨f₁, ?_⟩
  rw [readTag, bind_ok _ hheader]
  exact bind_error _ (readTagData_eof _ _ (hopen₁.trans hopen) hend)

/-- **A tag of which nothing is there behind the data** is the end of the file. -/
theorem readTag_of_prefix (ht : Storable t) (hopen : f.isOpen = true) {d : List Byte}
    (hd : d.length ≤ t.data.length) (h : f.rest = t.header ++ d) (stale : Memory) :
    ∃ f', readTag stale f = .error (.error .systemFileEof) f' := by
  obtain ⟨f₁, hheader, hopen₁, hrest₁⟩ :=
    readTagHeader_header ht.type ht.length_lt (Memory.length_read stale 0 _) hopen h
  have hsize : (BitVec.ofNat 32 t.data.length).toNat = t.data.length :=
    (BitVec.toNat_ofNat _ _).trans (Nat.mod_eq_of_lt (ht.length_lt.trans (by decide)))
  have hdata : ∃ f', readTagData (stale.read 15 t.data.length)
      (stale.read 11 srsFlvPreviousTagSize) f₁ = .error (.error .systemFileEof) f' := by
    by_cases hnil : d = []
    · exact ⟨f₁, readTagData_eof _ _ hopen₁ (hrest₁.trans hnil)⟩
    have hbuf : stale.read 15 t.data.length ≠ [] := by
      intro hempty
      have := Memory.length_read stale 15 t.data.length
      rw [hempty] at this
      exact ht.ne_nil (List.eq_nil_of_length_eq_zero this.symm)
    obtain ⟨f₂, hread, hopen₂, hrest₂⟩ := SrsFileReader.read_ok f₁ hbuf
      (by rw [hrest₁]; exact hnil)
    rw [hrest₁, Memory.length_read, List.drop_of_length_le hd] at hrest₂
    refine ⟨f₂, ?_⟩
    rw [readTagData, whenReadable_of_isOpen _ hopen₁, SrsFlvDecoder.readTagData, bind_ok _ hread,
      SrsFlvDecoder.readPreviousTagSize, bind_error _ (SrsFileReader.read_eof _ hrest₂)]
  obtain ⟨f₂, hdata⟩ := hdata
  refine ⟨f₂, ?_⟩
  rw [readTag, bind_ok _ hheader]
  change (readTagData (stale.read 15 (BitVec.ofNat 32 t.data.length).toNat) _ >>= _) f₁ = _
  rw [hsize, bind_error _ hdata]

/-- **Whole tags are taken off the file.** -/
theorem readTag_takes (stale : ℕ → Memory) :
    Takes (fun k => readTag (stale k)) (fun f => f.isOpen = true) SrsFileReader.rest FlvTag.encode
      Storable := by
  intro k f t tail hopen ht h
  rw [FlvTag.encode, List.append_assoc, List.append_assoc] at h
  exact readTag_ok ht hopen (List.cons_ne_nil _ _) h (stale k)

/-- **A tag cut short** is read when a byte of the size behind its data is there. -/
theorem readTag_cuts (stale : ℕ → Memory) :
    Cuts (fun k => readTag (stale k)) (fun f => f.isOpen = true) SrsFileReader.rest FlvTag.encode
      Storable (fun t => t.data.length + 12) (.error .systemFileEof) where
  pos := fun t _ => Nat.succ_pos _
  le_length := fun t _ => by rw [FlvTag.length_encode]; omega
  taken := by
    intro k f t j hopen ht h hj
    rw [FlvTag.encode, ← List.append_assoc, List.take_append,
      List.take_of_length_le (by simp; omega)] at h
    obtain ⟨i, hi⟩ : ∃ i, j - (t.header ++ t.data).length = i + 1 := by
      refine Nat.exists_eq_add_of_le' ?_
      rw [List.length_append, FlvTag.length_header]
      omega
    rw [hi, List.append_assoc] at h
    obtain ⟨f', hread, hopen', hrest⟩ := readTag_ok ht hopen (List.cons_ne_nil _ _) h (stale k)
    have hlength : (t.previousTagSize.take (i + 1)).length ≤ 4 := by
      rw [List.length_take, FlvTag.length_previousTagSize]
      exact Nat.min_le_right _ _
    exact ⟨f', hread, hopen', hrest.trans (List.drop_of_length_le hlength)⟩
  ended := by
    intro k f t j hopen ht h hj
    rcases Nat.lt_or_ge 11 j with hlong | hshort
    · rw [FlvTag.encode, ← List.append_assoc, List.take_append_of_le_length
        (by rw [List.length_append, FlvTag.length_header]; omega), List.take_append,
        List.take_of_length_le (by rw [FlvTag.length_header]; omega)] at h
      refine readTag_of_prefix ht hopen ?_ h (stale k)
      exact List.length_take_le' _ _
    · refine readTag_of_length_le hopen ?_ (stale k)
      rw [h]
      exact (List.length_take_le _ _).trans hshort
  empty := fun k f hopen h => ⟨f, bind_error _ (readTagHeader_eof _ hopen h)⟩

/-- **Every tag read uses up a part of the file.** -/
theorem readTag_shrinks (stale : ℕ → Memory) :
    Shrinks (fun k => readTag (stale k)) SrsFileReader.rest := by
  intro k f t f' h
  obtain ⟨⟨type, size, time⟩, f₁, hheader, h⟩ := of_bind_ok h
  obtain ⟨data, f₂, hdata, h⟩ := of_bind_ok h
  obtain rfl : f₂ = f' := (EStateM.Result.ok.inj h).2
  rw [readTagHeader, whenReadable_of_isOpen _ (isOpen_of_whenReadable hheader)] at hheader
  rw [readTagData, whenReadable_of_isOpen _ (isOpen_of_whenReadable hdata)] at hdata
  obtain ⟨th, f₃, hth, hheader⟩ := of_bind_ok hheader
  obtain rfl : f₃ = f₁ := (EStateM.Result.ok.inj hheader).2
  obtain ⟨d, f₄, hd, hdata⟩ := of_bind_ok hdata
  obtain ⟨ts, f₅, hts, hdata⟩ := of_bind_ok hdata
  obtain rfl : f₅ = f₂ := (EStateM.Result.ok.inj hdata).2
  exact (SrsFileReader.read_shrinks hts).trans
    ((SrsFileReader.read_shrinks hd).trans (SrsFileReader.read_shrinks hth))

end FlvContext

end RtpCapture
