import RtpCapture.Flv.ByteStream

/-! # Writing FLV files

`SrsFileWriter` is the file of `srs_kernel_file.cpp`, `SrsFlvEncoder` the encoder of
`srs_kernel_flv.cpp` and `FlvContext` the functions of `srs_librtmp.cpp` that a recorder calls. The
operating system decides how much each `::write` stores: `Disk` gives its answers.

* **`FlvTag.encode`** — the bytes of one tag: header, data, and the size of both.
* **`writeTag_eq`** — `srs_flv_write_tag` writes the three parts of the tag in turn.
* **`writev_whole`**, **`writev_nothing`** — a tag whose writes are all complete is in the file, and
  one whose first write fails leaves it unchanged. -/

namespace RtpCapture

open Records

/-- **The answers of the disk**: what the `i`-th `::write` of `n` bytes returns, which is `none` for
−1 and otherwise the number of bytes it has stored. -/
abbrev Disk := ℕ → ℕ → Option ℕ

/-- `SrsFileWriter`: the descriptor, the bytes in the file, and how often it was written to. -/
structure SrsFileWriter where
  fd : ℤ
  content : List Byte
  writes : ℕ

namespace SrsFileWriter

/-- `is_open`. -/
def isOpen (w : SrsFileWriter) : Bool := 0 < w.fd

/-- `open`, where the operating system returns the descriptor `fd` of an emptied file. -/
def openFile (fd : ℤ) : Except SrsFailure SrsFileWriter :=
  if fd < 0 then .error (.error .systemFileOpene) else .ok ⟨fd, [], 0⟩

/-- `write`: only −1 is an error, so that a write of a part of the bytes counts as one of them all. -/
def write (disk : Disk) (buf : List Byte) : Srs SrsFileWriter ℕ := fun w =>
  match disk w.writes buf.length with
  | none => .error (.error .systemFileWrite) { w with writes := w.writes + 1 }
  | some n =>
      .ok (min n buf.length)
        { w with content := w.content ++ buf.take n, writes := w.writes + 1 }

/-- `writev`: one `write` for each buffer, until one of them fails. -/
def writev (disk : Disk) : List (List Byte) → Srs SrsFileWriter ℕ
  | [] => return 0
  | buf :: bufs => do
      let thisNwrite ← write disk buf
      let nwrite ← writev disk bufs
      return thisNwrite + nwrite

end SrsFileWriter

/-! ## The encoder -/

/-- `SrsCodecFlvTagAudio`, and `SRS_RTMP_TYPE_AUDIO`. -/
def srsCodecFlvTagAudio : Byte := 8

/-- `SrsCodecFlvTagVideo`, and `SRS_RTMP_TYPE_VIDEO`. -/
def srsCodecFlvTagVideo : Byte := 9

/-- `SRS_FLV_TAG_HEADER_SIZE`. -/
def srsFlvTagHeaderSize : ℕ := 11

/-- `SRS_FLV_PREVIOUS_TAG_SIZE`. -/
def srsFlvPreviousTagSize : ℕ := 4

namespace SrsFlvEncoder

/-- What the functions that write a tag header to `cache` have in common. -/
def writeHeaderToCache (type : Byte) (timestamp : BitVec 64) (size : BitVec 32)
    (cache : List Byte) : Except SrsFailure (List Byte) :=
  SrsStream.fill cache do
    SrsStream.write1bytes type
    SrsStream.write3bytes size
    SrsStream.write3bytes (timestamp.setWidth 32)
    SrsStream.write1bytes ((timestamp >>> 24).setWidth 8)
    SrsStream.write3bytes 0

/-- `write_metadata_to_cache`. -/
def writeMetadataToCache (type : Byte) (size : BitVec 32) (cache : List Byte) :
    Except SrsFailure (List Byte) :=
  writeHeaderToCache type 0 size cache

/-- `write_audio_to_cache`. -/
def writeAudioToCache (timestamp : BitVec 64) (size : BitVec 32) (cache : List Byte) :
    Except SrsFailure (List Byte) :=
  writeHeaderToCache srsCodecFlvTagAudio (timestamp &&& 0x7fffffff) size cache

/-- `write_video_to_cache`. -/
def writeVideoToCache (timestamp : BitVec 64) (size : BitVec 32) (cache : List Byte) :
    Except SrsFailure (List Byte) :=
  writeHeaderToCache srsCodecFlvTagVideo (timestamp &&& 0x7fffffff) size cache

/-- `write_pts_to_cache`. -/
def writePtsToCache (size : BitVec 32) (cache : List Byte) : Except SrsFailure (List Byte) :=
  SrsStream.fill cache (SrsStream.write4bytes size)

/-- `write_tag`. The old content of `pre_size` does not matter (`writePtsToCache_eq`). -/
def writeTag (disk : Disk) (header tag : List Byte) : Srs SrsFileWriter Unit := do
  let preSize ← MonadExcept.ofExcept (writePtsToCache (BitVec.ofNat 32 (tag.length + header.length))
    (List.replicate srsFlvPreviousTagSize 0))
  let _ ← SrsFileWriter.writev disk [header, tag, preSize]

/-- `tag_header` before a tag is written. Its content does not matter (`writeHeaderToCache_eq`). -/
def tagHeader : List Byte := List.replicate srsFlvTagHeaderSize 0

/-- `write_metadata`. -/
def writeMetadata (disk : Disk) (type : Byte) (data : List Byte) : Srs SrsFileWriter Unit := do
  let header ← MonadExcept.ofExcept
    (writeMetadataToCache type (BitVec.ofNat 32 data.length) tagHeader)
  writeTag disk header data

/-- `write_audio`. -/
def writeAudio (disk : Disk) (timestamp : BitVec 64) (data : List Byte) :
    Srs SrsFileWriter Unit := do
  let header ← MonadExcept.ofExcept
    (writeAudioToCache timestamp (BitVec.ofNat 32 data.length) tagHeader)
  writeTag disk header data

/-- `write_video`. -/
def writeVideo (disk : Disk) (timestamp : BitVec 64) (data : List Byte) :
    Srs SrsFileWriter Unit := do
  let header ← MonadExcept.ofExcept
    (writeVideoToCache timestamp (BitVec.ofNat 32 data.length) tagHeader)
  writeTag disk header data

/-- `write_header` of a given header, with the size zero of the tag before the first one. -/
def writeHeader (disk : Disk) (flvHeader : List Byte) : Srs SrsFileWriter Unit := do
  let _ ← SrsFileWriter.write disk flvHeader
  let _ ← SrsFileWriter.write disk [0x00, 0x00, 0x00, 0x00]

end SrsFlvEncoder

/-! ## The AVC sequence header -/

namespace SrsRawH264Stream

/-- The block that generates the first five bytes of the header. -/
def writeConfiguration (sps : List Byte) : Srs SrsStream Unit := do
  SrsStream.write1bytes 0x01
  SrsStream.write1bytes (sps.getD 1 0)
  SrsStream.write1bytes 0x00
  SrsStream.write1bytes (sps.getD 3 0)
  SrsStream.write1bytes 0x03

/-- The block of one parameter set: their number, its length and its bytes. -/
def writeParameterSet (nal : List Byte) : Srs SrsStream Unit := do
  SrsStream.write1bytes 0x01
  SrsStream.write2bytes (BitVec.ofNat 16 nal.length)
  SrsStream.writeBytes nal

/-- `mux_sequence_header`. The old content of `packet` does not matter. -/
def muxSequenceHeader (sps pps : List Byte) : Except SrsFailure (List Byte) :=
  SrsStream.fill (List.replicate (5 + 3 + sps.length + 3 + pps.length) 0) do
    srsAssert (4 ≤ sps.length)
    writeConfiguration sps
    writeParameterSet sps
    writeParameterSet pps

end SrsRawH264Stream

/-! ## The functions a recorder calls -/

namespace FlvContext

/-- `srs_flv_open_write`: the file of the context, or null. -/
def openWrite (fd : ℤ) : Option SrsFileWriter :=
  match SrsFileWriter.openFile fd with
  | .error _ => none
  | .ok writer => if writer.isOpen then some writer else none

/-- What the writing functions start with: the file must be open. -/
def whenOpen (x : Srs SrsFileWriter Unit) : Srs SrsFileWriter Unit := do
  if !(← get).isOpen then throw (.error .systemIoInvalid) else x

/-- `srs_flv_write_header`. -/
def writeHeader (disk : Disk) (header : List Byte) : Srs SrsFileWriter Unit :=
  whenOpen (SrsFlvEncoder.writeHeader disk header)

/-- `srs_flv_write_tag`. -/
def writeTag (disk : Disk) (type : Byte) (time : Word) (data : List Byte) :
    Srs SrsFileWriter Unit :=
  whenOpen <|
    if type = srsCodecFlvTagAudio then SrsFlvEncoder.writeAudio disk (time.signExtend 64) data
    else if type = srsCodecFlvTagVideo then SrsFlvEncoder.writeVideo disk (time.signExtend 64) data
    else SrsFlvEncoder.writeMetadata disk type data

/-- `srs_flv_write_sps_pps_tag`, from the strings that it builds of its arguments. -/
def writeSpsPpsTag (disk : Disk) (time : Word) (sps pps : List Byte) : Srs SrsFileWriter Unit :=
  whenOpen do
    let sh ← MonadExcept.ofExcept (SrsRawH264Stream.muxSequenceHeader sps pps)
    if spsPpsTagDataSize < sh.length + 5 then throw .spsPpsTagOverrun
    else SrsFlvEncoder.writeVideo disk (time.signExtend 64) ([0x17, 0x00, 0x00, 0x00, 0x00] ++ sh)

end FlvContext

/-! ## The bytes of a tag -/

/-- **A tag of an FLV file.** -/
structure FlvTag where
  type : Byte
  time : Word
  data : List Byte
  deriving DecidableEq, Repr

namespace FlvTag

/-- The tag that `srs_flv_write_tag` is asked for. -/
def ofCall (type : Byte) (time : Word) (data : List Byte) : FlvTag :=
  if type = srsCodecFlvTagAudio ∨ type = srsCodecFlvTagVideo then ⟨type, time &&& 0x7fffffff, data⟩
  else ⟨type, 0, data⟩

/-- A tag header: type, size of the data, time with its upper byte last, and stream id. -/
def headerBytes (type : Byte) (time size : ℕ) : List Byte :=
  type :: (bigEndian24 size ++ (bigEndian24 time ++ [BitVec.ofNat 8 (time / 2 ^ 24), 0, 0, 0]))

/-- The header of a tag. -/
def header (t : FlvTag) : List Byte := headerBytes t.type t.time.toNat t.data.length

/-- The size of a tag, which follows it. -/
def previousTagSize (t : FlvTag) : List Byte := bigEndian32 (t.data.length + srsFlvTagHeaderSize)

/-- The buffers of one `writev`. -/
def parts (t : FlvTag) : List (List Byte) := [t.header, t.data, t.previousTagSize]

/-- **The bytes of a tag.** -/
def encode (t : FlvTag) : List Byte := t.header ++ (t.data ++ t.previousTagSize)

/-- The header of a tag has eleven bytes. -/
@[simp] theorem length_header (t : FlvTag) : t.header.length = 11 := rfl

/-- The size behind a tag has four. -/
@[simp] theorem length_previousTagSize (t : FlvTag) : t.previousTagSize.length = 4 := rfl

/-- `size_tag`. -/
@[simp] theorem length_encode (t : FlvTag) : t.encode.length = t.data.length + 15 := by
  simp only [encode, List.length_append, length_header, length_previousTagSize]
  omega

/-- The three buffers of a tag are its bytes. -/
theorem flatten_parts (t : FlvTag) : t.parts.flatten = t.encode := by simp [parts, encode]

end FlvTag

/-- Three bytes of a 32-bit number. -/
theorem bigEndian24_mod (n : ℕ) : bigEndian24 (n % 2 ^ 32) = bigEndian24 n := by
  simp only [bigEndian24, List.cons.injEq, and_true]
  refine ⟨?_, ?_, ?_⟩ <;> · apply BitVec.eq_of_toNat_eq; simp only [BitVec.toNat_ofNat]; omega

/-- Four bytes of a 32-bit number. -/
theorem bigEndian32_mod (n : ℕ) : bigEndian32 (n % 2 ^ 32) = bigEndian32 n := by
  simp only [bigEndian32, List.cons.injEq, and_true]
  refine ⟨?_, ?_, ?_, ?_⟩ <;> · apply BitVec.eq_of_toNat_eq; simp only [BitVec.toNat_ofNat]; omega

namespace SrsFlvEncoder

/-- **A tag header fills its buffer**, whatever was there before. -/
theorem writeHeaderToCache_eq (type : Byte) (timestamp : BitVec 64) (size : BitVec 32)
    {cache : List Byte} (hcache : cache.length = srsFlvTagHeaderSize) :
    writeHeaderToCache type timestamp size cache =
      .ok (FlvTag.headerBytes type timestamp.toNat size.toNat) := by
  have hfields : FlvTag.headerBytes type timestamp.toNat size.toNat =
      [type] ++ (bigEndian24 size.toNat ++ (bigEndian24 (timestamp.setWidth 32).toNat ++
        ([(timestamp >>> 24).setWidth 8] ++ bigEndian24 (0 : BitVec 32).toNat))) := by
    have htime : (timestamp >>> 24).setWidth 8 = BitVec.ofNat 8 (timestamp.toNat / 2 ^ 24) := by
      apply BitVec.eq_of_toNat_eq
      simp [Nat.shiftRight_eq_div_pow]
    rw [BitVec.toNat_setWidth, bigEndian24_mod, htime]
    rfl
  rw [hfields]
  refine SrsStream.Writes.fill_eq ?_ (List.cons_ne_nil _ _) hcache
  exact (SrsStream.writes_writeBytes (List.cons_ne_nil _ _)).bind
    ((SrsStream.writes_writeBytes (List.cons_ne_nil _ _)).bind
      ((SrsStream.writes_writeBytes (List.cons_ne_nil _ _)).bind
        ((SrsStream.writes_writeBytes (List.cons_ne_nil _ _)).bind
          (SrsStream.writes_writeBytes (List.cons_ne_nil _ _)))))

/-- The header of a tag with data, put into `tag_header`. -/
theorem writeHeaderToCache_tag (type : Byte) (timestamp : BitVec 64) {time : Word}
    (data : List Byte) (htime : timestamp.toNat = time.toNat) :
    writeHeaderToCache type timestamp (BitVec.ofNat 32 data.length) tagHeader =
      .ok (FlvTag.mk type time data).header := by
  have hsize : bigEndian24 (data.length % 2 ^ 32) = bigEndian24 data.length := bigEndian24_mod _
  have hcache : tagHeader.length = srsFlvTagHeaderSize := List.length_replicate ..
  rw [writeHeaderToCache_eq type timestamp _ hcache, BitVec.toNat_ofNat, htime,
    FlvTag.headerBytes, hsize]
  rfl

/-- **The size of a tag fills its buffer**, whatever was there before. -/
theorem writePtsToCache_eq (size : BitVec 32) {cache : List Byte}
    (hcache : cache.length = srsFlvPreviousTagSize) :
    writePtsToCache size cache = .ok (bigEndian32 size.toNat) :=
  (SrsStream.writes_writeBytes (List.cons_ne_nil _ _)).fill_eq (List.cons_ne_nil _ _) hcache

/-- The time of an audio or video tag: 31 bits. -/
theorem toNat_masked (time : Word) :
    (time.signExtend 64 &&& 0x7fffffff).toNat = (time &&& 0x7fffffff).toNat := by
  have hmask : ∀ n : ℕ, n &&& 0x7fffffff = n % 2 ^ 31 := fun n =>
    Nat.and_two_pow_sub_one_eq_mod n 31
  have hlow : (time.signExtend 64).toNat % 2 ^ 31 = time.toNat % 2 ^ 31 := by
    rw [BitVec.toNat_signExtend, BitVec.toNat_setWidth]
    split <;> omega
  rw [BitVec.toNat_and, BitVec.toNat_and]
  change _ &&& 0x7fffffff = _ &&& 0x7fffffff
  rw [hmask, hmask, hlow]

/-- **A tag is written in three parts**, once its header is in `tag_header`. -/
theorem writeTag_eq (disk : Disk) (t : FlvTag) :
    writeTag disk t.header t.data = (do
      let _ ← SrsFileWriter.writev disk t.parts
      return ()) := by
  have hsize : (BitVec.ofNat 32 (t.data.length + t.header.length)).toNat =
      (t.data.length + srsFlvTagHeaderSize) % 2 ^ 32 := BitVec.toNat_ofNat _ _
  rw [writeTag, writePtsToCache_eq _ (List.length_replicate ..), hsize, bigEndian32_mod]
  rfl

end SrsFlvEncoder

/-! ## The bytes of an AVC sequence header -/

namespace SrsRawH264Stream

/-- One byte. -/
theorem writes_1bytes (b : Byte) : SrsStream.Writes (SrsStream.write1bytes b) [b] :=
  SrsStream.writes_writeBytes (List.cons_ne_nil _ _)

/-- The configuration in front of the parameter sets. -/
theorem writes_configuration (sps : List Byte) :
    SrsStream.Writes (writeConfiguration sps) [0x01, sps.getD 1 0, 0x00, sps.getD 3 0, 0x03] :=
  (writes_1bytes _).bind <| (writes_1bytes _).bind <| (writes_1bytes _).bind <|
    (writes_1bytes _).bind (writes_1bytes _)

/-- The length of a parameter set. -/
theorem writes_length (nal : List Byte) :
    SrsStream.Writes (SrsStream.write2bytes (BitVec.ofNat 16 nal.length))
      (bigEndian16 nal.length) := by
  have hmod : bigEndian16 (BitVec.ofNat 16 nal.length).toNat = bigEndian16 nal.length := by
    simp only [bigEndian16, List.cons.injEq, and_true, BitVec.toNat_ofNat]
    refine ⟨?_, ?_⟩ <;> · apply BitVec.eq_of_toNat_eq; simp only [BitVec.toNat_ofNat]; omega
  rw [← hmod]
  exact SrsStream.writes_writeBytes (List.cons_ne_nil _ _)

/-- A parameter set behind its count and its length. -/
theorem writes_parameterSet {nal : List Byte} (hne : nal ≠ []) :
    SrsStream.Writes (writeParameterSet nal) ([0x01] ++ (bigEndian16 nal.length ++ nal)) :=
  (writes_1bytes _).bind <| (writes_length nal).bind (SrsStream.writes_writeBytes hne)

/-- An empty parameter set. -/
theorem fails_parameterSet_nil : SrsStream.Fails (writeParameterSet []) 3 :=
  (writes_1bytes _).bind_fails <| (writes_length []).bind_fails SrsStream.fails_writeBytes_nil

/-- **The header is muxed as `avcDecoderConfiguration` says**, and the assertions ask for an SPS of
four bytes and a PPS that is not empty. -/
theorem muxSequenceHeader_eq (sps pps : List Byte) :
    muxSequenceHeader sps pps =
      if sps.length < 4 then .error .assertion
      else if pps.length = 0 then .error .assertion
      else .ok (avcDecoderConfiguration sps pps) := by
  -- the stream is over a buffer that is not empty
  have hcache : List.replicate (5 + 3 + sps.length + 3 + pps.length) (0 : Byte) ≠ [] := by
    intro h
    have := congrArg List.length h
    simp only [List.length_replicate, List.length_nil] at this
    omega
  unfold muxSequenceHeader
  split
  -- the first assertion
  case isTrue hshort =>
    have hassert : SrsStream.Fails (do
        srsAssert (4 ≤ sps.length)
        writeConfiguration sps
        writeParameterSet sps
        writeParameterSet pps) 0 := by
      intro done ahead _
      refine ⟨SrsStream.split done ahead, bind_error _ ?_⟩
      rw [decide_eq_false (Nat.not_le.mpr hshort)]
      rfl
    exact hassert.fill_eq hcache (Nat.zero_le _)
  case isFalse hlong =>
    rw [srsAssert_bind (decide_eq_true (Nat.not_lt.mp hlong))]
    have hsps : sps ≠ [] := by
      rintro rfl
      exact hlong (by decide)
    have hfirst := writes_configuration sps
    have hset := writes_parameterSet hsps
    split
    -- `write_string` of an empty PPS asserts
    case isTrue hnil =>
      obtain rfl := List.eq_nil_of_length_eq_zero hnil
      refine (hfirst.bind_fails (hset.bind_fails fails_parameterSet_nil)).fill_eq hcache ?_
      simp only [List.length_replicate, List.length_append, List.length_cons, List.length_nil,
        bigEndian16]
      omega
    -- both are written, and the buffer has just their size
    case isFalse hpps =>
      have hwrites := hfirst.bind <| hset.bind <|
        writes_parameterSet (List.ne_nil_of_length_pos (Nat.pos_of_ne_zero hpps))
      have hbytes : [0x01, sps.getD 1 0, 0x00, sps.getD 3 0, 0x03] ++
          ([0x01] ++ (bigEndian16 sps.length ++ sps) ++
            ([0x01] ++ (bigEndian16 pps.length ++ pps))) = avcDecoderConfiguration sps pps := by
        simp [avcDecoderConfiguration]
      rw [hbytes] at hwrites
      refine hwrites.fill_eq (List.cons_ne_nil _ _) ?_
      simp only [avcDecoderConfiguration, List.length_replicate, List.length_append,
        List.length_cons, List.length_nil, bigEndian16]

end SrsRawH264Stream

namespace FlvContext

/-- An open file is written to. -/
theorem whenOpen_of_isOpen (x : Srs SrsFileWriter Unit) {w : SrsFileWriter}
    (hopen : w.isOpen = true) : whenOpen x w = x w := by
  change (if (!w.isOpen) = true then (throw (.error .systemIoInvalid) : Srs SrsFileWriter Unit)
    else x) w = x w
  rw [hopen]
  rfl

/-- **`srs_flv_write_tag`** writes the three parts of the tag. -/
theorem writeTag_eq (disk : Disk) (type : Byte) (time : Word) (data : List Byte)
    {w : SrsFileWriter} (hopen : w.isOpen = true) :
    writeTag disk type time data w = (do
      let _ ← SrsFileWriter.writev disk (FlvTag.ofCall type time data).parts
      return ()) w := by
  rw [writeTag, whenOpen_of_isOpen _ hopen]
  by_cases haudio : type = srsCodecFlvTagAudio
  · rw [if_pos haudio, haudio, SrsFlvEncoder.writeAudio, SrsFlvEncoder.writeAudioToCache,
      SrsFlvEncoder.writeHeaderToCache_tag _ _ data (SrsFlvEncoder.toNat_masked time)]
    exact congrFun (SrsFlvEncoder.writeTag_eq disk _) w
  by_cases hvideo : type = srsCodecFlvTagVideo
  · rw [if_neg haudio, if_pos hvideo, hvideo, SrsFlvEncoder.writeVideo,
      SrsFlvEncoder.writeVideoToCache,
      SrsFlvEncoder.writeHeaderToCache_tag _ _ data (SrsFlvEncoder.toNat_masked time)]
    exact congrFun (SrsFlvEncoder.writeTag_eq disk _) w
  · have hcall : FlvTag.ofCall type time data = ⟨type, 0, data⟩ := by
      rw [FlvTag.ofCall, if_neg (by simp [haudio, hvideo])]
    have htime : (0 : BitVec 64).toNat = (0 : Word).toNat := rfl
    rw [if_neg haudio, if_neg hvideo, SrsFlvEncoder.writeMetadata,
      SrsFlvEncoder.writeMetadataToCache, SrsFlvEncoder.writeHeaderToCache_tag type 0 data htime,
      hcall]
    exact congrFun (SrsFlvEncoder.writeTag_eq disk _) w

/-- **`srs_flv_write_sps_pps_tag`** writes the parts of a video tag with the sequence header. -/
theorem writeSpsPpsTag_eq (disk : Disk) (time : Word) {sps pps : List Byte} {w : SrsFileWriter}
    (hopen : w.isOpen = true) (hsps : 4 ≤ sps.length) (hpps : pps.length ≠ 0)
    (hfits : (avcDecoderConfiguration sps pps).length + 5 ≤ spsPpsTagDataSize) :
    writeSpsPpsTag disk time sps pps w = (do
      let _ ← SrsFileWriter.writev disk (FlvTag.ofCall srsCodecFlvTagVideo time
        ([0x17, 0x00, 0x00, 0x00, 0x00] ++ avcDecoderConfiguration sps pps)).parts
      return ()) w := by
  rw [← writeTag_eq disk srsCodecFlvTagVideo time _ hopen, writeSpsPpsTag, writeTag,
    whenOpen_of_isOpen _ hopen, whenOpen_of_isOpen _ hopen, SrsRawH264Stream.muxSequenceHeader_eq,
    if_neg (Nat.not_lt.mpr hsps), if_neg hpps]
  change (if spsPpsTagDataSize < (avcDecoderConfiguration sps pps).length + 5
    then (throw .spsPpsTagOverrun : Srs SrsFileWriter Unit) else _) w = _
  rw [if_neg (Nat.not_lt.mpr hfits)]
  rfl

/-- **`srs_flv_write_header`** writes the header and a size. -/
theorem writeHeader_eq (disk : Disk) (header : List Byte) {w : SrsFileWriter}
    (hopen : w.isOpen = true) :
    writeHeader disk header w = (do
      let _ ← SrsFileWriter.writev disk [header, [0x00, 0x00, 0x00, 0x00]]
      return ()) w := by
  rw [writeHeader, whenOpen_of_isOpen _ hopen, SrsFlvEncoder.writeHeader]
  simp only [SrsFileWriter.writev, bind_assoc, pure_bind]

end FlvContext

/-! ## What the disk stores -/

namespace SrsFileWriter

variable {disk : Disk} {w : SrsFileWriter}

/-- **The writes of some buffers are complete**, from the `i`-th write on. -/
def Whole (disk : Disk) (i : ℕ) (bufs : List (List Byte)) : Prop :=
  ∀ j (h : j < bufs.length), disk (i + j) bufs[j].length = some bufs[j].length

/-- **Complete writes** store the buffers. -/
theorem writev_whole {bufs : List (List Byte)} (h : Whole disk w.writes bufs) :
    writev disk bufs w = .ok bufs.flatten.length
      { w with content := w.content ++ bufs.flatten, writes := w.writes + bufs.length } := by
  induction bufs generalizing w with
  | nil => simp [writev, pure, EStateM.pure]
  | cons buf bufs ih =>
      have hfirst : write disk buf w = .ok buf.length
          { w with content := w.content ++ buf, writes := w.writes + 1 } := by
        have hanswer : disk w.writes buf.length = some buf.length := h 0 (Nat.zero_lt_succ _)
        simp [write, hanswer]
      have hrest := ih (w := { w with content := w.content ++ buf, writes := w.writes + 1 })
        (fun j hj => by
          have := h (j + 1) (Nat.succ_lt_succ hj)
          rwa [← Nat.add_assoc, Nat.add_right_comm] at this)
      rw [writev, bind_ok _ hfirst, bind_ok _ hrest]
      simp only [List.flatten_cons, List.length_append, List.append_assoc, List.length_cons,
        Nat.add_assoc, Nat.add_comm 1]
      rfl

/-- **A first write that fails** stores nothing. -/
theorem writev_nothing {buf : List Byte} (bufs : List (List Byte))
    (h : disk w.writes buf.length = none) :
    writev disk (buf :: bufs) w =
      .error (.error .systemFileWrite) { w with writes := w.writes + 1 } := by
  have hfirst : write disk buf w =
      .error (.error .systemFileWrite) { w with writes := w.writes + 1 } := by
    rw [write, h]
  rw [writev, bind_error _ hfirst]

/-- **Whatever the disk answers**, the file only grows, and stays open. -/
theorem writev_grows (disk : Disk) (bufs : List (List Byte)) (w : SrsFileWriter) :
    (after (writev disk bufs w)).fd = w.fd ∧
      w.content <+: (after (writev disk bufs w)).content := by
  induction bufs generalizing w with
  | nil => exact ⟨rfl, List.prefix_rfl⟩
  | cons buf bufs ih =>
      cases hanswer : disk w.writes buf.length with
      | none =>
          rw [writev_nothing bufs hanswer]
          exact ⟨rfl, List.prefix_rfl⟩
      | some n =>
          have hfirst : write disk buf w = .ok (min n buf.length)
              { w with content := w.content ++ buf.take n, writes := w.writes + 1 } := by
            rw [write, hanswer]
          have hrest := ih { w with content := w.content ++ buf.take n, writes := w.writes + 1 }
          rw [writev, bind_ok _ hfirst]
          cases hmore : writev disk bufs
              { w with content := w.content ++ buf.take n, writes := w.writes + 1 } with
          | ok m w' =>
              rw [hmore] at hrest
              rw [bind_ok _ hmore]
              exact ⟨hrest.1, (List.prefix_append _ _).trans hrest.2⟩
          | error e w' =>
              rw [hmore] at hrest
              rw [bind_error _ hmore]
              exact ⟨hrest.1, (List.prefix_append _ _).trans hrest.2⟩

end SrsFileWriter

end RtpCapture
