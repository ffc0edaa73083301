import RtpCapture.Flv.Encoder

/-! # Writing several messages at once

`SrsFlvEncoder::write_tags` prepares the headers and the sizes of all messages before a single
`writev`. **`writeTags_eq_writeEach`**: on any disk it does to the file what writing the messages one
after the other does, and returns the same. -/

namespace RtpCapture

open Records

/-- What `write_tags` asks of the type of a message. -/
inductive SrsMessageKind
  | audio
  | video
  /-- Neither of them. -/
  | other
  deriving DecidableEq, Repr

/-- `SrsSharedPtrMessage`: its type, time and payload. -/
structure SrsSharedPtrMessage where
  kind : SrsMessageKind
  timestamp : BitVec 64
  payload : List Byte

/-- `SrsCodecFlvTagScript`. -/
def srsCodecFlvTagScript : Byte := 18

namespace SrsFlvEncoder

/-- The header that `write_tags` caches for a message. The old content of `tag_headers` does not
matter. -/
def cacheHeader (msg : SrsSharedPtrMessage) : Except SrsFailure (List Byte) :=
  match msg.kind with
  | .audio => writeAudioToCache msg.timestamp (BitVec.ofNat 32 msg.payload.length) tagHeader
  | .video => writeVideoToCache msg.timestamp (BitVec.ofNat 32 msg.payload.length) tagHeader
  | .other =>
      writeMetadataToCache srsCodecFlvTagScript (BitVec.ofNat 32 msg.payload.length) tagHeader

/-- The loop of `write_tags`: three buffers for each message. -/
def prepareIovss : List SrsSharedPtrMessage → Except SrsFailure (List (List Byte))
  | [] => return []
  | msg :: msgs => do
      let header ← cacheHeader msg
      let pts ← writePtsToCache (BitVec.ofNat 32 (srsFlvTagHeaderSize + msg.payload.length))
        (List.replicate srsFlvPreviousTagSize 0)
      let iovs ← prepareIovss msgs
      return header :: msg.payload :: pts :: iovs

/-- `write_tags`. -/
def writeTags (disk : Disk) (msgs : List SrsSharedPtrMessage) : Srs SrsFileWriter Unit := do
  let iovss ← MonadExcept.ofExcept (prepareIovss msgs)
  let _ ← SrsFileWriter.writev disk iovss

/-- One message, written on its own. -/
def writeOne (disk : Disk) (msg : SrsSharedPtrMessage) : Srs SrsFileWriter Unit :=
  match msg.kind with
  | .audio => writeAudio disk msg.timestamp msg.payload
  | .video => writeVideo disk msg.timestamp msg.payload
  | .other => writeMetadata disk srsCodecFlvTagScript msg.payload

/-- The messages one after the other, until one of them fails. -/
def writeEach (disk : Disk) : List SrsSharedPtrMessage → Srs SrsFileWriter Unit
  | [] => return ()
  | msg :: msgs => do
      writeOne disk msg
      writeEach disk msgs

/-- `writev` of more buffers goes on behind the first ones. -/
theorem writev_append (disk : Disk) (bufs more : List (List Byte)) :
    (do let _ ← SrsFileWriter.writev disk (bufs ++ more); return ()) =
      (do let _ ← SrsFileWriter.writev disk bufs
          let _ ← SrsFileWriter.writev disk more
          return () : Srs SrsFileWriter Unit) := by
  induction bufs with
  | nil => simp only [List.nil_append, SrsFileWriter.writev, pure_bind]
  | cons buf bufs ih =>
      simp only [List.cons_append, SrsFileWriter.writev, bind_assoc, pure_bind]
      exact bind_congr fun _ => ih

/-- **The buffers of one message** are the parts of the tag that it is written as. -/
theorem exists_parts (disk : Disk) (msg : SrsSharedPtrMessage) :
    ∃ t : FlvTag, cacheHeader msg = .ok t.header ∧ t.data = msg.payload ∧
      writeOne disk msg = (do
        let _ ← SrsFileWriter.writev disk t.parts
        return ()) := by
  -- the header in the cache is that of the tag, and the writes are those of its parts
  have hone : ∀ (type : Byte) (timestamp : BitVec 64) (time : Word),
      timestamp.toNat = time.toNat →
      (do let header ← MonadExcept.ofExcept (writeHeaderToCache type timestamp
            (BitVec.ofNat 32 msg.payload.length) tagHeader)
          writeTag disk header msg.payload) =
        (do let _ ← SrsFileWriter.writev disk (FlvTag.mk type time msg.payload).parts
            return ()) := by
    intro type timestamp time htime
    rw [writeHeaderToCache_tag type timestamp _ htime]
    exact writeTag_eq disk (FlvTag.mk type time msg.payload)
  -- the mask leaves 31 bits
  have hmasked : (msg.timestamp &&& 0x7fffffff).toNat =
      ((msg.timestamp &&& 0x7fffffff).setWidth 32).toNat := by
    rw [BitVec.toNat_setWidth, BitVec.toNat_and]
    change _ &&& 0x7fffffff = (_ &&& 0x7fffffff) % 2 ^ 32
    have hle : msg.timestamp.toNat &&& 0x7fffffff ≤ 0x7fffffff := Nat.and_le_right
    exact (Nat.mod_eq_of_lt (by omega)).symm
  cases hkind : msg.kind with
  | audio =>
      refine ⟨⟨srsCodecFlvTagAudio, (msg.timestamp &&& 0x7fffffff).setWidth 32, msg.payload⟩, ?_,
        rfl, ?_⟩
      · rw [cacheHeader, hkind]
        exact writeHeaderToCache_tag _ _ _ hmasked
      · rw [writeOne, hkind]
        exact hone _ _ _ hmasked
  | video =>
      refine ⟨⟨srsCodecFlvTagVideo, (msg.timestamp &&& 0x7fffffff).setWidth 32, msg.payload⟩, ?_,
        rfl, ?_⟩
      · rw [cacheHeader, hkind]
        exact writeHeaderToCache_tag _ _ _ hmasked
      · rw [writeOne, hkind]
        exact hone _ _ _ hmasked
  | other =>
      refine ⟨⟨srsCodecFlvTagScript, 0, msg.payload⟩, ?_, rfl, ?_⟩
      · rw [cacheHeader, hkind]
        exact writeHeaderToCache_tag _ _ _ rfl
      · rw [writeOne, hkind]
        exact hone _ _ _ rfl

/-- **The fast path agrees with the plain one**: the same result and the same file, for all messages
and on every disk. -/
theorem writeTags_eq_writeEach (disk : Disk) (msgs : List SrsSharedPtrMessage) :
    writeTags disk msgs = writeEach disk msgs := by
  have hprepared : ∃ iovss, prepareIovss msgs = .ok iovss ∧
      (do let _ ← SrsFileWriter.writev disk iovss; return ()) = writeEach disk msgs := by
    induction msgs with
    | nil => exact ⟨[], rfl, by simp only [SrsFileWriter.writev, writeEach, pure_bind]⟩
    | cons msg msgs ih =>
        obtain ⟨iovss, hrest, heach⟩ := ih
        obtain ⟨t, hheader, hdata, hone⟩ := exists_parts disk msg
        have hsize : bigEndian32 (BitVec.ofNat 32
            (srsFlvTagHeaderSize + msg.payload.length)).toNat = t.previousTagSize := by
          rw [BitVec.toNat_ofNat, bigEndian32_mod, Nat.add_comm, ← hdata]
          rfl
        refine ⟨t.parts ++ iovss, ?_, ?_⟩
        · rw [prepareIovss, hheader, writePtsToCache_eq _ (List.length_replicate ..), hrest, hsize,
            ← hdata]
          rfl
        · rw [writev_append, writeEach, hone, ← heach]
          simp only [bind_assoc, pure_bind]
  obtain ⟨iovss, hprepare, heach⟩ := hprepared
  rw [← heach, writeTags, hprepare]
  rfl

end SrsFlvEncoder

end RtpCapture
