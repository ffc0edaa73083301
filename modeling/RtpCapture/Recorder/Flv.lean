import RtpCapture.Foundations.Traced
import RtpCapture.Foundations.ByteMemory
import RtpCapture.Recorder.Clock

/-! # Events of a recording and the FLV writer

What one recorder does to the outside is a list of `Event`s: the calls it makes to the FLV library
and to the raw output stream, the bytes that reach the file (`Output`), its own handler calls with
the timestamps they compute, and every `memcpy` into one of its fixed arrays. An operation that the
C++ leaves undefined or that ends the process stops the recording with a `Fault`; the event of the
call or copy is emitted first, so that the trace shows what was attempted.

`srsFlvOpenWrite`, `srsFlvWriteHeader`, `srsFlvWriteTag` and `srsFlvWriteSpsPpsTag` are the entry
points of `srs_librtmp.cpp`, `muxSequenceHeader` the AVC sequence header of `srs_raw_avc.cpp`.
Whether an open or a write succeeds is an argument; a write that fails puts nothing in the file. -/

namespace RtpCapture

/-- `SRS_RTMP_TYPE_AUDIO` and `SRS_RTMP_TYPE_VIDEO`. -/
inductive TagType
  | audio
  | video
  deriving DecidableEq, Repr

/-- `enum AudioType{U_LAW, A_LAW}`. -/
inductive AudioType
  | uLaw
  | aLaw
  deriving DecidableEq, Repr

/-- **What reaches the output file.** -/
inductive Output
  /-- The nine bytes of the FLV header. -/
  | flvHeader (header : List Byte)
  /-- One FLV tag: its type, timestamp and data. -/
  | flvTag (type : TagType) (timestamp : Word) (data : List Byte)
  /-- Bytes of the raw program stream. -/
  | raw (data : List Byte)
  deriving DecidableEq, Repr

/-- **What a recorder does**, step by step. -/
inductive Event
  /-- `srs_flv_open_write`, and whether it returned a context. -/
  | flvOpenWrite (fileName : String) (opened : Bool)
  /-- `srs_flv_write_header`; `flv` says that the context is not null. -/
  | flvWriteHeader (flv : Bool) (header : List Byte)
  /-- `srs_flv_write_tag`. -/
  | flvWriteTag (flv : Bool) (type : TagType) (timestamp : Word) (data : List Byte)
  /-- `srs_flv_write_sps_pps_tag`. -/
  | flvWriteSpsPpsTag (flv : Bool) (timestamp : Word) (sps pps : List Byte)
  /-- `m_psOutfile.open`. -/
  | psOpen (fileName : String)
  /-- Bytes that reached the file. -/
  | output (o : Output)
  /-- `videoHandler` is entered: the NAL type it reads, the NAL unit, its timestamp and marker. -/
  | videoHandler (nalType : Byte) (nal : List Byte) (time : Word) (marker : Bool)
  /-- `videoHandler` has computed its `timestamp`. -/
  | videoTimestamp (timestamp : Word)
  /-- `audioHandler` is entered. -/
  | audioHandler (type : AudioType) (payload : List Byte) (time : Word)
  /-- `audioHandler` has computed its `timestamp`. -/
  | audioTimestamp (timestamp : Word)
  /-- `memcpy` of `length` bytes to `m_nal_data + offset`. -/
  | nalDataCopy (offset length : ℕ)
  /-- `memcpy` of `length` bytes to `video_data + offset`. -/
  | videoDataCopy (offset length : ℕ)
  /-- `memcpy` of `length` bytes to `sps`. -/
  | spsCopy (length : ℕ)
  /-- `memcpy` of `length` bytes to `pps`. -/
  | ppsCopy (length : ℕ)
  deriving DecidableEq, Repr

/-- **Why a recording stops.** -/
inductive Fault
  /-- A write through a null FLV context. -/
  | nullContext
  /-- A division trap in the clock. -/
  | divisionTrap
  /-- A copy past the end of `m_nal_data`. -/
  | nalDataOverrun
  /-- A copy past the end of `video_data`. -/
  | videoDataOverrun
  /-- A copy past the end of `sps`. -/
  | spsOverrun
  /-- A copy past the end of `sps_pps_tag_data`. -/
  | spsPpsTagOverrun
  /-- `std::length_error` from a negative string size. -/
  | lengthError
  /-- A failed `srs_assert`. -/
  | assertion
  deriving DecidableEq, Repr

/-- A recording in progress. -/
abbrev Recording := Traced Event Fault

open Traced

/-! ## Opening and writing -/

/-- `srs_flv_open_write`: the context, or null. -/
def srsFlvOpenWrite (fileName : String) (opened : Bool) : Recording Bool := do
  emit (.flvOpenWrite fileName opened)
  return opened

/-- `srs_flv_write_header`. -/
def srsFlvWriteHeader (flv : Bool) (header : List Byte) (written : Bool) : Recording Unit := do
  emit (.flvWriteHeader flv header)
  if !flv then fault .nullContext
  else if written then emit (.output (.flvHeader header))
  else return ()

/-- `srs_flv_write_tag`. -/
def srsFlvWriteTag (flv : Bool) (type : TagType) (timestamp : Word) (data : List Byte)
    (written : Bool) : Recording Unit := do
  emit (.flvWriteTag flv type timestamp data)
  if !flv then fault .nullContext
  else if written then emit (.output (.flvTag type timestamp data))
  else return ()

/-! ## The AVC sequence header -/

/-- The two bytes `write_2bytes` puts for an `int16_t`, most significant first. -/
def bigEndian16 (n : ℕ) : List Byte := [BitVec.ofNat 8 (n / 2 ^ 8), BitVec.ofNat 8 n]

/-- `configurationVersion`, `AVCProfileIndication`, `profile_compatibility`,
`AVCLevelIndication` and `lengthSizeMinusOne`, then one SPS and one PPS with their lengths. -/
def avcDecoderConfiguration (sps pps : List Byte) : List Byte :=
  [0x01, sps.getD 1 0, 0x00, sps.getD 3 0, 0x03]
    ++ [0x01] ++ bigEndian16 sps.length ++ sps
    ++ [0x01] ++ bigEndian16 pps.length ++ pps

/-- `SrsRawH264Stream::mux_sequence_header`: it asserts an SPS of at least four bytes, and
`write_string` asserts that the string it writes is not empty. -/
def muxSequenceHeader (sps pps : List Byte) : Recording (List Byte) :=
  if sps.length < 4 then fault .assertion
  else if pps.length = 0 then fault .assertion
  else return avcDecoderConfiguration sps pps

/-- The size of the local array `sps_pps_tag_data`. -/
def spsPpsTagDataSize : ℕ := 256

/-- `srs_flv_write_sps_pps_tag`: both strings are built from the arrays and their sizes before the
header is muxed into the tag buffer. -/
def srsFlvWriteSpsPpsTag (flv : Bool) (timestamp : Word) (spsData : Memory) (spsSize : ℤ)
    (ppsData : Memory) (ppsSize : ℤ) (written : Bool) : Recording Unit := do
  let sps := spsData.read 0 spsSize.toNat
  let pps := ppsData.read 0 ppsSize.toNat
  emit (.flvWriteSpsPpsTag flv timestamp sps pps)
  if !flv then fault .nullContext
  else if spsSize < 0 ∨ ppsSize < 0 then fault .lengthError
  else
    let sh ← muxSequenceHeader sps pps
    if spsPpsTagDataSize < sh.length + 5 then fault .spsPpsTagOverrun
    else if written then
      emit (.output (.flvTag .video timestamp ([0x17, 0x00, 0x00, 0x00, 0x00] ++ sh)))
    else return ()

end RtpCapture
