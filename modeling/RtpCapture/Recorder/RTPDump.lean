import RtpCapture.Recorder.Flv

/-! # The recorder of one session

`RTPDump` turns the RTP packets of one session into one output file. `rtpHandler` checks the RTP
header and dispatches on the payload type: PCMU and PCMA packets go to `audioHandler`; packets of
type 96 are classified by the first of them as a raw program stream, which is written as it is, or
as H.264; H.264 packets are reassembled from FU-A fragments and their NAL units go to
`videoHandler`, which collects the parameter sets and then writes one tag for each slice that
carries the marker bit.

The fixed arrays are byte memories with the length in use beside them, as in the class; what the
constructor leaves uninitialised is an argument of `RTPDump.construct`. -/

namespace RtpCapture

open Traced

/-! ## The RTP header -/

/-- A packet as it is handed to `rtpHandler`: a pointer and a length. -/
structure Packet where
  /-- The memory from `buf` on; what lies behind `len` bytes is whatever the block held before. -/
  buf : Memory
  /-- `int len`. -/
  len : ℤ

/-- `struct rtp_header`, with the bit-fields of its first sixteen bits. -/
structure RtpHeader where
  cc : BitVec 4
  x : BitVec 1
  p : BitVec 1
  version : BitVec 2
  pt : BitVec 7
  m : BitVec 1
  seq : BitVec 16
  ts : Word
  ssrc : Word
  deriving DecidableEq, Repr

/-- The cast `(rtp_header *)buf` on a little-endian host, where bit-fields are allocated from the
least significant bit. -/
def rtpHeader (buf : Memory) : RtpHeader :=
  let flags : BitVec 16 := buf 1 ++ buf 0
  { cc := flags.extractLsb' 0 4
    x := flags.extractLsb' 4 1
    p := flags.extractLsb' 5 1
    version := flags.extractLsb' 6 2
    pt := flags.extractLsb' 8 7
    m := flags.extractLsb' 15 1
    seq := buf 3 ++ buf 2
    ts := buf 7 ++ buf 6 ++ buf 5 ++ buf 4
    ssrc := buf 11 ++ buf 10 ++ buf 9 ++ buf 8 }

/-- `poco_ntoh_32`. -/
def pocoNtoh32 (x : Word) : Word :=
  ((x >>> 24) &&& 0x000000ff) ||| ((x >>> 8) &&& 0x0000ff00) ||| ((x <<< 8) &&& 0x00ff0000)
    ||| ((x <<< 24) &&& 0xff000000)

namespace Packet

/-- A packet of `len` bytes that starts with `bytes`; the rest of its block is zero. -/
def ofBytes (bytes : List Byte) (len : ℤ) : Packet := ⟨Memory.ofList bytes, len⟩

/-- `rh->version`. -/
def version (p : Packet) : BitVec 2 := (rtpHeader p.buf).version

/-- `rh->pt`. -/
def pt (p : Packet) : BitVec 7 := (rtpHeader p.buf).pt

/-- `poco_ntoh_32(rh->ts)`. -/
def time (p : Packet) : Word := pocoNtoh32 (rtpHeader p.buf).ts

/-- `rh->m` as the `bool marker`. -/
def marker (p : Packet) : Bool := (rtpHeader p.buf).m = 1

/-- `h264_buf = buf + 12`. -/
def h264Buf (p : Packet) : Memory := p.buf.shift 12

/-- `h264_len = len - 12`, for a packet that passed the length check. -/
def h264Len (p : Packet) : ℕ := (p.len - 12).toNat

/-- The bytes behind the fixed header. -/
def payload (p : Packet) : List Byte := p.h264Buf.read 0 p.h264Len

/-- The payload has `h264_len` bytes. -/
@[simp] theorem length_payload (p : Packet) : p.payload.length = p.h264Len :=
  Memory.length_read ..

end Packet

/-! ## The state -/

/-- `enum CameraType{DEFAULT, RTSP_CAMERA, PS_CAMERA}`. -/
inductive CameraType
  | default
  | rtspCamera
  | psCamera
  deriving DecidableEq, Repr

/-- `std::ofstream m_psOutfile`: not opened yet, open and usable, open with an error bit set, or not
open because `open` failed. With an error bit set every write does nothing. -/
inductive OutStream
  | closed
  | good
  | bad
  | failed
  deriving DecidableEq, Repr

/-- `sizeof(sps)` and `sizeof(pps)`. -/
def spsArraySize : ℕ := 128

/-- `sizeof(video_data)`. -/
def videoDataSize : ℕ := 512 * 1024

/-- `sizeof(m_nal_data)`. -/
def nalDataSize : ℕ := 256 * 1024

/-- **The fields of `RTPDump`.** -/
structure RTPDump where
  isVideoBegin : ℕ
  /-- `m_flv`: true when it is not null. -/
  flv : Bool
  isSpsPpsOk : ℕ
  audioClock : Clock
  videoClock : Clock
  sps : Memory
  spsSize : ℤ
  pps : Memory
  ppsSize : ℤ
  videoData : Memory
  /-- `m_length`. -/
  length : ℕ
  nalData : Memory
  nalLength : ℕ
  cameraType : CameraType
  psOutfile : OutStream
  outputFileName : String
  videoFrequency : Word

/-- The fields the constructor does not initialise. -/
structure Uninitialised where
  sps : Memory
  spsSize : ℤ
  pps : Memory
  ppsSize : ℤ
  videoData : Memory
  nalData : Memory

/-- `RTPDump::RTPDump`. -/
def RTPDump.construct (fileName : String) (videoFrequency : Word) (u : Uninitialised) :
    RTPDump where
  isVideoBegin := 0
  flv := false
  isSpsPpsOk := 0
  audioClock := Clock.start
  videoClock := Clock.start
  sps := u.sps
  spsSize := u.spsSize
  pps := u.pps
  ppsSize := u.ppsSize
  videoData := u.videoData
  length := 0
  nalData := u.nalData
  nalLength := 0
  cameraType := .default
  psOutfile := .closed
  outputFileName := fileName
  videoFrequency := videoFrequency.sdiv 1000

/-- Fields that happen to be zero. -/
def Uninitialised.zero : Uninitialised := ⟨fun _ => 0, 0, fun _ => 0, 0, fun _ => 0, fun _ => 0⟩

/-- How the file system answers during one call of `rtpHandler`. -/
structure FileResults where
  /-- `srs_flv_open_write` returns a context. -/
  opened : Bool
  /-- `srs_flv_write_header` succeeds. -/
  headerWritten : Bool
  /-- `m_psOutfile.open` succeeds. -/
  psOpened : Bool
  /-- The tag or the raw bytes written by the call, if any, reach the file. -/
  written : Bool
  deriving DecidableEq, Repr

/-- Everything succeeds. -/
def FileResults.allGood : FileResults := ⟨true, true, true, true⟩

/-! ## The audio handler -/

/-- The byte put in front of the payload: the format of the FLV audio tag. -/
def AudioType.header : AudioType → Byte
  | .aLaw => 0x72
  | .uLaw => 0x82

/-- `audioHandler`: the clock with eight ticks per millisecond, then one tag made of the format
byte (stored over the byte before the payload) and the payload. -/
def audioHandler (r : FileResults) (d : RTPDump) (payload : List Byte) (time : Word)
    (type : AudioType) : Recording RTPDump := do
  emit (.audioHandler type payload time)
  match d.audioClock.tick 8 time with
  | none => fault .divisionTrap
  | some (clock, timestamp) =>
    emit (.audioTimestamp timestamp)
    if 1 < timestamp.toNat then
      srsFlvWriteTag d.flv .audio timestamp (type.header :: payload) r.written
    return { d with audioClock := clock }

/-! ## The video handler -/

/-- `h264_buf[0] & 0x1f`. -/
def nalType (b : Byte) : Byte := b &&& 0x1f

/-- The SPS branch: `memcpy(sps, h264_buf, h264_len); sps_size = h264_len; is_sps_pps_ok++;`. -/
def storeSps (d : RTPDump) (buf : Memory) (len : ℕ) : Recording RTPDump :=
  if nalType (buf 0) = 7 then do
    emit (.spsCopy len)
    if spsArraySize < len then fault .spsOverrun
    else return { d with
      sps := d.sps.write 0 (buf.read 0 len), spsSize := len, isSpsPpsOk := d.isSpsPpsOk + 1 }
  else return d

/-- The size kept of a PPS: four bytes when it is longer than fifty. -/
def ppsKept (len : ℕ) : ℕ := if 50 < len then 4 else len

/-- The PPS branch: `is_sps_pps_ok++; pps_size = ..; memcpy(pps, h264_buf, pps_size);`. -/
def storePps (d : RTPDump) (buf : Memory) (len : ℕ) : Recording RTPDump :=
  if nalType (buf 0) = 8 then do
    emit (.ppsCopy (ppsKept len))
    return { d with
      pps := d.pps.write 0 (buf.read 0 (ppsKept len)), ppsSize := ppsKept len,
      isSpsPpsOk := d.isSpsPpsOk + 1 }
  else return d

/-- `if(is_sps_pps_ok == 2)`: the sequence header is written. -/
def writeSequenceHeader (r : FileResults) (d : RTPDump) (timestamp : Word) : Recording RTPDump :=
  if d.isSpsPpsOk = 2 then do
    srsFlvWriteSpsPpsTag d.flv timestamp d.sps d.spsSize d.pps d.ppsSize r.written
    return d
  else return d

/-- The branch taken until both parameter sets have been counted. -/
def parameterSetPhase (r : FileResults) (d : RTPDump) (buf : Memory) (len : ℕ)
    (timestamp : Word) : Recording RTPDump := do
  let d ← storeSps d buf len
  let d ← storePps d buf len
  writeSequenceHeader r d timestamp

/-- The five bytes of `AVCVIDEOPACKET`: a key frame for slices of type 5, else an inter frame. -/
def avcVideoPacket (type : Byte) : List Byte :=
  if type = 5 then [0x17, 0x01, 0x00, 0x00, 0x00] else [0x27, 0x01, 0x00, 0x00, 0x00]

/-- The header of the tag data has five bytes. -/
@[simp] theorem length_avcVideoPacket (type : Byte) : (avcVideoPacket type).length = 5 := by
  unfold avcVideoPacket
  split <;> rfl

/-- `if(marker)`: the header over the front of `video_data`, the tag, and an empty buffer. -/
def flushSlices (r : FileResults) (d : RTPDump) (type : Byte) (timestamp : Word) :
    Recording RTPDump := do
  let videoData := d.videoData.write 0 (avcVideoPacket type)
  srsFlvWriteTag d.flv .video timestamp (videoData.read 0 (d.length + 5)) r.written
  return { d with videoData := videoData, length := 0 }

/-- The length in front of the NAL unit, the `memcpy` behind it, and
`m_length += (h264_len + 4);`. -/
def appendSlice (d : RTPDump) (buf : Memory) (len : ℕ) : RTPDump :=
  { d with
    videoData := (d.videoData.write (5 + d.length) (bigEndian32 len)).write (5 + d.length + 4)
      (buf.read 0 len),
    length := d.length + (len + 4) }

/-- The slice branch: the length and the NAL unit are appended behind `5 + m_length`. -/
def slicePhase (r : FileResults) (d : RTPDump) (buf : Memory) (len : ℕ) (timestamp : Word)
    (marker : Bool) : Recording RTPDump := do
  if nalType (buf 0) = 5 ∨ nalType (buf 0) = 1 then
    emit (.videoDataCopy (5 + d.length + 4) len)
    if videoDataSize < 5 + d.length + 4 + len then fault .videoDataOverrun
    else if marker then flushSlices r (appendSlice d buf len) (nalType (buf 0)) timestamp
    else return appendSlice d buf len
  else return d

/-- `if(is_sps_pps_ok != 2)`: a parameter set is stored, else a slice. -/
def nalPhase (r : FileResults) (d : RTPDump) (buf : Memory) (len : ℕ) (timestamp : Word)
    (marker : Bool) : Recording RTPDump :=
  if d.isSpsPpsOk ≠ 2 then parameterSetPhase r d buf len timestamp
  else slicePhase r d buf len timestamp marker

/-- **`videoHandler`**: the clock, then the parameter sets or the slices. -/
def videoHandler (r : FileResults) (d : RTPDump) (buf : Memory) (len : ℕ) (time : Word)
    (marker : Bool) : Recording RTPDump := do
  emit (.videoHandler (nalType (buf 0)) (buf.read 0 len) time marker)
  match d.videoClock.tick d.videoFrequency time with
  | none => fault .divisionTrap
  | some (clock, timestamp) =>
    emit (.videoTimestamp timestamp)
    let d ← nalPhase r { d with videoClock := clock } buf len timestamp marker
    return { d with isVideoBegin := 1 }

/-! ## Dispatch -/

/-- The FLV header: signature, version, audio and video flags, data offset. -/
def flvHeaderBytes : List Byte := [0x46, 0x4C, 0x56, 0x01, 0x05, 0x00, 0x00, 0x00, 0x09]

/-- `initFLVHeader`: opens the file; a failed header write is only logged. -/
def initFLVHeader (r : FileResults) (d : RTPDump) : Recording RTPDump := do
  let flv ← srsFlvOpenWrite d.outputFileName r.opened
  if flv then srsFlvWriteHeader flv flvHeaderBytes r.headerWritten
  return { d with flv := flv }

/-- `h264_len - 2` in `u_int32_t`. -/
def fuPayloadLen (len : ℕ) : ℕ := (2 ^ 32 - 2 + len) % 2 ^ 32

/-- `if(h264_buf[1] & 0x80)`: a start fragment rebuilds the NAL header. -/
def startNal (d : RTPDump) (buf : Memory) : RTPDump :=
  if buf 1 &&& 0x80 ≠ 0 then
    { d with
      nalData := d.nalData.write 0 [(buf 0 &&& 0xe0) ||| (buf 1 &&& 0x1f)], nalLength := 1 }
  else d

/-- `memcpy(m_nal_data + m_nal_length, h264_buf + 2, h264_len - 2); m_nal_length += ..;`. -/
def appendFragment (d : RTPDump) (buf : Memory) (n : ℕ) : RTPDump :=
  { d with nalData := d.nalData.write d.nalLength (buf.read 2 n), nalLength := d.nalLength + n }

/-- The FU-A branch: a start fragment restarts the buffer, every fragment is appended, an end
fragment hands the buffer to `videoHandler`. -/
def fuaHandler (r : FileResults) (d : RTPDump) (buf : Memory) (len : ℕ) (time : Word)
    (marker : Bool) : Recording RTPDump := do
  let d := startNal d buf
  let n := fuPayloadLen len
  emit (.nalDataCopy d.nalLength n)
  if nalDataSize < d.nalLength + n then fault .nalDataOverrun
  else
    let d := appendFragment d buf n
    if buf 1 &&& 0x40 ≠ 0 then videoHandler r d d.nalData d.nalLength time marker
    else return d

/-- The last branch of `rtpHandler`: a fragment or a whole NAL unit. -/
def nalHandler (r : FileResults) (d : RTPDump) (p : Packet) : Recording RTPDump :=
  if nalType (p.h264Buf 0) = 28 then fuaHandler r d p.h264Buf p.h264Len p.time p.marker
  else videoHandler r d p.h264Buf p.h264Len p.time p.marker

/-- The end of `rtpHandler`, reached by H.264 packets: open the file if it is not open yet, give up
if that fails. -/
def h264Handler (r : FileResults) (d : RTPDump) (p : Packet) : Recording RTPDump := do
  let d ← if d.flv then pure d else initFLVHeader r d
  if d.flv then nalHandler r d p else return d

/-- The camera type the first packet of type 96 decides. -/
def classify (h264Buf : Memory) : CameraType :=
  if h264Buf 0 = 0 ∨ h264Buf 1 = 0 ∨ h264Buf 2 = 1 then .psCamera
  else if h264Buf 0 = 0x67 ∨ h264Buf 0 = 0x68 ∨ h264Buf 0 &&& 0x1f = 28 then .rtspCamera
  else .psCamera

/-- `detect camera type`: decided once; a program stream opens the raw output file. -/
def detectCamera (r : FileResults) (d : RTPDump) (p : Packet) : Recording RTPDump :=
  if d.cameraType = .default then
    if classify p.h264Buf = .psCamera then do
      emit (.psOpen d.outputFileName)
      return { d with
        psOutfile := if r.psOpened then .good else .failed, cameraType := .psCamera }
    else return { d with cameraType := .rtspCamera }
  else return d

/-- `m_psOutfile.write`. -/
def psWrite (r : FileResults) (d : RTPDump) (p : Packet) : Recording RTPDump :=
  if d.psOutfile = .good then
    if r.written then do
      emit (.output (.raw p.payload))
      return d
    else return { d with psOutfile := .bad }
  else return d

/-- **`rtpHandler`.** -/
def rtpHandler (r : FileResults) (d : RTPDump) (p : Packet) : Recording RTPDump :=
  if p.len < 12 then return d
  else if p.version ≠ 2 then return d
  else if p.pt = 0 ∨ p.pt = 8 then
    if d.isVideoBegin ≠ 0 then
      audioHandler r d p.payload p.time (if p.pt = 0 then .uLaw else .aLaw)
    else return d
  else if p.pt = 96 then do
    let d ← detectCamera r d p
    if d.cameraType = .psCamera then psWrite r d p else h264Handler r d p
  else if p.pt = 98 then h264Handler r d p
  else return d

/-- One packet that arrives at a recorder, with the answers of the file system to it. -/
structure Arrival where
  packet : Packet
  results : FileResults

/-- A version 2 packet with this marker, payload type, RTP timestamp and payload; every write
succeeds. -/
def Arrival.ofPayload (marker : Bool) (pt : BitVec 7) (time : Word) (payload : List Byte) : Arrival :=
  ⟨.ofBytes ([0x80, BitVec.ofBool marker ++ pt, 0, 0, time.extractLsb' 24 8, time.extractLsb' 16 8,
    time.extractLsb' 8 8, time.extractLsb' 0 8, 0, 0, 0, 0] ++ payload) (12 + payload.length),
    .allGood⟩

/-- **The recorder as a machine**: one packet is one step. -/
def RTPDump.step (d : RTPDump) (a : Arrival) : Recording RTPDump :=
  rtpHandler a.results d a.packet

/-- Feed a list of packets to `rtpHandler`. -/
def RTPDump.record (d : RTPDump) (as : List Arrival) : Recording RTPDump :=
  Traced.run RTPDump.step d as

end RtpCapture
