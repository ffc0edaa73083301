import RtpCapture.Recorder.ShiftedClock
import RtpCapture.Recorder.PacketBytes

/-! # The RTP format

A version 2 packet as a sender builds it (fixed header, contributing sources, header extension,
payload and padding) against what `rtpHandler` reads of it: the interface asks for packets with a
header of twelve bytes, and everything behind these is media.

* **`RtpPacket`** — the packets of the format, with their bytes `RtpPacket.encode`.
* **`Holds.pt`**, **`Holds.marker`**, **`Holds.time`** — the fields of the header are decoded.
* **`step_passesOn`** — the media bytes that are passed on are those behind the fixed header.
* **`media_eq_payload_iff`** — which are the payload for a packet without sources, extension and
  padding.
* **`step_passesOn_padding`** — a packet whose padding is recorded. -/

namespace RtpCapture

open Traced

/-! ## Packets of the format -/

/-- A header extension: the field defined by the profile, and the words it counts. -/
structure HeaderExtension where
  profile : BitVec 16
  words : List Word
  length_lt : words.length < 2 ^ 16

/-- The length is a field of sixteen bits. -/
def HeaderExtension.encode (e : HeaderExtension) : List Byte :=
  networkBytes (e.profile ++ BitVec.ofNat 16 e.words.length) ++ e.words.flatMap networkBytes

/-- **An RTP packet of version 2.** -/
structure RtpPacket where
  marker : Bool
  payloadType : BitVec 7
  sequenceNumber : BitVec 16
  timestamp : Word
  ssrc : Word
  csrc : List Word
  extension : Option HeaderExtension
  payload : List Byte
  padding : List Byte
  csrc_le : csrc.length ≤ 15
  payload_ne : payload ≠ []
  /-- The last byte of the padding counts it. -/
  padding_counts : ∀ b ∈ padding.getLast?, b.toNat = padding.length

namespace RtpPacket

variable (q : RtpPacket)

/-- Version, padding flag, extension flag and the number of sources. -/
def firstByte : Byte :=
  (2 : BitVec 2) ++ BitVec.ofBool (!q.padding.isEmpty) ++ BitVec.ofBool q.extension.isSome ++
    BitVec.ofNat 4 q.csrc.length

/-- Marker and payload type. -/
def secondByte : Byte := BitVec.ofBool q.marker ++ q.payloadType

/-- The twelve bytes of the fixed header. -/
def fixedHeader : List Byte :=
  [q.firstByte, q.secondByte, q.sequenceNumber.extractLsb' 8 8, q.sequenceNumber.extractLsb' 0 8] ++
    networkBytes q.timestamp ++ networkBytes q.ssrc

/-- **The bytes behind the fixed header.** -/
def media : List Byte :=
  q.csrc.flatMap networkBytes ++ (q.extension.elim [] HeaderExtension.encode ++
    (q.payload ++ q.padding))

/-- **The bytes of a packet.** -/
def encode : List Byte := q.fixedHeader ++ q.media

/-- The header is the one that `onRTPData` is documented for, and nothing follows the payload. -/
def isPlain : Prop := q.csrc = [] ∧ q.extension = none ∧ q.padding = []

/-- The fixed header has twelve bytes. -/
@[simp] theorem length_fixedHeader : q.fixedHeader.length = 12 := rfl

/-- A packet is its fixed header and the media bytes behind it. -/
theorem length_encode : q.encode.length = 12 + q.media.length := by
  rw [encode, List.length_append, length_fixedHeader]

/-- Four bytes for each contributing source. -/
theorem length_sources (ws : List Word) : (ws.flatMap networkBytes).length = 4 * ws.length := by
  induction ws with
  | nil => rfl
  | cons w ws ih =>
      rw [List.flatMap_cons, List.length_append, ih, List.length_cons]
      have hfour : (networkBytes w).length = 4 := rfl
      omega

/-- A header extension takes at least four bytes. -/
theorem length_extension (e : HeaderExtension) : 4 ≤ e.encode.length := by
  rw [HeaderExtension.encode, List.length_append]
  exact Nat.le_add_right 4 _

/-- **The media bytes are the payload exactly for plain packets.** -/
theorem media_eq_payload_iff : q.media = q.payload ↔ q.isPlain := by
  constructor
  · intro heq
    have hlength := congrArg List.length heq
    rw [media, List.length_append, List.length_append, List.length_append, length_sources] at hlength
    have hextension : q.extension = none := by
      cases hext : q.extension with
      | none => rfl
      | some e =>
          have hfour := length_extension e
          rw [hext, Option.elim_some] at hlength
          omega
    refine ⟨List.eq_nil_of_length_eq_zero (by omega), hextension,
      List.eq_nil_of_length_eq_zero (by omega)⟩
  · rintro ⟨hcsrc, hextension, hpadding⟩
    rw [media, hcsrc, hextension, hpadding, List.append_nil]
    rfl

/-- Behind the fixed header there is at least the payload, which is not empty. -/
theorem media_ne_nil : q.media ≠ [] := by
  intro hnil
  simp only [media, List.append_eq_nil_iff] at hnil
  exact q.payload_ne hnil.2.2.1

end RtpPacket

/-! ## Decoding -/

/-- The halves of the sixteen flag bits in memory order. -/
theorem flags_fields (v : BitVec 2) (p x : BitVec 1) (cc : BitVec 4) (m : BitVec 1)
    (pt : BitVec 7) :
    let flags : BitVec 16 := (m ++ pt : BitVec 8) ++ (v ++ p ++ x ++ cc : BitVec 8)
    flags.extractLsb' 6 2 = v ∧ flags.extractLsb' 8 7 = pt ∧ flags.extractLsb' 15 1 = m := by
  intro flags
  refine ⟨?_, ?_, ?_⟩
  · ext i hi
    simp [flags]
    grind
  · ext i hi
    simp [flags]
    grind
  · ext i hi
    simp [flags]
    grind

/-- **A block that holds a packet**, whose length is an `int`. -/
structure Packet.Holds (p : Packet) (q : RtpPacket) : Prop where
  len : p.len = q.encode.length
  bytes : p.buf.read 0 q.encode.length = q.encode
  size : p.len < 2 ^ 31

namespace Packet.Holds

variable {p : Packet} {q : RtpPacket}

/-- A packet of the format passes the length check. -/
theorem twelve_le (h : p.Holds q) : 12 ≤ p.len := by
  rw [h.len, q.length_encode]
  omega

/-- The bytes of the fixed header. -/
theorem header (h : p.Holds q) : p.buf.read 0 12 = q.fixedHeader := by
  have htake := Memory.take_read p.buf 0 (k := 12) (n := q.encode.length)
    (by rw [q.length_encode]; omega)
  rw [← htake, h.bytes, RtpPacket.encode]
  exact List.take_left' q.length_fixedHeader

/-- The first two bytes. -/
theorem flags (h : p.Holds q) : p.buf 0 = q.firstByte ∧ p.buf 1 = q.secondByte := by
  have hheader := h.header
  rw [Memory.read_succ, Memory.read_succ] at hheader
  obtain ⟨h0, hrest⟩ := List.cons.inj hheader
  exact ⟨h0, (List.cons.inj hrest).1⟩

/-- It passes the version check. -/
theorem version (h : p.Holds q) : p.version = 2 := by
  obtain ⟨h0, h1⟩ := h.flags
  rw [Packet.version, rtpHeader, h0, h1]
  exact (flags_fields ..).1

/-- **The payload type is decoded.** -/
theorem pt (h : p.Holds q) : p.pt = q.payloadType := by
  obtain ⟨h0, h1⟩ := h.flags
  rw [Packet.pt, rtpHeader, h0, h1]
  exact (flags_fields ..).2.1

/-- **The marker is decoded.** -/
theorem marker (h : p.Holds q) : p.marker = q.marker := by
  obtain ⟨h0, h1⟩ := h.flags
  have hm : (rtpHeader p.buf).m = BitVec.ofBool q.marker := by
    rw [rtpHeader, h0, h1]
    exact (flags_fields ..).2.2
  rw [Packet.marker, hm]
  cases q.marker <;> rfl

/-- **The timestamp is decoded.** -/
theorem time (h : p.Holds q) : p.time = q.timestamp := by
  have hts : p.buf.read 4 4 = networkBytes q.timestamp := by
    have hheader := h.header
    have hsplit : p.buf.read 0 12 = p.buf.read 0 4 ++ (p.buf.read 4 4 ++ p.buf.read 8 4) := rfl
    rw [hsplit, RtpPacket.fixedHeader, List.append_assoc] at hheader
    exact (List.append_inj (List.append_inj hheader rfl).2 rfl).1
  obtain ⟨h4, h5, h6, h7⟩ : p.buf 4 = q.timestamp.extractLsb' 24 8 ∧
      p.buf 5 = q.timestamp.extractLsb' 16 8 ∧ p.buf 6 = q.timestamp.extractLsb' 8 8 ∧
      p.buf 7 = q.timestamp.extractLsb' 0 8 := by
    simpa [Memory.read, networkBytes, List.range_succ] using hts
  rw [Packet.time, rtpHeader]
  dsimp only
  rw [h4, h5, h6, h7]
  exact pocoNtoh32_bytes q.timestamp

/-- So `rtpHandler` does not drop it. -/
theorem isRtp (h : p.Holds q) : p.isRtp = true :=
  Packet.isRtp_iff.mpr ⟨not_lt.mpr h.twelve_le, h.version⟩

/-- **What the handlers get** are the bytes behind the fixed header. -/
theorem payload (h : p.Holds q) : p.payload = q.media := by
  have hlen : p.h264Len = q.media.length := by
    have hlen := h.len
    rw [q.length_encode] at hlen
    unfold Packet.h264Len
    omega
  have hbytes := h.bytes
  rw [q.length_encode, Memory.read_add, h.header, RtpPacket.encode] at hbytes
  rw [Packet.payload, hlen, Packet.h264Buf, Memory.read_shift]
  exact (List.append_inj hbytes rfl).2

end Packet.Holds

/-! ## What is passed on -/

/-- Media that `rtpHandler` takes for a fragment. -/
def isFragment (media : List Byte) : Prop := ∃ b ∈ media.head?, nalType b = 28

/-- **What an event uses of the packet** `q` when `media` are its media bytes. The copy of a fragment
starts behind its two header bytes; the NAL unit that it completes is not its own. -/
def Event.Uses (q : RtpPacket) (media : List Byte) : Event → Prop
  | .output (.raw data) => q.payloadType = 96 ∧ data = media
  | .audioHandler type payload time =>
      q.payloadType = type.payloadType ∧ payload = media ∧ time = q.timestamp
  | .flvWriteTag _ .audio _ data => data.tail = media
  | .output (.flvTag .audio _ data) => data.tail = media
  | .nalDataCopy _ n => 2 ≤ media.length → n = (media.drop 2).length
  | .videoHandler _ nal time marker => (q.payloadType = 96 ∨ q.payloadType = 98) ∧
      time = q.timestamp ∧ marker = q.marker ∧ (¬ isFragment media → nal = media)
  | _ => True

/-- **A step passes on** the bytes `media` of the packet `q`, with its payload type, timestamp and
marker. -/
structure PassesOn (d : RTPDump) (a : Arrival) (q : RtpPacket) (media : List Byte) : Prop where
  events : ∀ e ∈ (d.step a).trace, e.Uses q media
  reassembly : isFragment media → 2 ≤ media.length → d.route.reaches a = true →
    ∀ d', (d.step a).outcome = .ok d' → d'.nalData.read 0 d'.nalLength =
      (if a.packet.isStart then [a.packet.fuNalHeader] else d.nalData.read 0 d.nalLength) ++
        media.drop 2

section PassesOn

variable {p : Packet} {q : RtpPacket} {history : List Event}

/-- Media bytes are never missing, so the test for a fragment reads the first of them. -/
theorem Packet.Holds.isFuA_iff (h : p.Holds q) : p.isFuA = true ↔ isFragment q.media := by
  rw [Packet.isFuA_iff]
  cases hmedia : q.media with
  | nil => exact absurd hmedia q.media_ne_nil
  | cons b media =>
      have hhead : p.h264Buf 0 = b := Memory.head_of_read (h.payload.trans hmedia)
      rw [hhead]
      simp [isFragment]

/-- The bytes behind the FU header. -/
theorem Packet.Holds.fuPayload (h : p.Holds q) (hlen : 2 ≤ q.media.length) :
    p.fuPayload = q.media.drop 2 := by
  have hn : p.h264Len = q.media.length := by rw [← p.length_payload, h.payload]
  have hsize : p.h264Len < 2 ^ 32 := by
    have hint := h.size
    unfold Packet.h264Len
    omega
  obtain ⟨n, hn'⟩ := Nat.exists_eq_add_of_le (hn ▸ hlen)
  rw [Packet.fuPayload, fuPayloadLen_of_le (by omega) hsize, ← h.payload, Packet.payload, hn',
    Nat.add_sub_cancel_left, Memory.read_add, Nat.zero_add]
  exact (List.drop_left' (Memory.length_read ..)).symm

/-- `videoHandler` passes on what it is entered with. -/
theorem videoHandler_uses (r : FileResults) (d : RTPDump) (buf : Memory) (len : ℕ) {media : List Byte}
    (hpt : q.payloadType = 96 ∨ q.payloadType = 98)
    (hnal : ¬ isFragment media → buf.read 0 len = media) :
    Ensures (fun _ e => e.Uses q media) history (videoHandler r d buf len q.timestamp q.marker)
      fun _ _ => True := by
  obtain ⟨x, heq, hx⟩ := videoHandler_frame r d buf len q.timestamp q.marker
  rw [heq]
  refine ensures_emit_bind ⟨hpt, rfl, rfl, hnal⟩ ?_
  refine ⟨always_of_forall fun _ e hmem => ?_, fun _ _ => trivial⟩
  have he := (hx []).1.forall_mem e hmem
  unfold Event.IsVideoWork at he
  split at he <;> trivial

/-- The H.264 part passes on the media bytes. -/
theorem nalHandler_uses (h : p.Holds q) (r : FileResults) (d : RTPDump)
    (hpt : q.payloadType = 96 ∨ q.payloadType = 98) :
    Ensures (fun _ e => e.Uses q q.media) history (nalHandler r d p) fun _ _ => True := by
  have hfragment : nalType (p.h264Buf 0) = 28 → isFragment q.media := fun hfua =>
    h.isFuA_iff.mp (Packet.isFuA_iff.mpr hfua)
  have hcopy : 2 ≤ q.media.length → fuPayloadLen p.h264Len = (q.media.drop 2).length := by
    intro hlen
    rw [← h.fuPayload hlen, Packet.fuPayload, Memory.length_read]
  refine nalHandler_ensures (fun _ => ?_) (fun _ => hcopy) (fun hfua _ => ?_) fun _ _ => trivial
  · rw [h.time, h.marker]
    exact videoHandler_uses r d _ _ hpt fun _ => h.payload
  · rw [h.time, h.marker]
    exact videoHandler_uses r _ _ _ hpt fun hno => absurd (hfragment hfua) hno

/-- **The media bytes that are passed on** are those behind the fixed header, with the payload type,
the timestamp and the marker of the packet; they are its payload exactly for plain packets. -/
theorem step_passesOn (d : RTPDump) {a : Arrival} (h : a.packet.Holds q) :
    PassesOn d a q q.media ∧ (q.media = q.payload ↔ q.isPlain) := by
  refine ⟨⟨?_, fun hfragment hlen hreaches d' hd' => ?_⟩, q.media_eq_payload_iff⟩
  · refine (step_ensures (P := fun e => e.Uses q q.media) (fun e he => ?_)
      fun hreaches d' grown => ?_).1.forall_mem
    · have hpayload := h.payload
      cases he with
      | audioHandler hpt => exact ⟨h.pt.symm.trans hpt, hpayload, h.time⟩
      | audioWrite type => exact hpayload
      | audioTag type => exact hpayload
      | raw hpt => exact ⟨h.pt.symm.trans hpt, hpayload⟩
      | _ => trivial
    · refine nalHandler_uses h a.results d' ?_
      by_contra hother
      rw [← h.pt] at hother
      rw [(Route.next_of_ignored fun hc => hother hc.2).2] at hreaches
      cases hreaches
  · have hstep : Ensures (fun _ _ => True) [] (d.step a) _ :=
      Depacketizer.step_handed (Depacketizer.matches_ofRecorder d) a
        (fun _ _ _ => trivial) (fun _ _ _ _ _ _ => trivial) fun _ _ _ _ => trivial
    have hdata := (hstep.2 d' hd').1.data
    have hreaches' : (Depacketizer.ofRecorder d).route.reaches a = true := hreaches
    rw [hdata, Depacketizer.next, if_pos hreaches', Depacketizer.reassembled,
      if_pos (h.isFuA_iff.mpr hfragment), Depacketizer.fragment, h.fuPayload hlen]
    rfl

end PassesOn

/-- An access unit of a program stream. -/
def sampleRtp : RtpPacket where
  marker := false
  payloadType := 96
  sequenceNumber := 1
  timestamp := 3600
  ssrc := 7
  csrc := []
  extension := none
  payload := [0x00, 0x00, 0x01, 0xba]
  padding := []
  csrc_le := by decide
  payload_ne := by decide
  padding_counts := by decide

/-- The same with one byte of padding. -/
def samplePadded : RtpPacket :=
  { sampleRtp with padding := [1], padding_counts := by decide }

/-- A packet of the format in a block of its own. -/
def RtpPacket.arrival (q : RtpPacket) : Arrival := ⟨.ofBytes q.encode q.encode.length, .allGood⟩

/-- It is passed on with its payload type, timestamp and marker. -/
theorem step_passesOn_sample :
    PassesOn (.construct "camera.ps" 90000 .zero) sampleRtp.arrival sampleRtp sampleRtp.media ∧
      (sampleRtp.media = sampleRtp.payload ↔ sampleRtp.isPlain) :=
  step_passesOn (.construct "camera.ps" 90000 .zero) ⟨rfl, by decide, by decide⟩

/-- **The padding of a packet is recorded** as if it were its payload. -/
theorem step_passesOn_padding : samplePadded.arrival.packet.Holds samplePadded ∧
    ¬ PassesOn (.construct "camera.ps" 90000 .zero) samplePadded.arrival samplePadded
      samplePadded.payload := by
  refine ⟨⟨rfl, by decide, by decide⟩, fun hpasses => ?_⟩
  have hraw : Event.output (.raw [0x00, 0x00, 0x01, 0xba, 0x01]) ∈
      ((RTPDump.construct "camera.ps" 90000 .zero).step samplePadded.arrival).trace := by decide
  exact absurd (hpasses.events _ hraw).2 (by decide)

end RtpCapture
