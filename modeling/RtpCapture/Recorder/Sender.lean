import RtpCapture.Recorder.Depacketizer

/-! # The sender's packets

The packets a sender makes of its NAL units (RFC 6184, the packetisation `rtpHandler` expects): a
NAL unit travels as one single-NAL packet or as a run of FU-A fragments, and the sequence number
grows by one from packet to packet.

* **`Carries`** — a packet that passes the header checks and carries a given payload.
* **`FragmentRun`** — the FU-A packets of a NAL unit: the FU indicator, the FU header with its start
  and end bits, and a piece of the unit; put together in order they give the unit back
  (`FragmentRun.rebuild`).
* **`Sends`** — the packets sent for a list of NAL units. -/

namespace RtpCapture

/-! ## NAL units and FU-A headers -/

/-- A NAL unit of one of the types 1 to 23, which travel in packets of their own. -/
def IsNalUnit (nal : List Byte) : Prop :=
  ∃ header body, nal = header :: body ∧ 1 ≤ (nalType header).toNat ∧ (nalType header).toNat ≤ 23

/-- The FU indicator: forbidden bit and `nal_ref_idc` of the NAL header, type 28. -/
def fuIndicator (header : Byte) : Byte := (header &&& 0xe0) ||| 28

/-- The FU header: start bit, end bit and the type of the NAL unit. -/
def fuHeader (first last : Bool) (header : Byte) : Byte :=
  (if first then 0x80 else 0) ||| (if last then 0x40 else 0) ||| (header &&& 0x1f)

/-- An FU indicator is recognised. -/
theorem nalType_fuIndicator (header : Byte) : nalType (fuIndicator header) = 28 := by
  revert header
  decide +kernel

/-- The NAL header is rebuilt from the two bytes. -/
theorem rebuild_header (first last : Bool) (header : Byte) :
    (fuIndicator header &&& 0xe0) ||| (fuHeader first last header &&& 0x1f) = header := by
  revert first last header
  decide +kernel

/-- The start bit is read back. -/
theorem fuHeader_start (first last : Bool) (header : Byte) :
    fuHeader first last header &&& 0x80 ≠ 0 ↔ first = true := by
  revert first last header
  decide +kernel

/-- The end bit is read back. -/
theorem fuHeader_end (first last : Bool) (header : Byte) :
    fuHeader first last header &&& 0x40 ≠ 0 ↔ last = true := by
  revert first last header
  decide +kernel

/-! ## Packets -/

/-- **A packet that carries `payload`** behind its header; its length is an `int`. -/
structure Carries (p : Packet) (payload : List Byte) : Prop where
  isRtp : p.isRtp = true
  size : p.len < 2 ^ 31
  payload : p.payload = payload

/-- The `i`-th byte of the payload is the byte the handler reads at `h264_buf[i]`. -/
theorem Carries.h264Buf {p : Packet} {payload : List Byte} (h : Carries p payload) {i : ℕ}
    {b : Byte} (hb : payload[i]? = some b) : p.h264Buf i = b := by
  rw [← h.payload] at hb
  obtain ⟨hi, hget⟩ := List.getElem?_eq_some_iff.mp hb
  simpa [Packet.payload, Memory.read] using hget

/-- The length of the payload is `h264_len`. -/
theorem Carries.h264Len {p : Packet} {payload : List Byte} (h : Carries p payload) :
    p.h264Len = payload.length := by
  rw [← h.payload, Packet.payload, Memory.length_read]

/-- Nothing wraps in `h264_len - 2`: the bytes behind the FU header are appended. -/
theorem Carries.fuPayload {p : Packet} {b₀ b₁ : Byte} {piece : List Byte}
    (h : Carries p (b₀ :: b₁ :: piece)) : p.fuPayload = piece := by
  have hlen : p.h264Len = 2 + piece.length := by
    rw [h.h264Len]
    simp only [List.length_cons]
    omega
  have hsize := h.size
  have hkept : fuPayloadLen p.h264Len = piece.length := by
    rw [fuPayloadLen]
    have hbound : p.h264Len < 2 ^ 31 := by
      rw [Packet.h264Len]
      omega
    omega
  have hread : p.h264Buf.read 0 (2 + piece.length) = b₀ :: b₁ :: piece := by
    rw [← hlen]
    exact h.payload
  rw [Memory.read_add] at hread
  rw [Packet.fuPayload, hkept]
  have htwo : p.h264Buf.read 0 2 = [p.h264Buf 0, p.h264Buf 1] := rfl
  rw [htwo] at hread
  simpa using (List.cons.inj (List.cons.inj hread).2).2

/-- A single-NAL packet is not an FU-A packet. -/
theorem Carries.isFuA_of_isNalUnit {p : Packet} {nal : List Byte} (h : Carries p nal)
    (hnal : IsNalUnit nal) : p.isFuA = false := by
  obtain ⟨header, body, rfl, -, htype⟩ := hnal
  rw [Bool.eq_false_iff, ne_eq, Packet.isFuA_iff, h.h264Buf (i := 0) rfl]
  intro h28
  rw [h28] at htype
  exact absurd htype (by decide)

/-! ## Runs of fragments -/

/-- **The FU-A packets of a NAL unit** with the header `header`, from some fragment on; `first` says
that this is the fragment with the start bit, `body` is what is still to be carried. -/
inductive FragmentRun (header : Byte) : Bool → List Byte → List Packet → Prop
  | last {first : Bool} {p : Packet} {piece : List Byte}
      (h : Carries p (fuIndicator header :: fuHeader first true header :: piece)) :
      FragmentRun header first piece [p]
  | more {first : Bool} {p : Packet} {piece body : List Byte} {ps : List Packet}
      (h : Carries p (fuIndicator header :: fuHeader first false header :: piece))
      (hrest : FragmentRun header false body ps) :
      FragmentRun header first (piece ++ body) (p :: ps)

/-- What the receiver reads off one fragment. -/
theorem Carries.fragment {p : Packet} {header : Byte} {first last : Bool} {piece : List Byte}
    (h : Carries p (fuIndicator header :: fuHeader first last header :: piece)) :
    p.isFuA = true ∧ p.isStart = first ∧ p.isEnd = last ∧ p.fuNalHeader = header ∧
      p.fuPayload = piece := by
  have h0 : p.h264Buf 0 = fuIndicator header := h.h264Buf rfl
  have h1 : p.h264Buf 1 = fuHeader first last header := h.h264Buf rfl
  refine ⟨?_, ?_, ?_, ?_, h.fuPayload⟩
  · rw [Packet.isFuA_iff, h0, nalType_fuIndicator]
  · rw [Bool.eq_iff_iff, Packet.isStart_iff, h1, fuHeader_start]
  · rw [Bool.eq_iff_iff, Packet.isEnd_iff, h1, fuHeader_end]
  · rw [Packet.fuNalHeader, h0, h1, rebuild_header]

/-- **Put together in order**, the fragments give the body of the unit back. -/
theorem FragmentRun.rebuild {header : Byte} {first : Bool} {body : List Byte} {ps : List Packet}
    (h : FragmentRun header first body ps) : ps.flatMap Packet.fuPayload = body := by
  induction h with
  | last h => simp [h.fragment]
  | more h hrest ih => simp [h.fragment, ih]

/-- All packets of a run are FU-A packets. -/
theorem FragmentRun.isFuA {header : Byte} {first : Bool} {body : List Byte} {ps : List Packet}
    (h : FragmentRun header first body ps) : ∀ p ∈ ps, p.isFuA = true := by
  induction h with
  | last h => simpa using h.fragment.1
  | more h hrest ih => simpa [h.fragment] using ih

/-- **How a NAL unit is sent**: in one packet, or as a run of fragments of what follows its
header. -/
inductive SentAs (nal : List Byte) : List Packet → Prop
  | single {p : Packet} (h : Carries p nal) : SentAs nal [p]
  | fragmented {header : Byte} {body : List Byte} {ps : List Packet}
      (hnal : nal = header :: body) (h : FragmentRun header true body ps) : SentAs nal ps

/-- The sequence number of a packet, in network order. -/
def Packet.sequenceNumber (p : Packet) : BitVec 16 := p.buf 2 ++ p.buf 3

/-- **The packets sent for a list of NAL units**, with consecutive sequence numbers. -/
structure Sends (nals : List (List Byte)) (sent : List Packet) : Prop where
  nalUnits : ∀ nal ∈ nals, IsNalUnit nal
  runs : ∃ units : List (List Byte × List Packet),
    units.map Prod.fst = nals ∧ units.flatMap Prod.snd = sent ∧ ∀ u ∈ units, SentAs u.1 u.2
  consecutive : sent.IsChain fun p q => q.sequenceNumber = p.sequenceNumber + 1

/-- A packet of the sender that is not an FU-A packet carries a unit that was sent. -/
theorem Sends.payload_mem {nals : List (List Byte)} {sent : List Packet} (h : Sends nals sent)
    {p : Packet} (hp : p ∈ sent) (hfua : p.isFuA = false) : p.payload ∈ nals := by
  obtain ⟨units, rfl, rfl, hsent⟩ := h.runs
  obtain ⟨u, hu, hpu⟩ := List.mem_flatMap.mp hp
  have hnal : u.1 ∈ units.map Prod.fst := List.mem_map_of_mem hu
  replace hsent := hsent u hu
  generalize u.1 = nal, u.2 = run at *
  cases hsent with
  | single hcarries =>
      obtain rfl := List.mem_singleton.mp hpu
      rw [hcarries.payload]
      exact hnal
  | fragmented _ hfragments =>
      rw [hfragments.isFuA p hpu] at hfua
      cases hfua

end RtpCapture
