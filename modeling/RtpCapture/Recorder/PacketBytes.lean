import RtpCapture.Recorder.Depacketizer

/-! # What the recorder reads of a packet

A block of the pool keeps old bytes behind the packet that was received into it. `rtpHandler` checks
the length once, against the twelve bytes of the RTP header, and reads up to three bytes behind them.

* **`videoHandler_congr`**, **`fuaHandler_congr`** — the handlers depend on the bytes they are given.
* **`ReadsInside`** — the bytes the recorder looks at are bytes of the packet.
* **`rtpHandler_congr`** — then nothing else of the block has an influence.
* **`rtpHandler_taken`** — and no copy takes more than the payload.
* **`rtpHandler_dependsOnPacket_iff`** — only then.
* **`rtpHandler_stale`** — packets of 13 bytes. -/

namespace RtpCapture

open Traced

/-! ## The handlers -/

section Handlers

variable {buf buf' : Memory} {len : ℕ}

/-- The first byte of two equal reads. -/
theorem head_congr (hread : buf'.read 0 len = buf.read 0 len) (hlen : 1 ≤ len) :
    buf' 0 = buf 0 := by
  obtain ⟨n, rfl⟩ := Nat.exists_eq_add_of_le' hlen
  rw [Memory.read_succ, Memory.read_succ] at hread
  exact (List.cons.inj hread).1

/-- A PPS is not made longer. -/
theorem ppsKept_le (len : ℕ) : ppsKept len ≤ len := by
  unfold ppsKept
  split <;> omega

/-- A shorter read. -/
theorem read_congr_of_le (hread : buf'.read 0 len = buf.read 0 len) {n : ℕ} (hn : n ≤ len) :
    buf'.read 0 n = buf.read 0 n := by
  rw [← Memory.take_read buf' 0 hn, hread, Memory.take_read buf 0 hn]

variable (r : FileResults) (d : RTPDump) (time : Word) (marker : Bool)

/-- **`videoHandler` depends on the bytes of its NAL unit.** -/
theorem videoHandler_congr (hread : buf'.read 0 len = buf.read 0 len) (hlen : 1 ≤ len) :
    videoHandler r d buf' len time marker = videoHandler r d buf len time marker := by
  have hhead := head_congr hread hlen
  have hkept := read_congr_of_le hread (ppsKept_le len)
  have hsps : ∀ d, storeSps d buf' len = storeSps d buf len := by
    intro d
    rw [storeSps, storeSps, hhead, hread]
  have hpps : ∀ d, storePps d buf' len = storePps d buf len := by
    intro d
    rw [storePps, storePps, hhead, hkept]
  have happend : ∀ d, appendSlice d buf' len = appendSlice d buf len := by
    intro d
    rw [appendSlice, appendSlice, hread]
  have hphase : ∀ d timestamp, nalPhase r d buf' len timestamp marker =
      nalPhase r d buf len timestamp marker := by
    intro d timestamp
    unfold nalPhase parameterSetPhase slicePhase
    simp only [hsps, hpps, happend, hhead]
  unfold videoHandler
  simp only [hhead, hread, hphase]

/-- Two bytes of an FU-A packet come before what is copied. -/
theorem fuPayloadLen_of_le (hlen : 2 ≤ len) (hmax : len < 2 ^ 32) : fuPayloadLen len = len - 2 := by
  unfold fuPayloadLen
  omega

/-- **The FU-A branch depends on the bytes of the fragment**, when it has a header. -/
theorem fuaHandler_congr (hread : buf'.read 0 len = buf.read 0 len) (hlen : 2 ≤ len)
    (hmax : len < 2 ^ 32) :
    fuaHandler r d buf' len time marker = fuaHandler r d buf len time marker := by
  obtain ⟨n, rfl⟩ := Nat.exists_eq_add_of_le' hlen
  have hlength := fuPayloadLen_of_le hlen hmax
  rw [Nat.add_sub_cancel] at hlength
  rw [Memory.read_succ, Memory.read_succ, Memory.read_succ, Memory.read_succ] at hread
  obtain ⟨h0, h1, hrest⟩ : buf' 0 = buf 0 ∧ buf' 1 = buf 1 ∧ buf'.read 2 n = buf.read 2 n := by
    simpa using hread
  have hstart : startNal d buf' = startNal d buf := by
    rw [startNal, startNal, h0, h1]
  have happend : ∀ d, appendFragment d buf' n = appendFragment d buf n := by
    intro d
    rw [appendFragment, appendFragment, hrest]
  unfold fuaHandler
  simp only [hlength, hstart, happend, h1]

end Handlers

/-! ## Blocks with the same packet -/

/-- The size of a block of the pool. -/
def blockSize : ℕ := 1500

/-- **Two blocks with the same packet**: the bytes behind it may differ up to the end of the block. -/
structure SamePacket (p q : Packet) : Prop where
  len : q.len = p.len
  bytes : ∀ i : ℕ, (i < p.len ∨ blockSize ≤ i) → q.buf i = p.buf i

namespace SamePacket

variable {p q : Packet}

/-- The payloads have the same length. -/
theorem h264Len (h : SamePacket p q) : q.h264Len = p.h264Len := by
  rw [Packet.h264Len, Packet.h264Len, h.len]

/-- A byte of the payload. -/
theorem h264Buf (h : SamePacket p q) {i : ℕ} (hi : i < p.h264Len) : q.h264Buf i = p.h264Buf i := by
  apply h.bytes
  unfold Packet.h264Len at hi
  omega

/-- The payload. -/
theorem read (h : SamePacket p q) : q.h264Buf.read 0 p.h264Len = p.h264Buf.read 0 p.h264Len := by
  apply Memory.read_congr
  intro i hi
  rw [Nat.zero_add]
  exact h.h264Buf hi

/-- The payloads are the same. -/
theorem payload (h : SamePacket p q) : q.payload = p.payload := by
  rw [Packet.payload, h.h264Len]
  exact h.read

/-- The header. -/
theorem rtpHeader (h : SamePacket p q) (hlen : 12 ≤ p.len) :
    rtpHeader q.buf = rtpHeader p.buf := by
  have hbyte : ∀ i, i < 12 → q.buf i = p.buf i := by
    intro i hi
    exact h.bytes i (.inl (by omega))
  unfold RtpCapture.rtpHeader
  simp (disch := decide) only [hbyte]

/-- The checks of `rtpHandler` pass for both or for neither. -/
theorem isRtp (h : SamePacket p q) (hlen : 12 ≤ p.len) : q.isRtp = p.isRtp := by
  rw [Packet.isRtp, Packet.isRtp, Packet.version, Packet.version, h.rtpHeader hlen, h.len]

/-- The payload types are the same. -/
theorem pt (h : SamePacket p q) (hlen : 12 ≤ p.len) : q.pt = p.pt := by
  rw [Packet.pt, Packet.pt, h.rtpHeader hlen]

/-- The RTP timestamps are the same. -/
theorem time (h : SamePacket p q) (hlen : 12 ≤ p.len) : q.time = p.time := by
  rw [Packet.time, Packet.time, h.rtpHeader hlen]

/-- The markers are the same. -/
theorem marker (h : SamePacket p q) (hlen : 12 ≤ p.len) : q.marker = p.marker := by
  rw [Packet.marker, Packet.marker, h.rtpHeader hlen]

end SamePacket

/-! ## The bytes that are looked at -/

/-- The first byte is one that H.264 can start with. -/
def startsLikeH264 (b : Byte) : Prop := b = 0x67 ∨ b = 0x68 ∨ b &&& 0x1f = 28

instance (b : Byte) : Decidable (startsLikeH264 b) := inferInstanceAs (Decidable (_ ∨ _))

/-- **The payload is long enough for the detection**, which looks no further when an earlier byte
has decided. -/
def Packet.decidesCamera (p : Packet) : Prop :=
  3 ≤ p.h264Len ∨ 1 ≤ p.h264Len ∧ ¬ startsLikeH264 (p.h264Buf 0) ∨
    2 ≤ p.h264Len ∧ p.h264Buf 1 = 0

/-- **The recorder reads inside the packet**: the camera detection, the test for a fragment and the
FU header find their bytes in the payload. -/
structure ReadsInside (d : RTPDump) (a : Arrival) : Prop where
  camera : a.packet.isRtp = true → a.packet.pt = 96 → d.cameraType = .default →
    a.packet.decidesCamera
  nal : d.route.reaches a = true → 1 ≤ a.packet.h264Len
  fragment : d.route.reaches a = true → a.packet.isFuA = true → 2 ≤ a.packet.h264Len

/-- A byte that H.264 cannot start with makes a program stream. -/
theorem classify_of_not_startsLikeH264 {buf : Memory} (h : ¬ startsLikeH264 (buf 0)) :
    classify buf = .psCamera := by
  unfold classify
  split
  · rfl
  · exact if_neg h

/-- **The camera type depends on the packet.** -/
theorem classify_congr {p q : Packet} (h : SamePacket p q) (hdecides : p.decidesCamera) :
    classify q.h264Buf = classify p.h264Buf := by
  rcases hdecides with hthree | ⟨hone, hother⟩ | ⟨htwo, hzero⟩
  · have h0 := h.h264Buf (i := 0) (by omega)
    have h1 := h.h264Buf (i := 1) (by omega)
    have h2 := h.h264Buf (i := 2) (by omega)
    rw [classify, classify, h0, h1, h2]
  · have h0 := h.h264Buf (i := 0) hone
    rw [classify_of_not_startsLikeH264 hother,
      classify_of_not_startsLikeH264 (by rw [h0]; exact hother)]
  · have h1 := h.h264Buf (i := 1) htwo
    rw [classify, classify, if_pos (.inr (.inl (h1.trans hzero))), if_pos (.inr (.inl hzero))]

/-! ## One packet -/

section Congruence

variable {p q : Packet} (r : FileResults) (d : RTPDump)

/-- The H.264 part depends on the payload. -/
theorem nalHandler_congr (h : SamePacket p q) (hlen : 12 ≤ p.len) (hmax : p.len ≤ blockSize)
    (hone : 1 ≤ p.h264Len) (htwo : p.isFuA = true → 2 ≤ p.h264Len) :
    nalHandler r d q = nalHandler r d p := by
  have hsize : p.h264Len < 2 ^ 32 := by
    unfold Packet.h264Len
    unfold blockSize at hmax
    omega
  unfold nalHandler
  rw [h.h264Buf (i := 0) hone, h.h264Len, h.time hlen, h.marker hlen]
  split
  case isTrue hfua =>
    exact fuaHandler_congr r d p.time p.marker h.read (htwo (Packet.isFuA_iff.mpr hfua)) hsize
  case isFalse => exact videoHandler_congr r d p.time p.marker h.read hone

/-- A packet that does not reach the H.264 part is not looked at. -/
theorem h264Handler_congr
    (hnal : (d.flv || r.opened) = true → ∀ d, nalHandler r d q = nalHandler r d p) :
    h264Handler r d q = h264Handler r d p := by
  unfold h264Handler
  cases hflv : d.flv with
  | true => simp [hflv, hnal (by simp [hflv]) d]
  | false =>
      obtain ⟨pre, -, -, heq⟩ := initFLVHeader_eq r d
      cases hopened : r.opened with
      | true => simp [heq, hopened, hnal (by simp [hopened])]
      | false => simp [heq, hopened]

/-- The raw stream gets the payload. -/
theorem psWrite_congr (h : SamePacket p q) : psWrite r d q = psWrite r d p := by
  unfold psWrite
  rw [h.payload]

/-- **`rtpHandler` depends on the packet**, when it reads inside it. -/
theorem rtpHandler_congr (h : SamePacket p q) (hlen : 12 ≤ p.len) (hmax : p.len ≤ blockSize)
    (hinside : ReadsInside d ⟨p, r⟩) : rtpHandler r d q = rtpHandler r d p := by
  by_cases hrtp : p.isRtp = true
  swap
  · rw [rtpHandler_of_not_isRtp r d hrtp, rtpHandler_of_not_isRtp r d (by rwa [h.isRtp hlen])]
  have hreaches : d.route.isH264 p = true → (d.flv || r.opened) = true →
      ∀ d, nalHandler r d q = nalHandler r d p := by
    intro hh264 hflv d₁
    have hr : d.route.reaches ⟨p, r⟩ = true := by
      simp only [Route.reaches, Route.next, hh264, Bool.true_and]
      exact hflv
    exact nalHandler_congr r d₁ h hlen hmax (hinside.nal hr) (hinside.fragment hr)
  rw [rtpHandler_of_isRtp r d hrtp, rtpHandler_of_isRtp r d ((h.isRtp hlen).trans hrtp),
    h.payload, h.time hlen, h.pt hlen]
  split
  · rfl
  split
  case isTrue hpt =>
    have hdetect : detectCamera r d q = detectCamera r d p := by
      unfold detectCamera
      split
      case isTrue hdefault => rw [classify_congr h (hinside.camera hrtp hpt hdefault)]
      case isFalse => rfl
    obtain ⟨pre, psOutfile, -, heq⟩ := detectCamera_eq r d hrtp hpt
    rw [hdetect, heq, ok_bind, ok_bind]
    dsimp only
    split
    · rw [psWrite_congr r _ h]
    case isFalse hps =>
      have hh264 : d.route.isH264 p = true := decide_eq_true ⟨hrtp, .inl ⟨hpt, hps⟩⟩
      rw [h264Handler_congr r
        { d with cameraType := d.route.detect p, psOutfile := psOutfile } (hreaches hh264)]
  split
  case isTrue hpt => exact h264Handler_congr r d (hreaches (decide_eq_true ⟨hrtp, .inr hpt⟩))
  case isFalse => rfl

end Congruence

/-! ## The data of a step -/

/-- `rh->pt` of the packets that `audioHandler` gets. -/
def AudioType.payloadType : AudioType → BitVec 7
  | .uLaw => 0
  | .aLaw => 8

/-- **The events around the H.264 part**, with the data they take from the packet. -/
inductive FromPacket (p : Packet) : Event → Prop
  | audioHandler {type : AudioType} (hpt : p.pt = type.payloadType) :
      FromPacket p (.audioHandler type p.payload p.time)
  | audioTimestamp (timestamp : Word) : FromPacket p (.audioTimestamp timestamp)
  | audioWrite {flv : Bool} (type : AudioType) (timestamp : Word) :
      FromPacket p (.flvWriteTag flv .audio timestamp (type.header :: p.payload))
  | audioTag (type : AudioType) (timestamp : Word) :
      FromPacket p (.output (.flvTag .audio timestamp (type.header :: p.payload)))
  | psOpen (fileName : String) : FromPacket p (.psOpen fileName)
  | raw (hpt : p.pt = 96) : FromPacket p (.output (.raw p.payload))
  | flvOpenWrite (fileName : String) (opened : Bool) :
      FromPacket p (.flvOpenWrite fileName opened)
  | flvWriteHeader (header : List Byte) : FromPacket p (.flvWriteHeader true header)
  | flvHeader (header : List Byte) : FromPacket p (.output (.flvHeader header))

section Data

variable {p : Packet} {history : List Event} {P : Event → Prop}

/-- The audio handler writes the payload. -/
theorem audioHandler_fromPacket (r : FileResults) (d : RTPDump) {type : AudioType}
    (hpt : p.pt = type.payloadType) : Ensures (fun _ => FromPacket p) history
      (audioHandler r d p.payload p.time type) fun _ _ => True := by
  unfold audioHandler
  refine ensures_emit_bind (.audioHandler hpt) ?_
  cases d.audioClock.tick 8 p.time with
  | none => exact ensures_fault _
  | some result =>
      refine ensures_emit_bind (.audioTimestamp _) ?_
      dsimp only
      split
      · exact (srsFlvWriteTag_ensures (.audioWrite ..) fun _ _ => .audioTag ..).bind
          fun _ _ _ => ensures_pure trivial
      · exact ensures_pure trivial

/-- Opening the file. -/
theorem initFLVHeader_fromPacket (r : FileResults) (d : RTPDump) :
    Ensures (fun _ => FromPacket p) history (initFLVHeader r d)
      fun _ d' => d' = { d with flv := r.opened } := by
  unfold initFLVHeader srsFlvOpenWrite
  refine Ensures.bind (Q := fun _ flv => flv = r.opened)
    (ensures_emit_bind (.flvOpenWrite ..) (ensures_pure rfl)) ?_
  rintro grown flv rfl
  cases hopened : r.opened with
  | false => exact ensures_pure rfl
  | true =>
      refine Ensures.bind (Q := fun _ _ => True) (ensures_emit_bind (.flvWriteHeader _) ?_)
        fun _ _ _ => ensures_pure rfl
      cases r.headerWritten with
      | false => exact ensures_pure trivial
      | true => exact ensures_emit (.flvHeader _) trivial

/-- A weaker requirement on the events. -/
theorem ensures_of_fromPacket {α : Type} {x : Recording α} {Q : List Event → α → Prop}
    (hP : ∀ e, FromPacket p e → P e) (hx : Ensures (fun _ => FromPacket p) history x Q) :
    Ensures (fun _ => P) history x Q :=
  ⟨hx.1.imp fun _ => hP, hx.2⟩

/-- The end of `rtpHandler`. -/
theorem h264Handler_ensures (r : FileResults) (d : RTPDump) (hP : ∀ e, FromPacket p e → P e)
    (hnal : (d.flv || r.opened) = true → ∀ grown,
      Ensures (fun _ => P) grown (nalHandler r { d with flv := true } p) fun _ _ => True) :
    Ensures (fun _ => P) history (h264Handler r d p) fun _ _ => True := by
  unfold h264Handler
  cases hflv : d.flv with
  | true =>
      have hsame : { d with flv := true } = d := by rw [← hflv]
      rw [hflv, hsame] at hnal
      exact (if_pos hflv : (if d.flv then nalHandler r d p else pure d) = _) ▸ hnal rfl history
  | false =>
      refine (ensures_of_fromPacket hP (initFLVHeader_fromPacket r d)).bind fun grown d' hd' => ?_
      cases hopened : r.opened with
      | true =>
          rw [hd', hopened]
          exact hnal (by rw [hopened, Bool.or_true]) grown
      | false =>
          rw [hd', hopened]
          exact ensures_pure trivial

/-- **The events of a step**: those around the H.264 part with the data of the packet, and those of
the H.264 part if the packet reaches it. -/
theorem step_ensures {d : RTPDump} {a : Arrival} (hP : ∀ e, FromPacket a.packet e → P e)
    (hnal : d.route.reaches a = true → ∀ d' grown,
      Ensures (fun _ => P) grown (nalHandler a.results d' a.packet) fun _ _ => True) :
    Ensures (fun _ => P) [] (d.step a) fun _ _ => True := by
  -- a packet that fails the checks has no events
  by_cases hrtp : a.packet.isRtp = true
  swap
  · rw [RTPDump.step, rtpHandler_of_not_isRtp _ _ hrtp]
    exact ensures_pure trivial
  have hreaches : d.route.isH264 a.packet = true → (d.flv || a.results.opened) = true →
      d.route.reaches a = true := by
    intro hh264 hflv
    simp only [Route.reaches, Route.next, hh264, Bool.true_and]
    exact hflv
  rw [RTPDump.step, rtpHandler_of_isRtp _ _ hrtp]
  split
  -- audio
  case isTrue haudio =>
    split
    · refine ensures_of_fromPacket hP (audioHandler_fromPacket _ _ ?_)
      rcases haudio with hpt | hpt <;> rw [hpt] <;> rfl
    · exact ensures_pure trivial
  split
  -- type 96: the camera is detected first
  case isTrue hpt =>
    have hdetect : Ensures (fun _ => P) [] (detectCamera a.results d a.packet)
        fun _ d' => d'.cameraType = d.route.detect a.packet ∧ d'.flv = d.flv := by
      obtain ⟨pre, psOutfile, -, heq⟩ := detectCamera_eq a.results d hrtp hpt
      refine ⟨?_, fun d' hd' => ?_⟩
      · unfold detectCamera
        split
        · split
          · exact always_singleton.mpr (hP _ (.psOpen _))
          · exact always_nil
        · exact always_nil
      · rw [heq] at hd'
        obtain rfl := Except.ok.inj hd'
        exact ⟨rfl, rfl⟩
    refine hdetect.bind fun grown d' hdetected => ?_
    obtain ⟨hcamera, hflv⟩ := hdetected
    split
    · unfold psWrite
      split
      · split
        · exact ensures_emit_bind (hP _ (.raw hpt)) (ensures_pure trivial)
        · exact ensures_pure trivial
      · exact ensures_pure trivial
    case isFalse hps =>
      have hh264 : d.route.isH264 a.packet = true := by
        refine decide_eq_true ⟨hrtp, .inl ⟨hpt, ?_⟩⟩
        rwa [← hcamera]
      refine h264Handler_ensures _ _ hP fun hopen grown => ?_
      rw [hflv] at hopen
      exact hnal (hreaches hh264 hopen) _ _
  split
  -- type 98 goes to the H.264 part in any case
  case isTrue hpt =>
    refine h264Handler_ensures _ _ hP fun hopen grown => ?_
    exact hnal (hreaches (decide_eq_true ⟨hrtp, .inr hpt⟩) hopen) _ _
  case isFalse => exact ensures_pure trivial

end Data

/-! ## The lengths of the copies -/

/-- **The payload bytes that an event takes out of the packet** `p`. The format byte of an audio tag
is not one of them; the NAL unit that a fragment completes and the other tags are made of the
recorder's own arrays. -/
def Event.taken (p : Packet) : Event → ℕ
  | .nalDataCopy _ n => n
  | .videoHandler _ nal _ _ => if p.isFuA then 0 else nal.length
  | .spsCopy n => if p.isFuA then 0 else n
  | .ppsCopy n => if p.isFuA then 0 else n
  | .videoDataCopy _ n => if p.isFuA then 0 else n
  | .audioHandler _ payload _ => payload.length
  | .flvWriteTag _ .audio _ data => data.length - 1
  | .output (.flvTag .audio _ data) => data.length - 1
  | .output (.raw data) => data.length
  | _ => 0

section Lengths

variable {p : Packet} {history : List Event}

/-- A number of payload bytes, or none for a fragment, is a number of payload bytes. -/
theorem ite_isFuA_le {n len : ℕ} (hn : n ≤ len) : (if p.isFuA then 0 else n) ≤ len := by
  split
  · exact Nat.zero_le len
  · exact hn

/-- The parameter sets take at most the NAL unit. -/
theorem parameterSetPhase_taken (r : FileResults) (d : RTPDump) (buf : Memory) (len : ℕ)
    (timestamp : Word) : Ensures (fun _ e => e.taken p ≤ len) history
      (parameterSetPhase r d buf len timestamp) fun _ _ => True := by
  have hsps : ∀ d history, Ensures (fun _ e => e.taken p ≤ len) history (storeSps d buf len)
      fun _ _ => True := by
    intro d history
    unfold storeSps
    split
    · refine ensures_emit_bind (ite_isFuA_le le_rfl) ?_
      split
      · exact ensures_fault _
      · exact ensures_pure trivial
    · exact ensures_pure trivial
  have hpps : ∀ d history, Ensures (fun _ e => e.taken p ≤ len) history (storePps d buf len)
      fun _ _ => True := by
    intro d history
    unfold storePps
    split
    · exact ensures_emit_bind (ite_isFuA_le (ppsKept_le len)) (ensures_pure trivial)
    · exact ensures_pure trivial
  refine (hsps d history).bind fun _ d₁ _ => ?_
  refine (hpps d₁ _).bind fun _ d₂ _ => ?_
  unfold writeSequenceHeader
  split
  · exact (srsFlvWriteSpsPpsTag_ensures (Nat.zero_le _) fun _ _ => Nat.zero_le _).bind
      fun _ _ _ => ensures_pure trivial
  · exact ensures_pure trivial

/-- A slice takes the NAL unit. -/
theorem slicePhase_taken (r : FileResults) (d : RTPDump) (buf : Memory) (len : ℕ)
    (timestamp : Word) (marker : Bool) : Ensures (fun _ e => e.taken p ≤ len) history
      (slicePhase r d buf len timestamp marker) fun _ _ => True := by
  unfold slicePhase
  split
  swap
  · exact ensures_pure trivial
  refine ensures_emit_bind (ite_isFuA_le le_rfl) ?_
  split
  · exact ensures_fault _
  split
  · exact (srsFlvWriteTag_ensures (Nat.zero_le _) fun _ _ => Nat.zero_le _).bind
      fun _ _ _ => ensures_pure trivial
  · exact ensures_pure trivial

/-- **`videoHandler` takes at most the NAL unit.** -/
theorem videoHandler_taken (r : FileResults) (d : RTPDump) (buf : Memory) (len : ℕ) (time : Word)
    (marker : Bool) : Ensures (fun _ e => e.taken p ≤ len) history
      (videoHandler r d buf len time marker) fun _ _ => True := by
  unfold videoHandler
  refine ensures_emit_bind (ite_isFuA_le (Memory.length_read ..).le) ?_
  cases d.videoClock.tick d.videoFrequency time with
  | none => exact ensures_fault _
  | some result =>
      refine ensures_emit_bind (Nat.zero_le _) ?_
      refine Ensures.bind (Q := fun _ _ => True) ?_ fun _ _ _ => ensures_pure trivial
      unfold nalPhase
      split
      · exact parameterSetPhase_taken ..
      · exact slicePhase_taken ..

/-- What `videoHandler` does with the reassembly buffer takes nothing more. -/
theorem videoHandler_taken_of_isFuA (hfua : p.isFuA = true) (r : FileResults) (d : RTPDump)
    (buf : Memory) (len : ℕ) (time : Word) (marker : Bool) :
    Ensures (fun _ e => e.taken p ≤ p.h264Len) history (videoHandler r d buf len time marker)
      fun _ _ => True := by
  obtain ⟨x, heq, hx⟩ := videoHandler_frame r d buf len time marker
  rw [heq]
  refine ensures_emit_bind (by simp [Event.taken, hfua]) ?_
  refine ⟨always_of_forall fun _ e hmem => ?_, fun _ _ => trivial⟩
  have he := (hx []).1.forall_mem e hmem
  unfold Event.IsVideoWork at he
  split at he <;> simp [Event.taken, hfua] at he ⊢

/-- **The H.264 part takes at most the payload**, when a fragment has its header. -/
theorem nalHandler_taken (r : FileResults) (d : RTPDump) (hsize : p.h264Len < 2 ^ 32)
    (htwo : p.isFuA = true → 2 ≤ p.h264Len) : Ensures (fun _ e => e.taken p ≤ p.h264Len) history
      (nalHandler r d p) fun _ _ => True := by
  refine nalHandler_ensures (fun _ => videoHandler_taken ..) (fun hfua => ?_)
    (fun hfua _ => videoHandler_taken_of_isFuA (Packet.isFuA_iff.mpr hfua) ..) fun _ _ => trivial
  have hcopy : fuPayloadLen p.h264Len = p.h264Len - 2 :=
    fuPayloadLen_of_le (htwo (Packet.isFuA_iff.mpr hfua)) hsize
  exact hcopy.le.trans (Nat.sub_le ..)

/-- **A step takes at most the payload**, when it reads inside the packet. -/
theorem rtpHandler_taken (r : FileResults) (d : RTPDump) (hmax : p.len ≤ blockSize)
    (hinside : ReadsInside d ⟨p, r⟩) :
    Ensures (fun _ e => e.taken p ≤ p.h264Len) [] (rtpHandler r d p) fun _ _ => True := by
  have hsize : p.h264Len < 2 ^ 32 := by
    unfold Packet.h264Len
    unfold blockSize at hmax
    omega
  refine step_ensures (a := ⟨p, r⟩) (fun e he => ?_) fun hreaches d' _ =>
    nalHandler_taken r d' hsize (hinside.fragment hreaches)
  have htag : ∀ type : AudioType, (type.header :: p.payload).length - 1 ≤ p.h264Len := by
    intro type
    exact p.length_payload.le
  cases he with
  | audioHandler hpt => exact p.length_payload.le
  | audioWrite type => exact htag type
  | audioTag type => exact htag type
  | raw hpt => exact p.length_payload.le
  | _ => exact Nat.zero_le _

end Lengths

/-! ## Bytes behind the packet -/

/-- The same packet in a block that holds what is left of `stale` behind it. -/
def Packet.behind (p : Packet) (stale : List Byte) : Packet :=
  ⟨p.buf.write (12 + p.h264Len) (stale.drop p.h264Len), p.len⟩

section Behind

variable {p : Packet} {stale : List Byte}

/-- Up to three stale bytes behind a packet do not change it. -/
theorem samePacket_behind (stale : List Byte) (hlen : 12 ≤ p.len) (hmax : p.len ≤ blockSize)
    (hstale : stale.length ≤ 3) : SamePacket p (p.behind stale) := by
  have hn : p.len = 12 + p.h264Len := by
    unfold Packet.h264Len
    omega
  refine ⟨rfl, fun i hi => ?_⟩
  rcases hi with hi | hi
  · exact Memory.write_apply_of_lt _ _ (by omega)
  · refine Memory.write_apply_of_ge _ _ ?_
    rw [List.length_drop]
    unfold blockSize at hi hmax
    omega

/-- The bytes behind the packet. -/
theorem behind_h264Buf {i : ℕ} (hi : p.h264Len ≤ i) (h : i < stale.length) :
    (p.behind stale).h264Buf i = stale[i] := by
  obtain ⟨k, rfl⟩ := Nat.exists_eq_add_of_le hi
  have hk : k < (stale.drop p.h264Len).length := by
    rw [List.length_drop]
    omega
  have hwrite : (p.behind stale).buf (12 + p.h264Len + k) = (stale.drop p.h264Len)[k] :=
    Memory.write_apply_of_mem p.buf _ hk
  rw [List.getElem_drop, Nat.add_assoc] at hwrite
  exact hwrite

/-- **A packet too short for the detection** is a program stream in one block and H.264 in
another. -/
theorem classify_behind (hlen : 12 ≤ p.len) (hmax : p.len ≤ blockSize)
    (hshort : ¬ p.decidesCamera) :
    classify (p.behind [0, 0, 1]).h264Buf = .psCamera ∧
      classify (p.behind [0x7c, 1, 2]).h264Buf = .rtspCamera := by
  have hsame := samePacket_behind [0x7c, 1, 2] hlen hmax (by decide)
  simp only [Packet.decidesCamera, not_or, not_and, not_not] at hshort
  obtain ⟨hthree, hfirst, hsecond⟩ := hshort
  have hps : (p.behind [0, 0, 1]).h264Buf 2 = 1 := behind_h264Buf (by omega) (by decide)
  have h2 : (p.behind [0x7c, 1, 2]).h264Buf 2 = 2 := behind_h264Buf (by omega) (by decide)
  have h1 : (p.behind [0x7c, 1, 2]).h264Buf 1 ≠ 0 := by
    rcases Nat.lt_or_ge 1 p.h264Len with hin | hout
    · rw [hsame.h264Buf hin]
      exact hsecond hin
    · rw [behind_h264Buf hout (by decide)]
      decide
  have h0 : startsLikeH264 ((p.behind [0x7c, 1, 2]).h264Buf 0) := by
    rcases Nat.lt_or_ge 0 p.h264Len with hin | hout
    · rw [hsame.h264Buf hin]
      exact hfirst hin
    · rw [behind_h264Buf hout (by decide)]
      decide
  have hne : (p.behind [0x7c, 1, 2]).h264Buf 0 ≠ 0 := by
    intro hzero
    rw [hzero] at h0
    exact absurd h0 (by decide)
  have hother : ¬ ((p.behind [0x7c, 1, 2]).h264Buf 0 = 0 ∨
      (p.behind [0x7c, 1, 2]).h264Buf 1 = 0 ∨ (p.behind [0x7c, 1, 2]).h264Buf 2 = 1) := by
    rintro (h | h | h)
    · exact hne h
    · exact h1 h
    · rw [h2] at h
      exact absurd h (by decide)
  exact ⟨if_pos (.inr (.inr hps)), (if_neg hother).trans (if_pos h0)⟩

end Behind

section Traces

variable {d : RTPDump} {a : Arrival}

/-- A fragment that reaches the H.264 part is copied, whatever its length. -/
theorem nalDataCopy_mem (hreaches : d.route.reaches a = true) (hfua : a.packet.isFuA = true) :
    ∃ off, .nalDataCopy off (fuPayloadLen a.packet.h264Len) ∈ (d.step a).trace := by
  rcases step_cases d a with ⟨haudio, -⟩ | ⟨pre, d', -, -, hstep⟩
  · rw [(d.route.next_of_isAudio haudio).2] at hreaches
    cases hreaches
  · rw [hstep, if_pos hreaches, nalHandler_of_fragment (Packet.isFuA_iff.mp hfua)]
    exact ⟨_, List.mem_append_right _ List.mem_cons_self⟩

/-- The first event of a program stream. -/
theorem step_head_of_psCamera (hrtp : a.packet.isRtp = true) (hpt : a.packet.pt = 96)
    (hdefault : d.cameraType = .default) (hps : classify a.packet.h264Buf = .psCamera) :
    (d.step a).trace.head? = some (.psOpen d.outputFileName) := by
  have hne : ¬ (a.packet.pt = 0 ∨ a.packet.pt = 8) := by
    rw [hpt]
    decide
  rw [RTPDump.step, rtpHandler_of_isRtp _ _ hrtp, if_neg hne, if_pos hpt, detectCamera,
    if_pos hdefault, if_pos hps]
  rfl

/-- Opening the file is its own first event. -/
theorem initFLVHeader_head (r : FileResults) (d : RTPDump) : ∃ rest d',
    initFLVHeader r d = ⟨.flvOpenWrite d.outputFileName r.opened :: rest, .ok d'⟩ := by
  unfold initFLVHeader srsFlvOpenWrite
  cases r.opened with
  | false => exact ⟨_, _, rfl⟩
  | true => cases r.headerWritten <;> exact ⟨_, _, rfl⟩

/-- It is not the first event of H.264. -/
theorem step_head_of_rtspCamera (hrtp : a.packet.isRtp = true) (hpt : a.packet.pt = 96)
    (hdefault : d.cameraType = .default) (hrtsp : classify a.packet.h264Buf = .rtspCamera)
    (fileName : String) : (d.step a).trace.head? ≠ some (.psOpen fileName) := by
  have hne : ¬ (a.packet.pt = 0 ∨ a.packet.pt = 8) := by
    rw [hpt]
    decide
  have hnal : ∀ d : RTPDump,
      (nalHandler a.results d a.packet).trace.head? ≠ some (.psOpen fileName) := by
    intro d
    unfold nalHandler
    split
    · exact fun h => by cases h
    · exact fun h => by cases h
  rw [RTPDump.step, rtpHandler_of_isRtp _ _ hrtp, if_neg hne, if_pos hpt, detectCamera,
    if_pos hdefault, if_neg (by rw [hrtsp]; exact CameraType.noConfusion), pure_bind,
    if_neg CameraType.noConfusion, h264Handler]
  cases hflv : d.flv with
  | true =>
      rw [if_pos rfl, pure_bind]
      exact hnal { d with flv := true, cameraType := .rtspCamera }
  | false =>
      obtain ⟨rest, d', heq⟩ := initFLVHeader_head a.results
        { d with flv := false, cameraType := .rtspCamera }
      rw [if_neg Bool.false_ne_true, heq, ok_bind]
      exact fun h => by cases h

/-- Stale bytes do not change whether a packet whose camera is decided reaches the H.264 part. -/
theorem reaches_congr {q : Packet} (h : SamePacket a.packet q) (hlen : 12 ≤ a.packet.len)
    (hcamera : a.packet.isRtp = true → a.packet.pt = 96 → d.cameraType = .default →
      a.packet.decidesCamera) : d.route.reaches ⟨q, a.results⟩ = d.route.reaches a := by
  have hdetect : d.route.detect q = d.route.detect a.packet := by
    unfold Route.detect
    rw [h.isRtp hlen, h.pt hlen]
    split
    case isTrue hc => exact classify_congr h (hcamera hc.1 hc.2.1 hc.2.2)
    case isFalse => rfl
  unfold Route.reaches Route.next Route.isH264
  rw [hdetect, h.isRtp hlen, h.pt hlen]

end Traces

/-! ## The equivalence -/

/-- **The outcome of a step depends on the packet** and its copies stay inside of it. -/
structure DependsOnPacket (d : RTPDump) (a : Arrival) : Prop where
  step : ∀ q, SamePacket a.packet q → d.step ⟨q, a.results⟩ = d.step a
  lengths : ∀ e ∈ (d.step a).trace, e.taken a.packet ≤ a.packet.h264Len

/-- **A step depends on its packet exactly when it reads inside of it.** -/
theorem rtpHandler_dependsOnPacket_iff (d : RTPDump) (a : Arrival) (hlen : 12 ≤ a.packet.len)
    (hmax : a.packet.len ≤ blockSize) : DependsOnPacket d a ↔ ReadsInside d a := by
  constructor
  · intro hdepends
    have hcamera : a.packet.isRtp = true → a.packet.pt = 96 → d.cameraType = .default →
        a.packet.decidesCamera := by
      intro hrtp hpt hdefault
      by_contra hshort
      -- the same packet opens the raw stream in one block and not in the other
      obtain ⟨hps, hrtsp⟩ := classify_behind hlen hmax hshort
      have hsame₁ := samePacket_behind [0, 0, 1] hlen hmax (by decide)
      have hsame₂ := samePacket_behind [0x7c, 1, 2] hlen hmax (by decide)
      have hhead₁ := step_head_of_psCamera (d := d)
        (a := ⟨a.packet.behind [0, 0, 1], a.results⟩)
        ((hsame₁.isRtp hlen).trans hrtp) ((hsame₁.pt hlen).trans hpt) hdefault hps
      have hhead₂ := step_head_of_rtspCamera (d := d)
        (a := ⟨a.packet.behind [0x7c, 1, 2], a.results⟩)
        ((hsame₂.isRtp hlen).trans hrtp) ((hsame₂.pt hlen).trans hpt) hdefault hrtsp
        d.outputFileName
      rw [hdepends.step _ hsame₁, ← hdepends.step _ hsame₂] at hhead₁
      exact hhead₂ hhead₁
    have hfragment : d.route.reaches a = true → a.packet.isFuA = true → 2 ≤ a.packet.h264Len := by
      intro hreaches hfua
      by_contra hshort
      obtain ⟨off, hmem⟩ := nalDataCopy_mem hreaches hfua
      have hcopy : fuPayloadLen a.packet.h264Len ≤ a.packet.h264Len := hdepends.lengths _ hmem
      unfold fuPayloadLen at hcopy
      omega
    refine ⟨hcamera, fun hreaches => ?_, hfragment⟩
    by_contra hempty
    -- a stale byte makes the empty packet a fragment
    have hzero : a.packet.h264Len = 0 := by omega
    have hsame := samePacket_behind [0x7c] hlen hmax (by decide)
    have hreaches' : d.route.reaches ⟨a.packet.behind [0x7c], a.results⟩ = true :=
      (reaches_congr hsame hlen hcamera).trans hreaches
    have hfua : (a.packet.behind [0x7c]).isFuA = true := by
      rw [Packet.isFuA_iff, behind_h264Buf hzero.le (by decide)]
      decide
    obtain ⟨off, hmem⟩ := nalDataCopy_mem hreaches' hfua
    rw [hdepends.step _ hsame] at hmem
    have hcopy : fuPayloadLen (a.packet.behind [0x7c]).h264Len ≤ a.packet.h264Len :=
      hdepends.lengths _ hmem
    rw [hsame.h264Len] at hcopy
    unfold fuPayloadLen at hcopy
    omega
  · intro hinside
    refine ⟨fun q hsame => ?_, ?_⟩
    · exact rtpHandler_congr a.results d hsame hlen hmax hinside
    · exact (rtpHandler_taken a.results d hmax hinside).1.forall_mem

/-- An SPS with its first two bytes. -/
def sampleInside : Arrival :=
  ⟨.ofBytes [0x80, 0x60, 0, 1, 0, 0, 0, 1, 0, 0, 0, 0, 0x67, 0x42, 0x10] 15, .allGood⟩

/-- It decides the camera type. -/
theorem rtpHandler_dependsOnPacket_iff_sample :
    DependsOnPacket (.construct "camera.flv" 90000 .zero) sampleInside :=
  (rtpHandler_dependsOnPacket_iff (.construct "camera.flv" 90000 .zero) sampleInside (by decide)
    (by decide)).mpr ⟨fun _ _ _ => .inl (by decide), fun _ => by decide, fun _ _ => by decide⟩

/-- An SPS of one byte. -/
def sampleShortSps : Arrival :=
  ⟨.ofBytes [0x80, 0x60, 0, 1, 0, 0, 0, 1, 0, 0, 0, 0, 0x67] 13, .allGood⟩

/-- A fragment without FU header. -/
def sampleShortFragment : Arrival :=
  ⟨.ofBytes [0x80, 0x62, 0, 1, 0, 0, 0, 1, 0, 0, 0, 0, 0x7c] 13, .allGood⟩

/-- **Stale bytes decide the camera type**, and the copy of a fragment without header wraps. -/
theorem rtpHandler_stale :
    ¬ DependsOnPacket (.construct "camera.flv" 90000 .zero) sampleShortSps ∧
      .nalDataCopy 0 (2 ^ 32 - 1) ∈
        ((RTPDump.construct "camera.flv" 90000 .zero).step sampleShortFragment).trace := by
  refine ⟨fun hdepends => ?_, ?_⟩
  · have hsame : SamePacket sampleShortSps.packet (sampleShortSps.packet.behind [0x67, 0x42, 0x10]) :=
      samePacket_behind _ (by decide) (by decide) (by decide)
    have hhead := congrArg (fun x => x.trace.head?) (hdepends.step _ hsame)
    have hopened : some (Event.flvOpenWrite "camera.flv" true) = some (.psOpen "camera.flv") := hhead
    cases hopened
  · exact .tail _ (.tail _ (.tail _ (.head _)))

end RtpCapture
