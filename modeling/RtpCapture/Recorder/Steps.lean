import RtpCapture.Recorder.RTPDump

/-! # What one packet can do

The branches of `rtpHandler` in front of the H.264 part, inverted once: what the audio handler, the
camera detection, the raw stream and the opening of the file emit and which fields they change.

* **`Route`** — the two fields that decide where a packet goes, `m_cameraType` and whether `m_flv`
  is open; `Route.next` and `Route.reaches` compute from the packets and the answers of the file
  system alone how they develop and which packets reach the H.264 part.
* **`step_cases`** — a step is a call of `audioHandler`, or a prelude that only touches the route
  and the raw stream, followed by `nalHandler` exactly when the packet reaches it.
* **`nalHandler_ensures`**, **`nalHandler_frame`** — the H.264 part enters `videoHandler` with a
  whole NAL unit or with what is gathered behind the last fragment. -/

namespace RtpCapture

open Traced

/-! ## The route of a packet -/

/-- **The fields that decide where a packet goes.** -/
structure Route where
  cameraType : CameraType
  /-- True when `m_flv` is not null. -/
  flv : Bool
  deriving DecidableEq, Repr

/-- The route fields of a recorder. -/
def RTPDump.route (d : RTPDump) : Route := ⟨d.cameraType, d.flv⟩

/-- The camera type is part of the route. -/
@[simp] theorem RTPDump.route_cameraType (d : RTPDump) : d.route.cameraType = d.cameraType := rfl

/-- So is the FLV context. -/
@[simp] theorem RTPDump.route_flv (d : RTPDump) : d.route.flv = d.flv := rfl

/-- The packet passes the checks of length and version. -/
def Packet.isRtp (p : Packet) : Bool := ¬ p.len < 12 ∧ p.version = 2

/-- The two checks. -/
theorem Packet.isRtp_iff {p : Packet} : p.isRtp = true ↔ ¬ p.len < 12 ∧ p.version = 2 :=
  decide_eq_true_iff

namespace Route

/-- The camera type after a packet. -/
def detect (ro : Route) (p : Packet) : CameraType :=
  if p.isRtp ∧ p.pt = 96 ∧ ro.cameraType = .default then classify p.h264Buf else ro.cameraType

/-- The packet is taken for H.264. -/
def isH264 (ro : Route) (p : Packet) : Bool :=
  p.isRtp ∧ (p.pt = 96 ∧ ro.detect p ≠ .psCamera ∨ p.pt = 98)

/-- The route after a packet: an H.264 packet opens the file unless it is open. -/
def next (ro : Route) (a : Arrival) : Route where
  cameraType := ro.detect a.packet
  flv := ro.flv || (ro.isH264 a.packet && a.results.opened)

/-- **The packet reaches the H.264 part** of `rtpHandler`. -/
def reaches (ro : Route) (a : Arrival) : Bool := ro.isH264 a.packet && (ro.next a).flv

variable {ro : Route} {p : Packet}

/-- Only packets of type 96 decide the camera type. -/
theorem detect_of_not_rtp (h : ¬ (p.isRtp = true ∧ p.pt = 96)) : ro.detect p = ro.cameraType := by
  rw [detect, if_neg]
  exact fun hc => h ⟨hc.1, hc.2.1⟩

/-- Only packets of type 96 and 98 are taken for H.264. -/
theorem isH264_of_not_rtp (h : ¬ (p.isRtp = true ∧ (p.pt = 96 ∨ p.pt = 98))) :
    ro.isH264 p = false := by
  rw [isH264, decide_eq_false_iff_not]
  rintro ⟨hrtp, ⟨hpt, -⟩ | hpt⟩
  · exact h ⟨hrtp, .inl hpt⟩
  · exact h ⟨hrtp, .inr hpt⟩

/-- A packet of type 98 reaches the H.264 part when the file opens. -/
theorem reaches_of_98 {a : Arrival} (hrtp : a.packet.isRtp = true) (hpt : a.packet.pt = 98)
    (hopened : a.results.opened = true) : ro.reaches a = true := by
  have hh264 : ro.isH264 a.packet = true := decide_eq_true ⟨hrtp, .inr hpt⟩
  simp [reaches, next, hh264, hopened]

end Route

/-! ## The branches in front of the H.264 part -/

/-- The events of `audioHandler` with the context `flv`. -/
def Event.IsAudio (flv : Bool) : Event → Prop
  | .audioHandler _ _ _ => True
  | .audioTimestamp _ => True
  | .flvWriteTag f .audio _ _ => f = flv
  | .output (.flvTag .audio _ _) => flv = true
  | _ => False

/-- The events of the camera detection, the raw stream and the opening of the file. -/
def Event.IsOpening : Event → Prop
  | .psOpen _ => True
  | .output (.raw _) => True
  | .flvOpenWrite _ _ => True
  | .flvWriteHeader f _ => f = true
  | .output (.flvHeader _) => True
  | _ => False

/-- Bytes that reach the file, and nothing else. -/
def AreOutputs (outs : List Event) : Prop := ∀ e ∈ outs, ∃ o, e = .output o

/-- **Writing a tag** emits the call and, through an open context, what reaches the file. -/
theorem srsFlvWriteTag_ensures {P : List Event → Event → Prop} {history : List Event}
    {flv : Bool} {type : TagType} {timestamp : Word} {data : List Byte} {written : Bool}
    (hcall : P history (.flvWriteTag flv type timestamp data))
    (hout : flv = true → ∀ grown, P grown (.output (.flvTag type timestamp data))) :
    Ensures P history (srsFlvWriteTag flv type timestamp data written) fun grown _ =>
      flv = true ∧ ∃ outs, AreOutputs outs ∧
        grown = history ++ .flvWriteTag flv type timestamp data :: outs := by
  unfold srsFlvWriteTag
  refine ensures_emit_bind hcall ?_
  cases flv with
  | false => exact ensures_fault _
  | true =>
      cases written with
      | false => exact ensures_pure ⟨rfl, [], by simp [AreOutputs], rfl⟩
      | true =>
          exact ensures_emit (hout rfl _)
            ⟨rfl, [.output (.flvTag type timestamp data)], by simp [AreOutputs], by simp⟩

/-- **Writing the sequence header** emits the call and, through an open context, what reaches the
file. -/
theorem srsFlvWriteSpsPpsTag_ensures {P : List Event → Event → Prop} {history : List Event}
    {flv : Bool} {timestamp : Word} {sps : Memory} {spsSize : ℤ} {pps : Memory} {ppsSize : ℤ}
    {written : Bool}
    (hcall : P history (.flvWriteSpsPpsTag flv timestamp (sps.read 0 spsSize.toNat)
      (pps.read 0 ppsSize.toNat)))
    (hout : ∀ grown data, P grown (.output (.flvTag .video timestamp data))) :
    Ensures P history (srsFlvWriteSpsPpsTag flv timestamp sps spsSize pps ppsSize written)
      fun grown _ => ∃ outs, AreOutputs outs ∧ grown = history ++
        .flvWriteSpsPpsTag flv timestamp (sps.read 0 spsSize.toNat) (pps.read 0 ppsSize.toNat) ::
          outs := by
  unfold srsFlvWriteSpsPpsTag
  refine ensures_emit_bind hcall ?_
  cases flv with
  | false => exact ensures_fault _
  | true =>
      split
      · contradiction
      split
      · exact ensures_fault _
      -- each check of the muxer that fails stops the recorder
      unfold muxSequenceHeader
      split
      · exact ensures_fault _
      split
      · exact ensures_fault _
      rw [pure_bind]
      split
      · exact ensures_fault _
      cases written with
      | false => exact ensures_pure ⟨[], by simp [AreOutputs], rfl⟩
      | true =>
          refine ensures_emit (hout _ _) ⟨_, ?_, List.append_assoc _ [_] [_]⟩
          simp [AreOutputs]

/-- **The audio handler** emits audio events and changes the audio clock only. -/
theorem audioHandler_ensures (r : FileResults) (d : RTPDump) (payload : List Byte) (time : Word)
    (type : AudioType) :
    Ensures (fun _ e => e.IsAudio d.flv) [] (audioHandler r d payload time type)
      (fun _ d' => ∃ clock, d' = { d with audioClock := clock }) := by
  unfold audioHandler
  refine ensures_emit_bind trivial ?_
  cases d.audioClock.tick 8 time with
  | none => exact ensures_fault _
  | some result =>
      obtain ⟨clock, timestamp⟩ := result
      refine ensures_emit_bind trivial ?_
      dsimp only
      split
      · exact (srsFlvWriteTag_ensures rfl fun hflv _ => hflv).bind
          fun _ _ _ => ensures_pure ⟨clock, rfl⟩
      · exact ensures_pure ⟨clock, rfl⟩

/-- **The prelude of a step**: the events `pre` in front of the H.264 part and the state `d'` they
leave, which differs from `d` in the route and in the state of the raw stream. -/
structure Prelude (d : RTPDump) (a : Arrival) (pre : List Event) (d' : RTPDump) : Prop where
  state : ∃ psOutfile, d' = { d with
    cameraType := (d.route.next a).cameraType, flv := (d.route.next a).flv,
    psOutfile := psOutfile }
  events : ∀ e ∈ pre, e.IsOpening
  /-- A context that the prelude opens gets an FLV header. -/
  header : d.flv = false → d'.flv = true → ∃ header, .flvWriteHeader true header ∈ pre

/-- The camera detection returns; it emits at most the opening of the raw stream. -/
theorem detectCamera_eq (r : FileResults) (d : RTPDump) {p : Packet} (hrtp : p.isRtp = true)
    (hpt : p.pt = 96) :
    ∃ pre psOutfile, (∀ e ∈ pre, e.IsOpening) ∧ detectCamera r d p =
      ⟨pre, .ok { d with cameraType := d.route.detect p, psOutfile := psOutfile }⟩ := by
  have hdetect : d.route.detect p =
      if d.cameraType = .default then classify p.h264Buf else d.cameraType := by
    simp [Route.detect, hrtp, hpt, RTPDump.route]
  unfold detectCamera
  by_cases hdefault : d.cameraType = .default
  · rw [if_pos hdefault]
    by_cases hps : classify p.h264Buf = .psCamera
    · refine ⟨[.psOpen d.outputFileName], if r.psOpened then .good else .failed, ?_, ?_⟩
      · simp [Event.IsOpening]
      · simp [hdetect, hdefault, hps]
    · have hrtsp : classify p.h264Buf = .rtspCamera := by
        unfold classify at hps ⊢
        grind
      refine ⟨[], d.psOutfile, by simp, ?_⟩
      simp [hdetect, hdefault, hrtsp]
      rfl
  · refine ⟨[], d.psOutfile, by simp, ?_⟩
    simp [hdetect, hdefault]
    rfl

/-- The raw stream returns and changes only the state of the stream. -/
theorem psWrite_eq (r : FileResults) (d : RTPDump) (p : Packet) :
    ∃ pre psOutfile, (∀ e ∈ pre, e.IsOpening) ∧
      psWrite r d p = ⟨pre, .ok { d with psOutfile := psOutfile }⟩ := by
  unfold psWrite
  by_cases hgood : d.psOutfile = .good
  · rw [if_pos hgood]
    cases r.written with
    | true => exact ⟨[.output (.raw p.payload)], d.psOutfile, by simp [Event.IsOpening], by simp⟩
    | false => exact ⟨[], .bad, by simp, rfl⟩
  · rw [if_neg hgood]
    exact ⟨[], d.psOutfile, by simp, rfl⟩

/-- Opening the file returns; an open file gets an FLV header. -/
theorem initFLVHeader_eq (r : FileResults) (d : RTPDump) :
    ∃ pre, (∀ e ∈ pre, e.IsOpening) ∧
      (r.opened = true → ∃ header, .flvWriteHeader true header ∈ pre) ∧
      initFLVHeader r d = ⟨pre, .ok { d with flv := r.opened }⟩ := by
  unfold initFLVHeader srsFlvOpenWrite
  cases hopened : r.opened with
  | false =>
      refine ⟨[.flvOpenWrite d.outputFileName false], ?_, by simp, ?_⟩ <;>
        simp [Event.IsOpening]
  | true =>
      cases hheader : r.headerWritten with
      | false =>
          refine ⟨[.flvOpenWrite d.outputFileName true, .flvWriteHeader true flvHeaderBytes],
            ?_, ?_, ?_⟩ <;> simp [Event.IsOpening, srsFlvWriteHeader]
      | true =>
          refine ⟨[.flvOpenWrite d.outputFileName true, .flvWriteHeader true flvHeaderBytes,
            .output (.flvHeader flvHeaderBytes)], ?_, ?_, ?_⟩ <;>
            simp [Event.IsOpening, srsFlvWriteHeader]

/-- **The end of `rtpHandler`** opens the file if necessary and goes on when it is open. -/
theorem h264Handler_cases (r : FileResults) (d : RTPDump) (p : Packet) :
    ∃ pre d', d' = { d with flv := d.flv || r.opened } ∧ (∀ e ∈ pre, e.IsOpening) ∧
      (d.flv = false → d'.flv = true → ∃ header, .flvWriteHeader true header ∈ pre) ∧
      h264Handler r d p =
        if d'.flv then ⟨pre ++ (nalHandler r d' p).trace, (nalHandler r d' p).outcome⟩
        else ⟨pre, .ok d'⟩ := by
  unfold h264Handler
  cases hflv : d.flv with
  | true =>
      have hsame : d = { d with flv := true } := by rw [← hflv]
      exact ⟨[], d, hsame, by simp, by simp, by simp [hflv]⟩
  | false =>
      obtain ⟨pre, hevents, hheader, heq⟩ := initFLVHeader_eq r d
      refine ⟨pre, { d with flv := r.opened }, by simp, hevents, ?_, ?_⟩
      · intro _ hopened
        exact hheader hopened
      · cases hopened : r.opened <;> simp [heq, hopened]

/-! ## The video handler

What `videoHandler` leaves alone: whatever it does, it emits one event on entry and then only events
of its own work, and it keeps the fields of the other parts of `rtpHandler`. -/

/-- The events of the two phases of `videoHandler`. -/
def Event.IsNalWork : Event → Prop
  | .videoDataCopy _ _ => True
  | .spsCopy _ => True
  | .ppsCopy _ => True
  | .flvWriteTag _ .video _ _ => True
  | .flvWriteSpsPpsTag _ _ _ _ => True
  | .output (.flvTag .video _ _) => True
  | _ => False

/-- The events of `videoHandler` after its entry. -/
def Event.IsVideoWork : Event → Prop
  | .videoTimestamp _ => True
  | .videoDataCopy _ _ => True
  | .spsCopy _ => True
  | .ppsCopy _ => True
  | .flvWriteTag _ .video _ _ => True
  | .flvWriteSpsPpsTag _ _ _ _ => True
  | .output (.flvTag .video _ _) => True
  | _ => False

/-- The work of the phases is work of `videoHandler`. -/
theorem Event.IsNalWork.isVideoWork {e : Event} (h : e.IsNalWork) : e.IsVideoWork := by
  unfold IsNalWork at h
  split at h <;> trivial

/-- **The frame of `videoHandler`**: the fields it does not change. -/
structure VideoFrame (d d' : RTPDump) : Prop where
  route : d'.route = d.route
  nalData : d'.nalData = d.nalData
  nalLength : d'.nalLength = d.nalLength
  audioClock : d'.audioClock = d.audioClock
  psOutfile : d'.psOutfile = d.psOutfile
  outputFileName : d'.outputFileName = d.outputFileName
  videoFrequency : d'.videoFrequency = d.videoFrequency

/-- **The frame of its phases**, which do not touch the clock either. -/
structure NalFrame (d d' : RTPDump) : Prop extends VideoFrame d d' where
  videoClock : d'.videoClock = d.videoClock

/-- A recorder that is left as it is keeps the frame. -/
theorem NalFrame.refl (d : RTPDump) : NalFrame d d := ⟨⟨rfl, rfl, rfl, rfl, rfl, rfl, rfl⟩, rfl⟩

/-- Two parts of the handler that keep the frame. -/
theorem VideoFrame.trans {d d₁ d₂ : RTPDump} (h : VideoFrame d d₁) (h' : VideoFrame d₁ d₂) :
    VideoFrame d d₂ :=
  ⟨h'.route.trans h.route, h'.nalData.trans h.nalData, h'.nalLength.trans h.nalLength,
    h'.audioClock.trans h.audioClock, h'.psOutfile.trans h.psOutfile,
    h'.outputFileName.trans h.outputFileName, h'.videoFrequency.trans h.videoFrequency⟩

/-- Two parts of a phase that keep the frame. -/
theorem NalFrame.trans {d d₁ d₂ : RTPDump} (h : NalFrame d d₁) (h' : NalFrame d₁ d₂) :
    NalFrame d d₂ :=
  ⟨h.toVideoFrame.trans h'.toVideoFrame, h'.videoClock.trans h.videoClock⟩

/-- Storing an SPS keeps the frame. -/
theorem storeSps_frame (d : RTPDump) (buf : Memory) (len : ℕ) (history : List Event) :
    Ensures (fun _ e => e.IsNalWork) history (storeSps d buf len)
      (fun _ d' => NalFrame d d') := by
  unfold storeSps
  split
  · refine ensures_emit_bind trivial ?_
    split
    · exact ensures_fault _
    · exact ensures_pure ⟨⟨rfl, rfl, rfl, rfl, rfl, rfl, rfl⟩, rfl⟩
  · exact ensures_pure (NalFrame.refl d)

/-- Storing a PPS keeps the frame. -/
theorem storePps_frame (d : RTPDump) (buf : Memory) (len : ℕ) (history : List Event) :
    Ensures (fun _ e => e.IsNalWork) history (storePps d buf len)
      (fun _ d' => NalFrame d d') := by
  unfold storePps
  split
  · exact ensures_emit_bind trivial (ensures_pure ⟨⟨rfl, rfl, rfl, rfl, rfl, rfl, rfl⟩, rfl⟩)
  · exact ensures_pure (NalFrame.refl d)

/-- The parameter-set phase keeps the frame. -/
theorem parameterSetPhase_frame {history : List Event} (r : FileResults) (d : RTPDump)
    (buf : Memory) (len : ℕ) (timestamp : Word) :
    Ensures (fun _ e => e.IsNalWork) history (parameterSetPhase r d buf len timestamp)
      (fun _ d' => NalFrame d d') := by
  refine (storeSps_frame d buf len history).bind fun _ d₁ h₁ => ?_
  refine (storePps_frame d₁ buf len _).bind fun _ d₂ h₂ => ?_
  unfold writeSequenceHeader
  split
  · exact (srsFlvWriteSpsPpsTag_ensures trivial fun _ _ => trivial).bind
      fun _ _ _ => ensures_pure (h₁.trans h₂)
  · exact ensures_pure (h₁.trans h₂)

/-- The slice phase keeps the frame. -/
theorem slicePhase_frame {history : List Event} (r : FileResults) (d : RTPDump)
    (buf : Memory) (len : ℕ) (timestamp : Word) (marker : Bool) :
    Ensures (fun _ e => e.IsNalWork) history (slicePhase r d buf len timestamp marker)
      (fun _ d' => NalFrame d d') := by
  unfold slicePhase
  split
  swap
  · exact ensures_pure (NalFrame.refl d)
  refine ensures_emit_bind trivial ?_
  split
  · exact ensures_fault _
  split
  · unfold flushSlices
    exact (srsFlvWriteTag_ensures trivial fun _ _ => trivial).bind
      fun _ _ _ => ensures_pure ⟨⟨rfl, rfl, rfl, rfl, rfl, rfl, rfl⟩, rfl⟩
  · exact ensures_pure ⟨⟨rfl, rfl, rfl, rfl, rfl, rfl, rfl⟩, rfl⟩

/-- The phases keep the frame. -/
theorem nalPhase_frame {history : List Event} (r : FileResults) (d : RTPDump)
    (buf : Memory) (len : ℕ) (timestamp : Word) (marker : Bool) :
    Ensures (fun _ e => e.IsNalWork) history (nalPhase r d buf len timestamp marker)
      (fun _ d' => NalFrame d d') := by
  unfold nalPhase
  split
  · exact parameterSetPhase_frame ..
  · exact slicePhase_frame ..

/-- **`videoHandler` emits its entry, then video work, and keeps the frame.** -/
theorem videoHandler_frame (r : FileResults) (d : RTPDump) (buf : Memory) (len : ℕ) (time : Word)
    (marker : Bool) :
    ∃ x, videoHandler r d buf len time marker =
        (emit (.videoHandler (nalType (buf 0)) (buf.read 0 len) time marker) >>= fun _ => x) ∧
      ∀ history, Ensures (fun _ e => e.IsVideoWork) history x (fun _ d' => VideoFrame d d') := by
  refine ⟨_, rfl, fun history => ?_⟩
  cases d.videoClock.tick d.videoFrequency time with
  | none => exact ensures_fault _
  | some result =>
      obtain ⟨clock, timestamp⟩ := result
      refine ensures_emit_bind trivial ?_
      have hclock : VideoFrame d { d with videoClock := clock } :=
        ⟨rfl, rfl, rfl, rfl, rfl, rfl, rfl⟩
      obtain ⟨hevents, hframe⟩ := @nalPhase_frame (history ++ [.videoTimestamp timestamp])
        r { d with videoClock := clock } buf len timestamp marker
      refine Ensures.bind (Q := fun _ d' => NalFrame { d with videoClock := clock } d')
        ⟨hevents.imp fun _ _ he => he.isVideoWork, hframe⟩ fun _ d' h => ensures_pure ?_
      exact (hclock.trans h.toVideoFrame).trans ⟨rfl, rfl, rfl, rfl, rfl, rfl, rfl⟩

/-! ## The H.264 part

A fragment touches only what is gathered of a NAL unit, and `videoHandler` is entered at most
once. -/

namespace RTPDump

/-- **The recorder behind a fragment**: its payload is appended to what is gathered. -/
def gathered (d : RTPDump) (p : Packet) : RTPDump :=
  appendFragment (startNal d p.h264Buf) p.h264Buf (fuPayloadLen p.h264Len)

/-- The copy that appends it. -/
def fragmentCopy (d : RTPDump) (p : Packet) : Event :=
  .nalDataCopy (startNal d p.h264Buf).nalLength (fuPayloadLen p.h264Len)

/-- Gathering writes the two fields of the reassembly. -/
theorem gathered_eq (d : RTPDump) (p : Packet) : ∃ nalData nalLength,
    d.gathered p = { d with nalData := nalData, nalLength := nalLength } := by
  unfold gathered appendFragment startNal
  split
  · exact ⟨_, _, rfl⟩
  · exact ⟨_, _, rfl⟩

end RTPDump

/-- The H.264 part on a fragment: the copy, when there is room for it. -/
theorem nalHandler_of_fragment {p : Packet} (h : nalType (p.h264Buf 0) = 28) (r : FileResults)
    (d : RTPDump) : nalHandler r d p = emit (d.fragmentCopy p) >>= fun _ =>
      if nalDataSize < (d.gathered p).nalLength then fault .nalDataOverrun
      else if p.h264Buf 1 &&& 0x40 ≠ 0 then videoHandler r (d.gathered p) (d.gathered p).nalData
        (d.gathered p).nalLength p.time p.marker
      else pure (d.gathered p) :=
  if_pos h

/-- **The H.264 part, by cases**: a whole NAL unit, or the copy of a fragment and behind the last
one `videoHandler`. -/
theorem nalHandler_ensures {P : List Event → Event → Prop} {Q : List Event → RTPDump → Prop}
    {history : List Event} {r : FileResults} {d : RTPDump} {p : Packet}
    (hwhole : ¬ nalType (p.h264Buf 0) = 28 →
      Ensures P history (videoHandler r d p.h264Buf p.h264Len p.time p.marker) Q)
    (hcopy : nalType (p.h264Buf 0) = 28 → P history (d.fragmentCopy p))
    (hlast : nalType (p.h264Buf 0) = 28 → p.h264Buf 1 &&& 0x40 ≠ 0 →
      Ensures P (history ++ [d.fragmentCopy p]) (videoHandler r (d.gathered p)
        (d.gathered p).nalData (d.gathered p).nalLength p.time p.marker) Q)
    (hmore : nalType (p.h264Buf 0) = 28 → ¬ p.h264Buf 1 &&& 0x40 ≠ 0 →
      Q (history ++ [d.fragmentCopy p]) (d.gathered p)) :
    Ensures P history (nalHandler r d p) Q := by
  by_cases hfua : nalType (p.h264Buf 0) = 28
  swap
  · rw [nalHandler, if_neg hfua]
    exact hwhole hfua
  rw [nalHandler_of_fragment hfua]
  refine ensures_emit_bind (hcopy hfua) ?_
  split
  · exact ensures_fault _
  split
  case isTrue hend => exact hlast hfua hend
  case isFalse hend => exact ensures_pure (hmore hfua hend)

/-- The events of the H.264 part. -/
def Event.IsH264Work : Event → Prop
  | .nalDataCopy _ _ => True
  | .videoHandler _ _ _ _ => True
  | e => e.IsVideoWork

/-- The work of `videoHandler` is work of the H.264 part. -/
theorem Event.IsVideoWork.isH264Work {e : Event} (h : e.IsVideoWork) : e.IsH264Work := by
  cases e with
  | nalDataCopy | videoHandler => trivial
  | _ => exact h

/-- **The frame of the H.264 part**: the fields that no H.264 packet changes. -/
structure H264Frame (d d' : RTPDump) : Prop where
  route : d'.route = d.route
  audioClock : d'.audioClock = d.audioClock
  psOutfile : d'.psOutfile = d.psOutfile
  outputFileName : d'.outputFileName = d.outputFileName
  videoFrequency : d'.videoFrequency = d.videoFrequency

/-- **The H.264 part keeps its frame.** -/
theorem nalHandler_frame (r : FileResults) (d : RTPDump) (p : Packet) (history : List Event) :
    Ensures (fun _ e => e.IsH264Work) history (nalHandler r d p) fun _ d' => H264Frame d d' := by
  have hvideo : ∀ (history : List Event) (d₁ : RTPDump) (buf : Memory) (len : ℕ), H264Frame d d₁ →
      Ensures (fun _ e => e.IsH264Work) history (videoHandler r d₁ buf len p.time p.marker)
        fun _ d' => H264Frame d d' := by
    intro history d₁ buf len h
    obtain ⟨x, heq, hx⟩ := videoHandler_frame r d₁ buf len p.time p.marker
    rw [heq]
    refine ensures_emit_bind trivial ?_
    obtain ⟨hevents, hframe⟩ := hx (history ++
      [.videoHandler (nalType (buf 0)) (buf.read 0 len) p.time p.marker])
    refine ⟨hevents.imp fun _ _ he => he.isH264Work, fun d' hd' => ?_⟩
    have hkept := hframe d' hd'
    exact ⟨hkept.route.trans h.route, hkept.audioClock.trans h.audioClock,
      hkept.psOutfile.trans h.psOutfile, hkept.outputFileName.trans h.outputFileName,
      hkept.videoFrequency.trans h.videoFrequency⟩
  have hgathered : H264Frame d (d.gathered p) := by
    obtain ⟨nalData, nalLength, heq⟩ := d.gathered_eq p
    rw [heq]
    exact ⟨rfl, rfl, rfl, rfl, rfl⟩
  refine nalHandler_ensures (fun _ => ?_) (fun _ => trivial) (fun _ _ => ?_) fun _ _ => hgathered
  · exact hvideo _ _ _ _ ⟨rfl, rfl, rfl, rfl, rfl⟩
  · exact hvideo _ _ _ _ hgathered

/-! ## One step -/

/-- A version 2 packet of PCMU or PCMA. -/
def Packet.isAudio (p : Packet) : Bool := p.isRtp ∧ (p.pt = 0 ∨ p.pt = 8)

/-- A packet that neither decides the camera type nor is taken for H.264 leaves the route alone. -/
theorem Route.next_of_ignored {ro : Route} {a : Arrival}
    (h : ¬ (a.packet.isRtp = true ∧ (a.packet.pt = 96 ∨ a.packet.pt = 98))) :
    ro.next a = ro ∧ ro.reaches a = false := by
  have hdetect : ro.detect a.packet = ro.cameraType :=
    detect_of_not_rtp fun hc => h ⟨hc.1, .inl hc.2⟩
  simp [Route.next, Route.reaches, hdetect, isH264_of_not_rtp h]

/-- An audio packet is none of these. -/
theorem Packet.isAudio_ne {p : Packet} (h : p.isAudio = true) :
    ¬ (p.isRtp = true ∧ (p.pt = 96 ∨ p.pt = 98)) := by
  rw [Packet.isAudio, decide_eq_true_eq] at h
  rintro ⟨-, hvideo⟩
  rcases h.2 with haudio | haudio <;> rw [haudio] at hvideo <;> revert hvideo <;> decide

/-- An audio packet leaves the route alone. -/
theorem Route.next_of_isAudio (ro : Route) {a : Arrival} (h : a.packet.isAudio = true) :
    ro.next a = ro ∧ ro.reaches a = false :=
  Route.next_of_ignored (Packet.isAudio_ne h)

/-- The prelude of a packet that is ignored. -/
theorem Prelude.of_ignored {d : RTPDump} {a : Arrival}
    (h : ¬ (a.packet.isRtp = true ∧ (a.packet.pt = 96 ∨ a.packet.pt = 98))) :
    Prelude d a [] d := by
  refine ⟨⟨d.psOutfile, ?_⟩, by simp, ?_⟩
  · rw [(Route.next_of_ignored h).1]
    rfl
  · intro hclosed hopen
    rw [hclosed] at hopen
    cases hopen

/-- A packet that fails a check is dropped. -/
theorem rtpHandler_of_not_isRtp (r : FileResults) (d : RTPDump) {p : Packet}
    (h : ¬ p.isRtp = true) : rtpHandler r d p = pure d := by
  rw [Packet.isRtp_iff, not_and_or, not_not] at h
  unfold rtpHandler
  by_cases hlen : p.len < 12
  · rw [if_pos hlen]
  · rw [if_neg hlen, if_pos (h.resolve_left hlen)]

/-- The dispatch on the payload type. -/
theorem rtpHandler_of_isRtp (r : FileResults) (d : RTPDump) {p : Packet} (h : p.isRtp = true) :
    rtpHandler r d p =
      if p.pt = 0 ∨ p.pt = 8 then
        if d.isVideoBegin ≠ 0 then
          audioHandler r d p.payload p.time (if p.pt = 0 then .uLaw else .aLaw)
        else pure d
      else if p.pt = 96 then
        detectCamera r d p >>= fun d =>
          if d.cameraType = .psCamera then psWrite r d p else h264Handler r d p
      else if p.pt = 98 then h264Handler r d p
      else pure d := by
  obtain ⟨hlen, hversion⟩ := Packet.isRtp_iff.mp h
  unfold rtpHandler
  rw [if_neg hlen, if_neg (not_not.mpr hversion)]

/-- The prelude of a packet that is taken for H.264: the detection, then the opening. -/
theorem Prelude.of_h264 {d : RTPDump} {a : Arrival} {detected : List Event}
    (psOutfile : OutStream) (hh264 : d.route.isH264 a.packet = true) (hdetected : ∀ e ∈ detected, e.IsOpening) :
    ∃ pre d', Prelude d a (detected ++ pre) d' ∧ d'.flv = d.route.reaches a ∧
      h264Handler a.results { d with
          cameraType := d.route.detect a.packet, psOutfile := psOutfile } a.packet =
        if d.route.reaches a then
          ⟨pre ++ (nalHandler a.results d' a.packet).trace,
            (nalHandler a.results d' a.packet).outcome⟩
        else ⟨pre, .ok d'⟩ := by
  obtain ⟨pre, d', hd', hevents, hheader, heq⟩ := h264Handler_cases a.results
    { d with cameraType := d.route.detect a.packet, psOutfile := psOutfile } a.packet
  have hflv : d'.flv = d.route.reaches a := by
    rw [hd']
    simp [Route.reaches, Route.next, hh264]
  refine ⟨pre, d', ⟨⟨psOutfile, ?_⟩, ?_, ?_⟩, hflv, ?_⟩
  · rw [hd']
    simp [Route.next, hh264]
  · intro e he
    rcases List.mem_append.mp he with he | he
    · exact hdetected e he
    · exact hevents e he
  · intro hclosed hopen
    obtain ⟨header, hmem⟩ := hheader hclosed hopen
    exact ⟨header, List.mem_append_right _ hmem⟩
  · rw [heq, hflv]

/-- The prelude of a packet of a program stream: the detection, then the raw stream. -/
theorem Prelude.of_psCamera {d : RTPDump} {a : Arrival} {detected : List Event}
    (psOutfile : OutStream) (hpt : a.packet.pt = 96)
    (hps : d.route.detect a.packet = .psCamera) (hdetected : ∀ e ∈ detected, e.IsOpening) :
    ∃ pre d', Prelude d a (detected ++ pre) d' ∧ d.route.reaches a = false ∧
      psWrite a.results { d with
          cameraType := d.route.detect a.packet, psOutfile := psOutfile } a.packet =
        ⟨pre, .ok d'⟩ := by
  have hh264 : d.route.isH264 a.packet = false := by
    rw [Route.isH264, decide_eq_false_iff_not]
    rintro ⟨-, ⟨-, hne⟩ | h98⟩
    · exact hne hps
    · rw [hpt] at h98
      revert h98
      decide
  obtain ⟨pre, psOutfile', hpre, hwrite⟩ := psWrite_eq a.results
    { d with cameraType := d.route.detect a.packet, psOutfile := psOutfile } a.packet
  refine ⟨pre, _, ⟨⟨psOutfile', ?_⟩, ?_, ?_⟩, by simp [Route.reaches, hh264], hwrite⟩
  · simp [Route.next, hh264]
  · intro e he
    rcases List.mem_append.mp he with he | he
    · exact hdetected e he
    · exact hpre e he
  · intro hclosed hopen
    rw [hclosed] at hopen
    cases hopen

/-- **What one packet can do**: a call of `audioHandler`, or a prelude followed by `nalHandler`
exactly when the packet reaches the H.264 part. -/
theorem step_cases (d : RTPDump) (a : Arrival) :
    (a.packet.isAudio = true ∧ d.isVideoBegin ≠ 0 ∧ d.step a =
      audioHandler a.results d a.packet.payload a.packet.time
        (if a.packet.pt = 0 then .uLaw else .aLaw)) ∨
    ∃ pre d', Prelude d a pre d' ∧ (d.route.reaches a = true → d'.flv = true) ∧ d.step a =
      if d.route.reaches a then
        ⟨pre ++ (nalHandler a.results d' a.packet).trace,
          (nalHandler a.results d' a.packet).outcome⟩
      else ⟨pre, .ok d'⟩ := by
  -- a packet that changes nothing
  have hskip : ¬ (a.packet.isRtp = true ∧ (a.packet.pt = 96 ∨ a.packet.pt = 98)) →
      d.step a = pure d → ∃ pre d', Prelude d a pre d' ∧
        (d.route.reaches a = true → d'.flv = true) ∧ d.step a =
          if d.route.reaches a then
            ⟨pre ++ (nalHandler a.results d' a.packet).trace,
              (nalHandler a.results d' a.packet).outcome⟩
          else ⟨pre, .ok d'⟩ := by
    intro hignored hstep
    refine ⟨[], d, Prelude.of_ignored hignored, ?_, ?_⟩
    · simp [(Route.next_of_ignored hignored).2]
    · rw [hstep, (Route.next_of_ignored hignored).2]
      rfl
  by_cases hrtp : a.packet.isRtp = true
  swap
  · exact .inr (hskip (fun h => hrtp h.1) (rtpHandler_of_not_isRtp _ _ hrtp))
  have hstep := rtpHandler_of_isRtp a.results d hrtp
  by_cases haudio : a.packet.pt = 0 ∨ a.packet.pt = 8
  · have hisAudio : a.packet.isAudio = true := decide_eq_true ⟨hrtp, haudio⟩
    rw [if_pos haudio] at hstep
    by_cases hbegin : d.isVideoBegin ≠ 0
    · exact .inl ⟨hisAudio, hbegin, hstep.trans (if_pos hbegin)⟩
    · exact .inr (hskip (Packet.isAudio_ne hisAudio) (hstep.trans (if_neg hbegin)))
  right
  rw [if_neg haudio] at hstep
  by_cases h96 : a.packet.pt = 96
  · rw [if_pos h96] at hstep
    obtain ⟨detected, psOutfile, hdetected, heq⟩ := detectCamera_eq a.results d hrtp h96
    rw [heq, ok_bind] at hstep
    by_cases hps : d.route.detect a.packet = .psCamera
    · rw [if_pos hps] at hstep
      obtain ⟨pre, d', hprelude, hreaches, hwrite⟩ := Prelude.of_psCamera psOutfile
        h96 hps hdetected
      refine ⟨detected ++ pre, d', hprelude, by simp [hreaches], hstep.trans ?_⟩
      rw [hwrite, hreaches]
      rfl
    · have hh264 : d.route.isH264 a.packet = true :=
        decide_eq_true ⟨hrtp, .inl ⟨h96, hps⟩⟩
      rw [if_neg hps] at hstep
      obtain ⟨pre, d', hprelude, hflv, hhandler⟩ := Prelude.of_h264 psOutfile
        hh264 hdetected
      refine ⟨detected ++ pre, d', hprelude, fun h => hflv.trans h, hstep.trans ?_⟩
      rw [hhandler]
      split <;> simp
  rw [if_neg h96] at hstep
  by_cases h98 : a.packet.pt = 98
  · rw [if_pos h98] at hstep
    have hh264 : d.route.isH264 a.packet = true := decide_eq_true ⟨hrtp, .inr h98⟩
    have hdetect : d.route.detect a.packet = d.cameraType :=
      Route.detect_of_not_rtp fun h => h96 h.2
    obtain ⟨pre, d', hprelude, hflv, hhandler⟩ := Prelude.of_h264 d.psOutfile hh264
      (List.forall_mem_nil _)
    rw [hdetect] at hhandler
    exact ⟨pre, d', hprelude, fun h => hflv.trans h, hstep.trans hhandler⟩
  · exact hskip (fun h => h.2.elim h96 h98) (hstep.trans (if_neg h98))

/-- **A step preserves what its parts preserve**: the audio handler, the opening of files, and the
H.264 part behind it. -/
theorem step_preserves {P : List Event → Event → Prop} {Q : List Event → RTPDump → Prop}
    {history : List Event} {d : RTPDump} {a : Arrival}
    (haudio : a.packet.isAudio = true → d.isVideoBegin ≠ 0 → ∀ payload time type,
      Ensures P history (audioHandler a.results d payload time type) Q)
    (hopening : ∀ past e, e.IsOpening → P past e)
    (hskip : ∀ pre d', Prelude d a pre d' → ¬ d.route.reaches a = true → Q (history ++ pre) d')
    (hnal : ∀ pre d', Prelude d a pre d' → d.route.reaches a = true → d'.flv = true →
      Ensures P (history ++ pre) (nalHandler a.results d' a.packet) Q) :
    Ensures P history (d.step a) Q := by
  rcases step_cases d a with ⟨hisAudio, hbegin, hstep⟩ | ⟨pre, d', hprelude, hopen, hstep⟩
  · rw [hstep]
    exact haudio hisAudio hbegin _ _ _
  have hpre : Always (fun past => P (history ++ past)) pre :=
    always_of_forall fun past e he => hopening _ e (hprelude.events e he)
  by_cases hreaches : d.route.reaches a = true
  · rw [hstep, if_pos hreaches]
    exact ensures_trace_append hpre (hnal pre d' hprelude hreaches (hopen hreaches))
  · rw [hstep, if_neg hreaches]
    refine ⟨hpre, fun d'' hd'' => ?_⟩
    obtain rfl := Except.ok.inj hd''
    exact hskip pre d' hprelude hreaches

/-! ## The clock rate -/

/-- **No packet changes the clock rate.** -/
theorem step_videoFrequency {d d' : RTPDump} {a : Arrival} (h : (d.step a).outcome = .ok d') :
    d'.videoFrequency = d.videoFrequency := by
  rcases step_cases d a with ⟨-, -, hstep⟩ | ⟨pre, d₁, hprelude, -, hstep⟩
  · rw [hstep] at h
    obtain ⟨clock, rfl⟩ := (audioHandler_ensures ..).2 d' h
    rfl
  · obtain ⟨psOutfile, hd₁⟩ := hprelude.state
    have hprelude' : d₁.videoFrequency = d.videoFrequency := by rw [hd₁]
    rw [hstep] at h
    split at h
    · exact ((nalHandler_frame a.results d₁ a.packet []).2 d' h).videoFrequency.trans hprelude'
    · cases h
      exact hprelude'

/-- A recording keeps the clock rate. -/
theorem record_videoFrequency {d d' : RTPDump} {as : List Arrival}
    (h : (d.record as).outcome = .ok d') : d'.videoFrequency = d.videoFrequency :=
  Reaches.invariant (fun d₁ => d₁.videoFrequency = d.videoFrequency)
    (fun _ _ _ hinv hok => (step_videoFrequency hok).trans hinv) ⟨as, h⟩ rfl

/-- One more packet behind a recording that returns. -/
theorem record_concat {d d' : RTPDump} {as : List Arrival} (h : (d.record as).outcome = .ok d')
    (a : Arrival) :
    d.record (as ++ [a]) = ⟨(d.record as).trace ++ (d'.step a).trace, (d'.step a).outcome⟩ := by
  rw [RTPDump.record, run_append_of_ok h, run_singleton]
  rfl

/-- The trace of the first packets. -/
theorem record_trace_isPrefix (d : RTPDump) {as as' : List Arrival} (h : as <+: as') :
    (d.record as).trace <+: (d.record as').trace := by
  obtain ⟨rest, rfl⟩ := h
  cases hout : (d.record as).outcome with
  | ok d' =>
      rw [RTPDump.record, RTPDump.record, run_append_of_ok hout]
      exact List.prefix_append _ _
  | error f =>
      rw [RTPDump.record, RTPDump.record, run_append_of_error hout]

end RtpCapture
