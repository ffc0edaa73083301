import RtpCapture.Recorder.Writers

/-! # Cameras and program streams

The first version 2 packet of type 96 decides for the whole recording whether its packets are dumped
as a raw program stream or taken for H.264.

* **`record_camera_iff`** — the decision is right for every stream that starts with a parameter set
  or a fragment exactly when the first three bytes avoid the values that the test takes for a
  program stream.
* **`record_sps_as_programStream`** — an SPS that is taken for one.
* **`record_programStream`** — a program stream without packets of type 98 is recorded as the
  concatenation of its payloads. -/

namespace RtpCapture

open Traced

/-! ## The decision -/

namespace Packet

/-- The payload starts with the prefix `00 00 01` of a program stream. -/
def startsProgramStream (p : Packet) : Prop :=
  p.h264Buf 0 = 0 ∧ p.h264Buf 1 = 0 ∧ p.h264Buf 2 = 1

/-- The payload is an SPS, a PPS or an FU-A fragment, with the forbidden bit zero. -/
def startsH264 (p : Packet) : Prop :=
  p.h264Buf 0 &&& 0x80 = 0 ∧
    (nalType (p.h264Buf 0) = 7 ∨ nalType (p.h264Buf 0) = 8 ∨ nalType (p.h264Buf 0) = 28)

/-- The bytes that the detection takes for H.264: the parameter sets with `nal_ref_idc` 3 only, and no
zero in the second or one in the third byte. -/
def detectedAsH264 (p : Packet) : Prop :=
  (p.h264Buf 0 = 0x67 ∨ p.h264Buf 0 = 0x68 ∨ p.h264Buf 0 &&& 0x1f = 28) ∧
    p.h264Buf 1 ≠ 0 ∧ p.h264Buf 2 ≠ 1

instance (p : Packet) : Decidable p.startsH264 := inferInstanceAs (Decidable (_ ∧ _))

instance (p : Packet) : Decidable p.detectedAsH264 := inferInstanceAs (Decidable (_ ∧ _))

/-- The bytes of H.264 are not zero in front. -/
theorem classify_eq_rtspCamera (p : Packet) :
    classify p.h264Buf = .rtspCamera ↔ p.detectedAsH264 := by
  have hzero : p.h264Buf 0 = 0 →
      ¬ (p.h264Buf 0 = 0x67 ∨ p.h264Buf 0 = 0x68 ∨ p.h264Buf 0 &&& 0x1f = 28) := by
    intro h
    rw [h]
    decide
  unfold classify detectedAsH264
  grind

end Packet

/-- **The decision for a stream** that starts with the packet `a`: a program stream and H.264 are
told apart, no payload of H.264 is dumped, and no later packet changes the decision. -/
structure CameraSound (d₀ : RTPDump) (as : List Arrival) (a : Arrival) (d : RTPDump) : Prop where
  programStream : a.packet.startsProgramStream → d.cameraType = .psCamera
  h264 : a.packet.startsH264 → d.cameraType = .rtspCamera ∧
    ∀ data, .output (.raw data) ∉ (d₀.record as).trace
  final : ∀ as₁ d₁, as₁ <+: as → (d₀.record as₁).outcome = .ok d₁ → firstCamera as₁ ≠ none →
    d₁.cameraType = d.cameraType

/-- The packet that decides is the same for more packets. -/
theorem firstCamera_mono {as as' : List Arrival} (h : as <+: as') {a : Arrival}
    (hfirst : firstCamera as = some a) : firstCamera as' = some a := by
  obtain ⟨rest, rfl⟩ := h
  unfold firstCamera at hfirst ⊢
  rw [List.find?_append, hfirst]
  rfl

section Decision

variable (fileName : String) (videoFrequency : Word) (u : Uninitialised)

/-- **The camera type of a recording** is what the first packet of type 96 is classified as. -/
theorem record_cameraType {as : List Arrival} {a : Arrival} {d : RTPDump}
    (hrun : ((RTPDump.construct fileName videoFrequency u).record as).outcome = .ok d)
    (hfirst : firstCamera as = some a) : d.cameraType = classify a.packet.h264Buf := by
  rw [(record_opened fileName videoFrequency u hrun).camera, hfirst]
  rfl

/-- A recording of H.264 dumps nothing. -/
theorem record_raw_not_mem {as : List Arrival} {a : Arrival} {d : RTPDump}
    (hrun : ((RTPDump.construct fileName videoFrequency u).record as).outcome = .ok d)
    (hfirst : firstCamera as = some a) (hrtsp : classify a.packet.h264Buf = .rtspCamera)
    (data : List Byte) : .output (.raw data) ∉
      ((RTPDump.construct fileName videoFrequency u).record as).trace := by
  have hopened := record_opened fileName videoFrequency u hrun
  have hclosed : d.psOutfile.isOpen = false := by
    rw [hopened.raw, opensRaw, hfirst, Option.any_some, Arrival.opensRaw, hrtsp]
    simp
  intro hmem
  have hwriter := hopened.written _ hmem
  rw [hclosed] at hwriter
  cases hwriter

/-- **The camera is told apart exactly when the bytes of H.264 are those the detection looks for.** -/
theorem record_camera_iff {as : List Arrival} {a : Arrival} {d : RTPDump}
    (hrun : ((RTPDump.construct fileName videoFrequency u).record as).outcome = .ok d)
    (hfirst : firstCamera as = some a) :
    CameraSound (.construct fileName videoFrequency u) as a d ↔
      (a.packet.startsH264 → a.packet.detectedAsH264) := by
  have hcamera := record_cameraType fileName videoFrequency u hrun hfirst
  constructor
  · intro hsound hh264
    rw [← a.packet.classify_eq_rtspCamera, ← hcamera]
    exact (hsound.h264 hh264).1
  · intro hdetected
    refine ⟨fun hps => ?_, fun hh264 => ?_, fun as₁ d₁ hpre hrun₁ hne => ?_⟩
    · rw [hcamera, classify, if_pos (.inl hps.1)]
    · have hrtsp := (a.packet.classify_eq_rtspCamera).mpr (hdetected hh264)
      exact ⟨hcamera.trans hrtsp,
        record_raw_not_mem fileName videoFrequency u hrun hfirst hrtsp⟩
    · obtain ⟨a₁, hfirst₁⟩ := Option.ne_none_iff_exists'.mp hne
      obtain rfl := Option.some.inj (hfirst.symm.trans (firstCamera_mono hpre hfirst₁))
      rw [hcamera, record_cameraType fileName videoFrequency u hrun₁ hfirst₁]

end Decision

/-- A fragment of type 96. -/
def sampleCameraFragment : Arrival :=
  ⟨.ofBytes [0x80, 0x60, 0, 1, 0, 0, 0, 1, 0, 0, 0, 0, 0x7c, 0x85, 0x11] 15, .allGood⟩

/-- The fragment, then packets of type 96 that look like a program stream and like an SPS. -/
def sampleCamera : List Arrival :=
  [sampleCameraFragment, samplePsPacket, .ofPayload false 96 1 [0x27, 0x42, 0x00, 0x1e]]

/-- It is told apart by its first packet, and the later ones change nothing. -/
theorem record_camera_iff_sampleCamera :
    ∃ d, ((RTPDump.construct "camera.flv" 90000 .zero).record sampleCamera).outcome = .ok d ∧
      CameraSound (.construct "camera.flv" 90000 .zero) sampleCamera sampleCameraFragment d := by
  have hreturns : ∃ d, ((RTPDump.construct "camera.flv" 90000 .zero).record sampleCamera).outcome =
      .ok d ∧ d.flv = true := by decide +kernel
  obtain ⟨d, hd, -⟩ := hreturns
  exact ⟨d, hd, (record_camera_iff "camera.flv" 90000 .zero hd rfl).mpr fun _ => by decide⟩

/-- An SPS of type 96 with `nal_ref_idc` 1. -/
def sampleCameraSps : Arrival :=
  ⟨.ofBytes [0x80, 0x60, 0, 1, 0, 0, 0, 1, 0, 0, 0, 0, 0x27, 0x42, 0x00, 0x1e] 16, .allGood⟩

/-- **It is taken for a program stream** and dumped. -/
theorem record_sps_as_programStream :
    sampleCameraSps.packet.startsH264 ∧ ∃ d,
      ((RTPDump.construct "camera.flv" 90000 .zero).record [sampleCameraSps]).outcome = .ok d ∧
        d.cameraType = .psCamera ∧ .output (.raw [0x27, 0x42, 0x00, 0x1e]) ∈
          ((RTPDump.construct "camera.flv" 90000 .zero).record [sampleCameraSps]).trace := by
  refine ⟨by decide, _, rfl, rfl, ?_⟩
  decide

/-! ## Program streams -/

/-- The bytes that an event adds to the raw stream. -/
def Event.rawBytes : Event → List Byte
  | .output (.raw data) => data
  | _ => []

/-- **The bytes of the raw stream** in a trace. -/
def rawBytes (history : List Event) : List Byte := history.flatMap Event.rawBytes

/-- A tag or a header, or the attempt to write one. -/
def Event.IsFlv : Event → Prop
  | .flvWriteHeader _ _ => True
  | .flvWriteTag _ _ _ _ => True
  | .flvWriteSpsPpsTag _ _ _ _ => True
  | .output o => o.isRaw = false
  | _ => False

/-- What a packet of a program stream adds to the file. -/
def Arrival.dumped (a : Arrival) : List Event :=
  if a.packet.isType96 then [.output (.raw a.packet.payload)] else []

/-- A packet that is neither of type 96 nor of type 98 is dropped while no video has begun. -/
theorem step_of_dropped {d : RTPDump} {a : Arrival} (hbegin : d.isVideoBegin = 0)
    (h96 : a.packet.isType96 = false) (h98 : a.packet.isType98 = false) : d.step a = pure d := by
  unfold RTPDump.step
  by_cases hrtp : a.packet.isRtp = true
  swap
  · exact rtpHandler_of_not_isRtp _ _ hrtp
  have hne96 : a.packet.pt ≠ 96 := fun h => of_decide_eq_false h96 ⟨hrtp, h⟩
  have hne98 : a.packet.pt ≠ 98 := fun h => of_decide_eq_false h98 ⟨hrtp, h⟩
  rw [rtpHandler_of_isRtp _ _ hrtp, if_neg (not_not.mpr hbegin), if_neg hne96, if_neg hne98, ite_self]

/-- A packet of a program stream is written to the raw stream that is open. -/
theorem step_of_psCamera {d : RTPDump} {a : Arrival} (hps : d.cameraType = .psCamera)
    (hgood : d.psOutfile = .good) (hbegin : d.isVideoBegin = 0)
    (h98 : a.packet.isType98 = false)
    (hwritten : a.packet.isType96 = true → a.results.written = true) :
    d.step a = ⟨a.dumped, .ok d⟩ := by
  unfold Arrival.dumped
  by_cases h96 : a.packet.isType96 = true
  · obtain ⟨hrtp, hpt⟩ := of_decide_eq_true h96
    have hne : ¬ (a.packet.pt = 0 ∨ a.packet.pt = 8) := by
      rw [hpt]
      decide
    have hdetect : detectCamera a.results d a.packet = pure d := by
      rw [detectCamera, if_neg (by rw [hps]; nofun)]
    rw [RTPDump.step, rtpHandler_of_isRtp _ _ hrtp, if_neg hne, if_pos hpt, hdetect, pure_bind,
      if_pos hps, psWrite, if_pos hgood, if_pos (hwritten h96), if_pos h96]
    rfl
  · rw [step_of_dropped hbegin (Bool.eq_false_iff.mpr h96) h98, if_neg h96]
    rfl

/-- The packet that decides opens the raw stream and is dumped too. -/
theorem step_of_firstCamera {d : RTPDump} {a : Arrival} (hdefault : d.cameraType = .default)
    (h96 : a.packet.isType96 = true) (hps : classify a.packet.h264Buf = .psCamera)
    (hopened : a.results.psOpened = true) (hwritten : a.results.written = true) :
    d.step a = ⟨[.psOpen d.outputFileName, .output (.raw a.packet.payload)],
      .ok { d with psOutfile := .good, cameraType := .psCamera }⟩ := by
  obtain ⟨hrtp, hpt⟩ := of_decide_eq_true h96
  have hne : ¬ (a.packet.pt = 0 ∨ a.packet.pt = 8) := by
    rw [hpt]
    decide
  rw [RTPDump.step, rtpHandler_of_isRtp _ _ hrtp, if_neg hne, if_pos hpt, detectCamera,
    if_pos hdefault, if_pos hps]
  simp [hopened, psWrite, hwritten]

/-- **From then on the recorder stays as it is** and adds one payload after the other. -/
theorem record_of_psCamera {d : RTPDump} {as : List Arrival} (hps : d.cameraType = .psCamera)
    (hgood : d.psOutfile = .good) (hbegin : d.isVideoBegin = 0)
    (h98 : ∀ a ∈ as, a.packet.isType98 = false)
    (hwritten : ∀ a ∈ as, a.packet.isType96 = true → a.results.written = true) :
    d.record as = ⟨as.flatMap Arrival.dumped, .ok d⟩ := by
  induction as with
  | nil => rfl
  | cons a as ih =>
      have hstep := step_of_psCamera hps hgood hbegin (h98 a List.mem_cons_self)
        (hwritten a List.mem_cons_self)
      have hrest := ih (fun b hb => h98 b (List.mem_cons_of_mem a hb))
        fun b hb => hwritten b (List.mem_cons_of_mem a hb)
      rw [RTPDump.record] at hrest ⊢
      rw [run_cons, hstep, ok_bind, hrest, List.flatMap_cons]

/-- Before that nothing happens. -/
theorem record_of_dropped {d : RTPDump} {as : List Arrival} (hbegin : d.isVideoBegin = 0)
    (h96 : ∀ a ∈ as, a.packet.isType96 = false) (h98 : ∀ a ∈ as, a.packet.isType98 = false) :
    d.record as = pure d := by
  induction as with
  | nil => rfl
  | cons a as ih =>
      have hrest := ih (fun b hb => h96 b (List.mem_cons_of_mem a hb))
        fun b hb => h98 b (List.mem_cons_of_mem a hb)
      rw [RTPDump.record] at hrest ⊢
      rw [run_cons, step_of_dropped hbegin (h96 a List.mem_cons_self) (h98 a List.mem_cons_self),
        pure_bind, hrest]

/-- The bytes a program stream adds to the file. -/
theorem rawBytes_dumped (as : List Arrival) :
    rawBytes (as.flatMap Arrival.dumped) =
      as.flatMap fun a => if a.packet.isType96 then a.packet.payload else [] := by
  rw [rawBytes, List.flatMap_assoc]
  congr 1
  funext a
  unfold Arrival.dumped
  split
  · exact List.append_nil _
  · rfl

/-- Nothing of it belongs to an FLV file. -/
theorem dumped_not_isFlv {as : List Arrival} {e : Event} (he : e ∈ as.flatMap Arrival.dumped) :
    ¬ e.IsFlv := by
  obtain ⟨a, -, hmem⟩ := List.mem_flatMap.mp he
  unfold Arrival.dumped at hmem
  split at hmem
  · obtain rfl := List.mem_singleton.mp hmem
    exact Bool.noConfusion
  · cases hmem

/-- A payload of it opens nothing. -/
theorem psOpen_not_mem_dumped (as : List Arrival) (name : String) :
    .psOpen name ∉ as.flatMap Arrival.dumped := by
  intro hmem
  obtain ⟨a, -, hmem⟩ := List.mem_flatMap.mp hmem
  unfold Arrival.dumped at hmem
  split at hmem
  · cases List.mem_singleton.mp hmem
  · cases hmem

/-- **A program stream is recorded faithfully.** Without packets of type 98, with a raw stream that
opens and takes every write, the recording returns, the bytes of the file are the payloads of the
version 2 packets of type 96 in their order, and nothing is done for an FLV file. The raw stream is
opened once, before all else. -/
theorem record_programStream (fileName : String) (videoFrequency : Word) (u : Uninitialised)
    {as : List Arrival} {a : Arrival} (h98 : ∀ b ∈ as, b.packet.isType98 = false)
    (hfirst : firstCamera as = some a) (hps : classify a.packet.h264Buf = .psCamera)
    (hopened : a.results.psOpened = true)
    (hwritten : ∀ b ∈ as, b.packet.isType96 = true → b.results.written = true) :
    ∃ d, ((RTPDump.construct fileName videoFrequency u).record as).outcome = .ok d ∧
      d.cameraType = .psCamera ∧ d.flv = false ∧ d.isVideoBegin = 0 ∧
      rawBytes ((RTPDump.construct fileName videoFrequency u).record as).trace =
        (as.flatMap fun b => if b.packet.isType96 then b.packet.payload else []) ∧
      (∀ e ∈ ((RTPDump.construct fileName videoFrequency u).record as).trace, ¬ e.IsFlv) ∧
      ∃ later, ((RTPDump.construct fileName videoFrequency u).record as).trace =
        .psOpen fileName :: later ∧ ∀ name, .psOpen name ∉ later := by
  obtain ⟨h96, before, after, rfl, hbefore⟩ := List.find?_eq_some_iff_append.mp hfirst
  have hnone : ∀ b ∈ before, b.packet.isType96 = false := fun b hb => by simpa using hbefore b hb
  have hfront : (RTPDump.construct fileName videoFrequency u).record before = pure _ :=
    record_of_dropped rfl hnone fun b hb => h98 b (List.mem_append_left _ hb)
  have hstep := step_of_firstCamera (d := .construct fileName videoFrequency u) rfl h96 hps hopened
    (hwritten a (by simp) h96)
  have hback : ({ RTPDump.construct fileName videoFrequency u with
      psOutfile := .good, cameraType := .psCamera } : RTPDump).record after = _ :=
    record_of_psCamera rfl rfl rfl (fun b hb => h98 b (by simp [hb]))
      fun b hb => hwritten b (by simp [hb])
  -- nothing, then the opening with the first payload, then the other payloads
  have hrecord : (RTPDump.construct fileName videoFrequency u).record (before ++ a :: after) =
      ⟨.psOpen fileName :: .output (.raw a.packet.payload) :: after.flatMap Arrival.dumped,
        .ok { RTPDump.construct fileName videoFrequency u with
          psOutfile := .good, cameraType := .psCamera }⟩ := by
    rw [RTPDump.record] at hfront hback ⊢
    rw [run_append_of_ok (congrArg Traced.outcome hfront), hfront, run_cons, hstep, ok_bind, hback]
    rfl
  have hdropped : (before.flatMap fun b => if b.packet.isType96 then b.packet.payload else []) =
      [] := by
    refine List.flatMap_eq_nil_iff.mpr fun b hb => ?_
    rw [hnone b hb]
    rfl
  rw [hrecord]
  refine ⟨_, rfl, rfl, rfl, rfl, ?_, ?_, _, rfl, fun name hmem => ?_⟩
  · rw [List.flatMap_append, hdropped, List.flatMap_cons, if_pos h96, ← rawBytes_dumped]
    rfl
  · intro e he
    rcases List.mem_cons.mp he with rfl | he
    · exact id
    rcases List.mem_cons.mp he with rfl | he
    · exact Bool.noConfusion
    · exact dumped_not_isFlv he
  · rcases List.mem_cons.mp hmem with heq | hmem
    · cases heq
    · exact psOpen_not_mem_dumped after name hmem

/-- An audio packet. -/
def sampleEarlyAudio : Arrival :=
  ⟨.ofBytes [0x80, 0x08, 0, 2, 0, 0, 0, 2, 0, 0, 0, 0, 0x55] 13, .allGood⟩

/-- A program stream of two packets with an audio packet between them. -/
theorem record_programStream_samplePs :
    ∃ d, ((RTPDump.construct "camera.ps" 90000 .zero).record
        [samplePsPacket, sampleEarlyAudio, samplePsPacket]).outcome = .ok d ∧
      d.cameraType = .psCamera ∧ d.flv = false ∧ d.isVideoBegin = 0 ∧
      rawBytes ((RTPDump.construct "camera.ps" 90000 .zero).record
        [samplePsPacket, sampleEarlyAudio, samplePsPacket]).trace =
          ([samplePsPacket, sampleEarlyAudio, samplePsPacket].flatMap fun b =>
            if b.packet.isType96 then b.packet.payload else []) ∧
      (∀ e ∈ ((RTPDump.construct "camera.ps" 90000 .zero).record
        [samplePsPacket, sampleEarlyAudio, samplePsPacket]).trace, ¬ e.IsFlv) ∧
      ∃ later, ((RTPDump.construct "camera.ps" 90000 .zero).record
          [samplePsPacket, sampleEarlyAudio, samplePsPacket]).trace =
        .psOpen "camera.ps" :: later ∧ ∀ name, .psOpen name ∉ later :=
  record_programStream "camera.ps" 90000 .zero (a := samplePsPacket) (by decide) rfl (by decide)
    rfl (by decide)

end RtpCapture
