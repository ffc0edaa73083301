import RtpCapture.Recorder.Interleaving
import RtpCapture.Recorder.NalWork
import RtpCapture.Recorder.PacketBytes
import RtpCapture.Recorder.RoundTrip

/-! # Fragments and whole NAL units

A NAL unit that travels in FU-A fragments reaches `videoHandler` as one that travels in a packet of
its own: from any state with an open file, whatever the reassembly buffer holds, and with packets of
other media in between.

* **`RTPDump.setNal`** — the recorder with other reassembly fields; `videoHandler_setNal` and
  `step_setNal` say that nothing but the FU-A branch looks at them.
* **`Gathering`** — the state while the fragments of a NAL unit come in.
* **`InFragments`** — the packets of a NAL unit in fragments, mixed with others.
* **`record_fragments`** — the call and everything behind it are the same. -/

namespace RtpCapture

open Traced

/-! ## The reassembly fields -/

/-- The recorder with other reassembly fields. -/
def RTPDump.setNal (d : RTPDump) (nalData : Memory) (nalLength : ℕ) : RTPDump :=
  { d with nalData := nalData, nalLength := nalLength }

/-- The recorder of a camera that has turned out to send H.264. -/
def RTPDump.detected (d : RTPDump) : RTPDump := { d with cameraType := .rtspCamera }

/-- Two recorders that differ in the reassembly fields only. -/
def DiffersInNal (d e : RTPDump) : Prop := ∃ nalData nalLength, e = d.setNal nalData nalLength

/-- A recorder does not differ from itself. -/
theorem DiffersInNal.refl (d : RTPDump) : DiffersInNal d d := ⟨d.nalData, d.nalLength, rfl⟩

/-- The handling of NAL units handed over does not look at what is gathered. -/
theorem setNal_apart (nalData : Memory) (nalLength : ℕ) :
    ApartFromNals (·.setNal nalData nalLength) := by
  constructor <;> intros <;> rfl

/-- **`videoHandler` works on the buffer it is given**, not on the one of the reassembly. -/
theorem videoHandler_setNal (r : FileResults) (d : RTPDump) (nalData : Memory) (nalLength : ℕ)
    (buf : Memory) (len : ℕ) (time : Word) (marker : Bool) :
    videoHandler r (d.setNal nalData nalLength) buf len time marker =
      (videoHandler r d buf len time marker).mapValue (·.setNal nalData nalLength) := by
  have hclock : (d.setNal nalData nalLength).videoClock = d.videoClock := rfl
  have hfrequency : (d.setNal nalData nalLength).videoFrequency = d.videoFrequency := rfl
  unfold videoHandler
  rw [hclock, hfrequency, mapValue_emit_bind]
  congr 1
  funext _
  cases d.videoClock.tick d.videoFrequency time with
  | none => rfl
  | some result =>
      obtain ⟨clock, timestamp⟩ := result
      have hwork := (setNal_apart nalData nalLength).nalPhase_apart r
        { d with videoClock := clock } buf len timestamp marker
      dsimp only
      rw [mapValue_emit_bind]
      congr 1
      funext _
      refine (congrArg (· >>= _) hwork).trans ?_
      rw [bind_mapValue, mapValue_bind]
      rfl

/-! ## Packets of other media -/

/-- **A change of fields that the audio packets do not use.** -/
structure ApartFromAudio (f : RTPDump → RTPDump) : Prop where
  isVideoBegin : ∀ d, (f d).isVideoBegin = d.isVideoBegin
  flv : ∀ d, (f d).flv = d.flv
  audioClock : ∀ d, (f d).audioClock = d.audioClock
  setAudioClock : ∀ (d : RTPDump) clock,
    { f d with audioClock := clock } = f { d with audioClock := clock }

section ApartFromAudio

variable {f : RTPDump → RTPDump} (hf : ApartFromAudio f) (d : RTPDump)

include hf

/-- A change apart from audio passes through `audioHandler`. -/
theorem ApartFromAudio.audioHandler (r : FileResults) (payload : List Byte) (time : Word)
    (type : AudioType) : audioHandler r (f d) payload time type =
      (audioHandler r d payload time type).mapValue f := by
  unfold RtpCapture.audioHandler
  rw [hf.audioClock, mapValue_emit_bind]
  congr 1
  funext _
  cases d.audioClock.tick 8 time with
  | none => rfl
  | some result =>
      obtain ⟨clock, timestamp⟩ := result
      dsimp only
      rw [mapValue_emit_bind]
      congr 1
      funext _
      have hreturn := congrArg (pure : RTPDump → Recording RTPDump) (hf.setAudioClock d clock)
      split
      · rw [mapValue_bind]
        congr 1
        · rw [hf.flv]
        · funext _
          exact hreturn
      · exact hreturn

/-- **Packets that are no video packets** use none of the other fields. -/
theorem ApartFromAudio.step {a : Arrival} (hvideo : a.packet.isVideo = false) :
    (f d).step a = (d.step a).mapValue f := by
  by_cases haudio : a.packet.isAudio = true ∧ d.isVideoBegin ≠ 0
  · have hbegin : (f d).isVideoBegin ≠ 0 := by
      rw [hf.isVideoBegin]
      exact haudio.2
    rw [step_of_isAudio haudio.1 haudio.2, step_of_isAudio haudio.1 hbegin]
    exact hf.audioHandler ..
  · have hignored : a.packet.isAudio = true → d.isVideoBegin = 0 := fun h =>
      by_contra fun hbegin => haudio ⟨h, hbegin⟩
    rw [step_of_ignored hvideo hignored, step_of_ignored hvideo fun h => by
      rw [hf.isVideoBegin, hignored h]]
    rfl

end ApartFromAudio

/-- What is gathered is apart from audio. -/
theorem setNal_apartFromAudio (nalData : Memory) (nalLength : ℕ) :
    ApartFromAudio (·.setNal nalData nalLength) := by
  constructor <;> intros <;> rfl

/-- So is the camera type. -/
theorem detected_apartFromAudio : ApartFromAudio RTPDump.detected := by
  constructor <;> intros <;> rfl

/-! ## The FLV path -/

/-- **A packet that is taken for H.264 without a look at it**: one of type 98, or one of type 96 from
a camera that has turned out to send H.264. -/
def TakenForH264 (cameraType : CameraType) (p : Packet) : Prop :=
  p.isVideo = true ∧ (p.pt = 98 ∨ cameraType = .rtspCamera)

/-- Such a packet goes to the H.264 part, with nothing in front. -/
theorem step_of_taken {d : RTPDump} {a : Arrival} (hflv : d.flv = true)
    (htaken : TakenForH264 d.cameraType a.packet) : d.step a = nalHandler a.results d a.packet := by
  obtain ⟨hvideo, hpath⟩ := htaken
  rw [Packet.isVideo, decide_eq_true_eq] at hvideo
  have hopen : h264Handler a.results d a.packet = nalHandler a.results d a.packet := by
    unfold h264Handler
    rw [if_pos hflv, Traced.pure_bind]
    exact if_pos hflv
  have haudio : ¬ (a.packet.pt = 0 ∨ a.packet.pt = 8) := fun h =>
    Packet.isAudio_ne (decide_eq_true ⟨hvideo.1, h⟩) hvideo
  unfold RTPDump.step
  rw [rtpHandler_of_isRtp _ _ hvideo.1, if_neg haudio]
  by_cases h96 : a.packet.pt = 96
  · -- the camera type is decided
    have hcamera : d.cameraType = .rtspCamera := hpath.resolve_left fun h98 => by
      rw [h96] at h98
      revert h98
      decide
    have hdetect : detectCamera a.results d a.packet = pure d := by
      unfold detectCamera
      rw [if_neg (by rw [hcamera]; decide)]
    rw [if_pos h96, hdetect, Traced.pure_bind,
      if_neg (by rw [hcamera]; decide), hopen]
  · rw [if_neg h96, if_pos (hvideo.2.resolve_left h96), hopen]

/-! ## Fragments coming in -/

/-- **A state in which fragments are expected**: of the NAL unit with this header `sofar` has come
in, or nothing yet, when the next fragment is the first. -/
structure Gathering (header : Byte) (first : Bool) (sofar : List Byte) (d : RTPDump) : Prop where
  flv : d.flv = true
  start : first = true → sofar = [header]
  gathered : first = false → d.nalData.read 0 d.nalLength = sofar

section Gathering

variable {header : Byte} {first last : Bool} {sofar piece : List Byte} {d : RTPDump}

/-- **A fragment is appended** to what has come in. -/
theorem Gathering.fragment (h : Gathering header first sofar d) {p : Packet}
    (hp : Carries p (fuIndicator header :: fuHeader first last header :: piece)) :
    ∃ nalData nalLength, d.gathered p = d.setNal nalData nalLength ∧
      nalData.read 0 nalLength = sofar ++ piece ∧ nalLength = (sofar ++ piece).length := by
  obtain ⟨-, hstart, -, hheader, hpiece⟩ := hp.fragment
  have hmatches := (Depacketizer.matches_ofRecorder d).of_fragment p
  have hfragment : (Depacketizer.ofRecorder d).fragment p = sofar ++ piece := by
    rw [Depacketizer.fragment, hstart, hheader, hpiece]
    cases first with
    | true => rw [if_pos rfl, h.start rfl]
    | false => rw [if_neg Bool.false_ne_true, ← h.gathered rfl]; rfl
  obtain ⟨nalData, nalLength, hgathered⟩ := d.gathered_eq p
  have hlength := hmatches.length
  have hdata := hmatches.data
  rw [hgathered, hfragment] at hlength hdata
  exact ⟨nalData, nalLength, hgathered, hdata, hlength⟩

/-- **A fragment that is not the last**: it is copied, and nothing else happens. -/
theorem Gathering.step_more (h : Gathering header first sofar d) {a : Arrival}
    (htaken : TakenForH264 d.cameraType a.packet)
    (hp : Carries a.packet (fuIndicator header :: fuHeader first false header :: piece))
    (hroom : (sofar ++ piece).length ≤ nalDataSize) :
    ∃ off len nalData nalLength,
      d.step a = ⟨[.nalDataCopy off len], .ok (d.setNal nalData nalLength)⟩ ∧
        Gathering header false (sofar ++ piece) (d.setNal nalData nalLength) := by
  obtain ⟨hfua, -, hend, -, -⟩ := hp.fragment
  obtain ⟨nalData, nalLength, hgathered, hread, hlength⟩ := h.fragment hp
  refine ⟨(startNal d a.packet.h264Buf).nalLength, fuPayloadLen a.packet.h264Len, nalData,
    nalLength, ?_, ⟨h.flv, fun hfirst => (Bool.false_ne_true hfirst).elim, fun _ => hread⟩⟩
  have hnotEnd : ¬ a.packet.h264Buf 1 &&& 0x40 ≠ 0 := fun hc => by
    rw [Packet.isEnd_iff.mpr hc] at hend
    cases hend
  have hfits : ¬ nalDataSize < (d.setNal nalData nalLength).nalLength := by
    show ¬ nalDataSize < nalLength
    rw [hlength]
    exact not_lt.mpr hroom
  rw [step_of_taken h.flv htaken, nalHandler_of_fragment (Packet.isFuA_iff.mp hfua), hgathered,
    if_neg hfits, if_neg hnotEnd]
  rfl

/-- **The last fragment** hands the NAL unit to `videoHandler`. -/
theorem Gathering.step_last (h : Gathering header first sofar d) {a : Arrival}
    (htaken : TakenForH264 d.cameraType a.packet)
    (hp : Carries a.packet (fuIndicator header :: fuHeader first true header :: piece))
    (hroom : (sofar ++ piece).length ≤ nalDataSize) :
    ∃ off len nalData nalLength, nalData.read 0 nalLength = sofar ++ piece ∧
      d.step a = emit (.nalDataCopy off len) >>= fun _ =>
        videoHandler a.results (d.setNal nalData nalLength) nalData nalLength a.packet.time
          a.packet.marker := by
  obtain ⟨hfua, -, hend, -, -⟩ := hp.fragment
  obtain ⟨nalData, nalLength, hgathered, hread, hlength⟩ := h.fragment hp
  refine ⟨(startNal d a.packet.h264Buf).nalLength, fuPayloadLen a.packet.h264Len, nalData,
    nalLength, hread, ?_⟩
  have hfits : ¬ nalDataSize < (d.setNal nalData nalLength).nalLength := by
    show ¬ nalDataSize < nalLength
    rw [hlength]
    exact not_lt.mpr hroom
  rw [step_of_taken h.flv htaken, nalHandler_of_fragment (Packet.isFuA_iff.mp hfua), hgathered,
    if_neg hfits, if_pos (Packet.isEnd_iff.mp hend)]
  rfl

/-- **The single-NAL branch**: `videoHandler` gets the NAL unit from the packet. -/
theorem step_whole {nal : List Byte} (hflv : d.flv = true) {a : Arrival}
    (htaken : TakenForH264 d.cameraType a.packet) (hnal : IsNalUnit nal)
    (hp : Carries a.packet nal) {nalData : Memory} {nalLength : ℕ}
    (hread : nalData.read 0 nalLength = nal) :
    d.step a =
      videoHandler a.results d nalData nalLength a.packet.time a.packet.marker := by
  have hfua := hp.isFuA_of_isNalUnit hnal
  have hlength : a.packet.h264Len = nalLength := by
    rw [hp.h264Len, ← hread, Memory.length_read]
  have hsame : a.packet.h264Buf.read 0 nalLength = nalData.read 0 nalLength := by
    rw [hread, ← hlength]
    exact hp.payload
  have hpos : 1 ≤ nalLength := by
    obtain ⟨header, body, rfl, -, -⟩ := hnal
    rw [← hlength, hp.h264Len]
    exact Nat.succ_pos _
  have hnotFua : ¬ nalType (a.packet.h264Buf 0) = 28 := fun hc =>
    Bool.eq_false_iff.mp hfua (Packet.isFuA_iff.mpr hc)
  rw [step_of_taken hflv htaken, nalHandler, if_neg hnotFua, hlength]
  exact videoHandler_congr _ _ _ _ hsame hpos

end Gathering

/-! ## Both ways of sending -/

/-- What is seen of a recorder from behind the reassembly: all events but the copies into
`m_nal_data`. -/
def Event.behindReassembly? : Event → Option Event
  | .nalDataCopy _ _ => none
  | e => some e

/-- The calls are among them. -/
theorem calls_behindReassembly (history : List Event) :
    calls (history.filterMap Event.behindReassembly?) = calls history := by
  rw [calls, calls, List.filterMap_filterMap]
  congr 1
  funext e
  cases e <;> rfl

/-- `videoHandler` is one call. -/
theorem calls_videoHandler (r : FileResults) (d : RTPDump) (buf : Memory) (len : ℕ) (time : Word)
    (marker : Bool) : calls (videoHandler r d buf len time marker).trace =
      [⟨nalType (buf 0), buf.read 0 len, time, marker⟩] := by
  obtain ⟨x, heq, hx⟩ := videoHandler_frame r d buf len time marker
  have hwork : calls x.trace = [] :=
    calls_eq_nil fun e he =>
      Event.call?_eq_none ((hx []).1.forall_mem e he).not_isReassembly
  rw [heq, emit_bind]
  show _ :: calls x.trace = _
  rw [hwork]

/-- Only the packets that are no video packets. -/
def otherArrivals (as : List Arrival) : List Arrival := as.filter fun a => !a.packet.isVideo

/-- The other packets are no video packets. -/
theorem videoArrivals_otherArrivals (as : List Arrival) : videoArrivals (otherArrivals as) = [] :=
  List.filter_eq_nil_iff.mpr fun b hb => by simpa using (List.mem_filter.mp hb).2

/-- One more video packet. -/
theorem videoArrivals_concat (as : List Arrival) {a : Arrival} (h : a.packet.isVideo = true) :
    videoArrivals (as ++ [a]) = videoArrivals as ++ [a] := by
  simp [videoArrivals, h]

/-- **Other packets** move the audio clock at most, and make no call. -/
theorem step_of_not_isVideo {d : RTPDump} {a : Arrival} (hflv : d.flv = true)
    (hvideo : a.packet.isVideo = false) :
    ∃ clock, (d.step a).outcome = .ok { d with audioClock := clock } ∧
      calls (d.step a).trace = [] := by
  by_cases haudio : a.packet.isAudio = true ∧ d.isVideoBegin ≠ 0
  · rw [step_of_isAudio haudio.1 haudio.2, audioStep]
    obtain ⟨hevents, hpost⟩ := audioHandler_ensures a.results d a.packet.payload a.packet.time
      (if a.packet.pt = 0 then .uLaw else .aLaw)
    obtain ⟨d', hd'⟩ := audioHandler_returns hflv a.results a.packet.payload a.packet.time
      (if a.packet.pt = 0 then .uLaw else .aLaw)
    obtain ⟨clock, rfl⟩ := hpost d' hd'
    exact ⟨clock, hd', calls_eq_nil fun e he =>
      Event.call?_eq_none (hevents.forall_mem e he).not_isReassembly⟩
  · rw [step_of_ignored hvideo fun h => by_contra fun hbegin => haudio ⟨h, hbegin⟩]
    exact ⟨d.audioClock, rfl, rfl⟩

/-- The last fragment. -/
theorem FragmentRun.of_singleton {header : Byte} {first : Bool} {body : List Byte} {p : Packet}
    (h : FragmentRun header first body [p]) :
    Carries p (fuIndicator header :: fuHeader first true header :: body) := by
  cases h with
  | last h => exact h
  | more _ hrest => exact absurd rfl hrest.ne_nil

/-- A fragment with others behind it. -/
theorem FragmentRun.of_cons {header : Byte} {first : Bool} {body : List Byte} {p : Packet}
    {ps : List Packet} (h : FragmentRun header first body (p :: ps)) (hps : ps ≠ []) :
    ∃ piece rest, body = piece ++ rest ∧
      Carries p (fuIndicator header :: fuHeader first false header :: piece) ∧
      FragmentRun header false rest ps := by
  cases h with
  | last h => exact absurd rfl hps
  | more h hrest => exact ⟨_, _, rfl, h, hrest⟩

/-- **A NAL unit in one packet** that takes the place of the last fragment. -/
structure InPlaceOf (last : Arrival) (nal : List Byte) (single : Arrival) : Prop where
  carries : Carries single.packet nal
  isNalUnit : IsNalUnit nal
  time : single.packet.time = last.packet.time
  marker : single.packet.marker = last.packet.marker
  results : single.results = last.results

/-- **The fragments that are still to come and the whole NAL unit** lead to the same call and to the
same work. -/
theorem Gathering.agree {header : Byte} {first : Bool} {sofar body : List Byte} {d e : RTPDump}
    {as : List Arrival} {last single : Arrival} (h : Gathering header first sofar d)
    (hrun : FragmentRun header first body ((videoArrivals (as ++ [last])).map Arrival.packet))
    (hlast : last.packet.isVideo = true)
    (htaken : ∀ a ∈ videoArrivals (as ++ [last]), TakenForH264 d.cameraType a.packet)
    (hroom : (sofar ++ body).length ≤ nalDataSize) (hdiffers : DiffersInNal d e)
    (hsingle : InPlaceOf last (sofar ++ body) single)
    (hsingleTaken : TakenForH264 d.cameraType single.packet) :
    calls (d.record (as ++ [last])).trace =
        [⟨nalType ((sofar ++ body).headD 0), sofar ++ body, last.packet.time,
          last.packet.marker⟩] ∧
      Agree Event.behindReassembly? DiffersInNal (d.record (as ++ [last]))
        (e.record (otherArrivals as ++ [single])) := by
  -- induction on the packets before the last one; `sofar` and `body` say how far the unit has come
  induction as generalizing d e first sofar body with
  | nil =>
      rw [List.nil_append, videoArrivals_cons, if_pos hlast] at hrun htaken
      obtain ⟨nalData', nalLength', rfl⟩ := hdiffers
      obtain ⟨off, len, nalData, nalLength, hread, hstep⟩ :=
        h.step_last (htaken last List.mem_cons_self) hrun.of_singleton hroom
      have hwhole := step_whole (d := d.setNal nalData' nalLength') h.flv hsingleTaken
        hsingle.isNalUnit hsingle.carries hread
      rw [hsingle.time, hsingle.marker, hsingle.results, videoHandler_setNal] at hwhole
      rw [videoHandler_setNal] at hstep
      rw [List.nil_append, RTPDump.record, run_singleton, hstep]
      constructor
      · have hhead : nalData 0 = (sofar ++ body).headD 0 := by
          obtain ⟨header', body', hcons, -, -⟩ := hsingle.isNalUnit
          rw [hcons]
          exact Memory.head_of_read (hread.trans hcons)
        rw [← hhead, ← hread]
        exact calls_videoHandler last.results d nalData nalLength _ _
      · show Agree _ _ _ (run RTPDump.step (d.setNal nalData' nalLength') [single])
        rw [run_singleton, hwhole]
        exact agree_emit_left rfl (agree_mapValue_mapValue fun d' => ⟨nalData', nalLength', rfl⟩)
  | cons a as ih =>
      rw [List.cons_append, videoArrivals_cons] at hrun htaken
      rw [List.cons_append]
      by_cases hvideo : a.packet.isVideo = true
      · -- a fragment: only the recorder that gets fragments moves
        have hothers : otherArrivals (a :: as) = otherArrivals as := by
          rw [otherArrivals, List.filter_cons_of_neg (by simp [hvideo]), otherArrivals]
        have hmore : (videoArrivals (as ++ [last])).map Arrival.packet ≠ [] := by
          simp [videoArrivals_concat as hlast]
        rw [if_pos hvideo] at hrun htaken
        obtain ⟨piece, rest, rfl, hp, hrest⟩ := hrun.of_cons hmore
        rw [← List.append_assoc] at hroom hsingle ⊢
        obtain ⟨off, len, nalData, nalLength, hstep, hgathering⟩ :=
          h.step_more (htaken a List.mem_cons_self) hp (le_trans (by simp) hroom)
        obtain ⟨nalData', nalLength', rfl⟩ := hdiffers
        obtain ⟨hcalls, hagree⟩ := ih hgathering hrest
          (fun b hb => htaken b (List.mem_cons_of_mem a hb)) hroom
          ⟨nalData', nalLength', rfl⟩ hsingle hsingleTaken
        rw [hothers, RTPDump.record, run_cons, hstep]
        refine ⟨hcalls, ?_⟩
        show Agree _ _ (emit (.nalDataCopy off len) >>= fun _ =>
          (d.setNal nalData nalLength).record (as ++ [last])) _
        exact agree_emit_left rfl hagree
      · -- another packet: both move alike
        have hnot : a.packet.isVideo = false := Bool.eq_false_iff.mpr hvideo
        have hothers : otherArrivals (a :: as) = a :: otherArrivals as := by
          rw [otherArrivals, List.filter_cons_of_pos (by simp [hnot]), otherArrivals]
        rw [if_neg hvideo] at hrun htaken
        obtain ⟨nalData', nalLength', rfl⟩ := hdiffers
        obtain ⟨clock, hstep, hquiet⟩ := step_of_not_isVideo h.flv hnot
        obtain ⟨hcalls, hagree⟩ := ih (d := { d with audioClock := clock })
          (e := ({ d with audioClock := clock } : RTPDump).setNal nalData' nalLength')
          ⟨h.flv, h.start, h.gathered⟩ hrun htaken hroom ⟨nalData', nalLength', rfl⟩ hsingle
          hsingleTaken
        have hsame : (d.setNal nalData' nalLength').step a =
            (d.step a).mapValue (·.setNal nalData' nalLength') :=
          (setNal_apartFromAudio nalData' nalLength').step d hnot
        have hstep' : ((d.setNal nalData' nalLength').step a).outcome =
            .ok (({ d with audioClock := clock } : RTPDump).setNal nalData' nalLength') := by
          rw [hsame]
          exact congrArg (Except.map (·.setNal nalData' nalLength')) hstep
        rw [hothers, RTPDump.record, run_cons_of_ok hstep, RTPDump.record, List.cons_append,
          run_cons_of_ok hstep', hsame]
        refine ⟨?_, ?_, hagree.outcome⟩
        · rw [calls_append, hquiet]
          exact hcalls
        · rw [List.filterMap_append, List.filterMap_append]
          exact congrArg _ hagree.trace

/-! ## Before the last fragment -/

/-- Fragments that are not the last hand nothing on. -/
theorem FragmentRun.unfinished {header : Byte} {first : Bool} {body : List Byte}
    {ps : List Packet} {p : Packet} (h : FragmentRun header first body (ps ++ [p])) :
    ∀ q ∈ ps, q.isFuA = true ∧ q.isEnd = false := by
  induction ps generalizing first body with
  | nil => exact List.forall_mem_nil _
  | cons q ps ih =>
      obtain ⟨piece, rest, -, hq, hrest⟩ := h.of_cons (by simp)
      obtain ⟨hfua, -, hend, -, -⟩ := hq.fragment
      exact List.forall_mem_cons.mpr ⟨⟨hfua, hend⟩, ih hrest⟩

/-- A depacketizer that gets only such fragments. -/
theorem Depacketizer.handed_unfinished {as : List Arrival}
    (h : ∀ a ∈ as, a.packet.isFuA = true ∧ a.packet.isEnd = false) (s : Depacketizer) :
    s.handed as = [] := by
  induction as generalizing s with
  | nil => rfl
  | cons a as ih =>
      obtain ⟨hfua, hend⟩ := h a List.mem_cons_self
      have hcall : s.call a = none := by
        unfold call completed
        rw [if_pos hfua, if_neg (Bool.eq_false_iff.mp hend)]
        split <;> rfl
      rw [handed, hcall, ih fun b hb => h b (List.mem_cons_of_mem a hb)]
      rfl

/-- **No call before the last fragment.** -/
theorem calls_unfinished {as : List Arrival}
    (h : ∀ a ∈ videoArrivals as, a.packet.isFuA = true ∧ a.packet.isEnd = false) (d : RTPDump) :
    calls (d.record as).trace = [] := by
  have hprefix := (record_calls (Depacketizer.matches_ofRecorder d) as).1
  rw [← Depacketizer.handed_videoArrivals, Depacketizer.handed_unfinished h] at hprefix
  exact List.prefix_nil.mp hprefix

/-! ## The detection of the camera -/

/-- A packet of type 96 that is taken for H.264 shows that the camera sends H.264. -/
theorem step_detected {d : RTPDump} {a : Arrival} (hdefault : d.cameraType = .default)
    (h96 : a.packet.pt = 96) (hh264 : d.route.isH264 a.packet = true) :
    d.step a = d.detected.step a := by
  rw [Route.isH264, decide_eq_true_eq] at hh264
  obtain ⟨hrtp, hpath⟩ := hh264
  have hne : d.route.detect a.packet ≠ .psCamera := by
    rcases hpath with ⟨-, hne⟩ | h98
    · exact hne
    · rw [h96] at h98
      exact absurd h98 (by decide)
  have hclassify : d.route.detect a.packet = classify a.packet.h264Buf := by
    rw [Route.detect, if_pos ⟨hrtp, h96, hdefault⟩]
  rw [hclassify] at hne
  have hdetect : detectCamera a.results d a.packet = pure d.detected := by
    unfold detectCamera
    rw [if_pos hdefault, if_neg hne]
    rfl
  have hdetect' : detectCamera a.results d.detected a.packet = pure d.detected := by
    have hdecided : ¬ CameraType.rtspCamera = .default := by decide
    unfold detectCamera
    exact if_neg hdecided
  have haudio : ¬ (a.packet.pt = 0 ∨ a.packet.pt = 8) := by
    rw [h96]
    decide
  unfold RTPDump.step
  rw [rtpHandler_of_isRtp _ _ hrtp, rtpHandler_of_isRtp _ _ hrtp, if_neg haudio, if_neg haudio,
    if_pos h96, if_pos h96, hdetect, hdetect']

/-- **From the first packet of type 96 on** the camera type is decided, and before it nothing
depends on it. -/
theorem record_detected {d : RTPDump} {a : Arrival} {as rest : List Arrival}
    (hflv : d.flv = true) (hdefault : d.cameraType = .default)
    (hfirst : videoArrivals as = a :: rest) (h96 : a.packet.pt = 96)
    (hh264 : d.route.isH264 a.packet = true) : d.record as = d.detected.record as := by
  induction as generalizing d with
  | nil => cases hfirst
  | cons b as ih =>
      rw [videoArrivals_cons] at hfirst
      by_cases hvideo : b.packet.isVideo = true
      · rw [if_pos hvideo] at hfirst
        obtain rfl := (List.cons.inj hfirst).1
        rw [RTPDump.record, RTPDump.record, run_cons, run_cons,
          step_detected hdefault h96 hh264]
      · have hnot : b.packet.isVideo = false := Bool.eq_false_iff.mpr hvideo
        rw [if_neg hvideo] at hfirst
        obtain ⟨clock, hstep, -⟩ := step_of_not_isVideo hflv hnot
        have hsame := detected_apartFromAudio.step d hnot
        have hstep' : (d.detected.step b).outcome =
            .ok ({ d with audioClock := clock } : RTPDump).detected := by
          rw [hsame]
          exact congrArg (Except.map RTPDump.detected) hstep
        have hrest := ih (d := { d with audioClock := clock }) hflv hdefault hfirst hh264
        rw [RTPDump.record, RTPDump.record, run_cons_of_ok hstep, run_cons_of_ok hstep', hsame]
        rw [RTPDump.record, RTPDump.record] at hrest
        rw [hrest]
        rfl

/-- A session of a program stream has no packets of type 96 on the FLV path. -/
theorem pt_of_onFlvPath {ro : Route} {ps : List Packet} (hps : ro.cameraType = .psCamera)
    (h : OnFlvPath ro ps) : ∀ p ∈ ps, p.pt = 98 := by
  induction ps generalizing ro with
  | nil => exact List.forall_mem_nil _
  | cons p ps ih =>
      obtain ⟨hh264, hrest⟩ := h
      have hdetect : ro.detect p = .psCamera := by
        rw [Route.detect, if_neg fun hc => by rw [hps] at hc; exact absurd hc.2.2 (by decide), hps]
      rw [Route.isH264, decide_eq_true_eq] at hh264
      exact List.forall_mem_cons.mpr
        ⟨hh264.2.resolve_left fun hc => hc.2 hdetect, ih hdetect hrest⟩

/-! ## The two ways of sending -/

/-- **A NAL unit that is sent in either way**: as the FU-A fragments among `as` and `last`, between
which other packets may come, or as `single` in place of the last one. The payload type is one that
takes the packets to the FLV file; an undecided camera type is decided by packets of the same
type. -/
structure SentEitherWay (d : RTPDump) (nal : List Byte) (as : List Arrival)
    (last single : Arrival) : Prop where
  run : ∃ header body, nal = header :: body ∧
    FragmentRun header true body ((videoArrivals (as ++ [last])).map Arrival.packet)
  lastIsVideo : last.packet.isVideo = true
  path : OnFlvPath d.route ((videoArrivals (as ++ [last])).map Arrival.packet)
  inPlace : InPlaceOf last nal single
  singlePath : d.route.isH264 single.packet = true
  sameType : d.cameraType = .default →
    ∀ a ∈ videoArrivals (as ++ [last]), a.packet.pt = single.packet.pt

/-- **Delivery is the same**: one call, by the last packet, and everything else but the reassembly
fields. -/
structure DeliveredAlike (d : RTPDump) (nal : List Byte) (as : List Arrival)
    (last single : Arrival) : Prop where
  before : calls (d.record as).trace = []
  fragmented : calls (d.record (as ++ [last])).trace =
    [⟨nalType (nal.headD 0), nal, last.packet.time, last.packet.marker⟩]
  whole : calls (d.record (otherArrivals as ++ [single])).trace =
    [⟨nalType (nal.headD 0), nal, last.packet.time, last.packet.marker⟩]
  same : Agree Event.behindReassembly? DiffersInNal (d.record (as ++ [last]))
    (d.record (otherArrivals as ++ [single]))

section SentEitherWay

variable {d : RTPDump} {nal : List Byte} {as : List Arrival} {last single : Arrival}

/-- The packet that carries the whole NAL unit is a video packet. -/
theorem SentEitherWay.single_isVideo (h : SentEitherWay d nal as last single) :
    single.packet.isVideo = true := by
  have hh264 := h.singlePath
  rw [Route.isH264, decide_eq_true_eq] at hh264
  exact decide_eq_true ⟨hh264.1, hh264.2.imp And.left id⟩

/-- When the packets are taken for H.264 without a look at them. -/
theorem SentEitherWay.agree (h : SentEitherWay d nal as last single) {e : RTPDump}
    (hflv : e.flv = true) (hsize : nal.length ≤ nalDataSize)
    (htaken : ∀ a ∈ videoArrivals (as ++ [last]), a.packet.pt = 98 ∨ e.cameraType = .rtspCamera)
    (hsingle : single.packet.pt = 98 ∨ e.cameraType = .rtspCamera) :
    calls (e.record (as ++ [last])).trace =
        [⟨nalType (nal.headD 0), nal, last.packet.time, last.packet.marker⟩] ∧
      Agree Event.behindReassembly? DiffersInNal (e.record (as ++ [last]))
        (e.record (otherArrivals as ++ [single])) := by
  obtain ⟨header, body, rfl, hrun⟩ := h.run
  have hgathering : Gathering header true [header] e :=
    ⟨hflv, fun _ => rfl, fun hfirst => (Bool.false_ne_true hfirst.symm).elim⟩
  exact hgathering.agree hrun h.lastIsVideo
    (fun a ha => ⟨(List.mem_filter.mp ha).2, htaken a ha⟩) hsize (.refl e) h.inPlace
    ⟨h.single_isVideo, hsingle⟩

/-- **The last fragment and the whole unit.** -/
theorem SentEitherWay.last_agree (h : SentEitherWay d nal as last single) (hflv : d.flv = true)
    (hsize : nal.length ≤ nalDataSize) :
    calls (d.record (as ++ [last])).trace =
        [⟨nalType (nal.headD 0), nal, last.packet.time, last.packet.marker⟩] ∧
      Agree Event.behindReassembly? DiffersInNal (d.record (as ++ [last]))
        (d.record (otherArrivals as ++ [single])) := by
  have hpath := h.singlePath
  rw [Route.isH264, decide_eq_true_eq] at hpath
  cases hcamera : d.cameraType with
  | rtspCamera => exact h.agree hflv hsize (fun _ _ => .inr hcamera) (.inr hcamera)
  | psCamera =>
      have hall := pt_of_onFlvPath hcamera h.path
      have hsingle : ∀ p ∈ [single.packet], p.pt = 98 :=
        pt_of_onFlvPath hcamera ⟨h.singlePath, trivial⟩
      exact h.agree hflv hsize (fun a ha => .inl (hall _ (List.mem_map_of_mem ha)))
        (.inl (hsingle _ List.mem_cons_self))
  | default =>
      have hsame := h.sameType hcamera
      rcases hpath.2 with ⟨h96, -⟩ | h98
      swap
      · exact h.agree hflv hsize (fun a ha => .inl ((hsame a ha).trans h98)) (.inl h98)
      -- both ways begin with the detection
      obtain ⟨header, body, rfl, hrun⟩ := h.run
      obtain ⟨a, rest, hfirst⟩ : ∃ a rest, videoArrivals (as ++ [last]) = a :: rest :=
        List.exists_cons_of_ne_nil fun hnil => hrun.ne_nil (by rw [hnil]; rfl)
      have hpath := h.path
      have hpt := hsame a (by rw [hfirst]; exact List.mem_cons_self)
      have hsingleFirst : videoArrivals (otherArrivals as ++ [single]) = [single] := by
        rw [videoArrivals_concat _ h.single_isVideo, videoArrivals_otherArrivals]
        rfl
      rw [hfirst] at hpath
      rw [record_detected hflv hcamera hfirst (hpt.trans h96) hpath.1,
        record_detected hflv hcamera hsingleFirst h96 h.singlePath]
      exact h.agree (e := d.detected) hflv hsize (fun _ _ => .inr rfl) (.inr rfl)

/-- **Fragmented and whole NAL units are delivered alike**, from any state with an open file. -/
theorem record_fragments (hflv : d.flv = true) (hsize : nal.length ≤ nalDataSize)
    (h : SentEitherWay d nal as last single) : DeliveredAlike d nal as last single := by
  obtain ⟨hcalls, hagree⟩ := h.last_agree hflv hsize
  obtain ⟨header, body, -, hrun⟩ := h.run
  refine ⟨calls_unfinished (fun a ha => ?_) d, hcalls, ?_, hagree⟩
  · rw [videoArrivals_concat _ h.lastIsVideo, List.map_append] at hrun
    exact hrun.unfinished _ (List.mem_map_of_mem ha)
  · rw [← calls_behindReassembly, ← hagree.trace, calls_behindReassembly, hcalls]

end SentEitherWay

/-- The IDR slice of the two fragments in one packet. -/
def sampleWhole : Arrival :=
  ⟨.ofBytes [0x80, 0xe2, 0, 4, 0, 0, 0, 0, 0, 0, 0, 0, 0x65, 1, 2] 15, .allGood⟩

/-- An A-law packet with one byte of sound. -/
def sampleAudio : Arrival :=
  ⟨.ofBytes [0x80, 0x08, 0, 7, 0, 0, 0x20, 0, 0, 0, 0, 0, 0xd5] 13, .allGood⟩

/-- A recorder with an open file and old bytes in its reassembly buffer. -/
def sampleGathering : RTPDump :=
  { RTPDump.construct "camera.flv" 90000 .zero with
    isVideoBegin := 1, flv := true, nalData := Memory.ofList [0x41, 9, 9], nalLength := 3 }

/-- The two fragments with a packet of sound in between. -/
theorem record_fragments_sample : DeliveredAlike sampleGathering [0x65, 1, 2]
    [sampleFirst.arrive, sampleAudio] sampleLast.arrive sampleWhole := by
  refine record_fragments rfl (by decide) ⟨⟨0x65, [1, 2], rfl, ?_⟩, by decide, by decide, ?_,
    by decide, by decide⟩
  · have hvideo : (videoArrivals ([sampleFirst.arrive, sampleAudio] ++ [sampleLast.arrive])).map
        Arrival.packet = [sampleFirst, sampleLast] := rfl
    rw [hvideo]
    exact sampleFragments
  · exact ⟨⟨by decide, by decide, rfl⟩, ⟨_, _, rfl, by decide, by decide⟩, by decide, by decide,
      rfl⟩

end RtpCapture
