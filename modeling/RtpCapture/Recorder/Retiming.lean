import RtpCapture.Foundations.TwoRuns
import RtpCapture.Recorder.NalWork
import RtpCapture.Recorder.RecordedClock
import RtpCapture.Recorder.Stream

/-! # A recorder with other clocks

The handlers read the clocks in one place each; everything else they do depends neither on the
clocks nor on the timestamps of the packets. So two recorders that differ in their clocks only, on
packets that differ in their timestamps only, do the same as long as their clocks give the same tag
timestamps.

* **`RTPDump.setClocks`** — the recorder with other clocks; `setClocks_apart` says that the work on a
  NAL unit is the same.
* **`DiffersInClocks`** — two recorders that differ in their clocks only, which two relations relate.
* **`Retimed`** — packets that differ in their timestamps only.
* **`step_retimed`** — the two recorders on two such packets agree on everything but the timestamps
  the handlers are entered with, as long as a handler that is entered gets the same tag timestamp. -/

namespace RtpCapture

open Traced

/-- The recorder with other clocks. -/
def RTPDump.setClocks (d : RTPDump) (audio video : Clock) : RTPDump :=
  { d with audioClock := audio, videoClock := video }

/-- **The phases of `videoHandler` do not look at the clocks.** -/
theorem setClocks_apart (audio video : Clock) : ApartFromNals (·.setClocks audio video) := by
  constructor <;> intros <;> rfl

/-! ## The entries of one packet -/

/-- The packets of a medium. -/
def Packet.isOf : TagType → Packet → Bool
  | .audio, p => p.isAudio
  | .video, p => p.isVideo

/-- The H.264 part enters `videoHandler` at most once, and `audioHandler` never. -/
theorem entryTimes_nalHandler (type : TagType) (r : FileResults) (d : RTPDump) (p : Packet) :
    entryTimes type (nalHandler r d p).trace = [] ∨
      type = .video ∧ entryTimes type (nalHandler r d p).trace = [p.time] := by
  have hvideo : ∀ (d₁ : RTPDump) (buf : Memory) (len : ℕ),
      entryTimes type (videoHandler r d₁ buf len p.time p.marker).trace = [] ∨
        type = .video ∧ entryTimes type (videoHandler r d₁ buf len p.time p.marker).trace =
          [p.time] := by
    intro d₁ buf len
    cases type with
    | video => exact .inr ⟨rfl, entryTimes_videoHandler ..⟩
    | audio =>
        obtain ⟨x, heq, hx⟩ := videoHandler_frame r d₁ buf len p.time p.marker
        rw [heq, emit_bind, entryTimes, List.filterMap_cons_none rfl]
        exact .inl (List.filterMap_eq_nil_iff.mpr fun e he =>
          ((hx []).1.forall_mem e he).entered? .audio)
  by_cases hfua : nalType (p.h264Buf 0) = 28
  swap
  · rw [nalHandler, if_neg hfua]
    exact hvideo ..
  -- a fragment is copied first, which is no entry
  have hcopy : (d.fragmentCopy p).entered? type = none := by cases type <;> rfl
  rw [nalHandler_of_fragment hfua, emit_bind, entryTimes, List.filterMap_cons_none hcopy]
  split
  · exact .inl rfl
  split
  · exact hvideo ..
  · exact .inl rfl

/-- **A packet enters the handler of its medium at most once**, with its timestamp, and no other
handler. -/
theorem entryTimes_step (type : TagType) (d : RTPDump) (a : Arrival) :
    entryTimes type (d.step a).trace = [] ∨
      entryTimes type (d.step a).trace = [a.packet.time] ∧ a.packet.isOf type = true := by
  rcases step_cases d a with ⟨haudio, -, hstep⟩ | ⟨pre, d', hprelude, -, hstep⟩
  · rw [hstep]
    cases type with
    | audio => exact .inr ⟨entryTimes_audioHandler .., haudio⟩
    | video =>
        obtain ⟨hevents, -⟩ := audioHandler_ensures a.results d a.packet.payload a.packet.time
          (if a.packet.pt = 0 then .uLaw else .aLaw)
        exact .inl (entryTimes_eq_nil fun e he => (hevents.forall_mem e he).isUntimed)
  · have hpre : entryTimes type pre = [] :=
      entryTimes_eq_nil fun e he => (hprelude.events e he).isUntimed type
    rw [hstep]
    split
    · next hreaches =>
        have hvideo : a.packet.isVideo = true := by
          by_contra hvideo
          rw [Packet.isVideo, decide_eq_true_eq] at hvideo
          rw [(Route.next_of_ignored hvideo).2] at hreaches
          cases hreaches
        rw [entryTimes_append, hpre, List.nil_append]
        rcases entryTimes_nalHandler type a.results d' a.packet with hnone | ⟨rfl, htime⟩
        · exact .inl hnone
        · exact .inr ⟨htime, hvideo⟩
    · exact .inl hpre

/-! ## The handlers -/

/-- A recorder whose clocks are those of another one, changed. -/
def RTPDump.mapClocks (audio video : Clock → Clock) (d : RTPDump) : RTPDump :=
  d.setClocks (audio d.audioClock) (video d.videoClock)

/-- **Two recorders that differ in their clocks only**: `P` relates the audio clocks and `Q` the
video clocks. -/
def DiffersInClocks (P Q : Clock → Clock → Prop) (d e : RTPDump) : Prop :=
  ∃ audio video, e = d.setClocks audio video ∧ P d.audioClock audio ∧ Q d.videoClock video

/-- **The same tag timestamp** on two clocks, which a relation relates then. -/
def SameStamp (P : Clock → Clock → Prop) : Option (Clock × Word) → Option (Clock × Word) → Prop :=
  Option.Rel fun x y => P x.1 y.1 ∧ x.2 = y.2

/-- A clock gives the tag timestamp that it gives. -/
theorem sameStamp_refl (x : Option (Clock × Word)) : SameStamp Eq x x := by
  cases x with
  | none => exact .none
  | some x => exact .some ⟨rfl, rfl⟩

/-- An observation that does not see the timestamps the handlers are entered with. -/
structure IgnoresTimes {γ : Type} (seen : Event → Option γ) : Prop where
  video : ∀ type nal time time' marker,
    seen (.videoHandler type nal time marker) = seen (.videoHandler type nal time' marker)
  audio : ∀ type payload time time',
    seen (.audioHandler type payload time) = seen (.audioHandler type payload time')

section Handlers

variable {γ : Type} {seen : Event → Option γ} {P Q : Clock → Clock → Prop} {time time' : Word}
  {d : RTPDump} {audio video : Clock}

/-- `videoHandler` on another clock that gives the same tag timestamp. -/
theorem videoHandler_retimed (hseen : IgnoresTimes seen) (r : FileResults) (buf : Memory) (len : ℕ)
    (marker : Bool) (haudio : P d.audioClock audio)
    (htick : SameStamp Q (d.videoClock.tick d.videoFrequency time)
      (video.tick d.videoFrequency time')) :
    Agree seen (DiffersInClocks P Q) (videoHandler r d buf len time marker)
      (videoHandler r (d.setClocks audio video) buf len time' marker) := by
  have hclock : (d.setClocks audio video).videoClock = video := rfl
  have hfrequency : (d.setClocks audio video).videoFrequency = d.videoFrequency := rfl
  unfold videoHandler
  refine agree_emit_bind (hseen.video ..) ?_
  rw [hclock, hfrequency]
  generalize d.videoClock.tick d.videoFrequency time = x at htick ⊢
  generalize video.tick d.videoFrequency time' = y at htick ⊢
  cases htick with
  | none => exact agree_fault _
  | @some x y hstamp =>
      obtain ⟨clock, timestamp⟩ := x
      obtain ⟨clock', timestamp'⟩ := y
      obtain ⟨hvideo, rfl : timestamp = timestamp'⟩ := hstamp
      refine agree_emit_bind rfl ?_
      -- both recorders work on the NAL unit with the clocks they have now
      have hwork := (setClocks_apart audio clock').nalPhase_apart r { d with videoClock := clock }
        buf len timestamp marker
      have hframe := @nalPhase_frame [] r { d with videoClock := clock } buf len timestamp marker
      refine Agree.bind (R := DiffersInClocks P Q) ?_ ?_
      · show Agree seen _ _ (nalPhase r ({ d with videoClock := clock }.setClocks audio clock') buf len
          timestamp marker)
        rw [hwork]
        refine agree_mapValue fun d₁ hd₁ => ?_
        have h := hframe.2 d₁ hd₁
        refine ⟨audio, clock', rfl, ?_, ?_⟩
        · rw [h.audioClock]
          exact haudio
        · rw [h.videoClock]
          exact hvideo
      · rintro d₁ d₂ - ⟨audio', video', rfl, hrelated⟩
        exact agree_pure ⟨audio', video', rfl, hrelated⟩

/-- `audioHandler` on another clock that gives the same tag timestamp. -/
theorem audioHandler_retimed (hseen : IgnoresTimes seen) (r : FileResults) (payload : List Byte)
    (type : AudioType) (hvideo : Q d.videoClock video)
    (htick : SameStamp P (d.audioClock.tick 8 time) (audio.tick 8 time')) :
    Agree seen (DiffersInClocks P Q) (audioHandler r d payload time type)
      (audioHandler r (d.setClocks audio video) payload time' type) := by
  have hclock : (d.setClocks audio video).audioClock = audio := rfl
  unfold audioHandler
  refine agree_emit_bind (hseen.audio ..) ?_
  rw [hclock]
  generalize d.audioClock.tick 8 time = x at htick ⊢
  generalize audio.tick 8 time' = y at htick ⊢
  cases htick with
  | none => exact agree_fault _
  | @some x y hstamp =>
      obtain ⟨clock, timestamp⟩ := x
      obtain ⟨clock', timestamp'⟩ := y
      obtain ⟨haudio, rfl : timestamp = timestamp'⟩ := hstamp
      have hdiffers : DiffersInClocks P Q { d with audioClock := clock }
          { d.setClocks audio video with audioClock := clock' } :=
        ⟨clock', video, rfl, haudio, hvideo⟩
      refine agree_emit_bind rfl ?_
      dsimp only
      split
      · exact (agree_refl (srsFlvWriteTag d.flv .audio timestamp (type.header :: payload)
          r.written)).bind fun _ _ _ _ => agree_pure hdiffers
      · exact agree_pure hdiffers

/-- **Packets that differ in their timestamps only.** -/
structure Retimed (p q : Packet) : Prop where
  len : q.len = p.len
  version : q.version = p.version
  pt : q.pt = p.pt
  marker : q.marker = p.marker
  h264Buf : q.h264Buf = p.h264Buf

/-- A packet is itself with the same timestamp. -/
theorem Retimed.refl (p : Packet) : Retimed p p := ⟨rfl, rfl, rfl, rfl, rfl⟩

variable {p q : Packet}

/-- The payloads have the same length. -/
theorem Retimed.h264Len (h : Retimed p q) : q.h264Len = p.h264Len := by
  rw [Packet.h264Len, Packet.h264Len, h.len]

/-- The payloads are the same. -/
theorem Retimed.payload (h : Retimed p q) : q.payload = p.payload := by
  rw [Packet.payload, Packet.payload, h.h264Buf, h.h264Len]

/-- The checks of `rtpHandler` pass for both or for neither. -/
theorem Retimed.isRtp (h : Retimed p q) : q.isRtp = p.isRtp := by
  rw [Packet.isRtp, Packet.isRtp, h.len, h.version]

/-- The NAL unit that is gathered is apart from the clocks. -/
theorem gathered_retimed (h : Retimed p q) :
    (d.setClocks audio video).gathered q = (d.gathered p).setClocks audio video := by
  unfold RTPDump.gathered startNal
  rw [h.h264Buf, h.h264Len]
  split
  · rfl
  · rfl

/-- The fragments of a NAL unit are gathered alike; the clock counts only where the NAL unit is
complete. -/
theorem nalHandler_retimed (hseen : IgnoresTimes seen) (r : FileResults) (h : Retimed p q)
    (haudio : P d.audioClock audio) (hvideo : Q d.videoClock video)
    (htick : entryTimes .video (nalHandler r d p).trace ≠ [] →
      SameStamp Q (d.videoClock.tick d.videoFrequency p.time)
        (video.tick d.videoFrequency q.time)) :
    Agree seen (DiffersInClocks P Q) (nalHandler r d p)
      (nalHandler r (d.setClocks audio video) q) := by
  -- a whole NAL unit
  by_cases hfua : nalType (p.h264Buf 0) = 28
  swap
  · rw [nalHandler, if_neg hfua, entryTimes_videoHandler] at htick
    rw [nalHandler, nalHandler, h.h264Buf, h.h264Len, h.marker, if_neg hfua, if_neg hfua]
    exact videoHandler_retimed hseen r _ _ _ haudio (htick (List.cons_ne_nil _ _))
  -- a fragment: gathering leaves the clocks alone
  have hsame : (d.gathered p).audioClock = d.audioClock ∧
      (d.gathered p).videoClock = d.videoClock ∧
      (d.gathered p).videoFrequency = d.videoFrequency := by
    obtain ⟨nalData, nalLength, hgathered⟩ := d.gathered_eq p
    rw [hgathered]
    exact ⟨rfl, rfl, rfl⟩
  obtain ⟨hsameAudio, hsameVideo, hsameFrequency⟩ := hsame
  rw [← hsameAudio] at haudio
  rw [← hsameVideo] at hvideo
  have hfua' : nalType (q.h264Buf 0) = 28 := by rwa [h.h264Buf]
  rw [nalHandler_of_fragment hfua] at htick
  rw [nalHandler_of_fragment hfua, nalHandler_of_fragment hfua', gathered_retimed h, h.h264Buf,
    h.marker]
  -- and copies the same bytes
  have hcopy : (d.setClocks audio video).fragmentCopy q = d.fragmentCopy p := by
    unfold RTPDump.fragmentCopy startNal
    rw [h.h264Buf, h.h264Len]
    split <;> rfl
  have hlength : ((d.gathered p).setClocks audio video).nalLength = (d.gathered p).nalLength := rfl
  rw [hcopy, hlength]
  refine agree_emit_bind rfl ?_
  split
  · exact agree_fault _
  next hfits =>
  rw [if_neg hfits] at htick
  split
  -- only the end fragment enters `videoHandler`
  · next hend =>
      rw [if_pos hend, emit_bind] at htick
      have hentered := htick (by
        show entryTimes .video (_ :: (videoHandler ..).trace) ≠ []
        rw [entryTimes, List.filterMap_cons_none rfl, ← entryTimes, entryTimes_videoHandler]
        exact List.cons_ne_nil _ _)
      rw [← hsameVideo, ← hsameFrequency] at hentered
      exact videoHandler_retimed hseen r _ _ _ haudio hentered
  · exact agree_pure ⟨audio, video, rfl, haudio, hvideo⟩

/-! ## A step -/

/-- The opening of the file does not look at the clocks. -/
theorem initFLVHeader_setClocks (r : FileResults) (d : RTPDump) :
    initFLVHeader r (d.setClocks audio video) =
      (initFLVHeader r d).mapValue (·.setClocks audio video) := by
  unfold initFLVHeader
  rw [mapValue_bind]
  congr 1
  funext flv
  split
  · rw [mapValue_bind]
    rfl
  · rfl

/-- The detection looks at neither the clocks nor the timestamp. -/
theorem detectCamera_retimed (r : FileResults) (d : RTPDump) (h : Retimed p q) :
    detectCamera r (d.setClocks audio video) q =
      (detectCamera r d p).mapValue (·.setClocks audio video) := by
  unfold detectCamera
  have hcamera : (d.setClocks audio video).cameraType = d.cameraType := rfl
  rw [hcamera, h.h264Buf]
  split
  · split <;> rfl
  · rfl

/-- Neither does the raw stream. -/
theorem psWrite_retimed (r : FileResults) (d : RTPDump) (h : Retimed p q) :
    psWrite r (d.setClocks audio video) q =
      (psWrite r d p).mapValue (·.setClocks audio video) := by
  unfold psWrite
  have hstream : (d.setClocks audio video).psOutfile = d.psOutfile := rfl
  rw [hstream, h.payload]
  split
  · split <;> rfl
  · rfl

/-- The file is opened alike, and the clock is the same then. -/
theorem h264Handler_retimed (hseen : IgnoresTimes seen) (r : FileResults) (h : Retimed p q)
    (haudio : P d.audioClock audio) (hvideo : Q d.videoClock video)
    (htick : entryTimes .video (h264Handler r d p).trace ≠ [] →
      SameStamp Q (d.videoClock.tick d.videoFrequency p.time)
        (video.tick d.videoFrequency q.time)) :
    Agree seen (DiffersInClocks P Q) (h264Handler r d p)
      (h264Handler r (d.setClocks audio video) q) := by
  have hrest : ∀ d₁ : RTPDump, d₁.audioClock = d.audioClock → d₁.videoClock = d.videoClock →
      d₁.videoFrequency = d.videoFrequency →
      (d₁.flv = true → entryTimes .video (nalHandler r d₁ p).trace ≠ [] →
        entryTimes .video (h264Handler r d p).trace ≠ []) →
      Agree seen (DiffersInClocks P Q)
        (if d₁.flv then nalHandler r d₁ p else pure d₁)
        (if (d₁.setClocks audio video).flv then nalHandler r (d₁.setClocks audio video) q
          else pure (d₁.setClocks audio video)) := by
    intro d₁ hsameAudio hsameVideo hfrequency hentered
    have hopen : (d₁.setClocks audio video).flv = d₁.flv := rfl
    rw [← hsameAudio] at haudio
    rw [← hsameVideo] at hvideo
    rw [hopen]
    split
    · next hflv =>
        refine nalHandler_retimed hseen r h haudio hvideo fun hne => ?_
        rw [hsameVideo, hfrequency]
        exact htick (hentered hflv hne)
    · exact agree_pure ⟨audio, video, rfl, haudio, hvideo⟩
  have hflv : (d.setClocks audio video).flv = d.flv := rfl
  unfold h264Handler at hrest ⊢
  dsimp only at hrest ⊢
  rw [hflv]
  split
  · next hopen =>
      rw [pure_bind, pure_bind]
      refine hrest d rfl rfl rfl fun _ hne => ?_
      rwa [if_pos hopen, pure_bind, if_pos hopen]
  · next hclosed =>
      rw [initFLVHeader_setClocks, bind_mapValue]
      refine (agree_refl _).bind fun d₁ _ hd₁ heq => ?_
      subst heq
      -- opening the file does not touch the clock
      obtain ⟨pre, -, -, hinit⟩ := initFLVHeader_eq r d
      have hvalue := hd₁
      rw [hinit] at hvalue
      have hstate := Except.ok.inj hvalue
      refine hrest d₁ (by rw [← hstate]) (by rw [← hstate]) (by rw [← hstate]) fun hopen hne => ?_
      rw [if_neg hclosed, bind_of_ok hd₁, entryTimes_append]
      rw [if_pos hopen]
      exact List.append_ne_nil_of_right_ne_nil _ hne

/-- A packet of type 96 is taken for the same camera, and goes to the same file. -/
theorem type96_retimed (hseen : IgnoresTimes seen) (r : FileResults) (h : Retimed p q)
    (hrtp : p.isRtp = true) (h96 : p.pt = 96) (haudio : P d.audioClock audio)
    (hvideo : Q d.videoClock video)
    (htick : entryTimes .video (detectCamera r d p >>= fun d =>
        if d.cameraType = .psCamera then psWrite r d p else h264Handler r d p).trace ≠ [] →
      SameStamp Q (d.videoClock.tick d.videoFrequency p.time)
        (video.tick d.videoFrequency q.time)) :
    Agree seen (DiffersInClocks P Q)
      (detectCamera r d p >>= fun d =>
        if d.cameraType = .psCamera then psWrite r d p else h264Handler r d p)
      (detectCamera r (d.setClocks audio video) q >>= fun d =>
        if d.cameraType = .psCamera then psWrite r d q else h264Handler r d q) := by
  -- the detection reads the payload, and leaves the clocks alone
  rw [detectCamera_retimed _ _ h]
  refine Agree.bind (R := fun d₁ d₂ => d₁.audioClock = d.audioClock ∧
    d₁.videoClock = d.videoClock ∧ d₁.videoFrequency = d.videoFrequency ∧
    d₂ = d₁.setClocks audio video) (agree_mapValue fun d₁ hd₁ => ?_) ?_
  · obtain ⟨pre, psOutfile, -, heq⟩ := detectCamera_eq r d hrtp h96
    rw [heq] at hd₁
    obtain rfl := Except.ok.inj hd₁
    exact ⟨rfl, rfl, rfl, rfl⟩
  · rintro d₁ d₂ hd₁ ⟨hsameAudio, hsameVideo, hfrequency, rfl⟩
    have hcamera : (d₁.setClocks audio video).cameraType = d₁.cameraType := rfl
    rw [bind_of_ok hd₁, entryTimes_append] at htick
    rw [← hsameAudio] at haudio
    rw [← hsameVideo] at hvideo
    rw [hcamera]
    split
    -- the raw stream has no timestamps
    · rw [psWrite_retimed _ _ h]
      refine agree_mapValue fun d₂ hd₂ => ?_
      obtain ⟨pre, psOutfile, -, heq⟩ := psWrite_eq r d₁ p
      rw [heq] at hd₂
      obtain rfl := Except.ok.inj hd₂
      exact ⟨audio, video, rfl, haudio, hvideo⟩
    · next hcam =>
        rw [if_neg hcam] at htick
        refine h264Handler_retimed hseen _ h haudio hvideo fun hne => ?_
        rw [hsameVideo, hfrequency]
        exact htick (List.append_ne_nil_of_right_ne_nil _ hne)

/-- **Two recorders on packets that differ in their timestamps**: they agree when a handler that is
entered gets the same tag timestamp. -/
theorem step_retimed (hseen : IgnoresTimes seen) {a b : Arrival} (hresults : b.results = a.results)
    (h : Retimed a.packet b.packet) (haudio : P d.audioClock audio) (hvideo : Q d.videoClock video)
    (htickAudio : entryTimes .audio (d.step a).trace ≠ [] →
      SameStamp P (d.audioClock.tick 8 a.packet.time) (audio.tick 8 b.packet.time))
    (htickVideo : entryTimes .video (d.step a).trace ≠ [] →
      SameStamp Q (d.videoClock.tick d.videoFrequency a.packet.time)
        (video.tick d.videoFrequency b.packet.time)) :
    Agree seen (DiffersInClocks P Q) (d.step a) ((d.setClocks audio video).step b) := by
  unfold RTPDump.step at htickAudio htickVideo ⊢
  rw [hresults]
  -- neither packet is taken
  by_cases hrtp : a.packet.isRtp = true
  swap
  · have hrtp' : ¬ b.packet.isRtp = true := by rwa [h.isRtp]
    rw [rtpHandler_of_not_isRtp _ _ hrtp, rtpHandler_of_not_isRtp _ _ hrtp']
    exact agree_pure ⟨audio, video, rfl, haudio, hvideo⟩
  -- both go the same way
  have hrtp' : b.packet.isRtp = true := by rwa [h.isRtp]
  have hbegin : (d.setClocks audio video).isVideoBegin = d.isVideoBegin := rfl
  rw [rtpHandler_of_isRtp _ _ hrtp] at htickAudio htickVideo ⊢
  rw [rtpHandler_of_isRtp _ _ hrtp', h.pt, h.payload, hbegin]
  split
  · next hpt =>
      rw [if_pos hpt] at htickAudio
      split
      · next hbegun =>
          rw [if_pos hbegun, entryTimes_audioHandler] at htickAudio
          exact audioHandler_retimed hseen _ _ _ hvideo (htickAudio (List.cons_ne_nil _ _))
      · exact agree_pure ⟨audio, video, rfl, haudio, hvideo⟩
  next hpt =>
  rw [if_neg hpt] at htickVideo
  split
  · next h96 =>
      rw [if_pos h96] at htickVideo
      exact type96_retimed hseen _ h hrtp h96 haudio hvideo htickVideo
  next h96 =>
  rw [if_neg h96] at htickVideo
  split
  · next h98 =>
      rw [if_pos h98] at htickVideo
      exact h264Handler_retimed hseen _ h haudio hvideo htickVideo
  · exact agree_pure ⟨audio, video, rfl, haudio, hvideo⟩

end Handlers

end RtpCapture
