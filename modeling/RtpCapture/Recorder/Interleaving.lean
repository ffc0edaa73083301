import RtpCapture.Recorder.Retiming

/-! # Audio and video side by side

One recorder is given the audio and the video packets of a session in any order.

* **`tags`** — what a trace says about the tags of one type.
* **`record_videoTags`** — the video tags are those of the video packets alone.
* **`record_audioTags`** — the audio tags are those of `audioHandler` on the audio packets behind the
  first packet that reached `videoHandler`.
* **`record_media_independent`** — so two interleavings with the same audio packets behind that packet
  give the same tags. -/

namespace RtpCapture

open Traced

/-! ## Tags -/

/-- The event is about a tag of this type: the call that writes it, or the tag in the file. -/
def Event.isTag : TagType → Event → Bool
  | .audio, .flvWriteTag _ .audio _ _ => true
  | .audio, .output (.flvTag .audio _ _) => true
  | .video, .flvWriteTag _ .video _ _ => true
  | .video, .flvWriteSpsPpsTag _ _ _ _ => true
  | .video, .output (.flvTag .video _ _) => true
  | _, _ => false

/-- The event, if it is about a tag of this type. -/
def Event.tag? (type : TagType) (e : Event) : Option Event := if e.isTag type then some e else none

/-- **The tags of a type** in a trace, with their timestamps and data. -/
def tags (type : TagType) (trace : List Event) : List Event := trace.filterMap (Event.tag? type)

/-- A tag of the trace. -/
theorem mem_tags {type : TagType} {trace : List Event} {e : Event} :
    e ∈ tags type trace ↔ e ∈ trace ∧ e.isTag type = true := by
  rw [tags, List.mem_filterMap]
  constructor
  · rintro ⟨e', he', htag⟩
    unfold Event.tag? at htag
    split at htag
    · next hisTag =>
        obtain rfl := Option.some.inj htag
        exact ⟨he', hisTag⟩
    · cases htag
  · rintro ⟨he, hisTag⟩
    exact ⟨e, he, if_pos hisTag⟩

/-- The tags of two parts of a trace. -/
theorem tags_append (type : TagType) (trace trace' : List Event) :
    tags type (trace ++ trace') = tags type trace ++ tags type trace' := List.filterMap_append

/-- A trace without tags. -/
theorem tags_eq_nil {type : TagType} {trace : List Event}
    (h : ∀ e ∈ trace, e.tag? type = none) : tags type trace = [] :=
  List.filterMap_eq_nil_iff.mpr h

/-- Which events are tags does not depend on what the handlers are entered with. -/
theorem tag?_ignoresTimes (type : TagType) : IgnoresTimes (Event.tag? type) where
  video := fun _ _ _ _ _ => by cases type <;> rfl
  audio := fun _ _ _ _ => by cases type <;> rfl

/-- The audio handler writes no video tag. -/
theorem Event.IsAudio.tag?_video {flv : Bool} {e : Event} (h : e.IsAudio flv) :
    e.tag? .video = none := by
  unfold IsAudio at h
  split at h <;> first | rfl | exact h.elim

/-- The opening of files writes no audio tag. -/
theorem Event.IsOpening.tag?_audio {e : Event} (h : e.IsOpening) : e.tag? .audio = none := by
  unfold IsOpening at h
  split at h <;> first | rfl | exact h.elim

/-- Neither does `videoHandler`. -/
theorem Event.IsVideoWork.tag?_audio {e : Event} (h : e.IsVideoWork) : e.tag? .audio = none := by
  unfold IsVideoWork at h
  split at h <;> first | rfl | exact h.elim

/-! ## The packets of one medium -/

/-- Only the audio packets of a list of arrivals. -/
def audioArrivals (as : List Arrival) : List Arrival := as.filter fun a => a.packet.isAudio

/-- **The packets up to the first one that reaches `videoHandler`**, and the packets behind it. -/
def RTPDump.splitAtBegin : RTPDump → List Arrival → List Arrival × List Arrival
  | _, [] => ([], [])
  | d, a :: as =>
      if calls (d.step a).trace ≠ [] then ([a], as)
      else
        match (d.step a).outcome with
        | .ok d' => (a :: (d'.splitAtBegin as).1, (d'.splitAtBegin as).2)
        | .error _ => (a :: as, [])

/-- The two parts are the packets. -/
theorem RTPDump.splitAtBegin_append (d : RTPDump) (as : List Arrival) :
    (d.splitAtBegin as).1 ++ (d.splitAtBegin as).2 = as := by
  induction as generalizing d with
  | nil => rfl
  | cons a as ih =>
      rw [splitAtBegin]
      split
      · rfl
      · split
        · next d' hd' => exact congrArg (List.cons a) (ih d')
        · exact List.append_nil _

/-- `audioHandler` on the packet of an arrival. -/
def audioStep (d : RTPDump) (a : Arrival) : Recording RTPDump :=
  audioHandler a.results d a.packet.payload a.packet.time
    (if a.packet.pt = 0 then .uLaw else .aLaw)

/-- A packet that is neither audio nor video is dropped. -/
theorem step_of_ignored {d : RTPDump} {a : Arrival} (hvideo : a.packet.isVideo = false)
    (haudio : a.packet.isAudio = true → d.isVideoBegin = 0) : d.step a = pure d := by
  unfold RTPDump.step
  by_cases hrtp : a.packet.isRtp = true
  swap
  · exact rtpHandler_of_not_isRtp _ _ hrtp
  rw [rtpHandler_of_isRtp _ _ hrtp]
  split
  · next hpt => rw [if_neg (not_not.mpr (haudio (decide_eq_true ⟨hrtp, hpt⟩)))]
  · have hne : ¬ (a.packet.pt = 96 ∨ a.packet.pt = 98) := fun hpt => by
      rw [Packet.isVideo, decide_eq_true ⟨hrtp, hpt⟩] at hvideo
      cases hvideo
    rw [if_neg fun h => hne (.inl h), if_neg fun h => hne (.inr h)]

/-- An audio packet behind the first NAL unit goes to `audioHandler`. -/
theorem step_of_isAudio {d : RTPDump} {a : Arrival} (haudio : a.packet.isAudio = true)
    (hbegin : d.isVideoBegin ≠ 0) : d.step a = audioStep d a := by
  have h := haudio
  rw [Packet.isAudio, decide_eq_true_eq] at h
  unfold RTPDump.step
  rw [rtpHandler_of_isRtp _ _ h.1, if_pos h.2, if_pos hbegin]
  rfl

/-- A video packet is no audio packet. -/
theorem Packet.not_isAudio_of_isVideo {p : Packet} (h : p.isVideo = true) : p.isAudio = false := by
  rw [isVideo, decide_eq_true_eq] at h
  rw [← Bool.not_eq_true]
  exact fun haudio => Packet.isAudio_ne haudio h

/-! ## The video tags -/

/-- A recorder, and the one that has not seen the audio packets: its audio clock is another one. -/
def WithoutAudio (clock : Clock) (d₁ d₂ : RTPDump) : Prop := d₂ = d₁.mapClocks (fun _ => clock) id

/-- On a video packet the two write the same video tags. -/
theorem WithoutAudio.step {clock : Clock} {d₁ d₂ : RTPDump} {a : Arrival}
    (h : WithoutAudio clock d₁ d₂) (hvideo : a.packet.isVideo = true) :
    Agree (Event.tag? .video) (WithoutAudio clock) (d₁.step a) (d₂.step a) := by
  obtain rfl := h
  refine (step_retimed (P := fun _ audio => audio = clock) (Q := Eq) (tag?_ignoresTimes .video) rfl
    (.refl a.packet) rfl rfl (fun haudio => ?_) fun _ => sameStamp_refl _).imp ?_
  · rcases entryTimes_step .audio d₁ a with hnone | ⟨-, hisAudio⟩
    · exact absurd hnone haudio
    · rw [Packet.isOf, Packet.not_isAudio_of_isVideo hvideo] at hisAudio
      cases hisAudio
  · rintro d₁' d₂' - ⟨audio, video, rfl, rfl, rfl⟩
    rfl

/-- On any other packet the one that sees it writes no video tag, and only its audio clock moves. -/
theorem WithoutAudio.skip {clock : Clock} {d₁ d₂ d₁' : RTPDump} {a : Arrival}
    (h : WithoutAudio clock d₁ d₂) (hvideo : a.packet.isVideo = false)
    (hstep : (d₁.step a).outcome = .ok d₁') :
    WithoutAudio clock d₁' d₂ ∧ (d₁.step a).trace.filterMap (Event.tag? .video) = [] := by
  obtain rfl := h
  by_cases haudio : a.packet.isAudio = true ∧ d₁.isVideoBegin ≠ 0
  · rw [step_of_isAudio haudio.1 haudio.2, audioStep] at hstep ⊢
    obtain ⟨hevents, hpost⟩ := audioHandler_ensures a.results d₁ a.packet.payload a.packet.time
      (if a.packet.pt = 0 then .uLaw else .aLaw)
    obtain ⟨clock', rfl⟩ := hpost d₁' hstep
    exact ⟨rfl, List.filterMap_eq_nil_iff.mpr fun e he => (hevents.forall_mem e he).tag?_video⟩
  · rw [step_of_ignored hvideo fun h => by_contra fun hbegin => haudio ⟨h, hbegin⟩] at hstep ⊢
    obtain rfl := Except.ok.inj hstep
    exact ⟨rfl, rfl⟩

/-- **Audio packets do not show in the video tags**: a recording that returns has the video tags of
the recording of its video packets alone, and that one returns too. -/
theorem record_videoTags {d d' : RTPDump} {as : List Arrival}
    (hreturns : (d.record as).outcome = .ok d') :
    (∃ d'', (d.record (videoArrivals as)).outcome = .ok d'') ∧
      tags .video (d.record as).trace = tags .video (d.record (videoArrivals as)).trace := by
  -- the run without audio keeps the audio clock it started with
  have hinit : WithoutAudio d.audioClock d d := rfl
  obtain ⟨⟨d'', hd'', -⟩, htags⟩ := run_filter (fun _ _ _ h => h.step)
    (fun _ _ _ _ h => h.skip) hinit hreturns
  exact ⟨⟨d'', hd''⟩, htags⟩

/-- A packet that is no video packet never stops the recording. -/
theorem step_returns_of_not_isVideo {history : List Event} {d : RTPDump} {a : Arrival}
    (h : Simulates history d) (hvideo : a.packet.isVideo = false) :
    ∃ d', (d.step a).outcome = .ok d' := by
  by_cases haudio : a.packet.isAudio = true ∧ d.isVideoBegin ≠ 0
  · rw [step_of_isAudio haudio.1 haudio.2]
    -- the flag is set by a call, and there are calls only once the file is open
    have hcalls : calls history ≠ [] := by
      intro hnil
      exact haudio.2 (by rw [h.begun, if_pos hnil])
    exact audioHandler_returns (h.flv hcalls) _ _ _ _
  · rw [step_of_ignored hvideo fun h => by_contra fun hbegin => haudio ⟨h, hbegin⟩]
    exact ⟨d, rfl⟩

/-- **Audio packets never stop a recording** that returns on its video packets. -/
theorem record_returns_of_video {history : List Event} {d d' : RTPDump} {as : List Arrival}
    (hsim : Simulates history d) (hreturns : (d.record (videoArrivals as)).outcome = .ok d') :
    ∃ d'', (d.record as).outcome = .ok d'' := by
  have hkeep : ∀ (d₁ d₂ : RTPDump) (a : Arrival),
      ((∃ past, Simulates past d₁) ∧ WithoutAudio d.audioClock d₁ d₂) → a.packet.isVideo = true →
      Agree (Event.tag? .video)
        (fun d₁ d₂ => (∃ past, Simulates past d₁) ∧ WithoutAudio d.audioClock d₁ d₂)
        (d₁.step a) (d₂.step a) := by
    rintro d₁ d₂ a ⟨⟨past, hpast⟩, h⟩ hvideo
    exact (h.step hvideo).imp fun d₁' _ hd₁' h' => ⟨⟨_, (step_simulates hpast a).2 d₁' hd₁'⟩, h'⟩
  refine returns_of_run_filter hkeep (fun d₁ d₂ a h hvideo => ?_) ⟨⟨history, hsim⟩, rfl⟩ hreturns
  · obtain ⟨⟨past, hpast⟩, h⟩ := h
    obtain ⟨d₁', hd₁'⟩ := step_returns_of_not_isVideo hpast hvideo
    exact ⟨d₁', hd₁', ⟨_, (step_simulates hpast a).2 d₁' hd₁'⟩, (h.skip hvideo hd₁').1⟩

/-! ## The audio tags -/

/-- The H.264 part leaves the audio clock alone and writes no audio tag. -/
theorem nalHandler_noAudio (r : FileResults) (d : RTPDump) (p : Packet) :
    Ensures (fun _ e => e.tag? .audio = none) [] (nalHandler r d p)
      fun _ d' => d'.audioClock = d.audioClock := by
  obtain ⟨hevents, hframe⟩ := nalHandler_frame r d p []
  refine ⟨hevents.imp fun _ e he => ?_, fun d' hd' => (hframe d' hd').audioClock⟩
  cases e with
  | nalDataCopy | videoHandler => rfl
  | _ => exact Event.IsVideoWork.tag?_audio he

/-- **A packet that is not for `audioHandler`** leaves the audio clock alone and writes no audio
tag. -/
theorem step_noAudio {d d' : RTPDump} {a : Arrival}
    (haudio : a.packet.isAudio = true → d.isVideoBegin = 0) (hstep : (d.step a).outcome = .ok d') :
    d'.audioClock = d.audioClock ∧ tags .audio (d.step a).trace = [] := by
  rcases step_cases d a with ⟨hisAudio, hbegin, -⟩ | ⟨pre, d₁, hprelude, -, heq⟩
  · exact absurd (haudio hisAudio) hbegin
  obtain ⟨psOutfile, hd₁⟩ := hprelude.state
  have hclock : d₁.audioClock = d.audioClock := by rw [hd₁]
  have hpre : ∀ e ∈ pre, e.tag? .audio = none := fun e he => (hprelude.events e he).tag?_audio
  rw [heq] at hstep ⊢
  split at hstep
  · next hreaches =>
      obtain ⟨hevents, hpost⟩ := nalHandler_noAudio a.results d₁ a.packet
      rw [if_pos hreaches]
      refine ⟨(hpost d' hstep).trans hclock, tags_eq_nil fun e he => ?_⟩
      rcases List.mem_append.mp he with he | he
      · exact hpre e he
      · exact hevents.forall_mem e he
  · next hreaches =>
      obtain rfl := Except.ok.inj hstep
      rw [if_neg hreaches]
      exact ⟨hclock, tags_eq_nil hpre⟩

/-- A recorder that has entered `videoHandler`, and one that stands in for it on audio packets. -/
structure Begun (d d₂ : RTPDump) : Prop where
  simulates : ∃ history, Simulates history d ∧ calls history ≠ []
  flv : d₂.flv = true
  audioClock : d₂.audioClock = d.audioClock

/-- Behind the first NAL unit the audio tags are those of `audioHandler` on the audio packets. -/
theorem Begun.audioTags {d d₂ d' : RTPDump} {as : List Arrival} (h : Begun d d₂)
    (hreturns : (d.record as).outcome = .ok d') :
    tags .audio (d.record as).trace =
      tags .audio (Traced.run audioStep d₂ (audioArrivals as)).trace := by
  have hopen : ∀ {d₁ d₂ : RTPDump}, Begun d₁ d₂ → d₁.isVideoBegin ≠ 0 ∧ d₁.flv = true := by
    rintro d₁ d₂ ⟨⟨history, hsim, hcalls⟩, -, -⟩
    refine ⟨?_, hsim.flv hcalls⟩
    rw [hsim.begun, if_neg hcalls]
    exact one_ne_zero
  have hnext : ∀ {d₁ d₂ d₁' : RTPDump} {a : Arrival}, Begun d₁ d₂ →
      (d₁.step a).outcome = .ok d₁' → ∃ history, Simulates history d₁' ∧ calls history ≠ [] := by
    rintro d₁ d₂ d₁' a ⟨⟨history, hsim, hcalls⟩, -, -⟩ hstep
    refine ⟨_, (step_simulates hsim a).2 d₁' hstep, ?_⟩
    rw [calls_append]
    exact fun hnil => hcalls (List.append_eq_nil_iff.mp hnil).1
  -- an audio packet is one step of both runs
  have hkeep : ∀ (d₁ d₂ : RTPDump) (a : Arrival), Begun d₁ d₂ → a.packet.isAudio = true →
      Agree (Event.tag? .audio) Begun (d₁.step a) (audioStep d₂ a) := by
    intro d₁ d₂ a hbegun haudio
    obtain ⟨hbegin, hflv⟩ := hopen hbegun
    have hnext' : ∀ d₁', (d₁.step a).outcome = .ok d₁' →
        ∃ history, Simulates history d₁' ∧ calls history ≠ [] := fun _ => hnext hbegun
    rw [step_of_isAudio haudio hbegin] at hnext' ⊢
    have hagree : Agree (Event.tag? .audio)
        (fun d₁' d₂' : RTPDump => d₂'.audioClock = d₁'.audioClock ∧ d₂'.flv = true)
        (audioStep d₁ a) (audioStep d₂ a) := by
      unfold audioStep audioHandler
      rw [hbegun.audioClock, hbegun.flv, hflv]
      refine agree_emit_bind rfl ?_
      split
      · exact agree_fault _
      · refine agree_emit_bind rfl ?_
        split
        · exact (agree_refl _).bind fun _ _ _ _ => agree_pure ⟨rfl, rfl⟩
        · exact agree_pure ⟨rfl, rfl⟩
    exact hagree.imp fun d₁' d₂' hd₁' h => ⟨hnext' d₁' hd₁', h.2, h.1⟩
  -- a video packet leaves the clock of the audio alone
  have hdrop : ∀ (d₁ d₂ : RTPDump) (a : Arrival) (d₁' : RTPDump), Begun d₁ d₂ →
      a.packet.isAudio = false → (d₁.step a).outcome = .ok d₁' →
      Begun d₁' d₂ ∧ (d₁.step a).trace.filterMap (Event.tag? .audio) = [] := by
    intro d₁ d₂ a d₁' hbegun haudio hstep
    obtain ⟨hclock, hsilent⟩ := step_noAudio (fun h => by rw [haudio] at h; cases h) hstep
    exact ⟨⟨hnext hbegun hstep, hbegun.flv, hbegun.audioClock.trans hclock.symm⟩, hsilent⟩
  exact (run_filter hkeep hdrop h hreturns).2

/-- **The audio tags of a recording** that returns are those of `audioHandler` on the audio packets
behind the first packet that reached `videoHandler`. -/
theorem record_audioTags {history : List Event} {d d₂ d' : RTPDump} {as : List Arrival}
    (hsim : Simulates history d) (hcalls : calls history = []) (hflv : d₂.flv = true)
    (hclock : d₂.audioClock = d.audioClock) (hreturns : (d.record as).outcome = .ok d') :
    tags .audio (d.record as).trace =
      tags .audio (Traced.run audioStep d₂ (audioArrivals (d.splitAtBegin as).2)).trace := by
  -- induction on the packets, up to the first that hands on a NAL unit
  induction as generalizing history d with
  | nil => rfl
  | cons a as ih =>
      rw [RTPDump.record, run_cons] at hreturns
      obtain ⟨d₁, hstep, hrest, htrace⟩ := bind_eq_ok hreturns
      -- no audio is written before the video begins
      have hbegin : d.isVideoBegin = 0 := by rw [hsim.begun, if_pos hcalls]
      obtain ⟨hclock₁, hsilent⟩ := step_noAudio (fun _ => hbegin) hstep
      have hsim₁ := (step_simulates hsim a).2 d₁ hstep
      have hcalls₁ : calls (history ++ (d.step a).trace) = calls (d.step a).trace := by
        rw [calls_append, hcalls, List.nil_append]
      have htags : tags .audio (d.record (a :: as)).trace = tags .audio (d₁.record as).trace := by
        rw [RTPDump.record, run_cons, htrace, tags_append, hsilent, List.nil_append]
        rfl
      rw [htags, RTPDump.splitAtBegin]
      by_cases hreached : calls (d.step a).trace = []
      · rw [if_neg (not_not.mpr hreached), hstep]
        exact ih hsim₁ (hcalls₁.trans hreached) (hclock.trans hclock₁.symm) hrest
      · rw [if_pos hreached]
        exact Begun.audioTags ⟨⟨_, hsim₁, by rwa [hcalls₁]⟩, hflv, hclock.trans hclock₁.symm⟩ hrest

/-- The data of an audio tag: the format byte and the payload. -/
def audioTagData (p : Packet) : List Byte := (if p.pt = 0 then 0x82 else 0x72) :: p.payload

/-- An audio tag of a packet, as a call or in the file. -/
def Event.IsAudioTagOf (p : Packet) (e : Event) : Prop :=
  ∃ timestamp, e = .flvWriteTag true .audio timestamp (audioTagData p) ∨
    e = .output (.flvTag .audio timestamp (audioTagData p))

/-- `audioHandler` writes the format byte and the payload. -/
theorem audioStep_tags {d : RTPDump} (hflv : d.flv = true) (a : Arrival) :
    Ensures (fun _ e => e.isTag .audio = true → e.IsAudioTagOf a.packet) [] (audioStep d a)
      fun _ d' => d'.flv = true := by
  have hdata : (if a.packet.pt = 0 then AudioType.uLaw else .aLaw).header :: a.packet.payload =
      audioTagData a.packet := by
    unfold audioTagData
    split <;> rfl
  unfold audioStep
  generalize (if a.packet.pt = 0 then AudioType.uLaw else .aLaw) = type at hdata
  unfold audioHandler
  rw [hdata]
  refine ensures_emit_bind nofun ?_
  cases d.audioClock.tick 8 a.packet.time with
  | none => exact ensures_fault _
  | some result =>
      obtain ⟨clock, timestamp⟩ := result
      refine ensures_emit_bind nofun ?_
      dsimp only
      split
      · refine Ensures.bind (Q := fun _ _ => True) ?_ fun _ _ _ => ensures_pure hflv
        refine (srsFlvWriteTag_ensures (fun _ => ⟨timestamp, .inl (by rw [hflv])⟩)
          fun _ _ _ => ⟨timestamp, .inr rfl⟩).imp fun _ _ _ => trivial
      · exact ensures_pure hflv

/-- Every audio tag is that of one of the packets. -/
theorem audioTags_of_run {d : RTPDump} (hflv : d.flv = true) (as : List Arrival) {e : Event}
    (he : e ∈ tags .audio (Traced.run audioStep d as).trace) :
    ∃ a ∈ as, e.IsAudioTagOf a.packet := by
  induction as generalizing d with
  | nil => cases he
  | cons a as ih =>
      obtain ⟨hmem, hisTag⟩ := mem_tags.mp he
      obtain ⟨hevents, hopen⟩ := audioStep_tags hflv a
      rw [run_cons] at hmem
      cases hstep : (audioStep d a).outcome with
      | error f =>
          rw [bind_of_error hstep] at hmem
          exact ⟨a, List.mem_cons_self, hevents.forall_mem e hmem hisTag⟩
      | ok d' =>
          rw [bind_of_ok hstep] at hmem
          rcases List.mem_append.mp hmem with hmem | hmem
          · exact ⟨a, List.mem_cons_self, hevents.forall_mem e hmem hisTag⟩
          · obtain ⟨b, hb, htag⟩ := ih (hopen d' hstep) (mem_tags.mpr ⟨hmem, hisTag⟩)
            exact ⟨b, List.mem_cons_of_mem a hb, htag⟩

/-! ## Both media -/

/-- What follows the audio packets in front of the first call is determined by all audio packets. -/
theorem audioArrivals_splitAtBegin (d : RTPDump) (as : List Arrival) :
    audioArrivals (d.splitAtBegin as).1 ++ audioArrivals (d.splitAtBegin as).2 =
      audioArrivals as := by
  rw [audioArrivals, audioArrivals, ← List.filter_append, d.splitAtBegin_append]
  rfl

/-- The recorder with an open FLV context. -/
def RTPDump.withFlv (d : RTPDump) : RTPDump := { d with flv := true }

/-- **Audio and video do not disturb each other.** In a recording that returns, the video tags are
those of the recording of the video packets; the audio tags are those of `audioHandler` on the audio
packets behind the first packet that reached `videoHandler`, each made of the format byte and the
payload of one of them. So any other interleaving with the same audio packets in front of that packet
returns too, with the same tags. -/
theorem record_media_independent (fileName : String) (videoFrequency : Word) (u : Uninitialised)
    (as : List Arrival)
    (hreturns : ∃ d, ((RTPDump.construct fileName videoFrequency u).record as).outcome = .ok d) :
    tags .video ((RTPDump.construct fileName videoFrequency u).record as).trace =
        tags .video
          ((RTPDump.construct fileName videoFrequency u).record (videoArrivals as)).trace ∧
      tags .audio ((RTPDump.construct fileName videoFrequency u).record as).trace =
        tags .audio (Traced.run audioStep (RTPDump.construct fileName videoFrequency u).withFlv
          (audioArrivals
            ((RTPDump.construct fileName videoFrequency u).splitAtBegin as).2)).trace ∧
      (∀ e ∈ tags .audio ((RTPDump.construct fileName videoFrequency u).record as).trace,
        ∃ a ∈ audioArrivals ((RTPDump.construct fileName videoFrequency u).splitAtBegin as).2,
          e.IsAudioTagOf a.packet) ∧
      ∀ bs, videoArrivals bs = videoArrivals as → audioArrivals bs = audioArrivals as →
        audioArrivals ((RTPDump.construct fileName videoFrequency u).splitAtBegin bs).1 =
          audioArrivals ((RTPDump.construct fileName videoFrequency u).splitAtBegin as).1 →
        (∃ d, ((RTPDump.construct fileName videoFrequency u).record bs).outcome = .ok d) ∧
        ∀ type, tags type ((RTPDump.construct fileName videoFrequency u).record bs).trace =
          tags type ((RTPDump.construct fileName videoFrequency u).record as).trace := by
  have hsim := (record_simulates fileName videoFrequency u []).2 _ rfl
  have hflv : (RTPDump.construct fileName videoFrequency u).withFlv.flv = true := rfl
  obtain ⟨d', hd'⟩ := hreturns
  obtain ⟨⟨dv, hdv⟩, hvideo⟩ := record_videoTags hd'
  have haudio := record_audioTags hsim rfl hflv rfl hd'
  refine ⟨hvideo, haudio, fun e he => ?_, fun bs hvideos haudios hbefore => ?_⟩
  · rw [haudio] at he
    exact audioTags_of_run rfl _ he
  -- the other interleaving returns as the recording of the video packets does
  rw [← hvideos] at hdv
  obtain ⟨d'', hd''⟩ := record_returns_of_video hsim hdv
  refine ⟨⟨d'', hd''⟩, fun type => ?_⟩
  cases type with
  | video => rw [(record_videoTags hd'').2, hvideos, ← hvideo]
  | audio =>
      have hbehind := (audioArrivals_splitAtBegin (.construct fileName videoFrequency u) bs).trans
        (haudios.trans (audioArrivals_splitAtBegin (.construct fileName videoFrequency u) as).symm)
      rw [hbefore, List.append_cancel_left_eq] at hbehind
      rw [record_audioTags hsim rfl hflv rfl hd'', hbehind, ← haudio]

/-- Sound in front of the first parameter set, which is dropped, and behind it, between the packets
of two pictures. -/
def sampleMedia : List Arrival :=
  [.ofPayload false 8 1 [0xd5], .ofPayload false 98 1 [0x67, 0x42, 0x00, 0x1e],
    .ofPayload false 98 1 [0x68, 0xce], .ofPayload false 8 1 [0xd5], .ofPayload false 98 1 [0x65, 1],
    .ofPayload true 98 1 [0x65, 2], .ofPayload false 8 801 [0xd6], .ofPayload true 98 9001 [0x61, 3]]

/-- The same packets of both media in another order. -/
def sampleMedia' : List Arrival :=
  [.ofPayload false 8 1 [0xd5], .ofPayload false 98 1 [0x67, 0x42, 0x00, 0x1e],
    .ofPayload false 8 1 [0xd5], .ofPayload false 8 801 [0xd6], .ofPayload false 98 1 [0x68, 0xce],
    .ofPayload false 98 1 [0x65, 1], .ofPayload true 98 1 [0x65, 2], .ofPayload true 98 9001 [0x61, 3]]

/-- Both orders write the same tags: the sequence header and two pictures, and one of sound. -/
theorem record_media_independent_sample :
    (∀ type, tags type ((RTPDump.construct "camera.flv" 90000 .zero).record sampleMedia').trace =
        tags type ((RTPDump.construct "camera.flv" 90000 .zero).record sampleMedia).trace) ∧
      (tags .video ((RTPDump.construct "camera.flv" 90000 .zero).record sampleMedia).trace).length =
        6 ∧
      tags .audio ((RTPDump.construct "camera.flv" 90000 .zero).record sampleMedia).trace =
        [.flvWriteTag true .audio 100 [0x72, 0xd6], .output (.flvTag .audio 100 [0x72, 0xd6])] := by
  have hreturns : ∃ d, ((RTPDump.construct "camera.flv" 90000 .zero).record sampleMedia).outcome =
      .ok d ∧ d.flv = true := by decide +kernel
  obtain ⟨d, hd, -⟩ := hreturns
  -- the first packet is dropped, and the second is the first that reaches `videoHandler`
  have hdropped : (RTPDump.construct "camera.flv" 90000 .zero).step (.ofPayload false 8 1 [0xd5]) =
      pure (.construct "camera.flv" 90000 .zero) := step_of_ignored (by decide) fun _ => rfl
  have hreached : calls ((RTPDump.construct "camera.flv" 90000 .zero).step
      (.ofPayload false 98 1 [0x67, 0x42, 0x00, 0x1e])).trace ≠ [] := by decide +kernel
  have hsplit : ∀ as, ((RTPDump.construct "camera.flv" 90000 .zero).splitAtBegin
      (.ofPayload false 8 1 [0xd5] :: .ofPayload false 98 1 [0x67, 0x42, 0x00, 0x1e] :: as)).1 =
        [.ofPayload false 8 1 [0xd5], .ofPayload false 98 1 [0x67, 0x42, 0x00, 0x1e]] := by
    intro as
    rw [RTPDump.splitAtBegin, hdropped, trace_pure, outcome_pure, calls_nil, if_neg fun h => h rfl]
    dsimp only
    rw [RTPDump.splitAtBegin, if_pos hreached]
  refine ⟨((record_media_independent "camera.flv" 90000 .zero sampleMedia ⟨d, hd⟩).2.2.2 sampleMedia'
    rfl rfl ?_).2, by decide +kernel, by decide +kernel⟩
  rw [sampleMedia, sampleMedia', hsplit, hsplit]

end RtpCapture
