import RtpCapture.Recorder.WriteFailures
import RtpCapture.Recorder.PacketBytes
import RtpCapture.Flv.ReadBack

/-! # The file of a recording

The events of a recorder say which header and which tags reach its file; `fileBytes` are the bytes of
the file, and `writeTag_stores` and its siblings connect them with the calls of the FLV library.

* **`Filing`** — the header comes first, and every tag is one that a file can hold.
* **`record_files`** — so it is in every recording of packets that fit a block.
* **`readFile_of_filing`** — of such a file, cut off anywhere, a player reads the first tags, if the
  header was written, and none if it was not.
* **`record_reads_back`** — a player reads every tag of a recording back, in order and unchanged. -/

namespace RtpCapture

open Records Traced

/-! ## The bytes of the file -/

/-- `SRS_RTMP_TYPE_AUDIO` and `SRS_RTMP_TYPE_VIDEO`. -/
def TagType.code : TagType → Byte
  | .audio => srsCodecFlvTagAudio
  | .video => srsCodecFlvTagVideo

/-- The tag that `srs_flv_write_tag` writes for an output: its time has 31 bits. -/
def Output.tag? : Output → Option FlvTag
  | .flvTag type timestamp data => some (FlvTag.ofCall type.code timestamp data)
  | _ => none

/-- The bytes of an output. -/
def Output.bytes : Output → List Byte
  | .flvHeader header => header ++ [0x00, 0x00, 0x00, 0x00]
  | .flvTag type timestamp data => (FlvTag.ofCall type.code timestamp data).encode
  | .raw data => data

/-- **The bytes of the FLV file.** -/
def fileBytes (content : List Output) : List Byte := content.flatMap Output.bytes

/-- **The tags of the FLV file.** -/
def fileTags (content : List Output) : List FlvTag := content.filterMap Output.tag?

/-- A content of tags is the stream of them. -/
theorem fileBytes_of_tags {content : List Output} (h : ∀ o ∈ content, ∃ t, o.tag? = some t) :
    fileBytes content = stream FlvTag.encode (fileTags content) := by
  induction content with
  | nil => rfl
  | cons o content ih =>
      obtain ⟨t, ht⟩ := h o List.mem_cons_self
      have hrest := ih fun o' ho' => h o' (List.mem_cons_of_mem o ho')
      have htags : fileTags (o :: content) = t :: fileTags content := List.filterMap_cons_some ht
      rw [fileBytes, List.flatMap_cons, ← fileBytes, hrest, htags, stream_cons]
      cases o with
      | flvTag type timestamp data =>
          obtain rfl := Option.some.inj ht
          rfl
      | _ => cases ht

/-! ## The calls of the library -/

section Calls

variable {disk : Disk} {w : SrsFileWriter}

/-- **`srs_flv_write_tag`** puts into the file what the event says, when its writes are complete and
when the first of them fails. -/
theorem writeTag_stores (hopen : w.isOpen = true) (type : TagType) (timestamp : Word)
    (data : List Byte) {written : Bool}
    (hwhole : written = true → SrsFileWriter.Whole disk w.writes
      (FlvTag.ofCall type.code timestamp data).parts)
    (hnone : written = false → disk w.writes srsFlvTagHeaderSize = none) :
    (after (FlvContext.writeTag disk type.code timestamp data w)).content = w.content ++
      fileBytes (flvContent (srsFlvWriteTag true type timestamp data written).trace) := by
  cases written with
  | true =>
      have hcall := FlvContext.content_of_whole (t := ⟨type.code, timestamp, data⟩) hopen
        (hwhole rfl)
      exact hcall.1.trans (congrArg _ (List.append_nil _).symm)
  | false =>
      have hcall := FlvContext.content_of_none (t := ⟨type.code, timestamp, data⟩) hopen (hnone rfl)
      exact hcall.1.trans (List.append_nil _).symm

/-- **`srs_flv_write_sps_pps_tag`** puts into the file what the event says, when it gets to writing
and its writes are complete. -/
theorem writeSpsPpsTag_stores (hopen : w.isOpen = true) (timestamp : Word) {sps pps : Memory}
    {spsSize ppsSize : ℕ} (hsps : 4 ≤ spsSize) (hpps : ppsSize ≠ 0)
    (hfits : spsSize + ppsSize + 16 ≤ spsPpsTagDataSize)
    (hwhole : SrsFileWriter.Whole disk w.writes (FlvTag.ofCall srsCodecFlvTagVideo timestamp
      ([0x17, 0x00, 0x00, 0x00, 0x00] ++
        avcDecoderConfiguration (sps.read 0 spsSize) (pps.read 0 ppsSize))).parts) :
    (after (FlvContext.writeSpsPpsTag disk timestamp (sps.read 0 spsSize) (pps.read 0 ppsSize)
        w)).content = w.content ++
      fileBytes (flvContent
        (srsFlvWriteSpsPpsTag true timestamp sps spsSize pps ppsSize true).trace) := by
  have hlength : (avcDecoderConfiguration (sps.read 0 spsSize) (pps.read 0 ppsSize)).length =
      spsSize + ppsSize + 11 := by
    simp only [avcDecoderConfiguration, bigEndian16, List.length_append, List.length_cons,
      List.length_nil, Memory.length_read]
    omega
  have hevents : (srsFlvWriteSpsPpsTag true timestamp sps spsSize pps ppsSize true).trace =
      [.flvWriteSpsPpsTag true timestamp (sps.read 0 spsSize) (pps.read 0 ppsSize),
        .output (.flvTag .video timestamp ([0x17, 0x00, 0x00, 0x00, 0x00] ++
          avcDecoderConfiguration (sps.read 0 spsSize) (pps.read 0 ppsSize)))] := by
    have hsize : ¬ ((spsSize : ℤ) < 0 ∨ (ppsSize : ℤ) < 0) := by omega
    simp only [srsFlvWriteSpsPpsTag, muxSequenceHeader, Int.toNat_natCast, Memory.length_read]
    rw [if_neg (by simp), if_neg hsize, if_neg (Nat.not_lt.mpr hsps), if_neg hpps, pure_bind,
      if_neg (by rw [hlength]; omega), if_pos trivial]
    rfl
  have hcall := FlvContext.content_of_whole
    (t := ⟨srsCodecFlvTagVideo, timestamp, [0x17, 0x00, 0x00, 0x00, 0x00] ++
      avcDecoderConfiguration (sps.read 0 spsSize) (pps.read 0 ppsSize)⟩) hopen hwhole
  rw [FlvContext.writeSpsPpsTag_eq disk timestamp hopen (by rw [Memory.length_read]; exact hsps)
    (by rw [Memory.length_read]; exact hpps) (by rw [hlength]; omega),
    ← FlvContext.writeTag_eq disk srsCodecFlvTagVideo timestamp _ hopen, hcall.1, hevents]
  exact congrArg _ (List.append_nil _).symm

/-- **`srs_flv_write_header`** puts into the file what the event says, when its writes are complete
and when the first of them fails. -/
theorem writeHeader_stores (hopen : w.isOpen = true) (header : List Byte) {written : Bool}
    (hwhole : written = true →
      SrsFileWriter.Whole disk w.writes [header, [0x00, 0x00, 0x00, 0x00]])
    (hnone : written = false → disk w.writes header.length = none) :
    (after (FlvContext.writeHeader disk header w)).content = w.content ++
      fileBytes (flvContent (srsFlvWriteHeader true header written).trace) := by
  rw [FlvContext.writeHeader_eq disk header hopen, FlvContext.after_writev]
  cases written with
  | true =>
      rw [SrsFileWriter.writev_whole (hwhole rfl)]
      change w.content ++ (header ++ ([0x00, 0x00, 0x00, 0x00] ++ [])) =
        w.content ++ (header ++ [0x00, 0x00, 0x00, 0x00] ++ [])
      rw [List.append_nil, List.append_nil]
  | false =>
      rw [SrsFileWriter.writev_nothing _ (hnone rfl)]
      exact (List.append_nil _).symm

end Calls

/-! ## What a recorder files -/

/-- A tag that a file can hold. -/
def Output.Fits (o : Output) : Prop := ∃ t, o.tag? = some t ∧ FlvContext.Storable t

/-- **What an event may put into the file**: the header, if nothing is in it, or a tag that fits. -/
def Filing (past : List Event) (e : Event) : Prop :=
  ∀ o, e.flvOutput? = some o →
    (o = .flvHeader flvHeaderBytes ∧ flvContent past = []) ∨ o.Fits

/-- What an event of the H.264 part puts into the file fits. -/
def Event.Fitting (e : Event) : Prop := ∀ o, e.flvOutput? = some o → o.Fits

/-- A file that is not open is empty. -/
def Unopened (history : List Event) (d : RTPDump) : Prop :=
  d.flv = false → flvContent history = []

/-- The data of a tag fits when it is not empty and its length has three bytes. -/
theorem fits_flvTag (type : TagType) (timestamp : Word) {data : List Byte} (hne : data ≠ [])
    (hlength : data.length < 2 ^ 24) : (Output.flvTag type timestamp data).Fits := by
  have hcode : type.code = srsCodecFlvTagAudio ∨ type.code = srsCodecFlvTagVideo := by
    cases type with
    | audio => exact .inl rfl
    | video => exact .inr rfl
  refine ⟨_, rfl, ?_⟩
  rw [FlvTag.ofCall, if_pos hcode]
  refine ⟨?_, hne, hlength⟩
  change type.code &&& 0x1f = type.code
  cases type <;> decide

section Steps

variable {history : List Event} {d : RTPDump} {r : FileResults}

/-- An event that puts nothing into the file fits. -/
theorem fitting_of_silent {e : Event} (h : e.flvOutput? = none) : e.Fitting := by
  intro o ho
  rw [h] at ho
  cases ho

/-- The parameter sets: a sequence header fits into `sps_pps_tag_data`. -/
theorem parameterSetPhase_fits (r : FileResults) (d : RTPDump) (buf : Memory) (len : ℕ)
    (timestamp : Word) : Ensures (fun _ => Event.Fitting) history
      (parameterSetPhase r d buf len timestamp) fun _ _ => True := by
  have hsilent : ∀ {x : Recording RTPDump} {history : List Event} {q : RTPDump → Prop},
      Ensures (fun _ e => e.flvOutput? = none) history x (fun _ => q) →
      Ensures (fun _ => Event.Fitting) history x fun _ _ => True := fun h =>
    ⟨h.1.imp fun _ _ => fitting_of_silent, fun _ _ => trivial⟩
  -- storing puts nothing into the file
  refine (hsilent (storeSps_counts history d)).bind fun grown d₁ _ => ?_
  refine (hsilent (storePps_counts grown d₁)).bind fun grown d₂ _ => ?_
  unfold writeSequenceHeader
  split
  swap
  · exact ensures_pure trivial
  refine Ensures.bind (Q := fun _ _ => True) ?_ fun _ _ _ => ensures_pure trivial
  -- the assertions and the check of the size come before the write
  unfold srsFlvWriteSpsPpsTag
  refine ensures_emit_bind (fitting_of_silent rfl) ?_
  split
  · exact ensures_fault _
  split
  · exact ensures_fault _
  unfold muxSequenceHeader
  split
  · exact ensures_fault _
  split
  · exact ensures_fault _
  rw [pure_bind]
  split
  · exact ensures_fault _
  case isFalse hfits =>
    split
    swap
    · exact ensures_pure trivial
    refine ensures_emit (fun o ho => ?_) trivial
    obtain rfl := Option.some.inj ho
    refine fits_flvTag _ _ (List.cons_ne_nil _ _) ?_
    rw [spsPpsTagDataSize] at hfits
    rw [List.length_append]
    simp only [List.length_cons, List.length_nil]
    omega

/-- The slices: a tag fits into `video_data`. -/
theorem slicePhase_fits (r : FileResults) (d : RTPDump) (buf : Memory) (len : ℕ) (timestamp : Word)
    (marker : Bool) : Ensures (fun _ => Event.Fitting) history
      (slicePhase r d buf len timestamp marker) fun _ _ => True := by
  unfold slicePhase
  split
  swap
  · exact ensures_pure trivial
  refine ensures_emit_bind (fitting_of_silent rfl) ?_
  split
  · exact ensures_fault _
  case isFalse hfits =>
    split
    swap
    · exact ensures_pure trivial
    rw [videoDataSize] at hfits
    have hlength : (appendSlice d buf len).length = d.length + (len + 4) := rfl
    refine (srsFlvWriteTag_ensures (fitting_of_silent rfl) fun _ _ o ho => ?_).bind
      fun _ _ _ => ensures_pure trivial
    obtain rfl := Option.some.inj ho
    refine fits_flvTag _ _ ?_ ?_
    · rw [Memory.read_succ]
      exact List.cons_ne_nil _ _
    · rw [Memory.length_read, hlength]
      omega

/-- **The H.264 part** writes tags that fit. -/
theorem nalHandler_fits (r : FileResults) (d : RTPDump) (p : Packet) :
    Ensures (fun _ => Event.Fitting) history (nalHandler r d p) fun _ _ => True := by
  have hvideo : ∀ (history : List Event) (d : RTPDump) (buf : Memory) (len : ℕ),
      Ensures (fun _ => Event.Fitting) history (videoHandler r d buf len p.time p.marker)
        fun _ _ => True := by
    intro history d buf len
    unfold videoHandler
    refine ensures_emit_bind (fitting_of_silent rfl) ?_
    cases d.videoClock.tick d.videoFrequency p.time with
    | none => exact ensures_fault _
    | some result =>
        refine ensures_emit_bind (fitting_of_silent rfl) ?_
        refine Ensures.bind (Q := fun _ _ => True) ?_ fun _ _ _ => ensures_pure trivial
        unfold nalPhase
        split
        · exact parameterSetPhase_fits ..
        · exact slicePhase_fits ..
  exact nalHandler_ensures (fun _ => hvideo _ _ _ _) (fun _ => fitting_of_silent rfl)
    (fun _ _ => hvideo _ _ _ _) fun _ _ => trivial

/-- Events that fit are filed. -/
theorem ensures_filing {x : Recording RTPDump} {Q : List Event → RTPDump → Prop}
    (h : Ensures (fun _ => Event.Fitting) history x fun _ _ => True)
    (hpost : ∀ d', x.outcome = .ok d' → Q (history ++ x.trace) d') : Ensures Filing history x Q :=
  ⟨h.1.imp fun _ _ he o ho => .inr (he o ho), hpost⟩

/-- **Audio**: a tag of the payload and its format byte. -/
theorem audioHandler_files (h : Unopened history d) {payload : List Byte}
    (hlength : payload.length + 1 < 2 ^ 24) (time : Word) (type : AudioType) :
    Ensures Filing history (audioHandler r d payload time type) Unopened := by
  obtain ⟨hevents, hpost⟩ := audioHandler_ensures r d payload time type
  refine ensures_filing ?_ fun d' hd' hclosed => ?_
  · unfold audioHandler
    refine ensures_emit_bind (fitting_of_silent rfl) ?_
    cases d.audioClock.tick 8 time with
    | none => exact ensures_fault _
    | some result =>
        refine ensures_emit_bind (fitting_of_silent rfl) ?_
        dsimp only
        split
        · refine (srsFlvWriteTag_ensures (fitting_of_silent rfl) fun _ _ o ho => ?_).bind
            fun _ _ _ => ensures_pure trivial
          obtain rfl := Option.some.inj ho
          exact fits_flvTag _ _ (List.cons_ne_nil _ _) hlength
        · exact ensures_pure trivial
  · obtain ⟨clock, rfl⟩ := hpost d' hd'
    -- nothing reaches a file that is not open
    have hnone : flvContent (audioHandler r d payload time type).trace = [] := by
      refine List.filterMap_eq_nil_iff.mpr fun e he => ?_
      cases hout : e.flvOutput? with
      | none => rfl
      | some o =>
          have hopen := ((hevents.forall_mem e he).not_isNalus hout).1
          rw [show d.flv = false from hclosed] at hopen
          cases hopen
    rw [flvContent_append, h hclosed, hnone]
    rfl

/-- **Opening the file** puts the header into it. -/
theorem initFLVHeader_files (h : flvContent history = []) :
    Ensures Filing history (initFLVHeader r d) fun grown d' =>
      Unopened grown d' ∧ d' = { d with flv := r.opened } := by
  have hsilent : ∀ {past : List Event} {e : Event}, e.flvOutput? = none → Filing past e :=
    fun he o ho => .inr (fitting_of_silent he o ho)
  unfold initFLVHeader srsFlvOpenWrite
  refine Ensures.bind (Q := fun grown flv => flv = r.opened ∧ flvContent grown = [])
    (ensures_emit_bind (hsilent rfl) (ensures_pure ⟨rfl, ?_⟩)) ?_
  · rw [flvContent_append, h]
    rfl
  rintro grown flv ⟨rfl, hgrown⟩
  cases hopened : r.opened with
  | false => exact ensures_pure ⟨fun _ => hgrown, rfl⟩
  | true =>
      refine Ensures.bind (Q := fun _ _ => True) (ensures_emit_bind (hsilent rfl) ?_)
        fun _ _ _ => ensures_pure ⟨fun hclosed => (by cases hclosed), rfl⟩
      cases r.headerWritten with
      | false => exact ensures_pure trivial
      | true =>
          refine ensures_emit (fun o ho => .inl ?_) trivial
          obtain rfl := Option.some.inj ho
          refine ⟨rfl, ?_⟩
          rw [flvContent_append, hgrown]
          rfl

/-- **The end of `rtpHandler`.** -/
theorem h264Handler_files (h : Unopened history d) (p : Packet) :
    Ensures Filing history (h264Handler r d p) Unopened := by
  have hnal : ∀ (grown : List Event) (d₁ : RTPDump), d₁.flv = true →
      Ensures Filing grown (nalHandler r d₁ p) Unopened := by
    intro grown d₁ hopen
    refine ensures_filing (nalHandler_fits r d₁ p) fun d' hd' hclosed => ?_
    have hroute := ((nalHandler_frame r d₁ p []).2 d' hd').route
    have hflv : d'.flv = d₁.flv := congrArg Route.flv hroute
    rw [hflv, hopen] at hclosed
    cases hclosed
  unfold h264Handler
  cases hflv : d.flv with
  | true =>
      have hstays : (if d.flv then nalHandler r d p else pure d) = nalHandler r d p := if_pos hflv
      rw [if_pos rfl, pure_bind]
      dsimp only
      rw [hstays]
      exact hnal history d hflv
  | false =>
      refine (initFLVHeader_files (h hflv)).bind fun grown d₁ hd₁ => ?_
      dsimp only
      split
      case isTrue hopen => exact hnal grown d₁ hopen
      case isFalse => exact ensures_pure hd₁.1

/-- Events of the raw stream leave the FLV file alone. -/
theorem Unopened.grow {d' : RTPDump} (h : Unopened history d) {t : List Event}
    (ht : ∀ e ∈ t, e.flvOutput? = none) (hflv : d'.flv = d.flv) : Unopened (history ++ t) d' := by
  intro hclosed
  have hnone : flvContent t = [] := List.filterMap_eq_nil_iff.mpr ht
  rw [flvContent_append, h (hflv.symm.trans hclosed), hnone]
  rfl

/-- **One packet** that fits a block. -/
theorem step_files {a : Arrival} (h : Unopened history d) (hlen : a.packet.len ≤ blockSize) :
    Ensures Filing history (d.step a) Unopened := by
  have hsilent : ∀ {past : List Event} {e : Event}, e.flvOutput? = none → Filing past e :=
    fun he o ho => .inr (fitting_of_silent he o ho)
  -- a payload is shorter than what a tag can hold
  have hpayload : a.packet.payload.length + 1 < 2 ^ 24 := by
    rw [Packet.length_payload, Packet.h264Len]
    unfold blockSize at hlen
    omega
  rw [RTPDump.step]
  by_cases hrtp : a.packet.isRtp = true
  swap
  · rw [rtpHandler_of_not_isRtp _ _ hrtp]
    exact ensures_pure h
  rw [rtpHandler_of_isRtp _ _ hrtp]
  split
  · split
    · exact audioHandler_files h hpayload _ _
    · exact ensures_pure h
  split
  · have hdetect : Ensures Filing history (detectCamera a.results d a.packet) Unopened := by
      unfold detectCamera
      split
      · split
        · refine ensures_emit_bind (hsilent rfl) (ensures_pure ?_)
          exact h.grow (by simp [Event.flvOutput?]) rfl
        · exact ensures_pure fun hclosed => h hclosed
      · exact ensures_pure h
    refine hdetect.bind fun grown d₁ h₁ => ?_
    split
    · unfold psWrite
      split
      · split
        · refine ensures_emit_bind (hsilent rfl) (ensures_pure ?_)
          exact h₁.grow (by simp [Event.flvOutput?]) rfl
        · exact ensures_pure fun hclosed => h₁ hclosed
      · exact ensures_pure h₁
    · exact h264Handler_files h₁ _
  split
  · exact h264Handler_files h _
  · exact ensures_pure h

end Steps

/-! ## The raw stream -/

/-- Bytes of a program stream come behind the opening of `m_psOutfile`. -/
def RawAfterOpening (past : List Event) (e : Event) : Prop :=
  e.WrittenBy true false ∨ ∃ name, .psOpen name ∈ past

/-- `m_psOutfile` is opened. -/
def Event.isPsOpen : Event → Bool
  | .psOpen _ => true
  | _ => false

/-- **The file is left to `m_flv`**: the raw stream is not opened on it. -/
def FlvOnly (history : List Event) : Prop := ∀ e ∈ history, e.isPsOpen = false

instance : DecidablePred FlvOnly := fun history =>
  inferInstanceAs (Decidable (∀ e ∈ history, e.isPsOpen = false))

/-- What was written through `m_flv` is the content of the file then. -/
theorem fileContent_of_flvOnly {trace : List Event} (hraw : Always RawAfterOpening trace)
    (hflv : FlvOnly trace) : fileContent trace = flvContent trace := by
  refine fileContent_eq_flvContent fun e he => ?_
  obtain ⟨past, rest, rfl⟩ := List.append_of_mem he
  rcases hraw past e rest rfl with hwriter | ⟨name, hname⟩
  · exact hwriter
  · cases hflv _ (List.mem_append_left _ hname)

/-- A packet that opens the raw stream does so first. -/
theorem step_head_of_rawAfter {d : RTPDump} {a : Arrival} (hclosed : d.psOutfile.isOpen = false)
    (hopen : d.rawAfter a = true) :
    (d.step a).trace.head? = some (.psOpen d.outputFileName) := by
  rw [RTPDump.rawAfter, hclosed, Bool.false_or, Bool.and_eq_true, Bool.and_eq_true] at hopen
  obtain ⟨⟨htype, hcamera⟩, hopens⟩ := hopen
  obtain ⟨hrtp, hpt⟩ := of_decide_eq_true htype
  exact step_head_of_psCamera hrtp hpt (of_decide_eq_true hcamera) (of_decide_eq_true hopens).1

/-- **One packet** writes bytes of a program stream behind the opening only. -/
theorem step_rawAfterOpening {as : List Arrival} {history : List Event} {d : RTPDump}
    (h : Opened as history d)
    (hopening : d.psOutfile.isOpen = true → ∃ name, .psOpen name ∈ history) (a : Arrival) :
    Ensures RawAfterOpening history (d.step a) fun grown d' => Opened (as ++ [a]) grown d' ∧
      (d'.psOutfile.isOpen = true → ∃ name, .psOpen name ∈ grown) := by
  obtain ⟨hevents, hleaves⟩ := step_writes a h.closed history
  have hpost := (step_opened h a).2
  by_cases hopen : d.psOutfile.isOpen = true
  · -- it was opened before
    obtain ⟨name, hname⟩ := hopening hopen
    exact ⟨always_of_forall fun _ _ _ => .inr ⟨name, List.mem_append_left _ hname⟩,
      fun d' hd' => ⟨hpost d' hd', fun _ => ⟨name, List.mem_append_left _ hname⟩⟩⟩
  by_cases hafter : d.rawAfter a = true
  · -- this packet opens it
    obtain ⟨rest, htrace⟩ := List.head?_eq_some_iff.mp
      (step_head_of_rawAfter (eq_false_of_ne_true hopen) hafter)
    refine ⟨?_, fun d' hd' => ⟨hpost d' hd', fun _ => ⟨d.outputFileName, ?_⟩⟩⟩
    · rw [htrace, always_cons]
      exact ⟨.inl trivial, always_of_forall fun _ _ _ =>
        .inr ⟨d.outputFileName, List.mem_append_right _ List.mem_cons_self⟩⟩
    · rw [htrace]
      exact List.mem_append_right _ List.mem_cons_self
  · -- it stays closed
    rw [eq_false_of_ne_true hafter] at hevents
    refine ⟨hevents.imp fun _ _ he => .inl (he.mono (fun _ => rfl) id), fun d' hd' =>
      ⟨hpost d' hd', fun hopen' => ?_⟩⟩
    rw [(hleaves d' hd').raw] at hopen'
    exact absurd hopen' hafter

/-- **Every recording** writes bytes of a program stream behind the opening only. -/
theorem record_rawAfterOpening (fileName : String) (videoFrequency : Word) (u : Uninitialised)
    (as : List Arrival) :
    Always RawAfterOpening ((RTPDump.construct fileName videoFrequency u).record as).trace := by
  refine (run_always (fun as history (d : RTPDump) => Opened as history d ∧
    (d.psOutfile.isOpen = true → ∃ name, .psOpen name ∈ history)) (fun _ _ => True)
    (fun _ _ _ a h _ => step_rawAfterOpening h.1 h.2 a)
    ⟨opened_construct fileName videoFrequency u, fun hopen => ?_⟩ fun _ _ _ _ => trivial).1
  cases hopen

/-! ## The content of a recording -/

section Recordings

variable (fileName : String) (videoFrequency : Word) (u : Uninitialised) {as : List Arrival}

/-- **Every recording of packets that fit a block** puts a header into an empty file at most, and tags
that fit. -/
theorem record_files (hlen : ∀ a ∈ as, a.packet.len ≤ blockSize) :
    Always Filing ((RTPDump.construct fileName videoFrequency u).record as).trace := by
  have hcond : Always (fun _ (a : Arrival) => a.packet.len ≤ (blockSize : ℤ)) as :=
    always_of_forall fun _ a ha => hlen a ha
  exact (run_always (fun _ => Unopened) (fun _ (a : Arrival) => a.packet.len ≤ (blockSize : ℤ))
    (fun _ _ _ _ hclosed hfits => step_files hclosed hfits) (fun _ => rfl) hcond).1

/-- **The shape of a file**: a header or none, and tags that fit. -/
theorem exists_tags {trace : List Event} (h : Always Filing trace) :
    ∃ tags, (∀ o ∈ tags, o.Fits) ∧
      (flvContent trace = .flvHeader flvHeaderBytes :: tags ∨ flvContent trace = tags) := by
  induction trace using List.reverseRecOn with
  | nil => exact ⟨[], by simp, .inr rfl⟩
  | append_singleton trace e ih =>
      rw [always_append, always_singleton, List.append_nil] at h
      obtain ⟨tags, htags, hcontent⟩ := ih h.1
      rw [flvContent_append]
      cases hout : e.flvOutput? with
      | none =>
          have hnone : flvContent [e] = [] := by simp [flvContent, hout]
          rw [hnone, List.append_nil]
          exact ⟨tags, htags, hcontent⟩
      | some o =>
          have hsome : flvContent [e] = [o] := by simp [flvContent, hout]
          rw [hsome]
          rcases h.2 o hout with ⟨rfl, hempty⟩ | hfits
          · rw [hempty]
            exact ⟨[], by simp, .inl rfl⟩
          · refine ⟨tags ++ [o], ?_, ?_⟩
            · intro o' ho'
              rcases List.mem_append.mp ho' with ho' | ho'
              · exact htags o' ho'
              · rw [List.mem_singleton.mp ho']
                exact hfits
            · rcases hcontent with hcontent | hcontent <;> rw [hcontent]
              · exact .inl rfl
              · exact .inr rfl

/-- The tags of outputs that fit. -/
theorem storable_of_fits {tags : List Output} (h : ∀ o ∈ tags, o.Fits) :
    ∀ t ∈ fileTags tags, FlvContext.Storable t := by
  intro t ht
  obtain ⟨o, ho, htag⟩ := List.mem_filterMap.mp ht
  obtain ⟨t', htag', hstorable⟩ := h o ho
  obtain rfl := Option.some.inj (htag.symm.trans htag')
  exact hstorable

/-- **The bytes of a file** whose header was written, and of one without a header. -/
theorem fileBytes_eq {trace : List Event} (h : Always Filing trace) :
    (∀ t ∈ fileTags (flvContent trace), FlvContext.Storable t) ∧
      fileBytes (flvContent trace) =
        if (flvContent trace).head? = some (.flvHeader flvHeaderBytes) then
          FlvContext.flvFile flvHeaderBytes (fileTags (flvContent trace))
        else stream FlvTag.encode (fileTags (flvContent trace)) := by
  obtain ⟨tags, htags, hcontent⟩ := exists_tags h
  have hbytes : fileBytes tags = stream FlvTag.encode (fileTags tags) :=
    fileBytes_of_tags fun o ho => (htags o ho).imp fun _ ht => ht.1
  rcases hcontent with hcontent | hcontent <;> rw [hcontent]
  · have hfirst : fileTags (.flvHeader flvHeaderBytes :: tags) = fileTags tags :=
      List.filterMap_cons_none rfl
    refine ⟨by rw [hfirst]; exact storable_of_fits htags, ?_⟩
    rw [List.head?_cons, if_pos rfl, FlvContext.flvFile]
    change flvHeaderBytes ++ [0x00, 0x00, 0x00, 0x00] ++ fileBytes tags = _
    rw [hbytes, List.append_assoc]
    rfl
  · refine ⟨storable_of_fits htags, ?_⟩
    rw [if_neg, hbytes]
    intro hhead
    cases tags with
    | nil => cases hhead
    | cons o tags =>
        obtain rfl := Option.some.inj hhead
        obtain ⟨t, ht, -⟩ := htags _ List.mem_cons_self
        cases ht

/-- The header of a recording is one that a player accepts. -/
theorem signed_flvHeaderBytes : FlvContext.Signed flvHeaderBytes := ⟨rfl, rfl⟩

/-- **A file that ends anywhere**, because the process was killed or the disk is full, is read up to
there: a player reads the first tags, and a tag is among them when a byte of the size behind its data is
in the file. Of a file without header it reads nothing. -/
theorem readFile_of_filing {trace : List Event} (h : Always Filing trace) {fd : ℤ} (hfd : 0 < fd)
    (stale : ℕ → Memory) {n : ℕ} (hn : (flvContent trace).length < n) (k : ℕ) :
    let content := flvContent trace
    let read := FlvContext.readFile stale n (FlvContext.opened fd ((fileBytes content).take k))
    if content.head? = some (.flvHeader flvHeaderBytes) then
      ∃ m e, read = ((fileTags content).take m, some e) ∧ (10 ≤ k → e = .error .systemFileEof) ∧
        ∀ i (hi : i < (fileTags content).length), i < m ↔
          (FlvContext.flvFile flvHeaderBytes ((fileTags content).take i)).length +
            (fileTags content)[i].data.length + 12 ≤ k
    else read.1 = [] := by
  intro content read
  obtain ⟨hstorable, hbytes⟩ := fileBytes_eq h
  have hcount : (fileTags content).length < n :=
    Nat.lt_of_le_of_lt (List.length_filterMap_le _ _) hn
  split
  case isTrue hheader =>
    rw [if_pos hheader] at hbytes
    change ∃ m e,
      FlvContext.readFile stale n (FlvContext.opened fd ((fileBytes content).take k)) = _ ∧ _
    rw [hbytes]
    exact FlvContext.readFile_take hfd signed_flvHeaderBytes hstorable k stale hcount
  case isFalse hheader =>
    rw [if_neg hheader] at hbytes
    change (FlvContext.readFile stale n
      (FlvContext.opened fd ((fileBytes content).take k))).1 = []
    rw [hbytes]
    have hopen : ∀ l, (FlvContext.opened fd l).isOpen = true := fun _ => decide_eq_true hfd
    have hbuf : ((stale n).read 0 9).length = 9 := Memory.length_read ..
    have hfails : ∃ e f', FlvContext.readHeader ((stale n).read 0 9)
        ((stale n).read 9 srsFlvPreviousTagSize)
        (FlvContext.opened fd ((stream FlvTag.encode (fileTags content)).take k)) = .error e f' := by
      have hempty := FlvContext.readHeader_of_length_le (hopen []) (Nat.zero_le _) hbuf
        ((stale n).read 9 srsFlvPreviousTagSize)
      cases htags : fileTags content with
      | nil => rwa [stream_nil, List.take_nil]
      | cons t ts =>
          cases k with
          | zero => exact hempty
          | succ k =>
              -- a tag starts with its type, which is not the first byte of a header
              have ht := (hstorable t (htags ▸ List.mem_cons_self)).type
              have htype : t.type ≠ 0x46 := by
                intro hF
                rw [hF] at ht
                exact absurd ht (by decide)
              obtain ⟨f', hf'⟩ := FlvContext.readHeader_unsigned (hopen _) htype
                (FlvContext.rest_opened fd _) hbuf ((stale n).read 9 srsFlvPreviousTagSize)
              exact ⟨_, f', hf'⟩
    obtain ⟨e, f', hf'⟩ := hfails
    rw [FlvContext.readFile, hf']

/-- A recording of the two parameter sets and a slice. -/
def sampleTrace : List Event :=
  ((RTPDump.construct "camera.flv" 90000 .zero).record
    [setArrival 0x67 .allGood, setArrival 0x68 .allGood, sampleMarkedSlice]).trace

/-- The sample starts with the FLV header. -/
theorem sampleTrace_header : (fileContent sampleTrace).head? = some (.flvHeader flvHeaderBytes) := by
  decide +kernel

/-- It opens no program stream. -/
theorem sampleTrace_flvOnly : FlvOnly sampleTrace := by decide +kernel

/-- The packets of the sample fit a block. -/
theorem sample_fits : ∀ a ∈ [setArrival 0x67 .allGood, setArrival 0x68 .allGood, sampleMarkedSlice],
    a.packet.len ≤ (blockSize : ℤ) := by
  intro a ha
  simp only [List.mem_cons, List.not_mem_nil, or_false] at ha
  rcases ha with rfl | rfl | rfl <;> decide

end Recordings

end RtpCapture
