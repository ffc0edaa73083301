import RtpCapture.Recorder.ParameterSets
import RtpCapture.Recorder.Outputs
import RtpCapture.Recorder.Writers

/-! # Writes that fail

A write that fails puts nothing into the file and is only logged; `m_flv` and `is_sps_pps_ok` move on
as if it had succeeded.

* **`fileContent`** — what reached the output file, and **`flvContent`**, the part that was written
  through `m_flv`; `Playable` is what a player asks of a file.
* **`HeadersWritten`** — the two writes that have to succeed: the FLV header in the step that opens
  the file, and the sequence header in the step that completes the parameter sets.
* **`LeavesToFlv`** — the raw stream, which is opened on the same file, does not get in the way.
* **`record_playable`** — then the file stays playable, whatever other writes fail.
* **`record_unplayable`** — a file without FLV header, and one without sequence header. -/

namespace RtpCapture

open Traced

/-! ## The FLV file -/

/-- What an event puts into the file through `m_flv`. -/
def Event.flvOutput? : Event → Option Output
  | .output (.raw _) => none
  | .output o => some o
  | _ => none

/-- **The content of the FLV file.** -/
def flvContent (history : List Event) : List Output := history.filterMap Event.flvOutput?

/-- The content after two parts of a trace. -/
theorem flvContent_append (h₁ h₂ : List Event) :
    flvContent (h₁ ++ h₂) = flvContent h₁ ++ flvContent h₂ := List.filterMap_append

/-- What an event puts into the file. -/
def Event.output? : Event → Option Output
  | .output o => some o
  | _ => none

/-- **The content of the output file**, through `m_flv` and through the raw stream, as long as no
opening truncates it. -/
def fileContent (history : List Event) : List Output := history.filterMap Event.output?

/-- Without bytes of a program stream, the file is what was written through `m_flv`. -/
theorem fileContent_eq_flvContent {history : List Event}
    (h : ∀ e ∈ history, e.WrittenBy true false) : fileContent history = flvContent history := by
  refine List.filterMap_congr fun e he => ?_
  have hwriter := h e he
  cases e with
  | output o =>
      cases o with
      | raw data => cases hwriter
      | flvHeader | flvTag => rfl
  | _ => rfl

/-- An FLV header. -/
def Output.isFlvHeader : Output → Prop
  | .flvHeader _ => True
  | _ => False

/-- `AVCPacketType`, the second byte of the data of a video tag. -/
def Output.avcPacketType : Output → Option Byte
  | .flvTag .video _ data => data[1]?
  | _ => none

/-- An AVC sequence header. -/
def Output.isSequenceHeader (o : Output) : Prop := o.avcPacketType = some 0

/-- A video tag of NAL units. -/
def Output.isNalus (o : Output) : Prop := o.avcPacketType = some 1

/-- **What a player asks of a file**: the FLV header comes first, and a sequence header before the
NAL units. -/
structure Playable (content : List Output) : Prop where
  header : ∀ o ∈ content.head?, o.isFlvHeader
  sequenceHeader : Always (fun past o => o.isNalus → ∃ o' ∈ past, o'.isSequenceHeader) content

/-- **What may be put into the file** after what is in it. -/
def Plays (history : List Event) (e : Event) : Prop :=
  ∀ o, e.flvOutput? = some o → (flvContent history = [] → o.isFlvHeader) ∧
    (o.isNalus → ∃ o' ∈ flvContent history, o'.isSequenceHeader)

/-- A trace of allowed events leaves a playable file. -/
theorem playable_of_always {trace : List Event} (h : Always Plays trace) :
    Playable (flvContent trace) := by
  induction trace using List.reverseRecOn with
  | nil =>
      refine ⟨fun o ho => ?_, always_nil⟩
      cases ho
  | append_singleton trace e ih =>
      rw [always_append, always_singleton, List.append_nil] at h
      obtain ⟨hheader, hsequence⟩ := ih h.1
      rw [flvContent_append]
      cases hout : e.flvOutput? with
      | none =>
          have hnone : flvContent [e] = [] := by simp [flvContent, hout]
          rw [hnone, List.append_nil]
          exact ⟨hheader, hsequence⟩
      | some o =>
          have hsome : flvContent [e] = [o] := by simp [flvContent, hout]
          obtain ⟨hfirst, hnalus⟩ := h.2 o hout
          rw [hsome]
          refine ⟨fun o' ho' => ?_, ?_⟩
          · cases hcontent : flvContent trace with
            | nil =>
                rw [hcontent] at ho'
                obtain rfl : o = o' := by simpa using ho'
                exact hfirst hcontent
            | cons o₁ rest =>
                rw [hcontent] at ho' hheader
                exact hheader o' ho'
          · rw [always_append, always_singleton, List.append_nil]
            exact ⟨hsequence, hnalus⟩

/-! ## The recorder and its file -/

/-- **The state has not moved on without the file**: an open file has its header, and the counted
parameter sets are in it. -/
structure Playing (history : List Event) (d : RTPDump) : Prop where
  started : d.flv = true → flvContent history ≠ []
  sequenceHeader : d.isSpsPpsOk = 2 → ∃ o ∈ flvContent history, o.isSequenceHeader

section Rules

variable {history t : List Event} {d d' : RTPDump}

/-- The file grows. -/
theorem Playing.grow (h : Playing history d) (t : List Event) (hflv : d'.flv = d.flv)
    (hsets : d'.isSpsPpsOk = d.isSpsPpsOk) : Playing (history ++ t) d' := by
  refine ⟨fun hopen => ?_, fun htwo => ?_⟩
  · rw [flvContent_append]
    exact List.append_ne_nil_of_left_ne_nil (h.started (hflv.symm.trans hopen)) _
  · obtain ⟨o, ho, hheader⟩ := h.sequenceHeader (hsets.symm.trans htwo)
    rw [flvContent_append]
    exact ⟨o, List.mem_append_left _ ho, hheader⟩

/-- Events that put nothing into the file. -/
theorem always_plays_of_silent (ht : ∀ e ∈ t, e.flvOutput? = none) :
    Always (fun past => Plays (history ++ past)) t := by
  refine always_of_forall fun _ e he o ho => ?_
  rw [ht e he] at ho
  cases ho

/-- Events behind an FLV header, none of which needs a sequence header that is not there. -/
theorem always_plays (hstarted : flvContent history ≠ [])
    (ht : ∀ e ∈ t, ∀ o, e.flvOutput? = some o → o.isNalus →
      ∃ o' ∈ flvContent history, o'.isSequenceHeader) :
    Always (fun past => Plays (history ++ past)) t := by
  refine always_of_forall fun past e he o ho => ⟨fun hnil => ?_, fun hnalus => ?_⟩
  · rw [flvContent_append] at hnil
    exact absurd (List.append_eq_nil_iff.mp hnil).1 hstarted
  · obtain ⟨o', ho', hheader⟩ := ht e he o ho hnalus
    rw [flvContent_append]
    exact ⟨o', List.mem_append_left _ ho', hheader⟩

end Rules

/-! ## The branches of a step -/

/-- No audio event puts NAL units into the file. -/
theorem Event.IsAudio.not_isNalus {flv : Bool} {e : Event} (h : e.IsAudio flv) {o : Output}
    (ho : e.flvOutput? = some o) : flv = true ∧ ¬ o.isNalus := by
  cases e with
  | output o' =>
      cases o' with
      | flvTag type timestamp data =>
          obtain rfl := Option.some.inj ho
          cases type with
          | audio => exact ⟨h, fun hnalus => by cases hnalus⟩
          | video => exact h.elim
      | _ => exact h.elim
  | _ => cases ho

/-- The prelude puts nothing but FLV headers into the file. -/
theorem Event.IsOpening.plays {e : Event} (h : e.IsOpening) (history : List Event) :
    Plays history e := by
  intro o ho
  cases e with
  | output o' =>
      cases o' with
      | flvHeader header =>
          obtain rfl := Option.some.inj ho
          exact ⟨fun _ => trivial, fun hnalus => by cases hnalus⟩
      | flvTag type timestamp data => exact h.elim
      | raw data => cases ho
  | _ => cases ho

section Steps

variable {history : List Event} {d : RTPDump}

/-- **Audio** waits for the header. -/
theorem audioHandler_plays (h : Playing history d) (r : FileResults) (payload : List Byte)
    (time : Word) (type : AudioType) :
    Ensures Plays history (audioHandler r d payload time type) Playing := by
  obtain ⟨hevents, hpost⟩ := audioHandler_ensures r d payload time type
  replace hevents := hevents.forall_mem
  refine ⟨?_, fun d' hd' => ?_⟩
  · by_cases hflv : d.flv = true
    · exact always_plays (h.started hflv) fun e he o ho hnalus =>
        absurd hnalus ((hevents e he).not_isNalus ho).2
    · refine always_plays_of_silent fun e he => ?_
      cases hout : e.flvOutput? with
      | none => rfl
      | some o => exact absurd ((hevents e he).not_isNalus hout).1 hflv
  · obtain ⟨clock, rfl⟩ := hpost d' hd'
    exact h.grow _ rfl rfl

variable {buf : Memory} {len : ℕ}

/-- An SPS is counted, and nothing reaches the file. -/
theorem storeSps_counts (history : List Event) (d : RTPDump) :
    Ensures (fun _ e => e.flvOutput? = none) history (storeSps d buf len) fun _ d' =>
      d'.flv = d.flv ∧
        d'.isSpsPpsOk = d.isSpsPpsOk + if nalType (buf 0) = 7 then 1 else 0 := by
  unfold storeSps
  split
  · refine ensures_emit_bind rfl ?_
    split
    · exact ensures_fault _
    · exact ensures_pure ⟨rfl, rfl⟩
  · exact ensures_pure ⟨rfl, rfl⟩

/-- A PPS is counted, and nothing reaches the file. -/
theorem storePps_counts (history : List Event) (d : RTPDump) :
    Ensures (fun _ e => e.flvOutput? = none) history (storePps d buf len) fun _ d' =>
      d'.flv = d.flv ∧
        d'.isSpsPpsOk = d.isSpsPpsOk + if nalType (buf 0) = 8 then 1 else 0 := by
  unfold storePps
  split
  · exact ensures_emit_bind rfl (ensures_pure ⟨rfl, rfl⟩)
  · exact ensures_pure ⟨rfl, rfl⟩

/-- A computation that puts nothing into the file. -/
theorem ensures_silent {α : Type} {x : Recording α} {q : α → Prop} (hne : flvContent history ≠ [])
    (hx : ∀ history, Ensures (fun _ e => e.flvOutput? = none) history x fun _ => q) :
    Ensures Plays history x fun grown a => q a ∧ flvContent grown ≠ [] := by
  obtain ⟨hevents, hpost⟩ := hx history
  refine ⟨always_plays_of_silent hevents.forall_mem, fun a ha => ⟨hpost a ha, ?_⟩⟩
  rw [flvContent_append]
  exact List.append_ne_nil_of_left_ne_nil hne _

/-- **The sequence header** reaches the file when it is written. -/
theorem writeSequenceHeader_plays {r : FileResults} {timestamp : Word}
    (hne : flvContent history ≠ []) (hwritten : d.isSpsPpsOk = 2 → r.written = true) :
    Ensures Plays history (writeSequenceHeader r d timestamp) Playing := by
  have hgrown : ∀ more, flvContent (history ++ more) ≠ [] := by
    intro more
    rw [flvContent_append]
    exact List.append_ne_nil_of_left_ne_nil hne _
  -- without both parameter sets nothing is written
  unfold writeSequenceHeader
  split
  swap
  case isFalse hsets => exact ensures_pure ⟨fun _ => hne, fun htwo => absurd htwo hsets⟩
  case isTrue hsets =>
    rw [hwritten hsets]
    unfold srsFlvWriteSpsPpsTag
    have hcall : ∀ sps pps, Plays history (.flvWriteSpsPpsTag d.flv timestamp sps pps) := by
      intro sps pps o ho
      cases ho
    -- the header is in the file behind the call
    refine Ensures.bind (Q := fun grown _ => flvContent grown ≠ [] ∧
      ∃ o ∈ flvContent grown, o.isSequenceHeader) (ensures_emit_bind (hcall _ _) ?_)
      fun grown _ ⟨hne', hheader⟩ => ensures_pure ⟨fun _ => hne', fun _ => hheader⟩
    split
    · exact ensures_fault _
    split
    · exact ensures_fault _
    unfold muxSequenceHeader
    split
    · exact ensures_fault _
    split
    · exact ensures_fault _
    rw [pure_bind]
    split
    · exact ensures_fault _
    refine ensures_emit (fun o ho => ?_) ⟨?_, ?_⟩
    · obtain rfl := Option.some.inj ho
      exact ⟨fun hnil => absurd hnil (hgrown _), fun hnalus => by cases hnalus⟩
    · rw [List.append_assoc]
      exact hgrown _
    · rw [flvContent_append]
      exact ⟨_, List.mem_append_right _ List.mem_cons_self, rfl⟩

/-- **The parameter sets** are counted up to two only if the sequence header is written. -/
theorem parameterSetPhase_plays {r : FileResults} {timestamp : Word}
    (hne : flvContent history ≠ []) (hsets : d.isSpsPpsOk ≠ 2)
    (hwritten : (nalType (buf 0) = 7 ∨ nalType (buf 0) = 8) → d.isSpsPpsOk = 1 →
      r.written = true) :
    Ensures Plays history (parameterSetPhase r d buf len timestamp) Playing := by
  refine (ensures_silent hne fun history => storeSps_counts history d).bind ?_
  rintro grown d₁ ⟨⟨-, hsets₁⟩, hne₁⟩
  refine (ensures_silent hne₁ fun history => storePps_counts history d₁).bind ?_
  rintro grown' d₂ ⟨⟨-, hsets₂⟩, hne₂⟩
  refine writeSequenceHeader_plays hne₂ fun htwo => ?_
  -- a NAL unit is of one type, so it counts once
  by_cases hsps : nalType (buf 0) = 7
  · have hpps : nalType (buf 0) ≠ 8 := by
      rw [hsps]
      decide
    rw [hsets₂, hsets₁, if_pos hsps, if_neg hpps] at htwo
    exact hwritten (.inl hsps) (by omega)
  · rw [hsets₂, hsets₁, if_neg hsps] at htwo
    split at htwo
    case isTrue hpps => exact hwritten (.inr hpps) (by omega)
    case isFalse => exact absurd htwo hsets

/-- **A call of `videoHandler`**, given that the write that completes the parameter sets succeeds. -/
theorem videoHandler_plays (h : Playing history d) (hflv : d.flv = true) {r : FileResults}
    {time : Word} {marker : Bool}
    (hwritten : (nalType (buf 0) = 7 ∨ nalType (buf 0) = 8) → d.isSpsPpsOk = 1 →
      r.written = true) :
    Ensures Plays history (videoHandler r d buf len time marker) Playing := by
  have hsilent : ∀ history e, e.flvOutput? = none → Plays history e := by
    intro history e he o ho
    rw [he] at ho
    cases ho
  unfold videoHandler
  refine ensures_emit_bind (hsilent _ _ rfl) ?_
  cases d.videoClock.tick d.videoFrequency time with
  | none => exact ensures_fault _
  | some result =>
      obtain ⟨clock, timestamp⟩ := result
      refine ensures_emit_bind (hsilent _ _ rfl) ?_
      refine Ensures.bind (Q := Playing) ?_ fun grown d' h' =>
        ensures_pure ⟨h'.started, h'.sequenceHeader⟩
      rw [List.append_assoc]
      have hentered : Playing (history ++ ([.videoHandler (nalType (buf 0)) (buf.read 0 len) time
          marker] ++ [.videoTimestamp timestamp])) { d with videoClock := clock } :=
        h.grow _ rfl rfl
      unfold nalPhase
      split
      case isTrue hsets =>
        exact parameterSetPhase_plays (hentered.started hflv) hsets hwritten
      case isFalse hsets =>
        -- the sequence header is in the file
        obtain ⟨o, ho, hheader⟩ := hentered.sequenceHeader (not_not.mp hsets)
        refine ⟨always_plays (hentered.started hflv) fun _ _ _ _ _ => ⟨o, ho, hheader⟩,
          fun d' _ => ⟨fun _ => ?_, fun _ => ⟨o, ?_, hheader⟩⟩⟩
        · rw [flvContent_append]
          exact List.append_ne_nil_of_left_ne_nil (hentered.started hflv) _
        · rw [flvContent_append]
          exact List.mem_append_left _ ho

/-- **The H.264 part**, given that the write that completes the parameter sets succeeds. -/
theorem nalHandler_plays {s : Depacketizer} (hmatches : s.Matches d) (h : Playing history d)
    (hflv : d.flv = true) {r : FileResults} {p : Packet}
    (hwritten : ∀ c, s.completed p = some c → c.isParameterSet = true → d.isSpsPpsOk = 1 →
      r.written = true) :
    Ensures Plays history (nalHandler r d p) Playing := by
  have hfragment := hmatches.of_fragment p
  have hgathered : Playing (history ++ [d.fragmentCopy p]) (d.gathered p) ∧
      (d.gathered p).flv = true ∧ (d.gathered p).isSpsPpsOk = d.isSpsPpsOk := by
    obtain ⟨nalData, nalLength, heq⟩ := d.gathered_eq p
    rw [heq]
    exact ⟨h.grow _ rfl rfl, hflv, rfl⟩
  obtain ⟨hplaying, hopen, hsame⟩ := hgathered
  refine nalHandler_ensures (fun hfua => ?_) (fun _ o ho => by cases ho) (fun hfua hend => ?_)
    fun _ _ => hplaying
  · -- a whole NAL unit completes itself
    refine videoHandler_plays h hflv fun htype =>
      hwritten ⟨nalType (p.h264Buf 0), p.payload, p.time, p.marker⟩ ?_ (decide_eq_true htype)
    rw [Depacketizer.completed, if_neg fun hc => hfua (Packet.isFuA_iff.mp hc)]
  · -- the last fragment completes what is gathered
    refine videoHandler_plays hplaying hopen fun htype hsets => ?_
    rw [hfragment.head] at htype
    refine hwritten ⟨nalType ((s.fragment p).headD s.stale), s.fragment p, p.time, p.marker⟩ ?_
      (decide_eq_true htype) (hsame.symm.trans hsets)
    rw [Depacketizer.completed, if_pos (Packet.isFuA_iff.mpr hfua),
      if_pos (Packet.isEnd_iff.mpr hend)]

end Steps

/-! ## The raw stream -/

/-- **The packet is dumped**: it belongs to a program stream, and `m_psOutfile` is open and takes its
payload. -/
def RTPDump.dumps (d : RTPDump) (a : Arrival) : Bool :=
  a.packet.isType96 && d.route.detect a.packet = .psCamera &&
    (d.psOutfile = .good || (d.cameraType = .default && a.results.psOpened)) && a.results.written

/-- The packet opens one of the writers, which truncates the file. -/
def RTPDump.OpensFile (d : RTPDump) (a : Arrival) : Prop :=
  d.flv = false ∧ (d.route.next a).flv = true ∨ d.psOutfile.isOpen = false ∧ d.rawAfter a = true

/-- Bytes of a program stream come from a stream that takes them. -/
theorem psWrite_dumps {r : FileResults} {d : RTPDump} {dumps : Bool} (p : Packet)
    (h : d.psOutfile = .good → r.written = true → dumps = true) (history : List Event) :
    Ensures (fun _ e => e.WrittenBy true dumps) history (psWrite r d p) (fun _ _ => True) := by
  unfold psWrite
  split
  case isFalse => exact ensures_pure trivial
  case isTrue hgood =>
    split
    case isFalse => exact ensures_pure trivial
    case isTrue hwritten => exact ensures_emit_bind (h hgood hwritten) (ensures_pure trivial)

/-- The H.264 packets put nothing but FLV into the file. -/
theorem h264Handler_dumps (r : FileResults) (d : RTPDump) (p : Packet) (dumps : Bool)
    (history : List Event) :
    Ensures (fun _ e => e.WrittenBy true dumps) history (h264Handler r d p) (fun _ _ => True) :=
  ⟨(h264Handler_writes r d p history).1.imp fun _ _ he => he.mono (fun _ => rfl) id,
    fun _ _ => trivial⟩

/-- **A packet of type 96** is dumped, or nothing of a program stream reaches the file. -/
theorem type96_dumps {d : RTPDump} {a : Arrival} (h96 : a.packet.isType96 = true)
    (history : List Event) :
    Ensures (fun _ e => e.WrittenBy true (d.dumps a)) history
      (detectCamera a.results d a.packet >>= fun d =>
        if d.cameraType = .psCamera then psWrite a.results d a.packet
        else h264Handler a.results d a.packet) (fun _ _ => True) := by
  obtain ⟨hrtp, hpt⟩ := of_decide_eq_true h96
  have hdetect : d.route.detect a.packet =
      if d.cameraType = .default then classify a.packet.h264Buf else d.cameraType := by
    simp [Route.detect, hrtp, hpt, RTPDump.route]
  unfold detectCamera
  by_cases hdefault : d.cameraType = .default
  · rw [if_pos hdefault] at hdetect ⊢
    by_cases hps : classify a.packet.h264Buf = .psCamera
    · rw [if_pos hps]
      refine Ensures.bind (Q := fun _ d' => d' = { d with
        psOutfile := if a.results.psOpened then .good else .failed, cameraType := .psCamera })
        (ensures_emit_pure trivial rfl) ?_
      rintro grown d' rfl
      rw [if_pos rfl]
      refine psWrite_dumps _ (fun hgood hwritten => ?_) _
      -- the stream is the one that this packet opens
      cases hopened : a.results.psOpened with
      | false => simp [hopened] at hgood
      | true => simp [RTPDump.dumps, h96, hdetect, hps, hdefault, hopened, hwritten]
    · rw [if_neg hps, Traced.pure_bind]
      exact h264Handler_dumps ..
  · rw [if_neg hdefault] at hdetect ⊢
    rw [Traced.pure_bind]
    split
    case isTrue hps =>
      refine psWrite_dumps _ (fun hgood hwritten => ?_) _
      simp [RTPDump.dumps, h96, hdetect, hps, hgood, hwritten]
    case isFalse => exact h264Handler_dumps ..

/-- **Bytes of a program stream** reach the file only in a step that dumps its packet. -/
theorem step_dumps (d : RTPDump) (a : Arrival) (history : List Event) :
    Ensures (fun _ e => e.WrittenBy true (d.dumps a)) history (d.step a) (fun _ _ => True) := by
  unfold RTPDump.step
  by_cases hrtp : a.packet.isRtp = true
  swap
  · rw [rtpHandler_of_not_isRtp _ _ hrtp]
    exact ensures_pure trivial
  rw [rtpHandler_of_isRtp a.results d hrtp]
  split
  · split
    · obtain ⟨hevents, -⟩ := audioHandler_ensures a.results d a.packet.payload a.packet.time
        (if a.packet.pt = 0 then .uLaw else .aLaw)
      refine ⟨always_of_forall fun _ e he => ?_, fun _ _ => trivial⟩
      exact (hevents.forall_mem e he).writtenBy.mono (fun _ => rfl) id
    · exact ensures_pure trivial
  split
  · next h96 => exact type96_dumps (decide_eq_true ⟨hrtp, h96⟩) history
  split
  · exact h264Handler_dumps ..
  · exact ensures_pure trivial

/-! ## One packet -/

/-- **The raw stream does not get in the way**: nothing of a program stream reaches the file, and the
stream is not opened on the file that `m_flv` has open. -/
structure LeavesToFlv (d : RTPDump) (a : Arrival) : Prop where
  dumps : d.dumps a = false
  opening : d.psOutfile.isOpen = false → d.rawAfter a = true → d.flv = false

/-- **The writes that the state moves on without**: the FLV header, when the step opens the file, and
the sequence header, when the call of `videoHandler` that the step makes completes the parameter
sets. -/
structure HeadersWritten (d : RTPDump) (a : Arrival) : Prop where
  flvHeader : d.flv = false → (d.route.next a).flv = true → a.results.headerWritten = true
  sequenceHeader : ∀ c, (Depacketizer.ofRecorder d).call a = some c → c.isParameterSet = true →
    d.isSpsPpsOk = 1 → a.results.written = true

/-- The end of `rtpHandler` writes the FLV header of the file it opens. -/
theorem flvHeader_mem_h264Handler {r : FileResults} {d : RTPDump} (p : Packet)
    (hclosed : d.flv = false) (hopened : r.opened = true) (hwritten : r.headerWritten = true) :
    .output (.flvHeader flvHeaderBytes) ∈ (h264Handler r d p).trace := by
  have hheader : .output (.flvHeader flvHeaderBytes) ∈ (initFLVHeader r d).trace := by
    rw [initFLVHeader, srsFlvOpenWrite, hopened, hwritten]
    exact .tail _ (.tail _ (.head _))
  unfold h264Handler
  rw [hclosed, if_neg Bool.false_ne_true]
  exact mem_trace_bind_left hheader

/-- **A step that opens the file** writes the FLV header. -/
theorem flvHeader_mem_step {d : RTPDump} {a : Arrival} (hclosed : d.flv = false)
    (hopen : (d.route.next a).flv = true) (hwritten : a.results.headerWritten = true) :
    .output (.flvHeader flvHeaderBytes) ∈ (d.step a).trace := by
  obtain ⟨hh264, hopened⟩ : d.route.isH264 a.packet = true ∧ a.results.opened = true := by
    simpa [Route.next, hclosed] using hopen
  obtain ⟨hrtp, hpt⟩ := of_decide_eq_true hh264
  have haudio : ¬ (a.packet.pt = 0 ∨ a.packet.pt = 8) := by
    rcases hpt with ⟨hpt, -⟩ | hpt <;> rw [hpt] <;> decide
  rw [RTPDump.step, rtpHandler_of_isRtp _ _ hrtp, if_neg haudio]
  rcases hpt with ⟨hpt, hcamera⟩ | hpt
  · obtain ⟨pre, psOutfile, -, heq⟩ := detectCamera_eq a.results d hrtp hpt
    rw [if_pos hpt, heq, ok_bind, if_neg hcamera]
    exact List.mem_append_right _ (flvHeader_mem_h264Handler _ hclosed hopened hwritten)
  · have hother : a.packet.pt ≠ 96 := by
      rw [hpt]
      decide
    rw [if_neg hother, if_pos hpt]
    exact flvHeader_mem_h264Handler _ hclosed hopened hwritten

/-- The H.264 part writes no FLV header. -/
theorem flvHeader_not_mem_nalHandler (r : FileResults) (d : RTPDump) (p : Packet)
    (header : List Byte) : .output (.flvHeader header) ∉ (nalHandler r d p).trace :=
  fun hmem => (nalHandler_frame r d p []).1.forall_mem _ hmem

/-- **The prelude of a step**, which contains the FLV header of the step. -/
theorem Playing.of_prelude {history pre : List Event} {d d' : RTPDump} {a : Arrival}
    (h : Playing history d) (hprelude : Prelude d a pre d')
    (hheader : d.flv = false → d'.flv = true → .output (.flvHeader flvHeaderBytes) ∈ pre) :
    Playing (history ++ pre) d' := by
  obtain ⟨psOutfile, hd'⟩ := hprelude.state
  have hsets : d'.isSpsPpsOk = d.isSpsPpsOk := by rw [hd']
  cases hflv : d.flv with
  | true =>
      have hopen : d'.flv = true := by simp [hd', Route.next, hflv]
      exact h.grow pre (hopen.trans hflv.symm) hsets
  | false =>
      refine ⟨fun hopen hnil => ?_, fun htwo => ?_⟩
      · have hmem : Output.flvHeader flvHeaderBytes ∈ flvContent pre :=
          List.mem_filterMap.mpr ⟨_, hheader hflv hopen, rfl⟩
        rw [flvContent_append] at hnil
        rw [(List.append_eq_nil_iff.mp hnil).2] at hmem
        cases hmem
      · exact (h.grow pre rfl rfl).sequenceHeader (hsets.symm.trans htwo)

/-- **One packet keeps the file playable**, when the two writes succeed. -/
theorem step_plays {history : List Event} {d : RTPDump} {a : Arrival} (h : Playing history d)
    (hmeets : HeadersWritten d a) : Ensures Plays history (d.step a) Playing := by
  rcases step_cases d a with ⟨-, -, hstep⟩ | ⟨pre, d', hprelude, hreaches, hstep⟩
  · rw [hstep]
    exact audioHandler_plays h ..
  · have hallowed : Always (fun past => Plays (history ++ past)) pre :=
      always_of_forall fun past e he => (hprelude.events e he).plays _
    have hplaying : Playing (history ++ pre) d' := by
      refine h.of_prelude hprelude fun hclosed hopen => ?_
      obtain ⟨psOutfile, rfl⟩ := hprelude.state
      have hmem := flvHeader_mem_step hclosed hopen (hmeets.flvHeader hclosed hopen)
      rw [hstep] at hmem
      split at hmem
      · exact (List.mem_append.mp hmem).resolve_right (flvHeader_not_mem_nalHandler _ _ _ _)
      · exact hmem
    rw [hstep]
    split
    case isTrue hr =>
      refine ensures_trace_append hallowed ?_
      refine nalHandler_plays ((Depacketizer.matches_ofRecorder d).of_prelude hprelude) hplaying
        (hreaches hr) fun c hc hset hsets => hmeets.sequenceHeader c ?_ hset ?_
      · rw [Depacketizer.call]
        exact (if_pos hr).trans hc
      · obtain ⟨psOutfile, rfl⟩ := hprelude.state
        exact hsets
    case isFalse =>
      refine ⟨hallowed, fun d'' hd'' => ?_⟩
      obtain rfl := Except.ok.inj hd''
      exact hplaying

/-! ## Every recording -/

/-- **What keeps the file playable**: the headers are written, and the file is left to `m_flv`. -/
structure KeepsPlayable (d : RTPDump) (a : Arrival) : Prop
    extends HeadersWritten d a, LeavesToFlv d a

instance (d : RTPDump) (a : Arrival) : Decidable (HeadersWritten d a) :=
  decidable_of_iff ((d.flv = false → (d.route.next a).flv = true →
      a.results.headerWritten = true) ∧ ∀ c ∈ (Depacketizer.ofRecorder d).call a,
        c.isParameterSet = true → d.isSpsPpsOk = 1 → a.results.written = true)
    ⟨fun h => ⟨h.1, h.2⟩, fun h => ⟨h.flvHeader, h.sequenceHeader⟩⟩

instance (d : RTPDump) (a : Arrival) : Decidable (LeavesToFlv d a) :=
  decidable_of_iff (d.dumps a = false ∧
      (d.psOutfile.isOpen = false → d.rawAfter a = true → d.flv = false))
    ⟨fun h => ⟨h.1, h.2⟩, fun h => ⟨h.dumps, h.opening⟩⟩

instance (d : RTPDump) (a : Arrival) : Decidable (KeepsPlayable d a) :=
  decidable_of_iff (HeadersWritten d a ∧ LeavesToFlv d a)
    ⟨fun h => ⟨h.1, h.2⟩, fun h => ⟨h.toHeadersWritten, h.toLeavesToFlv⟩⟩

/-- **The file of a recording can be played**: no opening truncates what is in it, all of it was
written through `m_flv`, and it is what a player asks for. -/
structure PlayableFile (d₀ : RTPDump) (as : List Arrival) : Prop where
  untruncated : ∀ as₁ a d, as₁ ++ [a] <+: as → (d₀.record as₁).outcome = .ok d → d.OpensFile a →
    fileContent (d₀.record as₁).trace = []
  oneWriter : ∀ o ∈ fileContent (d₀.record as).trace, o.isRaw = false
  playable : Playable (fileContent (d₀.record as).trace)

/-- Nothing was written when neither the raw stream nor `m_flv` can have written it. -/
theorem fileContent_eq_nil {history : List Event} {raw : Bool}
    (hflv : ∀ e ∈ history, e.WrittenBy true false) (hraw : ∀ e ∈ history, e.WrittenBy false raw) :
    fileContent history = [] := by
  refine List.filterMap_eq_nil_iff.mpr fun e he => ?_
  have hnotRaw := hflv e he
  have hnotFlv := hraw e he
  cases e with
  | output o =>
      cases o with
      | raw data => cases hnotRaw
      | flvHeader | flvTag => cases hnotFlv
  | _ => rfl

section Recordings

variable {fileName : String} {videoFrequency : Word} {u : Uninitialised} {as : List Arrival}

/-- Nothing of a program stream is in the file. -/
theorem record_writtenBy
    (hmeets : StepsMeet RTPDump.step KeepsPlayable (.construct fileName videoFrequency u) as) :
    ∀ e ∈ ((RTPDump.construct fileName videoFrequency u).record as).trace,
      e.WrittenBy true false := by
  have hevents : Ensures (fun _ e => e.WrittenBy true false) []
      ((RTPDump.construct fileName videoFrequency u).record as) (fun _ _ => True) := by
    refine hmeets.ensures (fun _ _ => True) (fun history d a _ hkeeps => ?_) trivial
    rw [← hkeeps.dumps]
    exact step_dumps d a history
  exact hevents.1.forall_mem

/-- **The file is empty when a writer opens it.** -/
theorem record_untruncated
    (hmeets : StepsMeet RTPDump.step KeepsPlayable (.construct fileName videoFrequency u) as)
    {as₁ : List Arrival} {a : Arrival} {d : RTPDump} (hpre : as₁ ++ [a] <+: as)
    (hrun : ((RTPDump.construct fileName videoFrequency u).record as₁).outcome = .ok d)
    (hopens : d.OpensFile a) :
    fileContent ((RTPDump.construct fileName videoFrequency u).record as₁).trace = [] := by
  obtain ⟨rest, rfl⟩ := hpre
  rw [List.append_assoc, stepsMeet_append hrun] at hmeets
  obtain ⟨hbefore, hkeeps, -⟩ := hmeets
  have hclosed : d.flv = false := by
    rcases hopens with ⟨hclosed, -⟩ | ⟨hraw, hopen⟩
    · exact hclosed
    · exact hkeeps.opening hraw hopen
  -- what was written before came through the raw stream
  have hwritten := (record_opened fileName videoFrequency u hrun).written
  rw [hclosed] at hwritten
  exact fileContent_eq_nil (record_writtenBy hbefore) hwritten

/-- What was written through `m_flv` is playable. -/
theorem record_flvContent
    (hmeets : StepsMeet RTPDump.step KeepsPlayable (.construct fileName videoFrequency u) as) :
    Playable (flvContent ((RTPDump.construct fileName videoFrequency u).record as).trace) := by
  have hstart : Playing [] (.construct fileName videoFrequency u) := by
    refine ⟨fun hopen => ?_, fun htwo => ?_⟩
    · cases hopen
    · cases htwo
  exact playable_of_always
    (hmeets.ensures Playing (fun _ _ _ h hkeeps => step_plays h hkeeps.toHeadersWritten) hstart).1

end Recordings

/-- **The file stays playable** in every recording in which the FLV header is written where the file
is opened, the sequence header where the parameter sets are completed, and no program stream gets
into the file, whatever else fails. -/
theorem record_playable (fileName : String) (videoFrequency : Word) (u : Uninitialised)
    {as : List Arrival}
    (hmeets : StepsMeet RTPDump.step KeepsPlayable (.construct fileName videoFrequency u) as) :
    PlayableFile (.construct fileName videoFrequency u) as := by
  have hcontent := fileContent_eq_flvContent (record_writtenBy hmeets)
  refine ⟨fun _ _ _ => record_untruncated hmeets, fun o ho => ?_, ?_⟩
  · obtain ⟨e, he, hout⟩ := List.mem_filterMap.mp ho
    have hwriter := record_writtenBy hmeets e he
    cases e with
    | output o' =>
        obtain rfl := Option.some.inj hout
        cases o' with
        | raw data => cases hwriter
        | flvHeader | flvTag => rfl
    | _ => cases hout
  · rw [hcontent]
    exact record_flvContent hmeets

/-- A parameter set, with the answers `r` of the file system. -/
def setArrival (header : Byte) (r : FileResults) : Arrival :=
  ⟨.ofBytes [0x80, 0x62, 0, 1, 0, 0, 0, 0, 0, 0, 0, 0, header, 0x42, 0x00, 0x1e] 16, r⟩

/-- A slice of type 5 with the marker. -/
def sampleMarkedSlice : Arrival :=
  ⟨.ofBytes [0x80, 0xe2, 0, 3, 0, 0, 0, 0, 0, 0, 0, 0, 0x65, 0x88] 14, .allGood⟩

/-- A file that does not open at first, with both headers and a tag that is lost. -/
def sampleFailures : List Arrival :=
  [setArrival 0x67 ⟨false, true, true, true⟩, setArrival 0x67 ⟨true, true, true, false⟩,
    setArrival 0x68 .allGood, { sampleMarkedSlice with results := ⟨true, true, true, false⟩ },
    sampleMarkedSlice]

/-- It can be played: the header, the sequence header and the second slice. -/
theorem record_playable_sampleFailures :
    PlayableFile (.construct "camera.flv" 90000 .zero) sampleFailures ∧
      fileContent ((RTPDump.construct "camera.flv" 90000 .zero).record sampleFailures).trace =
        [.flvHeader flvHeaderBytes,
          .flvTag .video 0 ([0x17, 0x00, 0x00, 0x00, 0x00] ++
            avcDecoderConfiguration [0x67, 0x42, 0x00, 0x1e] [0x68, 0x42, 0x00, 0x1e]),
          .flvTag .video 0 [0x17, 0x01, 0x00, 0x00, 0x00, 0, 0, 0, 2, 0x65, 0x88]] :=
  ⟨record_playable "camera.flv" 90000 .zero (by decide +kernel), by decide +kernel⟩

/-- **Two files that no player can read**: the header write fails and the parameter sets are written
after nothing; or the sequence-header write fails and a slice is written after the FLV header. -/
theorem record_unplayable :
    ¬ Playable (fileContent ((RTPDump.construct "camera.flv" 90000 .zero).record
      [setArrival 0x67 ⟨true, false, true, true⟩, setArrival 0x68 .allGood]).trace) ∧
    ¬ Playable (fileContent ((RTPDump.construct "camera.flv" 90000 .zero).record
      [setArrival 0x67 .allGood, setArrival 0x68 ⟨true, true, true, false⟩,
        sampleMarkedSlice]).trace) := by
  constructor
  · intro hplayable
    have hhead : Output.flvTag .video 0 ([0x17, 0x00, 0x00, 0x00, 0x00] ++
          avcDecoderConfiguration [0x67, 0x42, 0x00, 0x1e] [0x68, 0x42, 0x00, 0x1e]) ∈
        (fileContent ((RTPDump.construct "camera.flv" 90000 .zero).record
          [setArrival 0x67 ⟨true, false, true, true⟩, setArrival 0x68 .allGood]).trace).head? := by
      decide +kernel
    exact hplayable.header _ hhead
  · intro hplayable
    have hcontent : fileContent ((RTPDump.construct "camera.flv" 90000 .zero).record
        [setArrival 0x67 .allGood, setArrival 0x68 ⟨true, true, true, false⟩,
          sampleMarkedSlice]).trace = [.flvHeader flvHeaderBytes] ++
        .flvTag .video 0 ([0x17, 0x01, 0x00, 0x00, 0x00, 0, 0, 0, 2, 0x65, 0x88]) :: [] := by
      decide +kernel
    obtain ⟨o, ho, hsequence⟩ := hplayable.sequenceHeader _ _ _ hcontent rfl
    obtain rfl := List.mem_singleton.mp ho
    cases hsequence

end RtpCapture
