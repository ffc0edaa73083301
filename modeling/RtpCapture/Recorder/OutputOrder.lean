import RtpCapture.Recorder.Simulation

/-! # The order of the output

The FLV context is opened by the first packet that needs it, the sequence header is written once
both parameter sets are counted, and audio waits for the first call of `videoHandler`. None of this
depends on whether the writes succeed.

* **`InOrder`** — what a tag write or a sequence-header write asks of the events before it.
* **`Untouched`** — the fields a packet leaves alone while the file cannot be opened.
* **`record_in_order`** — every recording keeps the order, whatever the file system answers. -/

namespace RtpCapture

open Traced

/-- The call of `srs_flv_write_sps_pps_tag`. -/
def Event.IsSequenceHeader : Event → Prop
  | .flvWriteSpsPpsTag _ _ _ _ => True
  | _ => False

/-- The entry of `videoHandler`. -/
def Event.IsVideoHandler : Event → Prop
  | .videoHandler _ _ _ _ => True
  | _ => False

/-- **What a write asks of the events before it**: an open context with an FLV header attempted on
it; for the sequence header, that it is the first one; for a video tag, a sequence header; for an
audio tag, a packet that reached `videoHandler`. -/
def InOrder (history : List Event) : Event → Prop
  | .flvWriteSpsPpsTag flv _ _ _ =>
      flv = true ∧ HeaderAttempted history ∧ ∀ e ∈ history, ¬ e.IsSequenceHeader
  | .flvWriteTag flv .video _ _ =>
      flv = true ∧ HeaderAttempted history ∧ ∃ e ∈ history, e.IsSequenceHeader
  | .flvWriteTag flv .audio _ _ =>
      flv = true ∧ HeaderAttempted history ∧ ∃ e ∈ history, e.IsVideoHandler
  | _ => True

/-- **The fields of the reassembly, the access unit, the parameter sets and the clocks.** -/
structure Untouched (d d' : RTPDump) : Prop where
  nalData : d'.nalData = d.nalData
  nalLength : d'.nalLength = d.nalLength
  videoData : d'.videoData = d.videoData
  length : d'.length = d.length
  isSpsPpsOk : d'.isSpsPpsOk = d.isSpsPpsOk
  sps : d'.sps = d.sps
  spsSize : d'.spsSize = d.spsSize
  pps : d'.pps = d.pps
  ppsSize : d'.ppsSize = d.ppsSize
  audioClock : d'.audioClock = d.audioClock
  videoClock : d'.videoClock = d.videoClock

/-- A sequence header among the events shows up among the video writes. -/
theorem not_isSequenceHeader {history : List Event} (h : videoWrites history = []) :
    ∀ e ∈ history, ¬ e.IsSequenceHeader := by
  intro e he
  have hnone := List.filterMap_eq_nil_iff.mp h e he
  cases e <;> first | exact id | cases hnone

/-- The first video write is the sequence header. -/
theorem exists_isSequenceHeader {history : List Event} {sps pps : List Byte}
    {ws : List VideoWrite} (h : videoWrites history = .sequenceHeader sps pps :: ws) :
    ∃ e ∈ history, e.IsSequenceHeader := by
  have hmem : VideoWrite.sequenceHeader sps pps ∈ videoWrites history := by
    rw [h]
    exact List.mem_cons_self
  obtain ⟨e, he, hwrite⟩ := List.mem_filterMap.mp hmem
  refine ⟨e, he, ?_⟩
  cases e with
  | flvWriteSpsPpsTag => trivial
  | flvWriteTag flv type timestamp data => cases type <;> cases hwrite
  | _ => cases hwrite

/-- A call among the calls is an entry of `videoHandler`. -/
theorem exists_isVideoHandler {history : List Event} (h : calls history ≠ []) :
    ∃ e ∈ history, e.IsVideoHandler := by
  obtain ⟨c, hc⟩ := List.exists_mem_of_ne_nil _ h
  obtain ⟨e, he, hcall⟩ := List.mem_filterMap.mp hc
  refine ⟨e, he, ?_⟩
  cases e with
  | videoHandler => trivial
  | _ => cases hcall

/-- What is allowed is in order. -/
theorem Allowed.inOrder {history : List Event} {e : Event} (h : Allowed history e) :
    InOrder history e := by
  cases e with
  | flvWriteSpsPpsTag flv timestamp sps pps =>
      obtain ⟨hflv, hheader, hwrites, -⟩ := h
      exact ⟨hflv, hheader, not_isSequenceHeader hwrites⟩
  | flvWriteTag flv type timestamp data =>
      cases type with
      | audio =>
          obtain ⟨hflv, hheader, hcalls⟩ := h
          exact ⟨hflv, hheader, exists_isVideoHandler hcalls⟩
      | video =>
          obtain ⟨hflv, hheader, past, c, -, hsets, hwrote, -⟩ := h
          obtain ⟨sps, pps, -, hwrites⟩ := hwrote.after hsets
          exact ⟨hflv, hheader, exists_isSequenceHeader hwrites⟩
  | _ => trivial

/-- **A packet that cannot open the file** leaves the video and audio state alone. -/
theorem step_untouched {history : List Event} {d d' : RTPDump} (h : Simulates history d)
    {a : Arrival} (hclosed : d.flv = false) (hopened : a.results.opened = false)
    (hstep : (d.step a).outcome = .ok d') : Untouched d d' := by
  have hreaches : d.route.reaches a = false := by
    simp [Route.reaches, Route.next, hclosed, hopened]
  rcases step_cases d a with ⟨-, hbegin, -⟩ | ⟨pre, d₁, hprelude, -, heq⟩
  · -- audio is not handled before the file is open
    have hcalls : calls history ≠ [] := by
      intro hnil
      rw [h.begun, if_pos hnil] at hbegin
      exact hbegin rfl
    rw [h.flv hcalls] at hclosed
    cases hclosed
  · rw [heq, hreaches] at hstep
    obtain rfl : d₁ = d' := by simpa using hstep
    obtain ⟨psOutfile, rfl⟩ := hprelude.state
    exact ⟨rfl, rfl, rfl, rfl, rfl, rfl, rfl, rfl, rfl, rfl, rfl⟩

/-- **The output is in order.** For every list of packets and every pattern of answers of the file
system: every write comes after what it needs; in every state reached the video flag implies an
open context and the counter is at most two; and for every next packet the counter does not
decrease and a file that cannot be opened leaves the state untouched. -/
theorem record_in_order (fileName : String) (videoFrequency : Word) (u : Uninitialised)
    (as : List Arrival) :
    Always InOrder ((RTPDump.construct fileName videoFrequency u).record as).trace ∧
      ∀ d, ((RTPDump.construct fileName videoFrequency u).record as).outcome = .ok d →
        (d.isVideoBegin = 1 → d.flv = true) ∧ d.isSpsPpsOk ∈ [0, 1, 2] ∧
          ∀ a d', (d.step a).outcome = .ok d' →
            d.isSpsPpsOk ≤ d'.isSpsPpsOk ∧
              (d.flv = false → a.results.opened = false → Untouched d d') := by
  constructor
  · rintro history e rest htrace
    exact (allowed_of_trace htrace).inOrder
  · intro d hd
    have h := (record_simulates fileName videoFrequency u as).2 d hd
    refine ⟨fun hbegin => h.flv fun hnil => ?_, ?_, fun a d' hstep => ⟨?_, ?_⟩⟩
    · rw [h.begun, if_pos hnil] at hbegin
      cases hbegin
    · have hle := assemble_sets_le (calls ([] ++
        ((RTPDump.construct fileName videoFrequency u).record as).trace))
      rw [← h.arrays.sets] at hle
      simp only [List.mem_cons, List.not_mem_nil, or_false]
      omega
    · have h' := (step_simulates h a).2 d' hstep
      rw [h.arrays.sets, h'.arrays.sets, calls_append _ (d.step a).trace]
      exact assemble_sets_mono _ _
    · exact fun hclosed hopened => step_untouched h hclosed hopened hstep

end RtpCapture
