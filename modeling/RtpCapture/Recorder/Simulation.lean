import RtpCapture.Recorder.Assembly

/-! # The recorder simulates the assembly

`videoHandler` works on fixed arrays with lengths beside them; the assembly on lists. This module
ties the two.

* **`Assembly.Matches`** — the arrays hold what the assembly says: the access-unit buffer is the
  length-prefixed concatenation of the pending slices.
* **`Allowed`** — what every write and every copy of a slice has to look like, given the events
  before it; `Simulates` ties the state of a recorder to its trace.
* **`record_simulates`** — every recording emits only allowed events and keeps the tie. -/

namespace RtpCapture

open Traced

/-! ## The arrays of the recorder -/

/-- **The recorder's arrays hold what the assembly says.** -/
structure Assembly.Matches (m : Assembly) (d : RTPDump) : Prop where
  sets : d.isSpsPpsOk = m.sets
  sps : ∀ l, m.sps = some l → d.spsSize = l.length ∧ d.sps.read 0 l.length = l
  pps : ∀ l, m.pps = some l → d.ppsSize = l.length ∧ d.pps.read 0 l.length = l
  length : d.length = (pack m.pending).length
  data : d.videoData.read 5 d.length = pack m.pending

/-- A write into the video tags of the file. -/
inductive VideoWrite
  /-- `srs_flv_write_sps_pps_tag` with its two strings. -/
  | sequenceHeader (sps pps : List Byte)
  /-- `srs_flv_write_tag` with the data of a video tag. -/
  | nalus (data : List Byte)
  deriving DecidableEq, Repr

/-- The video write an event stands for. -/
def Event.videoWrite? : Event → Option VideoWrite
  | .flvWriteSpsPpsTag _ _ sps pps => some (.sequenceHeader sps pps)
  | .flvWriteTag _ .video _ data => some (.nalus data)
  | _ => none

/-- **The video writes attempted** in a trace. -/
def videoWrites (history : List Event) : List VideoWrite := history.filterMap Event.videoWrite?

/-- The video writes of two parts of a trace. -/
@[simp] theorem videoWrites_append (h₁ h₂ : List Event) :
    videoWrites (h₁ ++ h₂) = videoWrites h₁ ++ videoWrites h₂ := by
  simp [videoWrites]

/-- The call that writes a sequence header. -/
theorem videoWrites_cons_sequenceHeader (flv : Bool) (timestamp : Word) (sps pps : List Byte)
    (history : List Event) : videoWrites (.flvWriteSpsPpsTag flv timestamp sps pps :: history) =
      .sequenceHeader sps pps :: videoWrites history := rfl

/-- The call that writes a tag of NAL units. -/
theorem videoWrites_cons_nalus (flv : Bool) (timestamp : Word) (data : List Byte)
    (history : List Event) : videoWrites (.flvWriteTag flv .video timestamp data :: history) =
      .nalus data :: videoWrites history := rfl

/-- What reaches the file is no further attempt. -/
theorem videoWrites_outputs {outs : List Event} (h : AreOutputs outs) : videoWrites outs = [] := by
  apply List.filterMap_eq_nil_iff.mpr
  intro e he
  obtain ⟨o, rfl⟩ := h e he
  rfl

/-- The sequence header written is made of the parameter sets stored last. -/
def Assembly.HeaderOf (m : Assembly) (sps pps : List Byte) : Prop :=
  (∀ l, m.sps = some l → sps = l) ∧ ∀ l, m.pps = some l → pps = l

/-- **The video writes so far**: nothing until two parameter sets are counted, then the sequence
header and one write for each tag. -/
structure Assembly.Wrote (m : Assembly) (ws : List VideoWrite) : Prop where
  before : m.sets ≠ 2 → ws = [] ∧ m.flushed = []
  after : m.sets = 2 → ∃ sps pps, m.HeaderOf sps pps ∧
    ws = .sequenceHeader sps pps :: m.flushed.map fun cs => .nalus (tagData cs)

/-- An FLV header was attempted on an open context. -/
def HeaderAttempted (history : List Event) : Prop :=
  ∃ header, Event.flvWriteHeader true header ∈ history

/-- What was attempted stays so. -/
theorem HeaderAttempted.append {history : List Event} (h : HeaderAttempted history)
    (more : List Event) : HeaderAttempted (history ++ more) := by
  obtain ⟨header, hmem⟩ := h
  exact ⟨header, List.mem_append_left _ hmem⟩

/-- **What a recorder may do after what it has done**: the shape of every tag write, of the
sequence-header write and of every copy of a slice. The last call in the history is the one at
work. -/
def Allowed (history : List Event) : Event → Prop
  | .flvWriteTag flv .audio _ _ => flv = true ∧ HeaderAttempted history ∧ calls history ≠ []
  | .flvWriteTag flv .video _ data => flv = true ∧ HeaderAttempted history ∧
      ∃ past c, calls history = past ++ [c] ∧ (assemble past).sets = 2 ∧
        (assemble past).Wrote (videoWrites history) ∧ c.isSlice = true ∧ c.marker = true ∧
        data = tagData ((assemble past).pending ++ [c])
  | .flvWriteSpsPpsTag flv _ sps pps => flv = true ∧ HeaderAttempted history ∧
      videoWrites history = [] ∧
      ∃ past c, calls history = past ++ [c] ∧ (assemble past).sets ≠ 2 ∧
        (assemble (past ++ [c])).sets = 2 ∧ (assemble (past ++ [c])).HeaderOf sps pps
  | .videoDataCopy offset length =>
      ∃ past c, calls history = past ++ [c] ∧ (assemble past).sets = 2 ∧ c.isSlice = true ∧
        offset = 5 + (pack (assemble past).pending).length + 4 ∧ length = c.nal.length
  | _ => True

/-! ## One call of the video handler -/

/-- The arguments `buf` and `len` of a call of `videoHandler`. -/
structure Call.ReadFrom (c : Call) (buf : Memory) (len : ℕ) : Prop where
  type : nalType (buf 0) = c.type
  nal : buf.read 0 len = c.nal

/-- The NAL unit has the length it was read with. -/
theorem Call.ReadFrom.length {c : Call} {buf : Memory} {len : ℕ} (h : c.ReadFrom buf len) :
    c.nal.length = len := by
  rw [← h.nal, Memory.length_read]

section Phases

variable {m : Assembly} {d : RTPDump} {c : Call} {buf : Memory} {len : ℕ} {history : List Event}

/-- The phases make no call, keep the context and cannot undo the FLV header. -/
theorem ensures_context {x : Recording RTPDump}
    (hx : Ensures (fun _ e => e.IsNalWork) [] x fun _ d' => NalFrame d d') :
    Ensures (fun _ _ => True) history x fun grown d' => NalFrame d d' ∧
      calls grown = calls history ∧ (HeaderAttempted history → HeaderAttempted grown) := by
  refine ⟨fun _ _ _ _ => trivial, fun d' hd' => ⟨hx.2 d' hd', ?_, fun h => h.append _⟩⟩
  rw [calls_append, calls_eq_nil fun e he =>
    Event.call?_eq_none (hx.1.forall_mem e he).isVideoWork.not_isReassembly, List.append_nil]

/-- **The SPS branch** stores what the assembly stores. -/
theorem storeSps_simulates (hm : m.Matches d) (hc : c.ReadFrom buf len) (history : List Event) :
    Ensures Allowed history (storeSps d buf len) fun grown d' =>
      (m.storeSps c).Matches d' ∧ videoWrites grown = videoWrites history := by
  unfold storeSps Assembly.storeSps
  rw [hc.type]
  split
  · refine ensures_emit_bind trivial ?_
    split
    · exact ensures_fault _
    · refine ensures_pure ⟨⟨?_, ?_, hm.pps, hm.length, hm.data⟩, by simp [videoWrites,
        Event.videoWrite?]⟩
      · simp [hm.sets]
      · rintro l hl
        obtain rfl : c.nal = l := Option.some.inj hl
        refine ⟨by rw [hc.length], ?_⟩
        have hread := Memory.read_write_self d.sps 0 c.nal
        rw [hc.nal]
        exact hread
  · exact ensures_pure ⟨hm, rfl⟩

/-- **The PPS branch** stores what the assembly stores. -/
theorem storePps_simulates (hm : m.Matches d) (hc : c.ReadFrom buf len) (history : List Event) :
    Ensures Allowed history (storePps d buf len) fun grown d' =>
      (m.storePps c).Matches d' ∧ videoWrites grown = videoWrites history := by
  unfold storePps Assembly.storePps
  rw [hc.type]
  split
  · have hkept : buf.read 0 (ppsKept len) = keptPps c.nal := by
      have hle : ppsKept len ≤ len := by
        unfold ppsKept
        split <;> omega
      rw [keptPps, hc.length, ← hc.nal, Memory.take_read buf 0 hle]
    have hlength : (keptPps c.nal).length = ppsKept len := by
      rw [← hkept, Memory.length_read]
    refine ensures_emit_bind trivial (ensures_pure ⟨⟨?_, hm.sps, ?_, hm.length, hm.data⟩,
      by simp [videoWrites, Event.videoWrite?]⟩)
    · simp [hm.sets]
    · rintro l hl
      obtain rfl : keptPps c.nal = l := Option.some.inj hl
      refine ⟨by rw [hlength], ?_⟩
      have hread := Memory.read_write_self d.pps 0 (keptPps c.nal)
      rw [hkept]
      exact hread
  · exact ensures_pure ⟨hm, rfl⟩

/-- **The sequence header** is written from the parameter sets stored last. -/
theorem writeSequenceHeader_simulates {past : List Call} {r : FileResults} {timestamp : Word}
    (hm : m.Matches d) (hcalls : calls history = past ++ [c]) (hbefore : (assemble past).sets ≠ 2)
    (hafter : assemble (past ++ [c]) = m) (hflv : d.flv = true)
    (hheader : HeaderAttempted history) (hwrites : videoWrites history = [])
    (hflushed : m.flushed = []) :
    Ensures Allowed history (writeSequenceHeader r d timestamp) fun grown d' =>
      m.Matches d' ∧ m.Wrote (videoWrites grown) := by
  unfold writeSequenceHeader
  by_cases hsets : m.sets = 2
  · rw [if_pos (hm.sets.trans hsets)]
    -- the arrays hold the last parameter sets of each kind
    have hof : m.HeaderOf (d.sps.read 0 d.spsSize.toNat) (d.pps.read 0 d.ppsSize.toNat) := by
      refine ⟨fun l hl => ?_, fun l hl => ?_⟩
      · obtain ⟨hsize, hread⟩ := hm.sps l hl
        rw [hsize, Int.toNat_natCast, hread]
      · obtain ⟨hsize, hread⟩ := hm.pps l hl
        rw [hsize, Int.toNat_natCast, hread]
    have hallowed : Allowed history (.flvWriteSpsPpsTag d.flv timestamp
        (d.sps.read 0 d.spsSize.toNat) (d.pps.read 0 d.ppsSize.toNat)) :=
      ⟨hflv, hheader, hwrites, past, c, hcalls, hbefore, hafter ▸ hsets, hafter ▸ hof⟩
    refine (srsFlvWriteSpsPpsTag_ensures hallowed fun _ _ => trivial).bind ?_
    rintro grown - ⟨outs, houts, rfl⟩
    refine ensures_pure ⟨hm, fun h => (h hsets).elim, fun _ => ⟨_, _, hof, ?_⟩⟩
    rw [videoWrites_append, hwrites, hflushed, videoWrites_cons_sequenceHeader,
      videoWrites_outputs houts]
    rfl
  · rw [if_neg fun h => hsets (hm.sets.symm.trans h)]
    exact ensures_pure ⟨hm, fun _ => ⟨hwrites, hflushed⟩, fun h => (hsets h).elim⟩

/-- **The parameter-set phase** is the assembly's. -/
theorem parameterSetPhase_simulates {past : List Call} {r : FileResults} {timestamp : Word}
    (hm : (assemble past).Matches d) (hc : c.ReadFrom buf len)
    (hcalls : calls history = past ++ [c]) (hflv : d.flv = true)
    (hheader : HeaderAttempted history) (hwrote : (assemble past).Wrote (videoWrites history))
    (hsets : (assemble past).sets ≠ 2) :
    Ensures Allowed history (parameterSetPhase r d buf len timestamp) fun grown d' =>
      (((assemble past).storeSps c).storePps c).Matches d' ∧
        (((assemble past).storeSps c).storePps c).Wrote (videoWrites grown) := by
  obtain ⟨hwrites, hflushed⟩ := hwrote.before hsets
  refine ((storeSps_simulates hm hc history).and (ensures_context (storeSps_frame ..))).bind ?_
  rintro grown₁ d₁ ⟨⟨hm₁, hwrites₁⟩, hframe₁, hcalls₁, hheader₁⟩
  refine ((storePps_simulates hm₁ hc grown₁).and (ensures_context (storePps_frame ..))).bind ?_
  rintro grown₂ d₂ ⟨⟨hm₂, hwrites₂⟩, hframe₂, hcalls₂, hheader₂⟩
  have hflv₂ : d₂.flv = true := by
    rw [← RTPDump.route_flv, hframe₂.route, hframe₁.route]
    exact hflv
  refine writeSequenceHeader_simulates hm₂ (by rw [hcalls₂, hcalls₁, hcalls]) hsets ?_ hflv₂
    (hheader₂ (hheader₁ hheader)) (by rw [hwrites₂, hwrites₁, hwrites])
    (((assemble past).storeSets_slices c).2.trans hflushed)
  rw [assemble_concat, Assembly.feed, if_pos hsets]

/-- **A slice goes behind the pending ones**, with its length in front. -/
theorem Assembly.Matches.appendSlice (hm : m.Matches d) (hc : c.ReadFrom buf len) :
    Matches { m with pending := m.pending ++ [c] } (appendSlice d buf len) where
  sets := hm.sets
  sps := hm.sps
  pps := hm.pps
  length := by
    simp [RtpCapture.appendSlice, pack, hm.length, hc.length]
    omega
  data := by
    have hlengthBytes := Memory.read_write_append d.videoData 5 d.length (bigEndian32 len)
    rw [hm.data, length_bigEndian32] at hlengthBytes
    have hslice := Memory.read_write_append
      (d.videoData.write (5 + d.length) (bigEndian32 len)) 5 (d.length + 4) c.nal
    rw [hlengthBytes, hc.length] at hslice
    have hpack : pack (m.pending ++ [c]) = pack m.pending ++ bigEndian32 len ++ c.nal := by
      simp [pack, hc.length]
    rw [hpack, ← hslice]
    simp only [RtpCapture.appendSlice, hc.nal]
    rw [Nat.add_comm len 4, Nat.add_assoc 5, Nat.add_assoc d.length]

/-- **The data of a tag**: the five bytes over the front, then everything pending. -/
theorem Assembly.Matches.flushed (hm : m.Matches d) (type : Byte) :
    (d.videoData.write 0 (avcVideoPacket type)).read 0 (d.length + 5) =
      avcVideoPacket type ++ pack m.pending := by
  have hfront := Memory.read_write_self d.videoData 0 (avcVideoPacket type)
  rw [length_avcVideoPacket] at hfront
  rw [Nat.add_comm, Memory.read_add, hfront,
    Memory.read_write_of_disjoint _ _ (Or.inr (by simp)), Nat.zero_add, hm.data]

/-- Emptying the buffer. -/
theorem Assembly.Matches.empty (hm : m.Matches d) (videoData : Memory)
    (flushed : List (List Call)) :
    Matches { m with pending := [], flushed := flushed }
      { d with videoData := videoData, length := 0 } :=
  ⟨hm.sets, hm.sps, hm.pps, rfl, rfl⟩

/-- **The slice phase** is the assembly's. -/
theorem slicePhase_simulates {past : List Call} {r : FileResults} {timestamp : Word}
    (hm : (assemble past).Matches d) (hc : c.ReadFrom buf len)
    (hcalls : calls history = past ++ [c]) (hflv : d.flv = true)
    (hheader : HeaderAttempted history) (hwrote : (assemble past).Wrote (videoWrites history))
    (hsets : (assemble past).sets = 2) :
    Ensures Allowed history (slicePhase r d buf len timestamp c.marker) fun grown d' =>
      ((assemble past).storeSlice c).Matches d' ∧
        ((assemble past).storeSlice c).Wrote (videoWrites grown) := by
  unfold slicePhase Assembly.storeSlice
  rw [hc.type]
  by_cases hslice : c.isSlice = true
  swap
  · rw [if_neg hslice, if_neg fun h => hslice (decide_eq_true h)]
    exact ensures_pure ⟨hm, hwrote⟩
  rw [if_pos hslice, if_pos (of_decide_eq_true hslice)]
  refine ensures_emit_bind ⟨past, c, hcalls, hsets, hslice, by rw [hm.length], hc.length.symm⟩ ?_
  split
  · exact ensures_fault _
  -- the slice is pending now; a marker flushes it with the others
  have happend := hm.appendSlice hc
  have hcalls' : calls (history ++ [.videoDataCopy (5 + d.length + 4) len]) = past ++ [c] := by
    rw [calls_append, hcalls]
    exact List.append_nil _
  have hwrites' : videoWrites (history ++ [.videoDataCopy (5 + d.length + 4) len]) =
      videoWrites history := by simp [videoWrites, Event.videoWrite?]
  by_cases hmarker : c.marker = true
  · rw [if_pos hmarker, if_pos hmarker]
    unfold flushSlices
    have hallowed : Allowed (history ++ [.videoDataCopy (5 + d.length + 4) len])
        (.flvWriteTag (appendSlice d buf len).flv .video timestamp
          (((appendSlice d buf len).videoData.write 0 (avcVideoPacket c.type)).read 0
            ((appendSlice d buf len).length + 5))) :=
      ⟨hflv, hheader.append _, past, c, hcalls', hsets, hwrites' ▸ hwrote, hslice, hmarker, by
        rw [happend.flushed, tagData_concat]⟩
    refine (srsFlvWriteTag_ensures hallowed fun _ _ => trivial).bind ?_
    rintro grown - ⟨-, outs, houts, rfl⟩
    refine ensures_pure ⟨happend.empty _ _, fun h => (h hsets).elim, fun _ => ?_⟩
    obtain ⟨sps, pps, hof, hws⟩ := hwrote.after hsets
    refine ⟨sps, pps, hof, ?_⟩
    rw [videoWrites_append, hwrites', hws, videoWrites_cons_nalus, videoWrites_outputs houts,
      happend.flushed, ← tagData_concat, List.map_append]
    rfl
  · rw [if_neg hmarker, if_neg hmarker]
    refine ensures_pure ⟨happend, ?_⟩
    rw [hwrites']
    exact ⟨hwrote.before, hwrote.after⟩

/-- **Both phases together** are `Assembly.feed`. -/
theorem nalPhase_simulates {past : List Call} {r : FileResults} {timestamp : Word}
    (hm : (assemble past).Matches d) (hc : c.ReadFrom buf len)
    (hcalls : calls history = past ++ [c]) (hflv : d.flv = true)
    (hheader : HeaderAttempted history) (hwrote : (assemble past).Wrote (videoWrites history)) :
    Ensures Allowed history (nalPhase r d buf len timestamp c.marker) fun grown d' =>
      (assemble (past ++ [c])).Matches d' ∧
        (assemble (past ++ [c])).Wrote (videoWrites grown) := by
  unfold nalPhase
  rw [hm.sets, assemble_concat, Assembly.feed]
  by_cases hsets : (assemble past).sets = 2
  · rw [if_neg (not_not.mpr hsets), if_neg (not_not.mpr hsets)]
    exact slicePhase_simulates hm hc hcalls hflv hheader hwrote hsets
  · rw [if_pos hsets, if_pos hsets]
    exact parameterSetPhase_simulates hm hc hcalls hflv hheader hwrote hsets

/-- **One call of `videoHandler` is one call of the assembly.** -/
theorem videoHandler_simulates {r : FileResults} {time : Word} {marker : Bool}
    (hm : (assemble (calls history)).Matches d) (hflv : d.flv = true)
    (hheader : HeaderAttempted history)
    (hwrote : (assemble (calls history)).Wrote (videoWrites history)) :
    Ensures Allowed history (videoHandler r d buf len time marker) fun grown d' =>
      (assemble (calls grown)).Matches d' ∧
        (assemble (calls grown)).Wrote (videoWrites grown) ∧ calls grown ≠ [] ∧
        HeaderAttempted grown ∧ d'.flv = true ∧ d'.isVideoBegin = 1 := by
  -- the call as the assembly sees it
  obtain ⟨c, hevent, hread, rfl⟩ : ∃ c : Call,
      c.event = .videoHandler (nalType (buf 0)) (buf.read 0 len) time marker ∧
        c.ReadFrom buf len ∧ c.marker = marker :=
    ⟨⟨nalType (buf 0), buf.read 0 len, time, marker⟩, rfl, ⟨rfl, rfl⟩, rfl⟩
  unfold videoHandler
  rw [← hevent]
  refine ensures_emit_bind trivial ?_
  cases d.videoClock.tick d.videoFrequency time with
  | none => exact ensures_fault _
  | some result =>
      obtain ⟨clock, timestamp⟩ := result
      refine ensures_emit_bind trivial ?_
      generalize hentered : history ++ [c.event] ++ [.videoTimestamp timestamp] = entered
      have hcalls : calls entered = calls history ++ [c] := by
        rw [← hentered]
        simp [calls, Call.event, Event.call?]
      have hwrites : videoWrites entered = videoWrites history := by
        rw [← hentered]
        simp [videoWrites, Call.event, Event.videoWrite?]
      have hheader' : HeaderAttempted entered := by
        rw [← hentered, List.append_assoc]
        exact hheader.append _
      have hclock : (assemble (calls history)).Matches { d with videoClock := clock } :=
        ⟨hm.sets, hm.sps, hm.pps, hm.length, hm.data⟩
      refine ((nalPhase_simulates hclock hread hcalls hflv hheader' (hwrites ▸ hwrote)).and
        (ensures_context (nalPhase_frame ..))).bind ?_
      rintro grown d' ⟨⟨hm', hwrote'⟩, hframe, hcalls', hheader''⟩
      rw [hcalls] at hcalls'
      rw [← hcalls'] at hm' hwrote'
      refine ensures_pure ⟨⟨hm'.sets, hm'.sps, hm'.pps, hm'.length, hm'.data⟩, hwrote', ?_,
        hheader'' hheader', ?_, rfl⟩
      · rw [hcalls']
        simp
      · exact (congrArg Route.flv hframe.route).trans hflv

end Phases

/-! ## A whole recording -/

/-- **The tie between a recorder and its trace.** -/
structure Simulates (history : List Event) (d : RTPDump) : Prop where
  arrays : (assemble (calls history)).Matches d
  writes : (assemble (calls history)).Wrote (videoWrites history)
  /-- `m_is_video_begin` is set by the first call. -/
  begun : d.isVideoBegin = if calls history = [] then 0 else 1
  /-- Only an open recorder has calls. -/
  flv : calls history ≠ [] → d.flv = true
  header : d.flv = true → HeaderAttempted history

/-- Events that are neither calls nor video writes leave the tie to the fields of `videoHandler`. -/
theorem Simulates.of_quiet {history more : List Event} {d d' : RTPDump} (h : Simulates history d)
    (hquiet : ∀ e ∈ more, e.call? = none ∧ e.videoWrite? = none)
    (harrays : (assemble (calls history)).Matches d → (assemble (calls history)).Matches d')
    (hbegun : d'.isVideoBegin = d.isVideoBegin) (hflv : d.flv = true → d'.flv = true)
    (hheader : d'.flv = true → HeaderAttempted (history ++ more)) :
    Simulates (history ++ more) d' := by
  have hcalls : calls (history ++ more) = calls history := by
    rw [calls_append, calls_eq_nil fun e he => (hquiet e he).1, List.append_nil]
  have hwrites : videoWrites (history ++ more) = videoWrites history := by
    rw [videoWrites_append, videoWrites, videoWrites,
      List.filterMap_eq_nil_iff.mpr fun e he => (hquiet e he).2, List.append_nil]
  exact ⟨hcalls ▸ harrays h.arrays, by rw [hcalls, hwrites]; exact h.writes,
    by rw [hcalls, hbegun, h.begun], fun hne => hflv (h.flv (hcalls ▸ hne)), hheader⟩

/-- The audio handler neither enters `videoHandler` nor writes video. -/
theorem Event.IsAudio.quiet {flv : Bool} {e : Event} (h : e.IsAudio flv) :
    e.call? = none ∧ e.videoWrite? = none := by
  refine ⟨Event.call?_eq_none h.not_isReassembly, ?_⟩
  cases e with
  | flvWriteTag f type timestamp data =>
      cases type with
      | audio => rfl
      | video => exact h.elim
  | _ => first | rfl | exact h.elim

/-- Neither does the opening of files. -/
theorem Event.IsOpening.quiet {e : Event} (h : e.IsOpening) :
    e.call? = none ∧ e.videoWrite? = none := by
  refine ⟨Event.call?_eq_none h.not_isReassembly, ?_⟩
  cases e <;> first | rfl | exact h.elim

/-- The prelude may do what it does at any time. -/
theorem Event.IsOpening.allowed {e : Event} (h : e.IsOpening) (history : List Event) :
    Allowed history e := by
  cases e <;> trivial

/-- The audio handler may do what it does once there was a call. -/
theorem Event.IsAudio.allowed {e : Event} {history : List Event} (h : e.IsAudio true)
    (hheader : HeaderAttempted history) (hcalls : calls history ≠ []) : Allowed history e := by
  cases e with
  | flvWriteTag f type timestamp data =>
      cases type with
      | audio => exact ⟨h, hheader, hcalls⟩
      | video => exact h.elim
  | _ => trivial

/-- **Audio packets keep the tie.** -/
theorem audioHandler_simulates {history : List Event} {d : RTPDump} (h : Simulates history d)
    (hbegin : d.isVideoBegin ≠ 0) (r : FileResults) (payload : List Byte) (time : Word)
    (type : AudioType) :
    Ensures Allowed history (audioHandler r d payload time type) Simulates := by
  have hcalls : calls history ≠ [] := by
    intro hnil
    rw [h.begun, if_pos hnil] at hbegin
    exact hbegin rfl
  have hflv := h.flv hcalls
  obtain ⟨hevents, hpost⟩ := audioHandler_ensures r d payload time type
  rw [hflv] at hevents
  replace hevents := hevents.forall_mem
  constructor
  · refine always_of_forall fun past e he => (hevents e he).allowed ((h.header hflv).append _) ?_
    rw [calls_append]
    exact fun hnil => hcalls (List.append_eq_nil_iff.mp hnil).1
  · intro d' hd'
    obtain ⟨clock, rfl⟩ := hpost d' hd'
    exact h.of_quiet (fun e he => (hevents e he).quiet)
      (fun hm => ⟨hm.sets, hm.sps, hm.pps, hm.length, hm.data⟩) rfl id
      fun _ => (h.header hflv).append _

/-- **The prelude keeps the tie.** -/
theorem Simulates.of_prelude {history pre : List Event} {d d' : RTPDump} {a : Arrival}
    (h : Simulates history d) (hprelude : Prelude d a pre d') : Simulates (history ++ pre) d' := by
  have hheader := hprelude.header
  obtain ⟨psOutfile, rfl⟩ := hprelude.state
  refine h.of_quiet (fun e he => (hprelude.events e he).quiet)
    (fun hm => ⟨hm.sets, hm.sps, hm.pps, hm.length, hm.data⟩) rfl ?_ ?_
  · intro hflv
    simp [Route.next, hflv]
  · intro hopen
    by_cases hflv : d.flv = true
    · exact (h.header hflv).append _
    · obtain ⟨header, hmem⟩ := hheader (Bool.eq_false_iff.mpr hflv) hopen
      exact ⟨header, List.mem_append_right _ hmem⟩

/-- A call of `videoHandler` keeps the tie. -/
theorem Simulates.videoHandler {history : List Event} {d : RTPDump} (h : Simulates history d)
    (hflv : d.flv = true) (r : FileResults) (buf : Memory) (len : ℕ) (time : Word)
    (marker : Bool) : Ensures Allowed history (videoHandler r d buf len time marker) Simulates := by
  refine (videoHandler_simulates h.arrays hflv (h.header hflv) h.writes).imp ?_
  rintro grown d' ⟨harrays, hwrites, hcalls, hheader, hflv', hbegun⟩
  exact ⟨harrays, hwrites, by rw [hbegun, if_neg hcalls], fun _ => hflv', fun _ => hheader⟩

/-- **The H.264 part keeps the tie.** -/
theorem nalHandler_simulates {history : List Event} {d : RTPDump} (h : Simulates history d)
    (hflv : d.flv = true) (r : FileResults) (p : Packet) :
    Ensures Allowed history (nalHandler r d p) Simulates := by
  -- gathering a fragment is no event of the assembly
  have hgathered : Simulates (history ++ [d.fragmentCopy p]) (d.gathered p) ∧
      (d.gathered p).flv = true := by
    obtain ⟨nalData, nalLength, heq⟩ := d.gathered_eq p
    rw [heq]
    refine ⟨h.of_quiet (by simp [Event.call?, Event.videoWrite?, RTPDump.fragmentCopy]) ?_ rfl id
      fun _ => (h.header hflv).append _, hflv⟩
    exact fun hm => ⟨hm.sets, hm.sps, hm.pps, hm.length, hm.data⟩
  obtain ⟨hsimulates, hflv'⟩ := hgathered
  exact nalHandler_ensures (fun _ => h.videoHandler hflv ..) (fun _ => trivial)
    (fun _ _ => hsimulates.videoHandler hflv' ..) fun _ _ => hsimulates

/-- **One packet keeps the tie** and emits only what is allowed. -/
theorem step_simulates {history : List Event} {d : RTPDump} (h : Simulates history d)
    (a : Arrival) : Ensures Allowed history (d.step a) Simulates :=
  step_preserves (fun _ hbegin _ _ _ => audioHandler_simulates h hbegin ..)
    (fun past _ he => he.allowed past) (fun _ _ hprelude _ => h.of_prelude hprelude)
    fun _ _ hprelude _ hopen => nalHandler_simulates (h.of_prelude hprelude) hopen ..

/-- **Every recording is a run of the assembly.** -/
theorem record_simulates (fileName : String) (videoFrequency : Word) (u : Uninitialised)
    (as : List Arrival) :
    Ensures Allowed [] ((RTPDump.construct fileName videoFrequency u).record as) Simulates := by
  refine run_invariant Simulates (fun history d a h => step_simulates h a) ?_ as
  refine ⟨⟨rfl, ?_, ?_, rfl, rfl⟩, ⟨fun _ => ⟨rfl, rfl⟩, fun h => ?_⟩, rfl, ?_, ?_⟩
  · rintro l ⟨⟩
  · rintro l ⟨⟩
  · cases h
  · exact fun h => (h rfl).elim
  · rintro ⟨⟩

/-- Every event of a recording is allowed by the events before it. -/
theorem allowed_of_trace {fileName : String} {videoFrequency : Word} {u : Uninitialised}
    {as : List Arrival} {history rest : List Event} {e : Event}
    (h : ((RTPDump.construct fileName videoFrequency u).record as).trace = history ++ e :: rest) :
    Allowed history e :=
  (record_simulates fileName videoFrequency u as).1 history e rest h

/-- The calls before an event of a recording are calls of the depacketizer. -/
theorem calls_history {fileName : String} {videoFrequency : Word} {u : Uninitialised}
    {as : List Arrival} {history rest : List Event} {e : Event}
    (h : ((RTPDump.construct fileName videoFrequency u).record as).trace = history ++ e :: rest) :
    calls history <+: (Depacketizer.start (u.nalData 0)).handed as := by
  have hall := (record_calls (RTPDump.matches_construct fileName videoFrequency u) as).1
  rw [h, calls_append] at hall
  exact (List.prefix_append _ _).trans hall

end RtpCapture
