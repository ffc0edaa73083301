import RtpCapture.Recorder.ParameterSets
import RtpCapture.Recorder.StopReasons

/-! # The sizes of the parameter sets

`videoHandler` copies an SPS of any size into `sps[128]`, and hands both parameter sets to a muxer
that asserts an SPS of at least four bytes and a PPS that is not empty.

* **`SetsFit`** — what the copies and the sequence header ask of the sizes.
* **`SetSizes`** — the sizes that do no harm, said of the first two parameter sets.
* **`record_setsSafe`** — a recording with such parameter sets is safe.
* **`record_setsUnsafe`** — an SPS of 129 and one of three bytes. -/

namespace RtpCapture

open Traced

/-! ## What has to fit -/

/-- **The arrays and the muxer are respected**: the copies into `sps` and `pps` fit, and a sequence
header of one SPS and one PPS can be muxed into the tag buffer. -/
def SetsFit (history : List Event) : Event → Prop
  | .spsCopy n => n ≤ spsArraySize
  | .ppsCopy n => n ≤ spsArraySize
  | .flvWriteSpsPpsTag _ _ sps pps => DifferentKinds (calls history) →
      4 ≤ sps.length ∧ 1 ≤ pps.length ∧ 5 + 11 + sps.length + pps.length ≤ spsPpsTagDataSize
  | _ => True

/-! ## The copies of a recording -/

/-- **A copy of a parameter set** is made for the last call, while the count is below two; of a PPS
only what is kept. -/
def CopiedFrom (history : List Event) : Event → Prop
  | .spsCopy n => ∃ past c, calls history = past ++ [c] ∧ (assemble past).sets ≠ 2 ∧ c.type = 7 ∧
      n = c.nal.length
  | .ppsCopy n => ∃ len, n = ppsKept len
  | _ => True

section Copies

variable {d : RTPDump} {r : FileResults} {history : List Event} {buf : Memory} {len : ℕ}

/-- The parameter sets of a call. -/
theorem parameterSetPhase_copiedFrom {past : List Call} {c : Call} (hread : c.ReadFrom buf len)
    (hcalls : calls history = past ++ [c]) (hsets : (assemble past).sets ≠ 2) (timestamp : Word) :
    Ensures CopiedFrom history (parameterSetPhase r d buf len timestamp) fun _ _ => True := by
  have hsps : Ensures CopiedFrom history (storeSps d buf len) fun _ _ => True := by
    unfold storeSps
    split
    case isTrue htype =>
      rw [hread.type] at htype
      refine ensures_emit_bind ⟨past, c, hcalls, hsets, htype, hread.length.symm⟩ ?_
      split
      · exact ensures_fault _
      · exact ensures_pure trivial
    case isFalse => exact ensures_pure trivial
  refine hsps.bind fun grown d₁ _ => ?_
  refine Ensures.bind (Q := fun _ _ => True) ?_ fun grown d₂ _ => ?_
  · unfold storePps
    split
    · exact ensures_emit_bind ⟨len, rfl⟩ (ensures_pure trivial)
    · exact ensures_pure trivial
  · unfold writeSequenceHeader
    split
    · exact (srsFlvWriteSpsPpsTag_ensures trivial fun _ _ => trivial).bind
        fun _ _ _ => ensures_pure trivial
    · exact ensures_pure trivial

/-- A slice copies no parameter set. -/
theorem slicePhase_copiedFrom (timestamp : Word) (marker : Bool) :
    Ensures CopiedFrom history (slicePhase r d buf len timestamp marker) fun _ _ => True := by
  unfold slicePhase
  split
  swap
  · exact ensures_pure trivial
  refine ensures_emit_bind trivial ?_
  split
  · exact ensures_fault _
  split
  · exact (srsFlvWriteTag_ensures trivial fun _ _ => trivial).bind
      fun _ _ _ => ensures_pure trivial
  · exact ensures_pure trivial

/-- **A call of `videoHandler`** copies its own NAL unit. -/
theorem videoHandler_copiedFrom (hsets : d.isSpsPpsOk = (assemble (calls history)).sets)
    (time : Word) (marker : Bool) :
    Ensures CopiedFrom history (videoHandler r d buf len time marker) fun _ _ => True := by
  unfold videoHandler
  refine ensures_emit_bind trivial ?_
  cases d.videoClock.tick d.videoFrequency time with
  | none => exact ensures_fault _
  | some result =>
      obtain ⟨clock, timestamp⟩ := result
      refine ensures_emit_bind trivial ?_
      refine Ensures.bind (Q := fun _ _ => True) ?_ fun _ _ _ => ensures_pure trivial
      unfold nalPhase
      split
      case isTrue hphase =>
        have hcalls : calls (history ++ [.videoHandler (nalType (buf 0)) (buf.read 0 len) time marker]
            ++ [.videoTimestamp timestamp]) =
              calls history ++ [⟨nalType (buf 0), buf.read 0 len, time, marker⟩] := by
          simp [calls, Event.call?]
        exact parameterSetPhase_copiedFrom ⟨rfl, rfl⟩ hcalls (hsets ▸ hphase) timestamp
      case isFalse => exact slicePhase_copiedFrom ..

/-- The H.264 part. -/
theorem nalHandler_copiedFrom (hsets : d.isSpsPpsOk = (assemble (calls history)).sets)
    (p : Packet) : Ensures CopiedFrom history (nalHandler r d p) fun _ _ => True := by
  refine nalHandler_ensures (fun _ => videoHandler_copiedFrom hsets ..) (fun _ => trivial)
    (fun _ _ => videoHandler_copiedFrom ?_ ..) fun _ _ => trivial
  -- the copy of a fragment is no call, and gathering it touches no parameter set
  obtain ⟨nalData, nalLength, hgathered⟩ := d.gathered_eq p
  have hcalls : calls (history ++ [d.fragmentCopy p]) = calls history := by
    simp [calls, Event.call?, RTPDump.fragmentCopy]
  rw [hgathered, hcalls]
  exact hsets

/-- **One packet** copies the parameter set of its own call. -/
theorem step_copiedFrom (h : Simulates history d) (a : Arrival) :
    Ensures CopiedFrom history (d.step a) Simulates := by
  refine ⟨?_, (step_simulates h a).2⟩
  have hcopied : Ensures CopiedFrom history (d.step a) fun _ _ => True := by
    refine step_preserves (fun _ _ _ _ _ => ⟨always_of_forall fun past e he => ?_, fun _ _ => trivial⟩)
      (fun past e he => ?_) (fun _ _ _ _ => trivial) fun pre d' hprelude _ _ => ?_
    · -- the audio handler copies no parameter set
      have haudio := (audioHandler_ensures ..).1.forall_mem e he
      cases e with
      | spsCopy | ppsCopy => exact haudio.elim
      | _ => trivial
    · cases e with
      | spsCopy | ppsCopy => exact he.elim
      | _ => trivial
    · exact nalHandler_copiedFrom (h.of_prelude hprelude).arrays.sets a.packet
  exact hcopied.1

end Copies

/-! ## Safe sizes -/

/-- **Sizes that do no harm**, said of the first two parameter sets handed to `videoHandler`: an SPS
fits its array; an SPS and a PPS are not too short for the muxer. -/
structure SetSizes (cs : List Call) : Prop where
  sps_le : ∀ c ∈ (cs.filter Call.isParameterSet).take 2, c.type = 7 →
    c.nal.length ≤ spsArraySize
  pair : ∀ c c', (cs.filter Call.isParameterSet).take 2 = [c, c'] → c.type ≠ c'.type →
    ∀ x ∈ [c, c'], (x.type = 7 → 4 ≤ x.nal.length) ∧ (x.type = 8 → 1 ≤ x.nal.length)

/-- **A safe recording**: the copies and sequence headers respect the sizes, and it does not stop at
one that does not. -/
structure SetsSafe (x : Recording RTPDump) : Prop where
  events : Always SetsFit x.trace
  spsOverrun : x.outcome ≠ .error .spsOverrun
  header : DifferentKinds (calls x.trace) →
    x.outcome ≠ .error .spsPpsTagOverrun ∧ x.outcome ≠ .error .assertion

/-- What is kept of a PPS has at most fifty bytes. -/
theorem ppsKept_le_fifty (len : ℕ) : ppsKept len ≤ 50 := by
  unfold ppsKept
  split <;> omega

/-- A PPS that is not empty keeps a byte. -/
theorem ppsKept_pos {len : ℕ} (h : 1 ≤ len) : 1 ≤ ppsKept len ∧ ppsKept len ≤ len := by
  unfold ppsKept
  split <;> omega

/-- The first two of a list whose first part has two. -/
theorem take_two_filter {cs later : List Call} {c c' : Call}
    (h : cs.filter Call.isParameterSet = [c, c']) :
    ((cs ++ later).filter Call.isParameterSet).take 2 = [c, c'] := by
  rw [List.filter_append, h]
  rfl

/-- A parameter set that comes when fewer than two are counted is one of the first two. -/
theorem mem_take_two {past later : List Call} {c : Call} (hsets : (assemble past).sets ≠ 2)
    (hset : c.isParameterSet = true) :
    c ∈ ((past ++ [c] ++ later).filter Call.isParameterSet).take 2 := by
  rw [assemble_sets_eq_min] at hsets
  have hone : [c].filter Call.isParameterSet = [c] := by simp [hset]
  rw [List.filter_append, List.filter_append, hone]
  have hshort : (past.filter Call.isParameterSet ++ [c]).length ≤ 2 := by
    rw [List.length_append, List.length_singleton]
    omega
  rw [List.take_append, List.take_of_length_le hshort]
  simp

section Safe

variable {fileName : String} {videoFrequency : Word} {u : Uninitialised} {as : List Arrival}

/-- **The events of a recording** respect the sizes. -/
theorem record_setsFit (h : SetSizes ((Depacketizer.start (u.nalData 0)).handed as)) :
    Always SetsFit ((RTPDump.construct fileName videoFrequency u).record as).trace := by
  have hinit := (record_simulates fileName videoFrequency u []).2 _ rfl
  have hcopied : Always CopiedFrom ((RTPDump.construct fileName videoFrequency u).record as).trace :=
    (run_invariant Simulates (fun _ _ a h => step_copiedFrom h a) hinit as).1
  intro history e rest htrace
  obtain ⟨later, hlater⟩ := calls_history htrace
  -- only three events have to do with the sizes
  cases e with
  | spsCopy n =>
      obtain ⟨past, c, hcalls, hsets, htype, rfl⟩ := hcopied history _ rest htrace
      refine h.sps_le c ?_ htype
      rw [← hlater, hcalls]
      exact mem_take_two hsets (decide_eq_true (.inl htype))
  | ppsCopy n =>
      obtain ⟨len, rfl⟩ := hcopied history _ rest htrace
      exact (ppsKept_le_fifty len).trans (by decide)
  | flvWriteSpsPpsTag flv timestamp sps pps =>
      intro hkinds
      -- the header has the last set of each kind, of the two that were handed over
      obtain ⟨c, c', htwo, hheader⟩ := sequenceHeader_of_trace htrace
      have hdiffer : c.type ≠ c'.type := hkinds c c' [] htwo
      obtain ⟨hsps, nal, hpps, rfl⟩ := hheader hdiffer
      have hfirst := @take_two_filter _ later _ _ htwo
      rw [hlater] at hfirst
      have hmem : ∀ x ∈ calls history, x.isParameterSet = true → x ∈ [c, c'] := by
        intro x hx hset
        rw [← htwo]
        exact List.mem_filter.mpr ⟨hx, hset⟩
      obtain ⟨x, hx, hxtype, rfl⟩ := exists_of_lastNal hsps
      obtain ⟨y, hy, hytype, rfl⟩ := exists_of_lastNal hpps
      have hxmem := hmem x hx (decide_eq_true (.inl hxtype))
      have hmin := (h.pair c c' hfirst hdiffer x hxmem).1 hxtype
      have hmax := h.sps_le x (hfirst ▸ hxmem) hxtype
      have hpos := (h.pair c c' hfirst hdiffer y
        (hmem y hy (decide_eq_true (.inr hytype)))).2 hytype
      -- a PPS of more than fifty bytes is kept in part
      have hlength : (keptPps y.nal).length = ppsKept y.nal.length := by
        rw [keptPps, List.length_take, Nat.min_eq_left (ppsKept_pos hpos).2]
      have hkept := ppsKept_le_fifty y.nal.length
      rw [hlength]
      refine ⟨hmin, (ppsKept_pos hpos).1, ?_⟩
      unfold spsArraySize at hmax
      unfold spsPpsTagDataSize
      omega
  | _ => trivial

/-- **Parameter sets of safe sizes are stored and written safely.** -/
theorem record_setsSafe (fileName : String) (videoFrequency : Word) (u : Uninitialised)
    (as : List Arrival) (h : SetSizes ((Depacketizer.start (u.nalData 0)).handed as)) :
    SetsSafe ((RTPDump.construct fileName videoFrequency u).record as) := by
  have hfit := @record_setsFit fileName videoFrequency u as h
  have hstops := (record_stopReason (d := .construct fileName videoFrequency u)
    (.inl trivial) as).stops
  have hcalls : ∀ {before : List Event} {flv timestamp sps pps},
      calls (before ++ [.flvWriteSpsPpsTag flv timestamp sps pps]) = calls before := by
    intro before flv timestamp sps pps
    simp [calls, Event.call?]
  refine ⟨hfit, fun hfault => ?_, fun hkinds => ⟨fun hfault => ?_, fun hfault => ?_⟩⟩
  · obtain ⟨before, n, htrace, hlarge⟩ := hstops _ hfault
    exact absurd (hfit before _ [] htrace) (Nat.not_le.mpr hlarge)
  · obtain ⟨before, flv, timestamp, sps, pps, htrace, hlarge⟩ := hstops _ hfault
    rw [List.nil_append] at htrace
    rw [htrace, hcalls] at hkinds
    obtain ⟨-, -, hsize⟩ := hfit before _ [] htrace hkinds
    omega
  · obtain ⟨before, flv, timestamp, sps, pps, htrace, hshort⟩ := hstops _ hfault
    rw [List.nil_append] at htrace
    rw [htrace, hcalls] at hkinds
    obtain ⟨hmin, hpos, -⟩ := hfit before _ [] htrace hkinds
    omega

end Safe

/-- An SPS of four bytes and a PPS of two. -/
theorem record_setsSafe_sample :
    SetsSafe ((RTPDump.construct "camera.flv" 90000 .zero).record [sampleSps, samplePps]) := by
  refine record_setsSafe "camera.flv" 90000 .zero [sampleSps, samplePps] ?_
  have hhanded : ((Depacketizer.start (Uninitialised.zero.nalData 0)).handed
      [sampleSps, samplePps]).filter Call.isParameterSet =
        [⟨7, [0x67, 0x42, 0x00, 0x1e], 0, false⟩, ⟨8, [0x68, 0xce], 0, false⟩] := by decide
  refine ⟨fun c hc htype => ?_, fun c c' hpair _ x hx => ?_⟩
  · rw [hhanded] at hc
    revert c
    decide
  · rw [hhanded] at hpair
    rw [← hpair] at hx
    revert x
    decide

/-- An SPS of 129 bytes. -/
def sampleLongSps : Arrival :=
  ⟨.ofBytes [0x80, 0x62, 0, 1, 0, 0, 0, 0, 0, 0, 0, 0, 0x67] 141, .allGood⟩

/-- An SPS of three bytes. -/
def sampleShortenedSps : Arrival :=
  ⟨.ofBytes [0x80, 0x62, 0, 1, 0, 0, 0, 0, 0, 0, 0, 0, 0x67, 0x42, 0x00] 15, .allGood⟩

/-- **An SPS of 129 bytes** is copied into an array of 128, and one of three bytes reaches the
assertion of the muxer. -/
theorem record_setsUnsafe :
    ¬ SetsSafe ((RTPDump.construct "camera.flv" 90000 .zero).record [sampleLongSps]) ∧
      ¬ SetsSafe ((RTPDump.construct "camera.flv" 90000 .zero).record
        [sampleShortenedSps, samplePps]) := by
  refine ⟨fun hsafe => ?_, fun hsafe => ?_⟩
  · have hmem : .spsCopy 129 ∈
        ((RTPDump.construct "camera.flv" 90000 .zero).record [sampleLongSps]).trace := by
      decide +kernel
    obtain ⟨before, rest, htrace⟩ := List.append_of_mem hmem
    have hfit : 129 ≤ spsArraySize := hsafe.events before _ rest htrace
    exact absurd hfit (by decide)
  · have htrace : ((RTPDump.construct "camera.flv" 90000 .zero).record
          [sampleShortenedSps, samplePps]).trace =
        ((RTPDump.construct "camera.flv" 90000 .zero).record
          [sampleShortenedSps, samplePps]).trace.take 9 ++
            .flvWriteSpsPpsTag true 0 [0x67, 0x42, 0x00] [0x68, 0xce] :: [] := by
      decide +kernel
    have hcalls : calls (((RTPDump.construct "camera.flv" 90000 .zero).record
          [sampleShortenedSps, samplePps]).trace.take 9) =
        [⟨7, [0x67, 0x42, 0x00], 0, false⟩, ⟨8, [0x68, 0xce], 0, false⟩] := by
      decide +kernel
    have hkinds : DifferentKinds (calls (((RTPDump.construct "camera.flv" 90000 .zero).record
        [sampleShortenedSps, samplePps]).trace.take 9)) := by
      rw [hcalls]
      intro c c' rest hsets
      obtain ⟨rfl, htail⟩ := List.cons.inj hsets
      obtain ⟨rfl, -⟩ := List.cons.inj htail
      decide
    obtain ⟨hmin, -⟩ := hsafe.events _ _ _ htrace hkinds
    exact absurd hmin (by decide)

end RtpCapture
