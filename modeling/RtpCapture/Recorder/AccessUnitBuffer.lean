import RtpCapture.Recorder.Progress

/-! # The access-unit buffer

`m_length` grows with every slice and is cleared by a slice with the marker only; nothing compares
it with the size of `video_data`.

* **`SlicesFit`** — the slices since the last one with the marker, each with its four length bytes,
  fit behind the five header bytes.
* **`record_videoDataCopy_fits`** — then every copy of a slice stays inside `video_data`.
* **`record_videoDataCopy_overruns`** — slices without a marker overrun it. -/

namespace RtpCapture

open Traced

/-! ## Recordings that fit -/

/-- **The slices fit**: whenever a slice comes after the sequence header, the slices since the last
one with the marker and this one, with their lengths, fit behind the five header bytes. -/
def SlicesFit (cs : List Call) : Prop :=
  Always (fun past c => (assemble past).sets = 2 → c.isSlice = true →
    5 + (pack ((assemble past).pending ++ [c])).length ≤ videoDataSize) cs

instance (cs : List Call) : Decidable (SlicesFit cs) := inferInstanceAs (Decidable (Always _ _))

/-- An event that is not a copy past the end of `video_data`. -/
def Event.VideoDataFits : Event → Prop
  | .videoDataCopy offset length => offset + length ≤ videoDataSize
  | _ => True

/-- One more NAL unit takes its length and four bytes. -/
@[simp] theorem length_pack_concat (cs : List Call) (c : Call) :
    (pack (cs ++ [c])).length = (pack cs).length + (4 + c.nal.length) := by
  simp [pack]

/-- **The copies of slices stay inside `video_data`** in every recording whose slices fit. -/
theorem record_videoDataCopy_fits (fileName : String) (videoFrequency : Word) (u : Uninitialised)
    (as : List Arrival) (hfit : SlicesFit ((Depacketizer.start (u.nalData 0)).handed as)) :
    ∀ e ∈ ((RTPDump.construct fileName videoFrequency u).record as).trace, e.VideoDataFits := by
  intro e he
  obtain ⟨history, rest, htrace⟩ := List.append_of_mem he
  have hallowed := allowed_of_trace htrace
  cases e with
  | videoDataCopy offset length =>
      obtain ⟨past, c, hcalls, hsets, hslice, rfl, rfl⟩ := hallowed
      obtain ⟨later, hlater⟩ := calls_history htrace
      rw [hcalls, List.append_assoc] at hlater
      have hfits := hfit past c later hlater.symm hsets hslice
      rw [length_pack_concat] at hfits
      show 5 + _ + 4 + _ ≤ videoDataSize
      omega
  | _ => trivial

/-! ## Recordings that do not -/

/-- **A slice is copied** behind the pending ones. -/
theorem videoHandler_copies {m : Assembly} {d : RTPDump} {c : Call} {buf : Memory} {len : ℕ}
    (hm : m.Matches d) (hc : c.ReadFrom buf len) (hfrequency : 0 < d.videoFrequency.toInt)
    (hsets : m.sets = 2) (hslice : c.isSlice = true) (r : FileResults) (time : Word)
    (marker : Bool) :
    .videoDataCopy (5 + d.length + 4) len ∈ (videoHandler r d buf len time marker).trace := by
  unfold videoHandler
  rw [Clock.tick_of_pos hfrequency, emit_bind]
  refine List.mem_cons_of_mem _ ?_
  dsimp only
  rw [emit_bind]
  refine List.mem_cons_of_mem _ (mem_trace_bind_left ?_)
  rw [nalPhase, if_neg (not_not.mpr (hm.sets.trans hsets)), slicePhase, hc.type,
    if_pos (of_decide_eq_true hslice), emit_bind]
  exact List.mem_cons_self

/-- A single-NAL packet that reaches the H.264 part copies its slice. -/
theorem step_copies {s : Depacketizer} {history : List Event} {d : RTPDump} (hs : s.Matches d)
    (h : Simulates history d) (hfrequency : 0 < d.videoFrequency.toInt) {a : Arrival}
    (hreaches : s.route.reaches a = true) (hfua : a.packet.isFuA = false)
    (hsets : (assemble (calls history)).sets = 2) {c : Call} (hcall : s.call a = some c)
    (hslice : c.isSlice = true) :
    ∃ offset length, .videoDataCopy offset length ∈ (d.step a).trace ∧
      offset + length = 5 + (pack ((assemble (calls history)).pending ++ [c])).length := by
  have hc : c.ReadFrom a.packet.h264Buf a.packet.h264Len := by
    rw [Depacketizer.call, if_pos hreaches, Depacketizer.completed, hfua] at hcall
    obtain rfl := Option.some.inj hcall
    exact ⟨rfl, rfl⟩
  -- an audio packet does not reach the H.264 part
  rcases step_cases d a with ⟨haudio, -, -⟩ | ⟨pre, d', hprelude, -, hstep⟩
  · rw [(s.route.next_of_isAudio haudio).2] at hreaches
    cases hreaches
  obtain ⟨psOutfile, hd'⟩ := hprelude.state
  have hm' : (assemble (calls history)).Matches d' := by
    rw [hd']
    exact ⟨h.arrays.sets, h.arrays.sps, h.arrays.pps, h.arrays.length, h.arrays.data⟩
  refine ⟨5 + d'.length + 4, a.packet.h264Len, ?_, ?_⟩
  · rw [hstep, hs.route, if_pos hreaches, nalHandler,
      if_neg fun h28 => Bool.eq_false_iff.mp hfua (Packet.isFuA_iff.mpr h28)]
    exact List.mem_append_right _
      (videoHandler_copies hm' hc (by rw [hd']; exact hfrequency) hsets hslice _ _ _)
  · rw [length_pack_concat, ← hm'.length, hc.length]
    omega

/-- An SPS of four bytes. -/
def sampleSps : Arrival :=
  ⟨.ofBytes [0x80, 0x62, 0, 1, 0, 0, 0, 0, 0, 0, 0, 0, 0x67, 0x42, 0x00, 0x1e] 16, .allGood⟩

/-- A PPS of two bytes. -/
def samplePps : Arrival :=
  ⟨.ofBytes [0x80, 0x62, 0, 2, 0, 0, 0, 0, 0, 0, 0, 0, 0x68, 0xce] 14, .allGood⟩

/-- A slice of 1488 bytes without a marker. -/
def sampleSlice : Arrival :=
  ⟨.ofBytes [0x80, 0x62, 0, 3, 0, 0, 0, 0, 0, 0, 0, 0, 0x61] 1500, .allGood⟩

/-- It is a NAL unit in a packet of its own. -/
theorem sampleSlice_isWhole : IsWhole sampleSlice := ⟨by decide, by decide, rfl, by decide⟩

/-- Both parameter sets and `k` slices. -/
def sampleSlices (k : ℕ) : List Arrival := [sampleSps, samplePps] ++ List.replicate k sampleSlice

/-- So are all of these. -/
theorem sampleSlices_isWhole (k : ℕ) : ∀ a ∈ sampleSlices k, IsWhole a := by
  intro a ha
  rcases List.mem_append.mp ha with ha | ha
  · rcases List.mem_pair.mp ha with rfl | rfl <;>
      exact ⟨by decide, by decide, rfl, by decide⟩
  · rw [List.eq_of_mem_replicate ha]
    exact sampleSlice_isWhole

/-- The assembly after `k` slices: all of them pending. -/
theorem assemble_sampleSlices (s : Depacketizer) (k : ℕ) :
    (assemble (s.handed (sampleSlices k))).sets = 2 ∧
      (assemble (s.handed (sampleSlices k))).pending =
        List.replicate k sampleSlice.packet.wholeCall := by
  rw [IsWhole.handed (sampleSlices_isWhole k)]
  induction k with
  | zero => exact ⟨by decide, by decide⟩
  | succ k ih =>
      have hsucc : sampleSlices (k + 1) = sampleSlices k ++ [sampleSlice] := by
        rw [sampleSlices, sampleSlices, List.append_assoc, List.replicate_succ']
      have hslice : sampleSlice.packet.wholeCall.isSlice = true := by decide
      have hmarker : ¬ sampleSlice.packet.wholeCall.marker = true := by decide
      rw [hsucc, List.map_append, List.map_singleton, assemble_concat, Assembly.feed,
        if_neg (not_not.mpr ih.1), Assembly.storeSlice, if_pos hslice, if_neg hmarker]
      exact ⟨ih.1, by rw [ih.2, List.replicate_succ']⟩

/-- The length of the slice. -/
theorem length_sampleSlice : sampleSlice.packet.wholeCall.nal.length = 1488 := by
  rw [Packet.length_wholeCall]
  decide

/-- Together, `k` slices need `1492 * k` bytes. -/
theorem length_pack_sampleSlices (k : ℕ) :
    (pack (List.replicate k sampleSlice.packet.wholeCall)).length = 1492 * k := by
  have hlength := length_sampleSlice
  induction k with
  | zero => rfl
  | succ k ih =>
      rw [List.replicate_succ', length_pack_concat, ih, hlength]
      ring

/-- As long as the slices fit, the recording goes on. -/
theorem sampleSlices_returns {k : ℕ} (hk : 5 + 1492 * k ≤ videoDataSize) :
    ∃ d, ((RTPDump.construct "camera.flv" 90000 .zero).record (sampleSlices k)).outcome =
      .ok d := by
  have hwhole := sampleSlices_isWhole k
  have hsps : IsWhole sampleSps := hwhole _ (by simp [sampleSlices])
  have hpps : IsWhole samplePps := hwhole _ (by simp [sampleSlices])
  refine record_returns "camera.flv" 90000 .zero (by decide) (always_append.mpr ⟨?_, ?_⟩)
  · rw [always_cons, always_singleton]
    refine ⟨hsps.fits _ ⟨by decide, fun _ h => absurd h (by decide), by decide⟩,
      hpps.fits _ ⟨by decide, fun _ _ => ?_, by decide⟩⟩
    exact ⟨[0x67, 0x42, 0x00, 0x1e], [0x68, 0xce], by decide, by decide, by decide, by decide,
      by decide⟩
  · refine always_replicate fun j hj => ?_
    have hslice : IsWhole sampleSlice := sampleSlice_isWhole
    obtain ⟨hsets, hpending⟩ := assemble_sampleSlices (Depacketizer.start 0) j
    refine hslice.fits _ ⟨fun h => (h hsets).elim, fun h => (h hsets).elim, fun _ _ => ?_⟩
    have hlength : (pack ((assemble ((Depacketizer.start 0).handed (sampleSlices j))).pending ++
        [sampleSlice.packet.wholeCall])).length = 1492 * j + (4 + 1488) := by
      rw [length_pack_concat, hpending, length_pack_sampleSlices, length_sampleSlice]
    exact (Nat.le_of_eq (congrArg (5 + ·) hlength)).trans (by omega)

/-- Both parameter sets, a picture of two slices with the marker on the second, and two slices of
the next picture. -/
def sampleUnits : List Arrival :=
  [sampleSps, samplePps, .ofPayload false 98 0 [0x65, 1], .ofPayload true 98 0 [0x65, 2],
    .ofPayload false 98 3600 [0x61, 3], .ofPayload false 98 3600 [0x61, 4, 5]]

/-- They fit: a marker empties the buffer, and the last copy is behind the slice in front of it. -/
theorem record_videoDataCopy_fits_sampleUnits :
    (∀ e ∈ ((RTPDump.construct "camera.flv" 90000 .zero).record sampleUnits).trace,
        e.VideoDataFits) ∧
      .videoDataCopy (5 + 6 + 4) 2 ∈
        ((RTPDump.construct "camera.flv" 90000 .zero).record sampleUnits).trace ∧
      .videoDataCopy (5 + 0 + 4) 2 ∈
        ((RTPDump.construct "camera.flv" 90000 .zero).record sampleUnits).trace ∧
      .videoDataCopy (5 + 6 + 4) 3 ∈
        ((RTPDump.construct "camera.flv" 90000 .zero).record sampleUnits).trace :=
  ⟨record_videoDataCopy_fits "camera.flv" 90000 .zero sampleUnits (by decide +kernel),
    by decide +kernel, by decide +kernel, by decide +kernel⟩

/-- **The access-unit buffer can be overrun**: 352 slices of 1488 bytes without a marker write
behind `video_data`, though no NAL unit is longer than 262144 bytes. -/
theorem record_videoDataCopy_overruns :
    (∀ c ∈ (Depacketizer.start 0).handed (sampleSlices 352), c.nal.length ≤ 262144) ∧
      ∃ e ∈ ((RTPDump.construct "camera.flv" 90000 .zero).record (sampleSlices 352)).trace,
        ¬ e.VideoDataFits := by
  constructor
  · rw [IsWhole.handed (sampleSlices_isWhole 352), sampleSlices, List.map_append,
      List.map_replicate]
    intro c hc
    rcases List.mem_append.mp hc with hc | hc
    · rcases List.mem_pair.mp hc with rfl | rfl <;> rw [Packet.length_wholeCall] <;> decide
    · rw [List.eq_of_mem_replicate hc, length_sampleSlice]
      decide
  · obtain ⟨d, hd⟩ := sampleSlices_returns (k := 351) (by decide)
    have hsucc : sampleSlices 352 = sampleSlices 351 ++ [sampleSlice] := by
      rw [sampleSlices, sampleSlices, List.append_assoc, ← List.replicate_succ']
    obtain ⟨hcalls, hs⟩ := (record_calls (RTPDump.matches_construct "camera.flv" 90000 .zero)
      (sampleSlices 351)).2 d hd
    have hsim := (record_simulates "camera.flv" 90000 .zero (sampleSlices 351)).2 d hd
    rw [List.nil_append] at hsim
    obtain ⟨hsets, hpending⟩ := assemble_sampleSlices
      (Depacketizer.start (Uninitialised.zero.nalData 0)) 351
    rw [← hcalls] at hsets hpending
    have hfrequency : d.videoFrequency = BitVec.sdiv 90000 1000 :=
      record_videoFrequency hd
    obtain ⟨offset, length, hmem, hlength⟩ := step_copies hs hsim
      (by rw [hfrequency]; decide)
      (Route.reaches_of_98 sampleSlice_isWhole.isRtp sampleSlice_isWhole.pt
        sampleSlice_isWhole.opened) sampleSlice_isWhole.isFuA hsets
      (sampleSlice_isWhole.call _) (by decide)
    refine ⟨.videoDataCopy offset length, ?_, fun hfits => ?_⟩
    · rw [hsucc, RTPDump.record, run_append_of_ok hd, run_cons]
      exact List.mem_append_right _ (mem_trace_bind_left hmem)
    · rw [length_pack_concat, hpending, length_pack_sampleSlices, length_sampleSlice] at hlength
      exact absurd (hlength.symm.trans_le hfits) (by decide)

end RtpCapture
