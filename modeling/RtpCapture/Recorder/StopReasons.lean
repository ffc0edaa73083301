import RtpCapture.Recorder.Progress

/-! # Why a recording stops

A recording that does not return stops with a fault. The faults about sizes come right behind the
copy or the sequence header whose size is wrong, and the clocks do not trap when there is at least
one tick per millisecond.

* **`StopReason`** — the faults with what stands in front of them.
* **`record_stopReason`** — every recording that stops has such a reason. -/

namespace RtpCapture

open Traced

/-- **Why a recording stops**: a fault about a size stands behind the copy or the sequence header at
which it happens; a division traps where `traps` allows it. -/
def StopReason (traps : Prop) (history : List Event) : Fault → Prop
  | .divisionTrap => traps
  | .spsOverrun => ∃ before n, history = before ++ [.spsCopy n] ∧ spsArraySize < n
  | .assertion => ∃ before flv timestamp sps pps,
      history = before ++ [.flvWriteSpsPpsTag flv timestamp sps pps] ∧
        (sps.length < 4 ∨ pps.length = 0)
  | .spsPpsTagOverrun => ∃ before flv timestamp sps pps,
      history = before ++ [.flvWriteSpsPpsTag flv timestamp sps pps] ∧
        spsPpsTagDataSize < 5 + 11 + sps.length + pps.length
  | _ => True

section Faults

variable {traps : Prop} {d : RTPDump} {r : FileResults} {history : List Event}

/-- A tag write stops at a null context only. -/
theorem srsFlvWriteTag_stopReason (flv : Bool) (type : TagType) (timestamp : Word)
    (data : List Byte) (written : Bool) :
    StopsWith (StopReason traps) history (srsFlvWriteTag flv type timestamp data written) := by
  refine stopsWith_emit_bind ?_
  cases flv with
  | false => exact stopsWith_fault trivial
  | true => cases written <;> exact stopsWith_of_ok rfl

/-- **The sequence header** stops where a size is wrong. -/
theorem srsFlvWriteSpsPpsTag_stopReason (flv : Bool) (timestamp : Word) (sps : Memory)
    (spsSize : ℤ) (pps : Memory) (ppsSize : ℤ) (written : Bool) : StopsWith (StopReason traps) history
      (srsFlvWriteSpsPpsTag flv timestamp sps spsSize pps ppsSize written) := by
  refine stopsWith_emit_bind ?_
  split
  · exact stopsWith_fault trivial
  split
  · exact stopsWith_fault trivial
  unfold muxSequenceHeader
  split
  case isTrue hshort => exact stopsWith_fault ⟨_, _, _, _, _, rfl, .inl hshort⟩
  split
  case isTrue hempty => exact stopsWith_fault ⟨_, _, _, _, _, rfl, .inr hempty⟩
  rw [pure_bind]
  split
  case isTrue hlarge =>
    rw [length_avcDecoderConfiguration] at hlarge
    exact stopsWith_fault ⟨_, _, _, _, _, rfl, by omega⟩
  cases written <;> exact stopsWith_of_ok rfl

/-- The audio handler has no sizes to respect. -/
theorem audioHandler_stopReason (payload : List Byte) (time : Word) (type : AudioType) :
    StopsWith (StopReason traps) history (audioHandler r d payload time type) := by
  refine stopsWith_emit_bind ?_
  rw [Clock.tick_of_pos (by decide)]
  refine stopsWith_emit_bind ?_
  split
  · exact (srsFlvWriteTag_stopReason ..).bind fun _ _ => stopsWith_of_ok rfl
  · exact stopsWith_of_ok rfl

/-- **The parameter sets** stop where a size is wrong. -/
theorem parameterSetPhase_stopReason (buf : Memory) (len : ℕ) (timestamp : Word) :
    StopsWith (StopReason traps) history (parameterSetPhase r d buf len timestamp) := by
  refine StopsWith.bind ?_ fun d₁ _ => StopsWith.bind ?_ fun d₂ _ => ?_
  · unfold storeSps
    split
    · refine stopsWith_emit_bind ?_
      split
      case isTrue hlarge => exact stopsWith_fault ⟨_, _, rfl, hlarge⟩
      case isFalse => exact stopsWith_of_ok rfl
    · exact stopsWith_of_ok rfl
  · unfold storePps
    split <;> exact stopsWith_of_ok rfl
  · unfold writeSequenceHeader
    split
    · exact (srsFlvWriteSpsPpsTag_stopReason ..).bind fun _ _ => stopsWith_of_ok rfl
    · exact stopsWith_of_ok rfl

/-- A slice has no parameter sets. -/
theorem slicePhase_stopReason (buf : Memory) (len : ℕ) (timestamp : Word) (marker : Bool) :
    StopsWith (StopReason traps) history (slicePhase r d buf len timestamp marker) := by
  unfold slicePhase
  split
  swap
  · exact stopsWith_of_ok rfl
  refine stopsWith_emit_bind ?_
  split
  · exact stopsWith_fault trivial
  split
  · exact (srsFlvWriteTag_stopReason ..).bind fun _ _ => stopsWith_of_ok rfl
  · exact stopsWith_of_ok rfl

/-- Both phases. -/
theorem nalPhase_stopReason (buf : Memory) (len : ℕ) (timestamp : Word) (marker : Bool) :
    StopsWith (StopReason traps) history (nalPhase r d buf len timestamp marker) := by
  unfold nalPhase
  split
  · exact parameterSetPhase_stopReason ..
  · exact slicePhase_stopReason ..

/-- A call of `videoHandler`. -/
theorem videoHandler_stopReason (history : List Event) {d : RTPDump}
    (hrate : traps ∨ 0 < d.videoFrequency.toInt) (buf : Memory) (len : ℕ) (time : Word)
    (marker : Bool) :
    StopsWith (StopReason traps) history (videoHandler r d buf len time marker) := by
  refine stopsWith_emit_bind ?_
  rcases hrate with htraps | hpos
  · split
    · exact stopsWith_fault htraps
    exact stopsWith_emit_bind ((nalPhase_stopReason ..).bind fun _ _ => stopsWith_of_ok rfl)
  · rw [Clock.tick_of_pos hpos]
    exact stopsWith_emit_bind ((nalPhase_stopReason ..).bind fun _ _ => stopsWith_of_ok rfl)

/-- The H.264 part. -/
theorem nalHandler_stopReason (history : List Event) {d : RTPDump}
    (hrate : traps ∨ 0 < d.videoFrequency.toInt) (p : Packet) :
    StopsWith (StopReason traps) history (nalHandler r d p) := by
  by_cases hfua : nalType (p.h264Buf 0) = 28
  swap
  · rw [nalHandler, if_neg hfua]
    exact videoHandler_stopReason _ hrate ..
  have hrate' : traps ∨ 0 < (d.gathered p).videoFrequency.toInt := by
    obtain ⟨nalData, nalLength, hgathered⟩ := d.gathered_eq p
    rw [hgathered]
    exact hrate
  rw [nalHandler_of_fragment hfua]
  refine stopsWith_emit_bind ?_
  split
  · exact stopsWith_fault trivial
  split
  · exact videoHandler_stopReason _ hrate' ..
  · exact stopsWith_of_ok rfl

/-- One packet. -/
theorem step_stopReason (history : List Event) {d : RTPDump}
    (hrate : traps ∨ 0 < d.videoFrequency.toInt) (a : Arrival) :
    StopsWith (StopReason traps) history (d.step a) := by
  rcases step_cases d a with ⟨-, -, hstep⟩ | ⟨pre, d', hprelude, -, hstep⟩
  · rw [hstep]
    exact audioHandler_stopReason ..
  · obtain ⟨psOutfile, hd'⟩ := hprelude.state
    have hrate' : traps ∨ 0 < d'.videoFrequency.toInt := by
      rw [hd']
      exact hrate
    rw [hstep]
    split
    · refine ⟨fun f hf => ?_⟩
      rw [← List.append_assoc]
      exact (nalHandler_stopReason _ hrate' _).stops f hf
    · exact stopsWith_of_ok rfl

/-- **A recording that stops has a reason.** -/
theorem record_stopReason {d : RTPDump} (hrate : traps ∨ 0 < d.videoFrequency.toInt)
    (as : List Arrival) : StopsWith (StopReason traps) [] (d.record as) := by
  have hkept : ∀ (d d' : RTPDump) (a : Arrival), traps ∨ 0 < d.videoFrequency.toInt →
      (d.step a).outcome = .ok d' → traps ∨ 0 < d'.videoFrequency.toInt := by
    intro d d' a h hd'
    rwa [step_videoFrequency hd']
  exact run_stopsWith (fun history _ a h => step_stopReason history h a) hkept [] hrate as

end Faults

end RtpCapture
