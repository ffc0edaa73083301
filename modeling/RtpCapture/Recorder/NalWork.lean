import RtpCapture.Foundations.TwoRuns
import RtpCapture.Recorder.Steps

/-! # The fields that the work on a NAL unit uses

Storing parameter sets, collecting slices and writing their tags read and write some fields of the
recorder and leave the others alone; a recorder in which others were changed does the same work.

* **`ApartFromNals`** — a change of a recorder that touches none of the fields in use.
* **`nalPhase_apart`** — the work of the changed recorder is the work of the recorder, changed. -/

namespace RtpCapture

open Traced

/-- **A change of fields that the work on a NAL unit does not use.** -/
structure ApartFromNals (f : RTPDump → RTPDump) : Prop where
  flv : ∀ d, (f d).flv = d.flv
  isSpsPpsOk : ∀ d, (f d).isSpsPpsOk = d.isSpsPpsOk
  sps : ∀ d, (f d).sps = d.sps
  spsSize : ∀ d, (f d).spsSize = d.spsSize
  pps : ∀ d, (f d).pps = d.pps
  ppsSize : ∀ d, (f d).ppsSize = d.ppsSize
  videoData : ∀ d, (f d).videoData = d.videoData
  length : ∀ d, (f d).length = d.length
  setSps : ∀ (d : RTPDump) sps spsSize sets,
    { f d with sps := sps, spsSize := spsSize, isSpsPpsOk := sets } =
      f { d with sps := sps, spsSize := spsSize, isSpsPpsOk := sets }
  setPps : ∀ (d : RTPDump) pps ppsSize sets,
    { f d with pps := pps, ppsSize := ppsSize, isSpsPpsOk := sets } =
      f { d with pps := pps, ppsSize := ppsSize, isSpsPpsOk := sets }
  setVideoData : ∀ (d : RTPDump) videoData length,
    { f d with videoData := videoData, length := length } =
      f { d with videoData := videoData, length := length }

namespace ApartFromNals

variable {f : RTPDump → RTPDump} (hf : ApartFromNals f) (r : FileResults) (d : RTPDump)
  (buf : Memory) (len : ℕ) (timestamp : Word)

include hf

/-- The SPS branch. -/
theorem storeSps : storeSps (f d) buf len = (storeSps d buf len).mapValue f := by
  unfold RtpCapture.storeSps
  rw [hf.sps, hf.isSpsPpsOk]
  split
  · rw [mapValue_emit_bind]
    congr 1
    funext _
    split
    · rfl
    · rw [hf.setSps]
      rfl
  · rfl

/-- The PPS branch. -/
theorem storePps : storePps (f d) buf len = (storePps d buf len).mapValue f := by
  unfold RtpCapture.storePps
  rw [hf.pps, hf.isSpsPpsOk]
  split
  · rw [mapValue_emit_bind]
    congr 1
    funext _
    rw [hf.setPps]
    rfl
  · rfl

/-- The sequence header. -/
theorem writeSequenceHeader : writeSequenceHeader r (f d) timestamp =
    (writeSequenceHeader r d timestamp).mapValue f := by
  unfold RtpCapture.writeSequenceHeader
  rw [hf.isSpsPpsOk, hf.flv, hf.sps, hf.spsSize, hf.pps, hf.ppsSize]
  split
  · rw [mapValue_bind]
    rfl
  · rfl

/-- A slice is appended. -/
theorem appendSlice : appendSlice (f d) buf len = f (appendSlice d buf len) := by
  unfold RtpCapture.appendSlice
  rw [hf.videoData, hf.length, hf.setVideoData]

/-- A tag is written. -/
theorem flushSlices (type : Byte) :
    flushSlices r (f d) type timestamp = (flushSlices r d type timestamp).mapValue f := by
  unfold RtpCapture.flushSlices
  dsimp only
  rw [hf.videoData, hf.length, mapValue_bind]
  congr 1
  · rw [hf.flv]
  · funext _
    exact congrArg pure (hf.setVideoData d _ 0)

/-- The slice branch. -/
theorem slicePhase (marker : Bool) : slicePhase r (f d) buf len timestamp marker =
    (slicePhase r d buf len timestamp marker).mapValue f := by
  unfold RtpCapture.slicePhase
  rw [hf.length, hf.appendSlice, hf.flushSlices]
  split
  · rw [mapValue_emit_bind]
    congr 1
    funext _
    split
    · rfl
    · split
      · rfl
      · rfl
  · rfl

/-- **The work on a NAL unit.** -/
theorem nalPhase_apart (marker : Bool) : nalPhase r (f d) buf len timestamp marker =
    (nalPhase r d buf len timestamp marker).mapValue f := by
  unfold nalPhase parameterSetPhase
  rw [hf.isSpsPpsOk, hf.storeSps, hf.slicePhase]
  split
  · rw [bind_mapValue, mapValue_bind]
    congr 1
    funext d₁
    rw [hf.storePps, bind_mapValue, mapValue_bind]
    congr 1
    funext d₂
    exact hf.writeSequenceHeader r d₂ timestamp
  · rfl

end ApartFromNals

end RtpCapture
