import RtpCapture.Recorder.Simulation

/-! # What reaches the file

A write that succeeds puts its tag into the file, right after the call.

* **`videoTags`** — the data of the video tags that reached the file.
* **`Delivers`** — a computation whose video writes all reached the file when it returns; it is kept
  by sequencing, so each branch of `rtpHandler` is looked at on its own.
* **`record_delivers`** — when every write succeeds, the video tags of the file are the video writes
  that were attempted, in the same order. -/

namespace RtpCapture

open Traced

/-! ## Tags and writes -/

/-- The data of the tag that a successful video write puts into the file. -/
def VideoWrite.data : VideoWrite → List Byte
  | .sequenceHeader sps pps => [0x17, 0x00, 0x00, 0x00, 0x00] ++ avcDecoderConfiguration sps pps
  | .nalus data => data

/-- The video tag an event puts into the file. -/
def Event.videoTag? : Event → Option (List Byte)
  | .output (.flvTag .video _ data) => some data
  | _ => none

/-- **The video tags of the file**, oldest first. -/
def videoTags (history : List Event) : List (List Byte) := history.filterMap Event.videoTag?

/-- The video tags of two parts of a trace. -/
@[simp] theorem videoTags_append (h₁ h₂ : List Event) :
    videoTags (h₁ ++ h₂) = videoTags h₁ ++ videoTags h₂ := by
  simp [videoTags]

/-- **Every video write reached the file.** -/
def Reached (history : List Event) : Prop :=
  videoTags history = (videoWrites history).map VideoWrite.data

/-- In an empty trace nothing failed. -/
theorem reached_nil : Reached [] := rfl

/-- Two parts in which everything reached the file. -/
theorem Reached.append {h₁ h₂ : List Event} (hfirst : Reached h₁) (hsecond : Reached h₂) :
    Reached (h₁ ++ h₂) := by
  rw [Reached, videoTags_append, videoWrites_append, List.map_append, hfirst, hsecond]

/-- Events that neither write nor reach the file as video. -/
theorem reached_of_quiet {history : List Event}
    (hquiet : ∀ e ∈ history, e.videoWrite? = none ∧ e.videoTag? = none) : Reached history := by
  rw [Reached, videoTags, videoWrites, List.filterMap_eq_nil_iff.mpr fun e he => (hquiet e he).2,
    List.filterMap_eq_nil_iff.mpr fun e he => (hquiet e he).1, List.map_nil]

/-- The audio handler writes no video tag. -/
theorem Event.IsAudio.silent {flv : Bool} {e : Event} (h : e.IsAudio flv) :
    e.videoWrite? = none ∧ e.videoTag? = none := by
  refine ⟨h.quiet.2, ?_⟩
  cases e with
  | output o => cases o with
    | flvTag type timestamp data =>
        cases type with
        | audio => rfl
        | video => exact h.elim
    | _ => rfl
  | _ => rfl

/-- The opening of files writes no video tag. -/
theorem Event.IsOpening.silent {e : Event} (h : e.IsOpening) :
    e.videoWrite? = none ∧ e.videoTag? = none := by
  refine ⟨h.quiet.2, ?_⟩
  cases e with
  | output o => cases o with
    | flvTag type timestamp data => exact h.elim
    | _ => rfl
  | _ => rfl

/-! ## Computations that deliver their writes -/

/-- **A computation that delivers**: when it returns, its video writes reached the file. -/
structure Delivers {α : Type} (x : Recording α) : Prop where
  reached : ∀ a, x.outcome = .ok a → Reached x.trace

section Delivers

variable {α β : Type}

/-- Returning writes nothing. -/
theorem delivers_pure (a : α) : Delivers (pure a) := ⟨fun _ _ => reached_nil⟩

/-- A fault writes nothing. -/
theorem delivers_fault (f : Fault) : Delivers (fault f : Recording α) := ⟨fun _ h => by cases h⟩

/-- An event of no write. -/
theorem delivers_emit {e : Event} (hwrite : e.videoWrite? = none) (htag : e.videoTag? = none) :
    Delivers (emit e) := by
  refine ⟨fun _ _ => reached_of_quiet fun e' he' => ?_⟩
  rw [List.mem_singleton.mp he']
  exact ⟨hwrite, htag⟩

/-- Two parts that deliver. -/
theorem Delivers.bind {x : Recording α} {k : α → Recording β} (hx : Delivers x)
    (hk : ∀ a, Delivers (k a)) : Delivers (x >>= k) := by
  refine ⟨fun b hb => ?_⟩
  obtain ⟨a, ha, hka, htrace⟩ := bind_eq_ok hb
  rw [htrace]
  exact (hx.reached a ha).append ((hk a).reached b hka)

end Delivers

section Branches

variable {r : FileResults}

/-- **A tag that is written delivers itself.** -/
theorem srsFlvWriteTag_delivers (flv : Bool) (type : TagType) (timestamp : Word)
    (data : List Byte) : Delivers (srsFlvWriteTag flv type timestamp data true) := by
  refine ⟨fun _ h => ?_⟩
  cases flv with
  | false => cases h
  | true => cases type <;> rfl

/-- The sequence header is delivered when the write succeeds. -/
theorem srsFlvWriteSpsPpsTag_delivers (flv : Bool) (timestamp : Word) (sps : Memory) (spsSize : ℤ)
    (pps : Memory) (ppsSize : ℤ) :
    Delivers (srsFlvWriteSpsPpsTag flv timestamp sps spsSize pps ppsSize true) := by
  unfold srsFlvWriteSpsPpsTag muxSequenceHeader
  refine ⟨fun _ h => ?_⟩
  rw [emit_bind] at h ⊢
  split at h
  · cases h
  split at h
  · cases h
  split at h
  · cases h
  split at h
  · cases h
  rename_i hnull hnegative hsps hpps
  rw [pure_bind] at h
  split at h
  · cases h
  rename_i hsize
  rw [if_neg hnull, if_neg hnegative, if_neg hsps, if_neg hpps, pure_bind, if_neg hsize]
  rfl

/-- Storing an SPS writes nothing. -/
theorem storeSps_delivers (d : RTPDump) (buf : Memory) (len : ℕ) :
    Delivers (storeSps d buf len) := by
  unfold storeSps
  split
  · refine (delivers_emit rfl rfl).bind fun _ => ?_
    split
    · exact delivers_fault _
    · exact delivers_pure _
  · exact delivers_pure _

/-- Storing a PPS writes nothing. -/
theorem storePps_delivers (d : RTPDump) (buf : Memory) (len : ℕ) :
    Delivers (storePps d buf len) := by
  unfold storePps
  split
  · exact (delivers_emit rfl rfl).bind fun _ => delivers_pure _
  · exact delivers_pure _

/-- The sequence header reaches the file. -/
theorem parameterSetPhase_delivers (hwritten : r.written = true) (d : RTPDump) (buf : Memory)
    (len : ℕ) (timestamp : Word) : Delivers (parameterSetPhase r d buf len timestamp) := by
  refine (storeSps_delivers ..).bind fun d₁ => (storePps_delivers ..).bind fun d₂ => ?_
  unfold writeSequenceHeader
  rw [hwritten]
  split
  · exact (srsFlvWriteSpsPpsTag_delivers ..).bind fun _ => delivers_pure _
  · exact delivers_pure _

/-- The slices of an access unit reach the file. -/
theorem slicePhase_delivers (hwritten : r.written = true) (d : RTPDump) (buf : Memory) (len : ℕ)
    (timestamp : Word) (marker : Bool) : Delivers (slicePhase r d buf len timestamp marker) := by
  unfold slicePhase flushSlices
  rw [hwritten]
  split
  swap
  · exact delivers_pure _
  refine (delivers_emit rfl rfl).bind fun _ => ?_
  split
  · exact delivers_fault _
  split
  · exact (srsFlvWriteTag_delivers ..).bind fun _ => delivers_pure _
  · exact delivers_pure _

/-- `videoHandler` delivers when its write succeeds. -/
theorem videoHandler_delivers (hwritten : r.written = true) (d : RTPDump) (buf : Memory)
    (len : ℕ) (time : Word) (marker : Bool) :
    Delivers (videoHandler r d buf len time marker) := by
  unfold videoHandler
  refine (delivers_emit rfl rfl).bind fun _ => ?_
  split
  · exact delivers_fault _
  refine (delivers_emit rfl rfl).bind fun _ => Delivers.bind ?_ fun _ => delivers_pure _
  unfold nalPhase
  split
  · exact parameterSetPhase_delivers hwritten ..
  · exact slicePhase_delivers hwritten ..

/-- So does the H.264 part. -/
theorem nalHandler_delivers (hwritten : r.written = true) (d : RTPDump) (p : Packet) :
    Delivers (nalHandler r d p) := by
  by_cases hfua : nalType (p.h264Buf 0) = 28
  swap
  · rw [nalHandler, if_neg hfua]
    exact videoHandler_delivers hwritten ..
  rw [nalHandler_of_fragment hfua]
  refine (delivers_emit rfl rfl).bind fun _ => ?_
  split
  · exact delivers_fault _
  split
  · exact videoHandler_delivers hwritten ..
  · exact delivers_pure _

end Branches

/-! ## Packets -/

/-- One packet delivers its writes. -/
theorem step_delivers {a : Arrival} (hwritten : a.results.written = true) (d : RTPDump) :
    Delivers (d.step a) := by
  rcases step_cases d a with ⟨-, -, hstep⟩ | ⟨pre, d', hprelude, -, hstep⟩
  · rw [hstep]
    exact ⟨fun _ _ => reached_of_quiet fun e he =>
      ((audioHandler_ensures ..).1.forall_mem e he).silent⟩
  · have hpre : Reached pre := reached_of_quiet fun e he => (hprelude.events e he).silent
    rw [hstep]
    split
    · exact ⟨fun d'' h => hpre.append ((nalHandler_delivers hwritten d' a.packet).reached d'' h)⟩
    · exact ⟨fun _ _ => hpre⟩

/-- **When every write succeeds, every video write reaches the file.** -/
theorem record_delivers {as : List Arrival} (hwritten : ∀ a ∈ as, a.results.written = true)
    (d : RTPDump) : Delivers (d.record as) := by
  induction as generalizing d with
  | nil => exact delivers_pure d
  | cons a as ih =>
      rw [RTPDump.record, run_cons]
      exact (step_delivers (hwritten a List.mem_cons_self) d).bind fun d' =>
        ih (fun b hb => hwritten b (List.mem_cons_of_mem a hb)) d'

end RtpCapture
