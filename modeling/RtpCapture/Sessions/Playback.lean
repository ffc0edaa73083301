import RtpCapture.Flv.RecordedFile
import RtpCapture.Sessions.Recorders

/-! # The files of a running SDK

At any moment of any run, the process may be killed and the file of a session be cut anywhere. A player
still reads the tags of that session up to there.

* **`Sdk.run_fits`** — every packet that is pushed fits a block, whether a caller or a socket brought it.
* **`Sdk.run_files`** — so every recorder of the system keeps its file in order.
* **`Sdk.run_playback`** — what a player reads of it. -/

namespace RtpCapture

open Traced

/-! ## Packets that fit a block -/

/-- The packet that is brought in, behind the check of its length. -/
def Ingest.delivery? : Ingest → Option Delivery
  | .lockPool d => some d
  | .get d => some d
  | .fill d _ => some d
  | .lockBuffer d _ => some d
  | .push d _ => some d
  | _ => none

/-- A packet that is pushed fits a block. -/
def SdkEvent.FitsBlock : SdkEvent → Prop
  | .pushed _ _ _ len => len ≤ 1500
  | _ => True

namespace Sdk

open SdkEvent

variable {memory : Block → Memory} {st st' : Sdk} {history : List SdkEvent}

/-- **The packets on their way** fit a block. -/
structure Checked (st : Sdk) : Prop where
  blockSize : st.pool.blockSize = 1500
  delivery : ∀ x d, (st.ingest x).delivery? = some d → d.len ≤ 1500

/-- Neither a thread that brings packets in nor the pool has changed. -/
theorem Checked.congr (h : st.Checked) (hingest : st'.ingest = st.ingest)
    (hpool : st'.pool.blockSize = st.pool.blockSize) : st'.Checked :=
  ⟨hpool.trans h.blockSize, hingest ▸ h.delivery⟩

/-- A lock changes no length. -/
theorem Checked.setHolder (h : st.Checked) (t : Option Thread) (m : Mutex) :
    (st.setHolder t m).Checked := by
  cases m <;> exact h.congr rfl rfl

/-- A thread that brings packets in goes on. -/
theorem Checked.setIngest (h : st.Checked) {x : Source} {pc : Ingest}
    (hpc : ∀ d, pc.delivery? = some d → d.len ≤ 1500) : (st.setIngest x pc).Checked := by
  refine ⟨h.blockSize, fun x' d hd => ?_⟩
  by_cases hx : x' = x
  · subst hx
    exact hpc d (by simpa [Sdk.setIngest] using hd)
  · exact h.delivery x' d (by simpa [Sdk.setIngest, Function.update_of_ne hx] using hd)

/-- A thread that brings packets in takes a packet it has checked. -/
theorem stepIngest_fits (h : st.Checked) (x : Source) (fails : Bool) :
    Ensures (fun _ => FitsBlock) history (st.stepIngest x fails) fun _ => Checked := by
  have hdelivery := h.delivery x
  have hafter : ∀ d, (afterScope x).delivery? = some d → d.len ≤ 1500 := by
    intro d hd
    cases x <;> cases hd
  have hnone : ∀ d, Ingest.delivery? .unlockMap = some d → d.len ≤ 1500 := fun d hd => by cases hd
  refine (stepIngest_endsIn st x fails).ensures fun es st' hends => ?_
  generalize st.ingest x = pc at hends hdelivery
  cases hends with
  | lockMap | lockPool | lockBuffer => exact ensures_pure ((h.setHolder _ _).setIngest hdelivery)
  | notFound | overflow => exact ensures_emit_pure trivial (h.setIngest hnone)
  | found id bytes len s hs hfits =>
      rw [h.blockSize, overflows_eq_false_iff (by decide)] at hfits
      refine ensures_pure (h.setIngest fun d hd => ?_)
      obtain rfl := Option.some.inj hd
      exact hfits.2
  | outOfMemory => exact ensures_emit_pure trivial ((h.setHolder _ _).setIngest hafter)
  | get d b pool hget =>
      refine ensures_pure (Checked.setIngest ?_ hdelivery)
      exact (h.setHolder none .pool).congr rfl (MemoryPool.blockSize_of_get hget)
  | receiveFailed => exact ensures_emit_pure trivial (h.setIngest fun d hd => by cases hd)
  | fill d b =>
      refine ensures_pure (Checked.setIngest ?_ hdelivery)
      exact h.congr rfl rfl
  | push d b =>
      refine ensures_emit_pure (hdelivery d rfl) (Checked.setIngest ?_ fun d hd => by cases hd)
      exact h.congr rfl rfl
  | unlockBuffer => exact ensures_pure ((h.setHolder _ _).setIngest hafter)
  | unlockMap =>
      exact ensures_emit_pure trivial ((h.setHolder _ _).setIngest fun d hd => by cases hd)

/-- `CaptureCenter::run` brings nothing in. -/
theorem stepCapture_fits (h : st.Checked) (r : FileResults) :
    Ensures (fun _ => FitsBlock) history (st.stepCapture r) fun _ => Checked := by
  have hrecorded : ∀ (s : SessionRef) (events : List Event),
      Always (fun _ => FitsBlock) (events.map (.recorder s)) := by
    refine fun s events => always_of_forall fun _ e he => ?_
    obtain ⟨event, -, rfl⟩ := List.mem_map.mp he
    trivial
  refine stepCapture_elim (motive := fun x => Ensures (fun _ => FitsBlock) history x fun _ => Checked)
    st r (ensures_fault _) (fun k s node events f _ => ?_) fun es st' hends => ?_
  · exact ⟨hrecorded _ _, fun st' hst' => by cases hst'⟩
  · generalize st.capture = pc at hends
    cases hends with
    | enter => exact ensures_emit_pure trivial (h.congr rfl rfl)
    | handle k s | throws k s =>
        refine ensures_trace_append (x := ⟨[SdkEvent.left s], .ok _⟩) (hrecorded _ _) ?_
        exact ensures_emit_pure trivial (h.congr rfl rfl)
    | _ => exact ensures_pure (h.congr rfl rfl)

/-- Neither do the calls of the control thread. -/
theorem stepControl_fits (h : st.Checked) (fails : Bool) (u : Uninitialised) :
    Ensures (fun _ => FitsBlock) history (st.stepControl fails u) fun _ => Checked := by
  refine (stepControl_endsIn st fails u).ensures fun es st' hends => ?_
  generalize st.control = pc at hends
  cases hends with
  | addThrowMap | addThrowVector | addRemember | delForget =>
      exact ensures_emit_pure trivial (h.congr rfl rfl)
  | _ => exact ensures_pure (h.congr rfl rfl)

/-- A thread that may not move hands nothing over. -/
theorem guarded_fits {th : Thread} {x : SdkRun Sdk}
    (h : Ensures (fun _ => FitsBlock) history x fun _ => Checked) :
    Ensures (fun _ => FitsBlock) history (st.guarded th x) fun _ => Checked := by
  unfold guarded
  split
  · exact ensures_fault _
  split
  · exact ensures_fault _
  · exact h

/-- **One step of the system**: what a socket brings is cut to a block. -/
theorem step_fits (h : st.Checked) (a : Action) :
    Ensures (fun _ => FitsBlock) history (st.step a) fun _ => Checked := by
  cases a with
  | onRTPData t id data len =>
      change Ensures _ _ (st.callIngest t id data len) _
      unfold callIngest
      split
      · exact ensures_emit_pure trivial (h.setIngest fun d hd => by cases hd)
      · exact ensures_fault _
  -- the datagram is cut to a block when it is received
  | readable s type available datagram =>
      change Ensures _ _ (st.dispatch s type available datagram) _
      unfold dispatch
      split
      swap
      · exact ensures_fault _
      split
      swap
      · split <;> exact ensures_fault _
      split
      · exact ensures_pure h
      · refine ensures_pure (h.setIngest fun d hd => ?_)
        obtain rfl := Option.some.inj hd
        have hcut := List.length_take_le st.pool.blockSize datagram
        exact Int.ofNat_le.mpr (hcut.trans h.blockSize.le)
  | ingest x fails => exact guarded_fits (stepIngest_fits h x fails)
  | capture r => exact guarded_fits (stepCapture_fits h r)
  | add fileName videoPort audioPort videoFrequency =>
      change Ensures _ _ (st.callAdd fileName videoPort audioPort videoFrequency) _
      unfold callAdd
      split
      · exact ensures_pure (h.congr rfl rfl)
      · exact ensures_fault _
  | del id =>
      change Ensures _ _ (st.callDel id) _
      unfold callDel
      split
      · split
        · exact ensures_emit_pure trivial (h.congr rfl rfl)
        · exact ensures_pure (h.congr rfl rfl)
      · exact ensures_fault _
  | control fails u => exact guarded_fits (stepControl_fits h fails u)

/-- **Every packet that is pushed fits a block.** -/
theorem run_fits (memory : Block → Memory) (as : List Action) (s : SessionRef) :
    ∀ packet ∈ pushedTo s (run (construct memory) as).trace, packet.2 ≤ 1500 := by
  have hrun : Ensures (fun _ => FitsBlock) [] (run (construct memory) as) fun _ => Checked :=
    run_invariant (fun _ => Checked) (fun _ _ a h => step_fits h a)
      ⟨rfl, fun x d hd => by cases hd⟩ as
  rintro packet hpacket
  obtain ⟨e, he, hpushed⟩ := List.mem_filterMap.mp hpacket
  have hfits := hrun.1.forall_mem e he
  cases e with
  | pushed x s' bytes len =>
      dsimp only at hpushed
      split at hpushed
      · obtain rfl := Option.some.inj hpushed
        exact hfits
      · cases hpushed
  | _ => cases hpushed

/-! ## The files -/

/-- **What the recording of packets that fit a block always does**, every recorder of the system does.
Behind the last call of `addCaptureRtpSession` there are no recorders. -/
theorem always_recorderEvents {P : List Event → Event → Prop}
    (h : ∀ (fileName : String) (videoFrequency : Word) (u : Uninitialised) (arrivals : List Arrival),
      (∀ a ∈ arrivals, a.packet.len ≤ RtpCapture.blockSize) →
        Always P ((RTPDump.construct fileName videoFrequency u).record arrivals).trace)
    (memory : Block → Memory) (as : List Action) (s : SessionRef) :
    Always P (recorderEvents s (run (construct memory) as).trace) := by
  cases hcall : (as.filterMap Action.added?)[s]? with
  | none =>
      rw [((run_recorded memory as).silent s (List.getElem?_eq_none_iff.mp hcall)).1]
      exact always_nil
  | some call =>
      obtain ⟨handed, dump, hpushed, u, arrivals, harrivals, hevents, -⟩ :=
        run_recorded_pushed memory as hcall
      rw [hevents]
      refine h _ _ _ _ fun a ha => ?_
      have hmem : a.packet.handed ∈ handed := harrivals ▸ List.mem_map_of_mem ha
      exact run_fits memory as s _ (hpushed.subset hmem)

/-- Every recorder keeps its file in order. -/
theorem run_files (memory : Block → Memory) (as : List Action) (s : SessionRef) :
    Always Filing (recorderEvents s (run (construct memory) as).trace) :=
  always_recorderEvents (fun _ _ _ _ hlen => record_files _ _ _ hlen) memory as s

/-- The file of a session that opens no program stream on it is what its recorder writes through
`m_flv`. -/
theorem run_flvOnly {as : List Action} {past : List SdkEvent}
    (hpast : past <+: (run (construct memory) as).trace) (hflv : FlvOnly (recorderEvents s past)) :
    fileContent (recorderEvents s past) = flvContent (recorderEvents s past) := by
  obtain ⟨rest, hrest⟩ := hpast
  have hraw := always_recorderEvents (fun fileName videoFrequency u as _ =>
    record_rawAfterOpening fileName videoFrequency u as) memory as s
  rw [← hrest, recorderEvents_append, always_append] at hraw
  exact fileContent_of_flvOnly hraw.1 hflv

/-- A session is added, its video socket gets an SPS and a PPS, and `CaptureCenter::run` hands them
on. -/
def sampleRecording : List Action :=
  sampleAdd ++ [[0x80, 0x62, 0, 1, 0, 0, 0, 0, 0, 0, 0, 0, 0x67, 0x42, 0x00, 0x1e],
    [0x80, 0x62, 0, 2, 0, 0, 0, 0, 0, 0, 0, 0, 0x68, 0xce, 0x3c, 0x80]].flatMap (fun datagram =>
      .readable 0 .video true datagram :: List.replicate 6 (.ingest .reactor false)) ++
    List.replicate 14 (.capture .allGood)

/-- What the session put into its file. -/
def sampleContent : List Output :=
  fileContent (recorderEvents 0 (run (construct fun _ _ => 0) sampleRecording).trace)

end Sdk

end RtpCapture
