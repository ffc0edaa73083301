import RtpCapture.Sessions.Blocks
import RtpCapture.Sessions.Draining
import RtpCapture.Sessions.Recorders

/-! # After an exception

An exception that leaves `rtpHandler` unwinds the locks of `CaptureCenter::run` and ends its thread.
Nobody is told: sessions are still added and deleted, and packets still come in, for all sessions.

* **`Sdk.step_thrown`**, **`Sdk.run_silent`** — the thread stays where it is, and no recorder works.
* **`Sdk.run_ended`** — so the packets of every session wait, as far as the pool goes. -/

namespace RtpCapture

open Traced

namespace Sdk

open SdkEvent

variable {memory : Block → Memory} {st st' : Sdk} {s : SessionRef}

/-- An exception ends the thread for good. -/
theorem step_thrown (hcoherent : st.Coherent) {a : Action}
    (hstep : (st.step a).outcome = .ok st') (hthrown : st.capture.thrown = true) :
    st'.capture.thrown = true := by
  by_cases ha : a.thread = .capture
  · cases a with
    | capture r =>
        obtain ⟨es, -, hends⟩ := stepCapture_ok (capture_ok hstep).1
        generalize st.capture = pc at hends hthrown
        cases hends with
        | throwBuffer | throwVector => rfl
        | _ => cases hthrown
    | _ => cases ha
  · rw [step_capture hcoherent ha hstep]
    exact hthrown

/-- It is inside no call of `rtpHandler` then. -/
theorem stage_of_thrown (hthrown : st.capture.thrown = true) : st.capture.stage = .idle := by
  generalize st.capture = pc at hthrown ⊢
  cases pc <;> first | rfl | cases hthrown

/-- On its way out it calls no recorder, and nobody else does. -/
theorem step_silent_of_thrown (hthrown : st.capture.thrown = true) (a : Action) :
    Silent (st.step a).trace := by
  by_cases ha : ∃ r, a = .capture r
  · obtain ⟨r, rfl⟩ := ha
    show Silent (st.guarded .capture (st.stepCapture r)).trace
    unfold guarded
    split
    · exact silent_nil
    split
    · exact silent_nil
    refine stepCapture_elim (motive := fun x => Silent x.trace) st r silent_nil
      (fun k s node events f hpc => ?_) fun es st' hends => ?_
    · rw [hpc] at hthrown
      cases hthrown
    · generalize st.capture = pc at hends hthrown
      cases hends with
      | throwBuffer | throwVector => exact silent_nil
      | _ => cases hthrown
  · exact step_silent st fun r hr => ha ⟨r, hr⟩

/-- **No recorder works any more**, in whatever order the threads go on. -/
theorem run_silent (hcoherent : st.Coherent) (hthrown : st.capture.thrown = true)
    (as : List Action) :
    Silent (run st as).trace ∧
      ∀ st', (run st as).outcome = .ok st' → st'.capture.thrown = true := by
  induction as generalizing st with
  | nil =>
      refine ⟨silent_nil, fun st' hst' => ?_⟩
      obtain rfl := Except.ok.inj hst'
      exact hthrown
  | cons a as ih =>
      have hfirst := step_silent_of_thrown hthrown a
      cases hstep : (st.step a).outcome with
      | error f =>
          rw [run, Traced.run_cons, bind_of_error hstep]
          exact ⟨hfirst, fun st' hst' => by cases hst'⟩
      | ok st₁ =>
          obtain ⟨hrest, hends⟩ := ih (step_coherent hcoherent hstep)
            (step_thrown hcoherent hstep hthrown)
          rw [run, run_cons_of_ok hstep]
          exact ⟨hfirst.append hrest, hends⟩

/-- **What was pushed to a session in the vector** was handed on or waits, unless the session is being
emptied. -/
theorem pushedTo_of_listed {as : List Action} (hrun : (run (construct memory) as).outcome = .ok st)
    (hstage : st.capture.stage = .idle) (hs : s ∈ st.sessionVector)
    (hdraining : st.control.draining ≠ some s) :
    pushedTo s (run (construct memory) as).trace =
      handedTo s (run (construct memory) as).trace ++ st.packets s :=
  pushedTo_of_open hrun hstage fun _ hst hclosed => hdraining (hst.vector s hs hclosed)

/-- **One exception ends the recording of all sessions.** In every run in which an exception has left
`rtpHandler`, whatever the threads do then and in whatever order: no packet is handed to a recorder and
no recorder does anything any more; of a session in the vector, which is not just being emptied for
its deletion, every packet that was pushed and not handed on waits in the list, behind the others and
as it came; and there are never more than 20000 of them. -/
theorem run_ended (memory : Block → Memory) {as₀ : List Action}
    (hrun₀ : (run (construct memory) as₀).outcome = .ok st) (hthrown : st.capture.thrown = true)
    (as : List Action) :
    (∀ s, handedTo s (run (construct memory) (as₀ ++ as)).trace =
        handedTo s (run (construct memory) as₀).trace ∧
      recorderEvents s (run (construct memory) (as₀ ++ as)).trace =
        recorderEvents s (run (construct memory) as₀).trace) ∧
    ∀ st', (run st as).outcome = .ok st' → st'.capture.thrown = true ∧
      ∀ s ∈ st'.sessionVector, st'.control.draining ≠ some s →
        pushedTo s (run (construct memory) (as₀ ++ as)).trace =
          handedTo s (run (construct memory) as₀).trace ++ st'.packets s ∧
        (st'.packets s).length ≤ 20000 := by
  obtain ⟨hsilent, hends⟩ := run_silent (coherent_of_reaches ⟨as₀, hrun₀⟩) hthrown as
  have hall : run (construct memory) (as₀ ++ as) =
      ⟨(run (construct memory) as₀).trace ++ (run st as).trace, (run st as).outcome⟩ :=
    run_append_of_ok hrun₀ as
  have hhanded : ∀ s, handedTo s (run (construct memory) (as₀ ++ as)).trace =
      handedTo s (run (construct memory) as₀).trace := fun s => by
    rw [hall, handedTo_append, hsilent.handed, List.append_nil]
  refine ⟨fun s => ⟨hhanded s, ?_⟩, fun st' hst' => ⟨hends st' hst', fun s hs hdraining => ?_⟩⟩
  · rw [hall, recorderEvents_append, hsilent.recorder, List.append_nil]
  · have hrun : (run (construct memory) (as₀ ++ as)).outcome = .ok st' := by
      rw [hall]
      exact hst'
    refine ⟨?_, ?_⟩
    · rw [← hhanded]
      exact pushedTo_of_listed hrun (stage_of_thrown (hends st' hst')) hs hdraining
    · have hlength := length_le_of_reaches ⟨as₀ ++ as, hrun⟩ .capture s
      rw [packets, List.length_map]
      omega

/-- After the exception a second session is added, and gets a packet. -/
def sampleLate : List Action :=
  .add "front.flv" 5004 5006 90000 :: (List.replicate 11 (.control false .zero) ++
    .readable 1 .video true [1, 2, 3] :: List.replicate 6 (.ingest .reactor false))

/-- The second set of the first session has ended the thread; the packet of the second session waits. -/
theorem run_ended_sampleLate :
    handedTo 0 (run (construct fun _ _ => 0) (sampleThrow ++ sampleLate)).trace =
        [(sampleSps, 16), (sampleSps, 16)] ∧
      handedTo 1 (run (construct fun _ _ => 0) (sampleThrow ++ sampleLate)).trace = [] ∧
      ∃ st, (run (construct fun _ _ => 0) (sampleThrow ++ sampleLate)).outcome = .ok st ∧
        st.capture.thrown = true ∧ st.packets 1 = [([1, 2, 3], 3)] := by
  have hthrow : ∃ st, (run (construct fun _ _ => 0) sampleThrow).outcome = .ok st ∧
      st.capture.thrown = true := by decide +kernel
  have hhanded : handedTo 0 (run (construct fun _ _ => 0) sampleThrow).trace =
      [(sampleSps, 16), (sampleSps, 16)] ∧
      handedTo 1 (run (construct fun _ _ => 0) sampleThrow).trace = [] := by decide +kernel
  have hlate : ∃ st, (run (construct fun _ _ => 0) (sampleThrow ++ sampleLate)).outcome = .ok st ∧
      1 ∈ st.sessionVector ∧ st.control.draining ≠ some 1 := by decide +kernel
  have hpushed : pushedTo 1 (run (construct fun _ _ => 0) (sampleThrow ++ sampleLate)).trace =
      [([1, 2, 3], 3)] := by decide +kernel
  obtain ⟨st, hst, hthrown⟩ := hthrow
  obtain ⟨st', hst', hvector, hdraining⟩ := hlate
  obtain ⟨hsilent, hends⟩ := run_ended _ hst hthrown sampleLate
  have hrun := hst'
  rw [run, run_append_of_ok hst] at hrun
  obtain ⟨hthrown', hwaits⟩ := hends st' hrun
  obtain ⟨hpackets, -⟩ := hwaits 1 hvector hdraining
  rw [hpushed, hhanded.2, List.nil_append] at hpackets
  exact ⟨(hsilent 0).1.trans hhanded.1, (hsilent 1).1.trans hhanded.2, st', hst', hthrown',
    hpackets.symm⟩

end Sdk

end RtpCapture
