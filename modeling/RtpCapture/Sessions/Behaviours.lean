import RtpCapture.Recorder.TagStamps
import RtpCapture.Sessions.FirstAdd

/-! # The behaviours of both interfaces

The same calls of the C interface and of the SDK.

* **`cInterface_behaviours`** — both have the same behaviours when every rate has the quotient 90.
* **`cInterface_drops_rate`** — calls with another rate that behave differently. -/

namespace RtpCapture

open Traced Sdk

variable {memory : Block → Memory}

/-! ## The behaviours -/

section Observe

variable {σ : Type} (I : Interface σ)

/-- Events of which nothing can be seen. -/
theorem observe_unseen {es : List SdkEvent} (h : Unseen es) (x : SdkRun σ) :
    I.observe ⟨es ++ x.trace, x.outcome⟩ = I.observe x := by
  have hcontent : ∀ s, recorderEvents s (es ++ x.trace) = recorderEvents s x.trace := fun s => by
    rw [recorderEvents_append, h.recorder, List.nil_append]
  simp only [Interface.observe, List.filterMap_append, h.returned, List.nil_append, hcontent]

end Observe

/-- The SDK behind the C interface. -/
theorem observe_some (x : SdkRun Sdk) :
    (cInterface memory).observe (x.mapValue some) = (cppInterface memory).observe x := by
  obtain ⟨trace, outcome⟩ := x
  cases outcome <;> rfl

/-- The rates in the sessions cannot be seen. -/
theorem observe_rerate (h : Word → Word) (x : SdkRun Sdk) :
    (cppInterface memory).observe (x.mapValue (rerate h)) = (cppInterface memory).observe x := by
  obtain ⟨trace, outcome⟩ := x
  cases outcome <;> rfl

/-- An SDK without sessions looks like none. -/
theorem Unused.view {st : Sdk} (h : Unused memory st) : st.view = .empty := by
  rw [h.same]
  rfl

/-- A run of the SDK. -/
theorem cpp_run (turns : List Turn) :
    (cppInterface memory).run turns = (construct memory).run (turns.map Turn.action) :=
  (run_map Sdk.step Turn.action (construct memory) turns).symm

/-- **From the first `addCaptureRtpSession` on** the C interface does what the SDK does, when the
rates have the quotient 90. -/
theorem observe_first {calls : List InterfaceCall}
    (hcalls : ∀ c ∈ calls, (Turn.call c).isAdd = false) {fileName : String} {videoFrequency : Word}
    {after : List Turn}
    (hrates : ∀ fileName' videoFrequency', .call (.addCaptureRtpSession fileName' videoFrequency') ∈
      .call (.addCaptureRtpSession fileName videoFrequency) :: after →
      videoFrequency'.sdiv 1000 = 90) :
    (cInterface memory).observe ((cInterface memory).run
        (calls.map .call ++ .call (.addCaptureRtpSession fileName videoFrequency) :: after)) =
      (cppInterface memory).observe ((cppInterface memory).run
        (.call (.addCaptureRtpSession fileName videoFrequency) :: after)) := by
  have hnull : Traced.run (RTPCapture.turn memory) none (calls.map .call) = pure none :=
    run_calls hcalls
  have hok : (Traced.run (RTPCapture.turn memory) none (calls.map .call)).outcome = .ok none := by
    rw [hnull]
    rfl
  have hrun : (cInterface memory).run
      (calls.map .call ++ .call (.addCaptureRtpSession fileName videoFrequency) :: after) =
        Traced.run (RTPCapture.turn memory) (some (construct memory))
          (.call (.addCaptureRtpSession fileName videoFrequency) :: after) := by
    show Traced.run (RTPCapture.turn memory) none _ = _
    rw [run_append_of_ok hok, hnull]
    rfl
  rw [hrun, run_some, observe_some, run_forwarded hrates, observe_rerate, cpp_run]

/-- `CaptureCenter::run` may start to go through the empty vector before the first
`addCaptureRtpSession`, or after it. -/
theorem run_capture_first {st : Sdk} (h : Unused memory st)
    (hidle : ∀ t, st.ingest (.caller t) = .idle) (fileName : String) (videoFrequency : Word)
    (after : List Turn) :
    ∃ late, late.filterMap Turn.call? = [] ∧
      Traced.run (cppInterface memory).turn st
        (.call (.addCaptureRtpSession fileName videoFrequency) :: after) =
      (cppInterface memory).run
        (.call (.addCaptureRtpSession fileName videoFrequency) :: (late ++ after)) := by
  have hingest : st.ingest = fun _ => .idle := by
    funext x
    cases x with
    | caller t => exact hidle t
    | reactor => exact h.reactor
  have hsame := h.same
  rw [hingest, h.mapMutex hidle] at hsame
  rcases h.capture with ⟨hcapture, hvector⟩ | ⟨hcapture, hvector⟩ <;>
    rw [hcapture, hvector] at hsame <;> rw [hsame]
  · exact ⟨[], rfl, rfl⟩
  · exact ⟨[.capture .allGood], rfl, rfl⟩

/-- The calls of a schedule that makes just them. -/
theorem filterMap_map_call (calls : List InterfaceCall) :
    (calls.map Turn.call).filterMap Turn.call? = calls := by
  rw [List.filterMap_map]
  exact List.filterMap_some

/-- Calls of a part of a run without `addCaptureRtpSession`. -/
theorem isAdd_of_mem_filterMap {turns : List Turn} (h : ∀ i ∈ turns, i.isAdd = false) :
    ∀ c ∈ turns.filterMap Turn.call?, (Turn.call c).isAdd = false := by
  intro c hc
  obtain ⟨i, hi, hcall⟩ := List.mem_filterMap.mp hc
  cases i with
  | call c' =>
      obtain rfl := Option.some.inj hcall
      exact h _ hi
  | ingest | capture | control => cases hcall

/-- A run whose first turns cannot be taken. -/
theorem Interface.view_observe_of_error {σ : Type} (I : Interface σ) {before : List Turn}
    (h : (I.run before).outcome = .error .notEnabled) (after : List Turn) :
    (I.observe (I.run (before ++ after))).view = .error .notEnabled := by
  have hrun : I.run (before ++ after) = I.run before := run_append_of_error h after
  show (I.run (before ++ after)).outcome.map I.view = _
  rw [hrun, h]
  rfl

/-- The turns of complete calls add no session. -/
theorem isAdd_complete {calls : List InterfaceCall}
    (hcalls : ∀ c ∈ calls, (Turn.call c).isAdd = false) :
    ∀ i ∈ calls.flatMap InterfaceCall.complete, i.isAdd = false := by
  intro i hi
  obtain ⟨c, hc, hmem⟩ := List.mem_flatMap.mp hi
  have hcall := hcalls c hc
  cases c with
  | addCaptureRtpSession => cases hcall
  | onRTPData | delCaptureRtpSession =>
      simp only [InterfaceCall.complete, List.mem_cons, List.not_mem_nil, or_false] at hmem
      rcases hmem with rfl | rfl | rfl | rfl <;> rfl

/-- The rates of the calls of a run. -/
theorem rates_of_turns {turns : List Turn}
    (hrates : ∀ fileName videoFrequency, .addCaptureRtpSession fileName videoFrequency ∈
      turns.filterMap Turn.call? → videoFrequency.sdiv 1000 = 90)
    (fileName : String) (videoFrequency : Word)
    (hmem : .call (.addCaptureRtpSession fileName videoFrequency) ∈ turns) :
    videoFrequency.sdiv 1000 = 90 :=
  hrates fileName videoFrequency (List.mem_filterMap.mpr ⟨_, hmem, rfl⟩)

/-- **What the C interface shows, the SDK shows**: the calls before the first `addCaptureRtpSession`
are made one after the other. -/
theorem behaviours_c_subset {calls : List InterfaceCall}
    (hrates : ∀ fileName videoFrequency,
      .addCaptureRtpSession fileName videoFrequency ∈ calls → videoFrequency.sdiv 1000 = 90) :
    (cInterface memory).behaviours calls ⊆ (cppInterface memory).behaviours calls := by
  rintro o ⟨hpossible, turns, rfl, -, rfl⟩
  refine ⟨hpossible, ?_⟩
  rcases exists_first_add turns with hnone |
    ⟨before, fileName, videoFrequency, after, rfl, hbefore⟩
  -- no addition: there is no SDK behind the C interface, and the other one does nothing visible
  · have hcalls := isAdd_of_mem_filterMap hnone
    obtain ⟨es, hrun, hes⟩ := run_completes memory hcalls
    have hnull : (cInterface memory).run turns = pure none := by
      have hmap : turns = (turns.filterMap Turn.call?).map .call :=
        @eq_map_call memory turns hnone fun herror => hpossible (by
          have hview := (cInterface memory).view_observe_of_error herror []
          rwa [List.append_nil] at hview)
      rw [hmap]
      exact run_calls hcalls
    refine ⟨_, filterMap_complete _, fun ⟨i, hi, hadd⟩ => ?_, ?_⟩
    · rw [isAdd_complete hcalls i hi] at hadd
      cases hadd
    · have hquiet := observe_unseen (cppInterface memory) hes (pure (construct memory))
      rw [trace_pure, List.append_nil] at hquiet
      rw [hrun, hnull]
      exact hquiet
  -- the calls before the first addition return at once, with nothing to see
  · have hcalls := isAdd_of_mem_filterMap hbefore
    obtain ⟨es, hrun, hes⟩ := run_completes memory hcalls
    have hmap : before = (before.filterMap Turn.call?).map .call :=
      eq_map_call hbefore fun herror =>
        hpossible ((cInterface memory).view_observe_of_error herror _)
    refine ⟨(before.filterMap Turn.call?).flatMap InterfaceCall.complete ++
      .call (.addCaptureRtpSession fileName videoFrequency) :: after, ?_,
      fun _ s st hs hst => ?_, ?_⟩
    · rw [List.filterMap_append, List.filterMap_append, filterMap_complete]
    · rw [takeWhile_append_add (isAdd_complete hcalls), hrun] at hs
      obtain rfl := Except.ok.inj hs
      obtain rfl := Option.some.inj hst
      exact fun _ => rfl
    · have hfirst := @observe_first memory _ hcalls fileName videoFrequency after
        fun fileName' videoFrequency' hmem =>
          rates_of_turns hrates fileName' videoFrequency' (List.mem_append_right _ hmem)
      rw [← hmap] at hfirst
      rw [hfirst, Interface.run_append hrun]
      exact observe_unseen (cppInterface memory) hes _

/-- **What the SDK shows, the C interface shows**: steps before the first `addCaptureRtpSession` are
left out. -/
theorem behaviours_cpp_subset {calls : List InterfaceCall}
    (hrates : ∀ fileName videoFrequency,
      .addCaptureRtpSession fileName videoFrequency ∈ calls → videoFrequency.sdiv 1000 = 90) :
    (cppInterface memory).behaviours calls ⊆ (cInterface memory).behaviours calls := by
  rintro o ⟨hpossible, turns, rfl, hsequenced, rfl⟩
  refine ⟨hpossible, ?_⟩
  rcases exists_first_add turns with hnone |
    ⟨before, fileName, videoFrequency, after, rfl, hbefore⟩
  -- no addition
  · have hcalls := isAdd_of_mem_filterMap hnone
    rcases (unused_construct memory).run hnone with herror | ⟨es, st, hrun, hes, hunused⟩
    · have hview := (cppInterface memory).view_observe_of_error herror []
      rw [List.append_nil] at hview
      exact absurd hview hpossible
    refine ⟨_, filterMap_map_call _, fun ⟨i, hi, hadd⟩ => ?_, ?_⟩
    · obtain ⟨c, hc, rfl⟩ := List.mem_map.mp hi
      rw [hcalls c hc] at hadd
      cases hadd
    · have hnull : (cInterface memory).run ((turns.filterMap Turn.call?).map .call) = pure none :=
        run_calls hcalls
      have hquiet := observe_unseen (cppInterface memory) hes (pure st)
      rw [trace_pure, List.append_nil] at hquiet
      have hcpp : (cppInterface memory).run turns = ⟨es, .ok st⟩ := hrun
      rw [hnull, hcpp]
      refine Eq.trans ?_ hquiet.symm
      show (⟨[], fun _ => [], .ok .empty⟩ : Observation) = ⟨[], fun _ => [], .ok st.view⟩
      rw [hunused.view]
  -- what the threads did before the first addition can be done behind it
  · have hcalls := isAdd_of_mem_filterMap hbefore
    rcases (unused_construct memory).run hbefore with herror | ⟨es, st, hrun, hes, hunused⟩
    · exact absurd ((cppInterface memory).view_observe_of_error herror _) hpossible
    have hcpp : (cppInterface memory).run before = ⟨es, .ok st⟩ := hrun
    have hidle : ∀ t, st.ingest (.caller t) = .idle := by
      refine hsequenced ⟨_, List.mem_append_right _ (List.mem_cons_self ..), rfl⟩ st st ?_ rfl
      rw [takeWhile_append_add hbefore, hcpp]
    obtain ⟨late, hlate, hsame⟩ := run_capture_first hunused hidle fileName videoFrequency after
    -- the steps of `CaptureCenter::run` contain no call
    have hafter : (Turn.call (.addCaptureRtpSession fileName videoFrequency) ::
        (late ++ after)).filterMap Turn.call? =
          (Turn.call (.addCaptureRtpSession fileName videoFrequency) :: after).filterMap
            Turn.call? := by
      have hcons : ∀ turns, (Turn.call (.addCaptureRtpSession fileName videoFrequency) ::
          turns).filterMap Turn.call? =
            .addCaptureRtpSession fileName videoFrequency :: turns.filterMap Turn.call? :=
        fun _ => rfl
      rw [hcons, hcons, List.filterMap_append, hlate, List.nil_append]
    refine ⟨(before.filterMap Turn.call?).map .call ++
      .call (.addCaptureRtpSession fileName videoFrequency) :: (late ++ after), ?_,
      fun _ s st hs hst => ?_, ?_⟩
    · rw [List.filterMap_append, List.filterMap_append, filterMap_map_call, hafter]
    · have hnull : (cInterface memory).run ((before.filterMap Turn.call?).map .call) = pure none :=
        run_calls hcalls
      rw [takeWhile_append_add (List.forall_mem_map.mpr hcalls), hnull] at hs
      obtain rfl := Except.ok.inj hs
      cases hst
    · rw [observe_first hcalls, ← hsame, Interface.run_append hcpp, observe_unseen _ hes]
      refine rates_of_turns fun fileName' videoFrequency' hmem =>
        hrates fileName' videoFrequency' ?_
      rw [List.filterMap_append]
      exact List.mem_append_right _ (hafter ▸ hmem)

/-- **The C interface behaves as the SDK** when every rate has the quotient 90: for every sequence of
calls the same can be seen of both. -/
theorem cInterface_behaviours (memory : Block → Memory) {calls : List InterfaceCall}
    (hrates : ∀ fileName videoFrequency,
      .addCaptureRtpSession fileName videoFrequency ∈ calls → videoFrequency.sdiv 1000 = 90) :
    (cInterface memory).behaviours calls = (cppInterface memory).behaviours calls :=
  Set.Subset.antisymm (behaviours_c_subset hrates) (behaviours_cpp_subset hrates)

/-- An SPS and a PPS of one session, with the RTP timestamps 800000001 and 1. -/
def sampleInterfaceCalls (videoFrequency : Word) : List InterfaceCall :=
  [.addCaptureRtpSession "camera.flv" videoFrequency,
    .onRTPData 0 1 (.ofList [0x80, 0x62, 0, 1, 0x2f, 0xaf, 0x08, 0x01, 0, 0, 0, 0,
      0x67, 0x42, 0x00, 0x1e]) 16,
    .onRTPData 0 1 (.ofList [0x80, 0x62, 0, 2, 0, 0, 0, 1, 0, 0, 0, 0,
      0x68, 0xce, 0x3c, 0x80]) 16]

/-- The common rate. -/
theorem cInterface_behaviours_sample :
    (cInterface fun _ _ => 0).behaviours (sampleInterfaceCalls 90000) =
      (cppInterface fun _ _ => 0).behaviours (sampleInterfaceCalls 90000) := by
  refine cInterface_behaviours (fun _ _ => 0) fun fileName videoFrequency hmem => ?_
  simp only [sampleInterfaceCalls, List.mem_cons, InterfaceCall.addCaptureRtpSession.injEq,
    reduceCtorEq, List.not_mem_nil, or_false] at hmem
  obtain ⟨-, rfl⟩ := hmem
  decide

/-! ## Other rates -/

/-- The rate the C interface calls the SDK with. -/
theorem rate_forwarded {i : Turn} {call : String × Word} (h : i.forwarded.added? = some call) :
    call.2 = 90000 := by
  cases i with
  | call c =>
      cases c with
      | addCaptureRtpSession fileName videoFrequency =>
          obtain rfl := Option.some.inj h
          rfl
      | onRTPData | delCaptureRtpSession => cases h
  | ingest | capture | control => cases h

/-- **What happens behind the C interface** happens in an SDK whose sessions were all added with the
rate `90000`. -/
theorem exists_run_of_c (turns : List Turn) :
    ∃ as : List Sdk.Action, (∀ call ∈ as.filterMap Action.added?, call.2 = 90000) ∧
      ((cInterface memory).run turns).trace = ((construct memory).run as).trace := by
  show ∃ as : List Sdk.Action, _ ∧ (Traced.run (RTPCapture.turn memory) none turns).trace = _
  induction turns with
  | nil => exact ⟨[], List.forall_mem_nil _, rfl⟩
  | cons i turns ih =>
      cases hi : i.isAdd with
      | true =>
          refine ⟨(i :: turns).map Turn.forwarded, fun call hcall => ?_, ?_⟩
          · obtain ⟨_, hmem, hadded⟩ := List.mem_filterMap.mp hcall
            obtain ⟨j, -, rfl⟩ := List.mem_map.mp hmem
            exact rate_forwarded hadded
          · -- the call constructs the SDK
            have hconstructs : Traced.run (RTPCapture.turn memory) none (i :: turns) =
                Traced.run (RTPCapture.turn memory) (some (construct memory)) (i :: turns) := by
              cases i with
              | call c => cases c <;> first | rfl | cases hi
              | ingest | capture | control => cases hi
            rw [hconstructs, run_some]
            rfl
      | false =>
          cases i with
          | call c =>
              rw [run_cons, turn_null hi, Traced.pure_bind]
              exact ih
          | ingest | capture | control => exact ⟨[], List.forall_mem_nil _, rfl⟩

/-- The timestamps of the tags behind the C interface. -/
theorem c_tagStamp_quotient {turns : List Turn} {s : SessionRef} {timestamp : Word}
    {data : List Byte}
    (h : .flvTag .video timestamp data ∈
      ((cInterface memory).observe ((cInterface memory).run turns)).content s) :
    ∃ ticks, intDiv ticks 90 = some timestamp := by
  obtain ⟨as, hrates, htrace⟩ := @exists_run_of_c memory turns
  have hrecorded := run_recorded memory as
  obtain ⟨e, he, hout⟩ := List.mem_filterMap.mp h
  obtain rfl : e = .output (.flvTag .video timestamp data) := by
    cases e with
    | output o => cases o <;> first | exact congrArg _ (Option.some.inj hout) | cases hout
    | _ => cases hout
  rw [htrace] at he
  cases hcall : (as.filterMap Action.added?)[s]? with
  | none =>
      rw [(hrecorded.silent s (List.getElem?_eq_none_iff.mp hcall)).1] at he
      cases he
  | some call =>
      obtain ⟨handed, dump, -, u, arrivals, -, hevents, -⟩ := hrecorded.recorded s call hcall
      rw [hevents] at he
      have hninety : (RTPDump.construct call.1 call.2 u).ticks .video = 90 := by
        show call.2.sdiv 1000 = 90
        rw [hrates call (List.mem_of_getElem? hcall)]
        decide
      exact hninety ▸ record_tagStamp_quotient he

/-- A schedule of those calls: each is made when the one before it has returned, and
`CaptureCenter::run` comes last. -/
def sampleInterfaceTurns (videoFrequency : Word) : List Turn :=
  (sampleInterfaceCalls videoFrequency).flatMap (fun c => .call c :: match c with
    | .addCaptureRtpSession _ _ => List.replicate 9 (.control false .zero)
    | _ => List.replicate 9 (.ingest 0)) ++ List.replicate 14 (.capture .allGood)

/-- With 8 ticks per millisecond the SDK writes the sequence header with a timestamp of 100000000
milliseconds before the base. -/
theorem sampleInterfaceTurns_content :
    ((cppInterface fun _ _ => 0).run (sampleInterfaceTurns 8000)).outcome.toBool = true ∧
      .flvTag .video (-100000000) [0x17, 0, 0, 0, 0, 1, 0x42, 0, 0x1e, 3, 1, 0, 4, 0x67, 0x42, 0,
        0x1e, 1, 0, 4, 0x68, 0xce, 0x3c, 0x80] ∈ flvContent (recorderEvents 0
          ((cppInterface fun _ _ => 0).run (sampleInterfaceTurns 8000)).trace) := by
  decide +kernel

/-- **The rate is not passed on**: with 90 ticks per millisecond no tag has that timestamp. -/
theorem cInterface_drops_rate :
    (cInterface fun _ _ => 0).behaviours (sampleInterfaceCalls 8000) ≠
      (cppInterface fun _ _ => 0).behaviours (sampleInterfaceCalls 8000) := by
  intro h
  obtain ⟨hok, htag⟩ := sampleInterfaceTurns_content
  generalize hx : (cppInterface fun _ _ => 0).run (sampleInterfaceTurns 8000) = x at hok htag
  have hpossible : ((cppInterface fun _ _ => 0).observe x).view ≠ .error .notEnabled := by
    obtain ⟨trace, outcome⟩ := x
    cases outcome with
    | error f => cases hok
    | ok st =>
        intro hview
        cases hview
  have hshown : (cppInterface fun _ _ => 0).observe x ∈
      (cppInterface fun _ _ => 0).behaviours (sampleInterfaceCalls 8000) := by
    refine ⟨hpossible, sampleInterfaceTurns 8000, rfl, fun _ s st hs hst => ?_, by rw [hx]⟩
    -- no call comes before the first `addCaptureRtpSession`
    obtain rfl := Except.ok.inj hs
    obtain rfl := Option.some.inj hst
    exact fun _ => rfl
  rw [← h] at hshown
  obtain ⟨-, turns, -, -, hsame⟩ := hshown
  have hcontent : flvContent (recorderEvents 0 x.trace) =
      ((cInterface fun _ _ => 0).observe ((cInterface fun _ _ => 0).run turns)).content 0 :=
    congrFun (congrArg Observation.content hsame.symm) 0
  rw [hcontent] at htag
  obtain ⟨ticks, hquotient⟩ := c_tagStamp_quotient htag
  -- a quotient of 32 bits by 90 is not that far from zero
  have hrate : (90 : Word).toInt = 90 := by decide
  rw [intDiv_of_pos (by rw [hrate]; decide)] at hquotient
  have hsdiv : (ticks.sdiv 90).toInt = ticks.toInt.tdiv 90 := by
    rw [BitVec.toInt_sdiv_of_ne_or_ne _ _ (.inr (by decide)), hrate]
  have hstamp : ticks.toInt.tdiv 90 = -100000000 := by
    rw [← hsdiv, Option.some.inj hquotient]
    decide
  have hlow : -2 ^ 31 ≤ ticks.toInt := BitVec.le_toInt ticks
  have hmod : ticks.toInt.tmod 90 < 90 := Int.tmod_lt_of_pos _ (by decide)
  have hdiv := Int.mul_tdiv_add_tmod ticks.toInt 90
  rw [hstamp] at hdiv
  omega

end RtpCapture
