import RtpCapture.Sessions.InOrder
import RtpCapture.Sessions.Registry

/-! # The recorders in the system

What the system does for one session it does through the `RTPDump` of the session. Seen through its
own events, that recorder is the machine of `RTPDump.record`, so that what holds of the recordings
of one `RTPDump` holds of every session of the system, in every run.

* **`Recorded`** — what a recorder did on the packets it was given, and the state it is in.
* **`Sdk.Recorders`** — the recorders of all sessions, numbered by the calls that added them; every
  step keeps them so.
* **`Sdk.run_recorded`** — in every run, also in one that stops, the events of a session are those
  of a recorder that was constructed with the arguments of its `addCaptureRtpSession` and fed with
  the packets its `rtpHandler` was called on.
* **`Sdk.run_recorded_pushed`** — these are the first packets that were pushed to its list.
* **`Sdk.run_delivers`** — delivery from the lists to the recorders, for every run. -/

namespace RtpCapture

open Traced

/-! ## What a recorder does -/

/-- The event as one of the recorder of session `s`. -/
def SdkEvent.recorder? (s : SessionRef) : SdkEvent → Option Event
  | .recorder s' e => if s' = s then some e else none
  | _ => none

/-- The events of the recorder of session `s`. -/
def recorderEvents (s : SessionRef) (history : List SdkEvent) : List Event :=
  history.filterMap (SdkEvent.recorder? s)

/-- The events of a recorder in a history and then in one more step. -/
theorem recorderEvents_append (s : SessionRef) (history trace : List SdkEvent) :
    recorderEvents s (history ++ trace) = recorderEvents s history ++ recorderEvents s trace :=
  List.filterMap_append ..

/-- The events of one recorder. -/
theorem recorderEvents_map (s s' : SessionRef) (events : List Event) :
    recorderEvents s' (events.map (SdkEvent.recorder s)) = if s = s' then events else [] := by
  unfold recorderEvents
  rw [List.filterMap_map]
  by_cases hs : s = s'
  · have hsome : SdkEvent.recorder? s' ∘ SdkEvent.recorder s = some := by
      funext e
      simp [SdkEvent.recorder?, hs]
    rw [if_pos hs, hsome, List.filterMap_some]
  · rw [if_neg hs]
    exact List.filterMap_eq_nil_iff.mpr fun e _ => by simp [SdkEvent.recorder?, hs]

/-- The bytes and the length `rtpHandler` is called with. -/
def Packet.handed (p : Packet) : List Byte × ℤ := (p.buf.read 0 p.len.toNat, p.len)

/-- **A recorder that was fed with packets**: `events` is what an `RTPDump` of this file name and
this rate does on the packets `handed`, and `dump`, when there is one, is the state that leaves. -/
def Recorded (fileName : String) (videoFrequency : Word) (handed : List (List Byte × ℤ))
    (events : List Event) (dump : Option RTPDump) : Prop :=
  ∃ (u : Uninitialised) (as : List Arrival), as.map (fun a => a.packet.handed) = handed ∧
    events = ((RTPDump.construct fileName videoFrequency u).record as).trace ∧
    ∀ d, dump = some d → ((RTPDump.construct fileName videoFrequency u).record as).outcome = .ok d

section Recorded

variable {fileName : String} {videoFrequency : Word} {handed : List (List Byte × ℤ)}
  {events : List Event}

/-- No recorder yet. -/
theorem recorded_none : Recorded fileName videoFrequency [] [] none :=
  ⟨.zero, [], rfl, rfl, fun _ h => by cases h⟩

/-- `new RTPDump`. -/
theorem recorded_construct (u : Uninitialised) :
    Recorded fileName videoFrequency [] []
      (some (RTPDump.construct fileName videoFrequency u)) := by
  refine ⟨u, [], rfl, rfl, ?_⟩
  rintro d ⟨⟩
  rfl

/-- `delete rtpDump`. -/
theorem Recorded.deleted {dump : Option RTPDump}
    (h : Recorded fileName videoFrequency handed events dump) :
    Recorded fileName videoFrequency handed events none := by
  obtain ⟨u, as, hhanded, htrace, -⟩ := h
  exact ⟨u, as, hhanded, htrace, fun _ h => by cases h⟩

/-- **One more packet**, whether `rtpHandler` returns or stops. -/
theorem Recorded.handle {dump : RTPDump}
    (h : Recorded fileName videoFrequency handed events (some dump)) (r : FileResults)
    (p : Packet) :
    Recorded fileName videoFrequency (handed ++ [p.handed]) (events ++ (rtpHandler r dump p).trace)
      (rtpHandler r dump p).outcome.toOption := by
  obtain ⟨u, as, hhanded, htrace, houtcome⟩ := h
  have hrun := run_append_of_ok (houtcome dump rfl) [⟨p, r⟩]
  rw [run_singleton] at hrun
  refine ⟨u, as ++ [⟨p, r⟩], by rw [List.map_append, hhanded]; rfl, ?_, fun d hd => ?_⟩
  · unfold RTPDump.record
    rw [hrun, htrace]
    rfl
  · unfold RTPDump.record
    rw [hrun]
    show (rtpHandler r dump p).outcome = .ok d
    cases hhandled : (rtpHandler r dump p).outcome with
    | ok d' =>
        rw [hhandled] at hd
        exact congrArg Except.ok (Option.some.inj hd)
    | error f =>
        rw [hhandled] at hd
        cases hd

end Recorded

/-- An exception has left `rtpHandler`. -/
def Capture.thrown : Capture → Bool
  | .throwBuffer _ => true
  | .throwVector => true
  | .ended => true
  | _ => false

/-- The session that is being added, before its recorder is constructed. -/
def Control.unrecorded : Control → Option SessionRef
  | .addPush _ => none
  | pc => pc.adding

/-- A session without a recorder is being added. -/
theorem adding_of_unrecorded {pc : Control} {s : SessionRef} (h : pc.unrecorded = some s) :
    pc.adding = some s := by
  cases pc <;> first | exact h | cases h

namespace Sdk

/-- The arguments of a call of `addCaptureRtpSession` that reach the recorder of the session. -/
def Action.added? : Action → Option (String × Word)
  | .add fileName _ _ videoFrequency => some (fileName, videoFrequency)
  | _ => none

variable {st st' : Sdk} {calls : List (String × Word)} {history : List SdkEvent}

/-- The packets `rtpHandler` of a session has been given: the one it has just been called for is
still to come. -/
def given (st : Sdk) (s : SessionRef) (history : List SdkEvent) : List (List Byte × ℤ) :=
  if st.capture.handling = some s then (SdkEvent.handedTo s history).dropLast
  else SdkEvent.handedTo s history

/-- **All but at most the last one** of the packets `rtpHandler` was called on. -/
def AllButLast (handed all : List (List Byte × ℤ)) : Prop :=
  handed <+: all ∧ all.length ≤ handed.length + 1

/-- The packets recorded are those handed over, but for one in the works. -/
theorem given_allButLast (st : Sdk) (s : SessionRef) (history : List SdkEvent) :
    AllButLast (st.given s history) (SdkEvent.handedTo s history) := by
  unfold given
  split
  · refine ⟨List.dropLast_prefix _, ?_⟩
    rw [List.length_dropLast]
    omega
  · exact ⟨List.prefix_rfl, Nat.le_succ _⟩

/-- When none was handed over, none was recorded. -/
theorem given_nil {s : SessionRef} (h : SdkEvent.handedTo s history = []) :
    st.given s history = [] := List.prefix_nil.mp (h ▸ (given_allButLast st s history).1)

/-- `rtpHandler` has just been called. -/
theorem given_handle {k : ℕ} {s : SessionRef} {node : BufferNode} {earlier : List (List Byte × ℤ)}
    {last : List Byte × ℤ} (hpc : st.capture = .handle k s node)
    (h : SdkEvent.handedTo s history = earlier ++ [last]) : st.given s history = earlier := by
  have hhandling : st.capture.handling = some s := by
    rw [hpc]
    rfl
  unfold given
  rw [if_pos hhandling, h, List.dropLast_concat]

/-- The recorder of a session as `CaptureCenter::run` finds it; when an exception has ended the
thread, it finds none any more. -/
def recorder (st : Sdk) (s : SessionRef) : Option RTPDump :=
  if st.capture.thrown then none else (st.sessions s).rtpDump

/-- What holds of the recorder of the session object. -/
theorem recorded_recorder {fileName : String} {videoFrequency : Word}
    {handed : List (List Byte × ℤ)} {events : List Event} {s : SessionRef}
    (h : Recorded fileName videoFrequency handed events (st.sessions s).rtpDump) :
    Recorded fileName videoFrequency handed events (st.recorder s) := by
  unfold recorder
  split
  · exact h.deleted
  · exact h

/-- **The recorders of the sessions** after the calls of `addCaptureRtpSession` with the arguments
`calls`, by which the sessions are numbered. -/
structure Recorders (calls : List (String × Word)) (history : List SdkEvent) (st : Sdk) : Prop where
  count : st.next = calls.length
  session : ∀ s call, calls[s]? = some call →
    (st.sessions s).fileName = call.1 ∧ (st.sessions s).videoFrequency = call.2
  recorded : ∀ s, Recorded (st.sessions s).fileName (st.sessions s).videoFrequency
    (st.given s history) (recorderEvents s history) (st.recorder s)
  unrecorded : ∀ s, st.next ≤ s ∨ st.control.unrecorded = some s →
    recorderEvents s history = [] ∧ SdkEvent.handedTo s history = [] ∧
      (st.sessions s).rtpDump = none

/-- A fresh SDK has no recorder. -/
theorem recorders_construct (memory : Block → Memory) : Recorders [] [] (construct memory) where
  count := rfl
  session := fun s call h => by cases h
  recorded := fun _ => recorded_none
  unrecorded := fun _ _ => ⟨rfl, rfl, rfl⟩

/-- **What the recorders rely on**: `rtpHandler` reads what it was called for, and
`CaptureCenter::run` is at no session that is being added. -/
structure Relies (history : List SdkEvent) (st : Sdk) : Prop where
  known : st.Known
  reads : ∀ k s node, st.capture = .handle k s node → ∃ earlier,
    SdkEvent.handedTo s history = earlier ++ [Packet.handed ⟨st.memory node.buffer, node.len⟩]
  apart : ∀ s, st.capture.session? = some s → st.control.unrecorded ≠ some s

/-! ## Steps that leave the recorders alone -/

/-- **What the recorders depend on** is the same in two states. -/
structure SameRecorders (st st' : Sdk) : Prop where
  next : st'.next = st.next
  fileName : ∀ s, (st'.sessions s).fileName = (st.sessions s).fileName
  videoFrequency : ∀ s, (st'.sessions s).videoFrequency = (st.sessions s).videoFrequency
  rtpDump : ∀ s, (st'.sessions s).rtpDump = (st.sessions s).rtpDump
  handling : st'.capture.handling = st.capture.handling
  thrown : st'.capture.thrown = st.capture.thrown

/-- **Events of no recorder.** -/
structure Silent (es : List SdkEvent) : Prop where
  recorder : ∀ s, recorderEvents s es = []
  handed : ∀ s, SdkEvent.handedTo s es = []

/-- A step that emits nothing is silent. -/
theorem silent_nil : Silent [] := ⟨fun _ => rfl, fun _ => rfl⟩

/-- Silence goes on. -/
theorem Silent.append {es es' : List SdkEvent} (h : Silent es) (h' : Silent es') :
    Silent (es ++ es') where
  recorder s := by rw [recorderEvents_append, h.recorder, h'.recorder, List.append_nil]
  handed s := by rw [SdkEvent.handedTo_append, h.handed, h'.handed, List.append_nil]

/-- A step that hands the session nothing does not change what it was given. -/
theorem given_append {es : List SdkEvent} {s : SessionRef} (hes : SdkEvent.handedTo s es = [])
    (hhandling : st'.capture.handling = some s ↔ st.capture.handling = some s) :
    st'.given s (history ++ es) = st.given s history := by
  unfold given
  rw [SdkEvent.handedTo_append, hes, List.append_nil]
  simp only [hhandling]

/-- The recorders are the same as they are. -/
theorem sameRecorders_refl (st : Sdk) : st.SameRecorders st :=
  ⟨rfl, fun _ => rfl, fun _ => rfl, fun _ => rfl, rfl, rfl⟩

/-- A session changes elsewhere. -/
theorem sameRecorders_update {s : SessionRef} {session : RTPSession} (hnext : st'.next = st.next)
    (hsessions : st'.sessions = Function.update st.sessions s session)
    (hname : session.fileName = (st.sessions s).fileName)
    (hrate : session.videoFrequency = (st.sessions s).videoFrequency)
    (hdump : session.rtpDump = (st.sessions s).rtpDump)
    (hhandling : st'.capture.handling = st.capture.handling)
    (hthrown : st'.capture.thrown = st.capture.thrown) : st.SameRecorders st' := by
  have hone : ∀ s', st'.sessions s' = if s' = s then session else st.sessions s' := fun s' => by
    rw [hsessions, Function.update_apply]
  refine ⟨hnext, fun s' => ?_, fun s' => ?_, fun s' => ?_, hhandling, hthrown⟩ <;> rw [hone] <;>
    split
  case refine_1.isTrue hs => rw [hs, hname]
  case refine_2.isTrue hs => rw [hs, hrate]
  case refine_3.isTrue hs => rw [hs, hdump]
  all_goals rfl

/-- A lock does not change them. -/
theorem sameRecorders_setHolder (t : Option Thread) (m : Mutex) :
    st.SameRecorders (st.setHolder t m) := by
  cases m with
  | map | vector | pool => exact { sameRecorders_refl st with }
  | buffer s => exact sameRecorders_update rfl rfl rfl rfl rfl rfl rfl

/-- A delivery that moves does not change them. -/
theorem SameRecorders.setIngest (h : st.SameRecorders st') (x : Source) (p : Ingest) :
    st.SameRecorders (st'.setIngest x p) := { h with }

/-- Neither does the control thread by moving. -/
theorem SameRecorders.setControl (h : st.SameRecorders st') (p : Control) :
    st.SameRecorders { st' with control := p } := { h with }

/-- So each session has the same recorder. -/
theorem SameRecorders.recorder (h : st.SameRecorders st') (s : SessionRef) :
    st'.recorder s = st.recorder s := by
  unfold Sdk.recorder
  rw [h.thrown, h.rtpDump]

/-- The recorders after such a step. -/
theorem Recorders.of_same (h : Recorders calls history st) (hsame : st.SameRecorders st')
    {es : List SdkEvent} (hes : Silent es)
    (hcontrol : ∀ s, st'.control.unrecorded = some s → st.control.unrecorded = some s) :
    Recorders calls (history ++ es) st' where
  count := hsame.next.trans h.count
  session := fun s call hs => by
    rw [hsame.fileName, hsame.videoFrequency]
    exact h.session s call hs
  recorded := fun s => by
    have hgiven : st'.given s (history ++ es) = st.given s history :=
      given_append (hes.handed s) (by rw [hsame.handling])
    rw [hsame.fileName, hsame.videoFrequency, hsame.recorder, recorderEvents_append, hes.recorder,
      List.append_nil, hgiven]
    exact h.recorded s
  unrecorded := fun s hs => by
    rw [hsame.rtpDump, recorderEvents_append, hes.recorder, List.append_nil,
      SdkEvent.handedTo_append, hes.handed, List.append_nil]
    exact h.unrecorded s (hs.imp (hsame.next ▸ ·) (hcontrol s))

/-- The threads that bring packets in. -/
theorem stepIngest_sameRecorders {x : Source} {fails : Bool}
    (hstep : (st.stepIngest x fails).outcome = .ok st') : st.SameRecorders st' := by
  have hmove : ∀ p, st.SameRecorders (st.setIngest x p) := (sameRecorders_refl st).setIngest x
  have hlock : ∀ t m p, st.SameRecorders ((st.setHolder t m).setIngest x p) := fun t m =>
    (sameRecorders_setHolder t m).setIngest x
  obtain ⟨es, -, hends⟩ := (stepIngest_endsIn st x fails).exists_ok hstep
  generalize st.ingest x = pc at hends
  cases hends with
  | notFound | overflow | found | receiveFailed => exact hmove _
  | lockMap | lockPool | outOfMemory | lockBuffer | unlockBuffer | unlockMap => exact hlock _ _ _
  -- the pool and the memory belong to no recorder
  | get | fill => exact ⟨rfl, fun _ => rfl, fun _ => rfl, fun _ => rfl, rfl, rfl⟩
  | push => exact sameRecorders_update rfl rfl rfl rfl rfl rfl rfl

/-! ## Steps of a recorder -/

/-- **The recorder of one session changes**: it is constructed, fed, deleted, or left by an
exception. -/
theorem Recorders.setDump (h : Recorders calls history st) {s : SessionRef} {es : List SdkEvent}
    {dump : Option RTPDump} (hnext : st'.next = st.next)
    (hsessions : st'.sessions =
      Function.update st.sessions s { st.sessions s with rtpDump := dump })
    (hother : ∀ s', s' ≠ s → recorderEvents s' es = [] ∧
      (st'.capture.handling = some s' ↔ st.capture.handling = some s'))
    (hhanded : ∀ s', SdkEvent.handedTo s' es = [])
    (hthrown : st.capture.thrown = true → st'.capture.thrown = true)
    (hrecorded : Recorded (st.sessions s).fileName (st.sessions s).videoFrequency
      (st'.given s (history ++ es)) (recorderEvents s (history ++ es)) (st'.recorder s))
    (hs : s < st.next)
    (hcontrol : ∀ s', st'.control.unrecorded = some s' →
      s' ≠ s ∧ st.control.unrecorded = some s') :
    Recorders calls (history ++ es) st' where
  -- the names and the rates stay, and every other session is as it was
  count := hnext.trans h.count
  session := fun s' call hcall => by
    rw [hsessions]
    by_cases hs' : s' = s
    · subst hs'
      rw [Function.update_self]
      exact h.session s' call hcall
    · rw [Function.update_of_ne hs']
      exact h.session s' call hcall
  recorded := fun s' => by
    rw [hsessions]
    by_cases hs' : s' = s
    · subst hs'
      rw [Function.update_self]
      exact hrecorded
    · obtain ⟨hnone, hhandling⟩ := hother s' hs'
      rw [Function.update_of_ne hs', recorderEvents_append, hnone, List.append_nil,
        given_append (hhanded s') hhandling]
      by_cases hst' : st'.capture.thrown = true
      · rw [recorder, if_pos hst']
        exact (h.recorded s').deleted
      · have hsame : st'.recorder s' = st.recorder s' := by
          rw [recorder, recorder, if_neg hst', if_neg (mt hthrown hst'), hsessions,
            Function.update_of_ne hs']
        rw [hsame]
        exact h.recorded s'
  -- a session without a recorder is another one
  unrecorded := fun s' hs' => by
    have hne : s' ≠ s := by
      rcases hs' with hfresh | hadding
      · rintro rfl
        exact absurd hs (Nat.not_lt.mpr (hnext ▸ hfresh))
      · exact (hcontrol s' hadding).1
    rw [hsessions, Function.update_of_ne hne, recorderEvents_append, (hother s' hne).1,
      List.append_nil, SdkEvent.handedTo_append, hhanded, List.append_nil]
    exact h.unrecorded s' (hs'.imp (hnext ▸ ·) fun hadding => (hcontrol s' hadding).2)

/-- **`rtpHandler` is called** for a session. -/
theorem Recorders.enter (h : Recorders calls history st) {k : ℕ} {s : SessionRef}
    {node : BufferNode} (hpc : st.capture = .enter k s node) (hs : s < st.next)
    (hadding : st.control.unrecorded ≠ some s) (bytes : List Byte) (len : ℤ) :
    Recorders calls (history ++ [.entered s bytes len])
      { st with capture := .handle k s node } where
  count := h.count
  session := h.session
  recorded := fun s' => by
    have hgiven : ({ st with capture := .handle k s node } : Sdk).given s'
        (history ++ [.entered s bytes len]) = st.given s' history := by
      have hnone : st.capture.handling = none := by rw [hpc]; rfl
      unfold given
      rw [hnone, SdkEvent.handedTo_append, SdkEvent.handedTo_entered]
      by_cases hs' : s = s' <;> simp [Capture.handling, hs']
    have hnone : recorderEvents s' [.entered s bytes len] = [] := rfl
    rw [hgiven, recorderEvents_append, hnone, List.append_nil]
    have hrecorded := h.recorded s'
    rw [recorder, hpc] at hrecorded
    exact hrecorded
  unrecorded := fun s' hs' => by
    have hne : s ≠ s' := by
      rintro rfl
      exact hs'.elim (Nat.not_le.mpr hs) hadding
    rw [recorderEvents_append, SdkEvent.handedTo_append, SdkEvent.handedTo_entered, if_neg hne,
      List.append_nil]
    show recorderEvents s' history ++ [] = [] ∧ _
    rw [List.append_nil]
    exact h.unrecorded s' hs'

/-- The events of the handler of a session are its own. -/
theorem recorderEvents_handle (s : SessionRef) (events : List Event) (rest : List SdkEvent)
    (hrest : ∀ s', recorderEvents s' rest = []) (s' : SessionRef) :
    recorderEvents s' (events.map (SdkEvent.recorder s) ++ rest) =
      if s = s' then events else [] := by
  rw [recorderEvents_append, recorderEvents_map, hrest, List.append_nil]

/-- They hand nothing to it. -/
theorem handedTo_handle (events : List Event) (s : SessionRef) (rest : List SdkEvent)
    (hrest : ∀ s', SdkEvent.handedTo s' rest = []) (s' : SessionRef) :
    SdkEvent.handedTo s' (events.map (SdkEvent.recorder s) ++ rest) = [] := by
  rw [SdkEvent.handedTo_append, hrest, List.append_nil]
  unfold SdkEvent.handedTo
  rw [List.filterMap_map]
  exact List.filterMap_eq_nil_iff.mpr fun _ _ => rfl

/-- **The recorder is fed** with the packet it has been called for. -/
theorem Recorders.recorded_handle (h : Recorders calls history st) (hrelies : Relies history st)
    {k : ℕ} {s : SessionRef} {node : BufferNode} {dump : RTPDump}
    (hpc : st.capture = .handle k s node) (hdump : (st.sessions s).rtpDump = some dump)
    (r : FileResults) :
    Recorded (st.sessions s).fileName (st.sessions s).videoFrequency (SdkEvent.handedTo s history)
      (recorderEvents s history ++ (rtpHandler r dump ⟨st.memory node.buffer, node.len⟩).trace)
      (rtpHandler r dump ⟨st.memory node.buffer, node.len⟩).outcome.toOption := by
  obtain ⟨earlier, hread⟩ := hrelies.reads k s node hpc
  have hrecorder : st.recorder s = some dump := by
    rw [recorder, hpc]
    exact hdump
  have hrecorded := h.recorded s
  rw [hrecorder, given_handle hpc hread] at hrecorded
  rw [hread]
  exact hrecorded.handle r _

/-- **`CaptureCenter::run`** feeds the recorder of the session it is at. -/
theorem stepCapture_recorders (hrelies : Relies history st) (h : Recorders calls history st)
    {r : FileResults} (hstep : (st.stepCapture r).outcome = .ok st') :
    Recorders calls (history ++ (st.stepCapture r).trace) st' := by
  have hlock : ∀ t m p, p.handling = st.capture.handling → p.thrown = st.capture.thrown →
      st.SameRecorders { st.setHolder t m with capture := p } := fun t m p hp hp' =>
    { @sameRecorders_setHolder st t m with handling := hp, thrown := hp' }
  have hcontrol := (stepCapture_sameControlData hstep).control
  have hkeeps : ∀ s, st'.control.unrecorded = some s → st.control.unrecorded = some s := by
    intro s hs
    rwa [hcontrol] at hs
  obtain ⟨es, heq, hends⟩ := stepCapture_ok hstep
  rw [heq]
  show Recorders calls (history ++ es) st'
  generalize hpc : st.capture = pc at hends
  cases hends with
  | lockVector | unlockVector | lockBuffer | unlockBuffer | lockPool | throwBuffer | throwVector =>
      refine h.of_same (hlock _ _ _ ?_ ?_) silent_nil hkeeps <;> rw [hpc] <;> rfl
  | head | release =>
      refine h.of_same ?_ silent_nil hkeeps
      refine ⟨rfl, fun _ => rfl, fun _ => rfl, fun _ => rfl, ?_, ?_⟩ <;> rw [hpc] <;> rfl
  | erase =>
      refine h.of_same ?_ silent_nil hkeeps
      refine sameRecorders_update rfl rfl rfl rfl rfl ?_ ?_ <;> rw [hpc] <;> rfl
  | enter k s node =>
      have hs : st.capture.session? = some s := by rw [hpc]; rfl
      exact h.enter hpc (hrelies.known.capture s hs) (hrelies.apart s hs) _ _
  | handle k s node dump dump' hdump hhandled =>
      let p : Packet := ⟨st.memory node.buffer, node.len⟩
      have hevents := recorderEvents_handle s (rtpHandler r dump p).trace [.left s] fun _ => rfl
      have hnothing := handedTo_handle (rtpHandler r dump p).trace s [.left s] fun _ => rfl
      have hmore := h.recorded_handle hrelies hpc hdump r
      rw [hhandled] at hmore
      refine h.setDump rfl rfl (fun s' hs' => ⟨?_, ?_⟩) hnothing ?_ ?_ ?_ fun s' hs' => ⟨?_, hs'⟩
      · rw [hevents, if_neg (Ne.symm hs')]
      · rw [hpc]
        simp [Capture.handling, Ne.symm hs']
      · rw [hpc]
        exact nofun
      · have hafter : ({ st with capture := .lockPool k s node.buffer } : Sdk).given s
            (history ++ ((rtpHandler r dump p).trace.map (SdkEvent.recorder s) ++ [.left s])) =
              SdkEvent.handedTo s history := by
          unfold given
          rw [SdkEvent.handedTo_append, hnothing, List.append_nil]
          rfl
        rw [recorderEvents_append, hevents, if_pos rfl]
        refine recorded_recorder ?_
        simp only [setSession, Function.update_self]
        exact hafter ▸ hmore
      · exact hrelies.known.capture s (by rw [hpc]; rfl)
      · rintro rfl
        exact hrelies.apart s' (by rw [hpc]; rfl) hs'
  | throws k s node dump hdump hthrows =>
      let p : Packet := ⟨st.memory node.buffer, node.len⟩
      have hevents := recorderEvents_handle s (rtpHandler r dump p).trace [.left s] fun _ => rfl
      have hnothing := handedTo_handle (rtpHandler r dump p).trace s [.left s] fun _ => rfl
      have hmore := h.recorded_handle hrelies hpc hdump r
      refine h.setDump rfl (Function.update_eq_self s st.sessions).symm (fun s' hs' => ⟨?_, ?_⟩)
        hnothing ?_ ?_ ?_ fun s' hs' => ⟨?_, hs'⟩
      · rw [hevents, if_neg (Ne.symm hs')]
      · rw [hpc]
        simp [Capture.handling, Ne.symm hs']
      · exact fun _ => rfl
      · have hafter : ({ st with capture := .throwBuffer s } : Sdk).given s
            (history ++ ((rtpHandler r dump p).trace.map (SdkEvent.recorder s) ++ [.left s])) =
              SdkEvent.handedTo s history := by
          unfold given
          rw [SdkEvent.handedTo_append, hnothing, List.append_nil]
          rfl
        rw [recorderEvents_append, hevents, if_pos rfl]
        -- the thread does not call this recorder again
        exact hafter ▸ hmore.deleted
      · exact hrelies.known.capture s (by rw [hpc]; rfl)
      · rintro rfl
        exact hrelies.apart s' (by rw [hpc]; rfl) hs'

/-- A step of `CaptureCenter::run` that stops: in `rtpHandler`, or before it. -/
theorem stepCapture_error {r : FileResults} {f : Stop}
    (hstep : (st.stepCapture r).outcome = .error f) :
    (st.stepCapture r).trace = [] ∨ ∃ k s node dump, st.capture = .handle k s node ∧
      (st.sessions s).rtpDump = some dump ∧ (st.stepCapture r).trace =
        (rtpHandler r dump ⟨st.memory node.buffer, node.len⟩).trace.map (.recorder s) := by
  revert hstep
  unfold stepCapture
  cases hpc : st.capture <;> dsimp only <;> intro hstep
  case session k =>
    cases hs : st.sessionVector[k]? <;> rw [hs] at hstep <;> cases hstep
  case drain k s =>
    cases hlist : (st.sessions s).bufferList <;> rw [hlist] at hstep <;> cases hstep
  case ended => exact .inl rfl
  case handle k s node =>
    cases hdump : (st.sessions s).rtpDump with
    | none => exact .inl rfl
    | some dump =>
        refine .inr ⟨k, s, node, dump, rfl, hdump, ?_⟩
        rw [hdump] at hstep
        dsimp only at hstep ⊢
        cases hhandled : (((rtpHandler r dump ⟨st.memory node.buffer, node.len⟩).catching
            .lengthError).hoist (SdkEvent.recorder s) Stop.recorder).outcome with
        | error e =>
            rw [bind_of_error hhandled]
            exact congrArg (List.map (SdkEvent.recorder s)) trace_catching
        | ok returned =>
            rw [bind_of_ok hhandled] at hstep
            cases returned <;> cases hstep
  all_goals cases hstep

/-- **The control thread** constructs the recorder of a session and deletes it. -/
theorem stepControl_recorders (hknown : st.Known) (h : Recorders calls history st) {fails : Bool}
    {u : Uninitialised} (hstep : (st.stepControl fails u).outcome = .ok st') {es : List SdkEvent}
    (hes : Silent es) : Recorders calls (history ++ es) st' := by
  obtain ⟨_, -, hends⟩ := (stepControl_endsIn st fails u).exists_ok hstep
  generalize hpc : st.control = pc at hends
  -- no step makes a session wait for its recorder anew
  have hkeeps : ∀ s, st'.control.unrecorded = some s → st.control.unrecorded = some s := by
    intro s hs
    rw [hpc]
    cases hends <;> first | exact hs | cases hs
  have hlock : ∀ t m p, st.SameRecorders { st.setHolder t m with control := p } := fun t m =>
    (sameRecorders_setHolder t m).setControl
  cases hends with
  -- a fresh recorder was fed nothing, and the session was handed nothing
  | addDump s =>
      obtain ⟨hevents, hhanded, -⟩ := h.unrecorded s (.inr (by rw [hpc]; rfl))
      refine h.setDump rfl rfl (fun s' _ => ⟨hes.recorder s', Iff.rfl⟩) hes.handed id ?_ ?_
        fun s' hs' => by cases hs'
      · rw [recorderEvents_append, hevents, hes.recorder, given_nil]
        · refine recorded_recorder ?_
          simp only [setSession, Function.update_self]
          exact recorded_construct u
        · rw [SdkEvent.handedTo_append, hhanded, hes.handed, List.append_nil]
      · exact hknown.control s (by rw [hpc]; rfl)
  -- what the deleted recorder has done stays done
  | delDump c =>
      refine h.setDump rfl rfl (fun s' _ => ⟨hes.recorder s', Iff.rfl⟩) hes.handed id ?_ ?_
        fun s' hs' => by cases hs'
      · rw [recorderEvents_append, hes.recorder, List.append_nil]
        have hgiven := @given_append st st history es c.session (hes.handed c.session) Iff.rfl
        refine recorded_recorder ?_
        simp only [setSession, Function.update_self]
        exact (hgiven ▸ h.recorded c.session).deleted
      · exact hknown.control c.session (by rw [hpc]; rfl)
  -- the other steps leave the recorders alone
  | addLockMap | addUnlockMap | addThrowMap | addLockVector | addUnlockVector | addThrowVector
  | delLockVector | delLockBuffer | delLockPool | delUnlockBuffer | delUnlockVector =>
      refine h.of_same ?_ hes hkeeps
      exact hlock _ _ _
  | addBindThrows | addBind | addNoPorts | addRegisterVideo | delErase | delFree =>
      refine h.of_same ?_ hes hkeeps
      exact sameRecorders_update rfl rfl rfl rfl rfl rfl rfl
  | _ =>
      refine h.of_same ?_ hes hkeeps
      exact ⟨rfl, fun _ => rfl, fun _ => rfl, fun _ => rfl, rfl, rfl⟩

/-! ## Every run -/

/-- **What the recorders of all sessions did**: the session of each call what a recorder with the
arguments of the call does on the packets `rtpHandler` of the session was called on, or on all but
the last of them, the other objects nothing. -/
structure AllRecorded (calls : List (String × Word)) (history : List SdkEvent) : Prop where
  recorded : ∀ s call, calls[s]? = some call → ∃ handed dump,
    AllButLast handed (SdkEvent.handedTo s history) ∧
      Recorded call.1 call.2 handed (recorderEvents s history) dump
  silent : ∀ s, calls.length ≤ s →
    recorderEvents s history = [] ∧ SdkEvent.handedTo s history = []

/-- More calls, of sessions that did nothing yet. -/
theorem AllRecorded.append (h : AllRecorded calls history) (more : List (String × Word)) :
    AllRecorded (calls ++ more) history where
  recorded := fun s call hcall => by
    rcases Nat.lt_or_ge s calls.length with hs | hs
    · exact h.recorded s call (by rwa [List.getElem?_append_left hs] at hcall)
    · obtain ⟨hevents, hhanded⟩ := h.silent s hs
      rw [hevents, hhanded]
      exact ⟨[], none, ⟨List.prefix_rfl, Nat.zero_le _⟩, recorded_none⟩
  silent := fun s hs => h.silent s (by
    rw [List.length_append] at hs
    exact (Nat.le_add_right _ _).trans hs)

/-- Events of no recorder. -/
theorem AllRecorded.silently (h : AllRecorded calls history) {es : List SdkEvent}
    (hes : Silent es) : AllRecorded calls (history ++ es) := by
  have hevents : ∀ s, recorderEvents s (history ++ es) = recorderEvents s history := fun s => by
    rw [recorderEvents_append, hes.recorder, List.append_nil]
  refine ⟨fun s call hcall => ?_, fun s hs => ?_⟩ <;>
    rw [hevents, SdkEvent.handedTo_append, hes.handed, List.append_nil]
  · exact h.recorded s call hcall
  · exact h.silent s hs

/-- What holds of every recorder, read off for the calls made. -/
theorem Recorders.all (h : Recorders calls history st) : AllRecorded calls history where
  recorded := fun s call hcall => by
    obtain ⟨hname, hrate⟩ := h.session s call hcall
    have hrecorded := h.recorded s
    rw [hname, hrate] at hrecorded
    exact ⟨_, _, given_allButLast st s history, hrecorded⟩
  silent := fun s hs => by
    obtain ⟨hevents, hhanded, -⟩ := h.unrecorded s (.inl (h.count ▸ hs))
    exact ⟨hevents, hhanded⟩

/-- `rtpHandler` of a session stops. -/
theorem Recorders.all_handle (h : Recorders calls history st) (hrelies : Relies history st) {k : ℕ}
    {s : SessionRef} {node : BufferNode} {dump : RTPDump} (hpc : st.capture = .handle k s node)
    (hdump : (st.sessions s).rtpDump = some dump) (r : FileResults) :
    AllRecorded calls (history ++ (rtpHandler r dump ⟨st.memory node.buffer, node.len⟩).trace.map
      (.recorder s)) := by
  have hmore := h.recorded_handle hrelies hpc hdump r
  generalize (⟨st.memory node.buffer, node.len⟩ : Packet) = p at hmore ⊢
  have hhanded : ∀ s', SdkEvent.handedTo s'
      (history ++ (rtpHandler r dump p).trace.map (.recorder s)) =
        SdkEvent.handedTo s' history := by
    intro s'
    have hnothing := handedTo_handle (rtpHandler r dump p).trace s [] (fun _ => rfl) s'
    rw [List.append_nil] at hnothing
    rw [SdkEvent.handedTo_append, hnothing, List.append_nil]
  have hevents : ∀ s',
      recorderEvents s' (history ++ (rtpHandler r dump p).trace.map (.recorder s)) =
        recorderEvents s' history ++ if s = s' then (rtpHandler r dump p).trace else [] := by
    intro s'
    rw [recorderEvents_append, recorderEvents_map]
  have hnone : ∀ s', calls.length ≤ s' → s ≠ s' := by
    rintro s' hs' rfl
    have hfresh := (h.unrecorded s (.inl (h.count ▸ hs'))).2.2
    rw [hdump] at hfresh
    cases hfresh
  refine ⟨fun s' call hcall => ?_, fun s' hs' => ?_⟩ <;> rw [hevents, hhanded]
  · by_cases hs : s = s'
    · subst hs
      obtain ⟨hname, hrate⟩ := h.session s call hcall
      rw [hname, hrate] at hmore
      rw [if_pos rfl]
      exact ⟨_, _, ⟨List.prefix_rfl, Nat.le_succ _⟩, hmore⟩
    · rw [if_neg hs, List.append_nil]
      exact h.all.recorded s' call hcall
  · rw [if_neg (hnone s' hs'), List.append_nil]
    exact h.all.silent s' hs'

/-- Only `CaptureCenter::run` makes a recorder work. -/
theorem step_silent (st : Sdk) {a : Action} (ha : ∀ r, a ≠ .capture r) :
    Silent (st.step a).trace := by
  -- the guards emit nothing
  have hguarded : ∀ th (x : SdkRun Sdk), Silent x.trace → Silent (st.guarded th x).trace := by
    intro th x hx
    unfold guarded
    split
    · exact silent_nil
    · split
      · exact silent_nil
      · exact hx
  cases a with
  | onRTPData t id data len =>
      show Silent (st.callIngest t id data len).trace
      unfold callIngest
      split <;> exact ⟨fun _ => rfl, fun _ => rfl⟩
  | readable s' type available datagram =>
      show Silent (st.dispatch s' type available datagram).trace
      unfold dispatch
      split
      · split
        · split <;> exact ⟨fun _ => rfl, fun _ => rfl⟩
        · split <;> exact ⟨fun _ => rfl, fun _ => rfl⟩
      · exact silent_nil
  | ingest x fails =>
      refine hguarded _ _ ((stepIngest_endsIn st x fails).elim
        (motive := fun y => Silent y.trace) (fun _ => silent_nil) fun es st' hends => ?_)
      generalize st.ingest x = pc at hends
      cases hends <;> exact ⟨fun _ => rfl, fun _ => rfl⟩
  | capture r => exact absurd rfl (ha r)
  | add fileName videoPort audioPort videoFrequency =>
      show Silent (st.callAdd fileName videoPort audioPort videoFrequency).trace
      unfold callAdd
      split <;> exact ⟨fun _ => rfl, fun _ => rfl⟩
  | del id =>
      show Silent (st.callDel id).trace
      unfold callDel
      split
      · split <;> exact ⟨fun _ => rfl, fun _ => rfl⟩
      · exact silent_nil
  | control fails u =>
      refine hguarded _ _ ((stepControl_endsIn st fails u).elim
        (motive := fun y => Silent y.trace) (fun _ => silent_nil) fun es st' hends => ?_)
      generalize st.control = pc at hends
      cases hends <;> exact ⟨fun _ => rfl, fun _ => rfl⟩

/-- A new session has no recorder yet. -/
theorem Recorders.newSession (h : Recorders calls history st)
    {fileName : String} {videoPort audioPort videoFrequency : Word}
    (hstep : (st.step (.add fileName videoPort audioPort videoFrequency)).outcome = .ok st') :
    Recorders (calls ++ [(fileName, videoFrequency)]) history st' := by
  obtain ⟨hidle, rfl⟩ := add_ok hstep
  obtain ⟨hevents, hhanded, -⟩ := h.unrecorded st.next (.inl (Nat.le_refl _))
  constructor
  case count => simp [h.count]
  -- the new session has the arguments of the last call
  case session =>
    intro s call hcall
    rcases Nat.lt_or_ge s calls.length with hs | hs
    · have hne : s ≠ st.next := h.count ▸ Nat.ne_of_lt hs
      rw [List.getElem?_append_left hs] at hcall
      simpa [setSession, hne] using h.session s call hcall
    · rw [List.getElem?_append_right hs] at hcall
      obtain ⟨hzero, rfl⟩ := List.getElem?_eq_some_iff.mp hcall
      have hs : s = st.next := by
        rw [h.count]
        exact Nat.le_antisymm (Nat.le_of_sub_eq_zero (Nat.lt_one_iff.mp hzero)) hs
      simp [setSession, hs]
  -- and no recorder
  case recorded =>
    intro s
    by_cases hs : s = st.next
    · have hnone : RTPSession.none.rtpDump = none := rfl
      rw [hs, given_nil hhanded]
      refine recorded_recorder ?_
      simpa [setSession, hevents, hnone] using recorded_none
    · have hgiven : ∀ sessions counter next pc, ({ st with
          sessions := sessions, sessionCounter := counter, next := next,
          control := pc } : Sdk).given s history = st.given s history := fun _ _ _ _ => rfl
      simpa [setSession, hs, hgiven, recorder] using h.recorded s
  case unrecorded =>
    intro s hs
    by_cases hnew : s = st.next
    · simp [setSession, hnew, hevents, hhanded, RTPSession.none]
    · have hle : st.next ≤ s := by
        rcases hs with hs | hs
        · exact (Nat.le_succ _).trans hs
        · exact absurd (Option.some.inj hs).symm hnew
      simpa [setSession, hnew] using h.unrecorded s (.inl hle)

/-- **One step** that is taken. -/
theorem step_recorders (hrelies : Relies history st) (h : Recorders calls history st) {a : Action}
    (hstep : (st.step a).outcome = .ok st') :
    Recorders (calls ++ a.added?.toList) (history ++ (st.step a).trace) st' := by
  cases a with
  -- a call of `onRTPData` only moves its thread
  | onRTPData t id data len =>
      have hes := @step_silent st (.onRTPData t id data len) fun _ h => by cases h
      obtain ⟨hidle, rfl⟩ := onRTPData_ok hstep
      show Recorders (calls ++ []) _ _
      rw [List.append_nil]
      refine h.of_same ?_ hes ?_
      · exact (sameRecorders_refl st).setIngest _ _
      · exact fun s hs => hs
  | readable s type available datagram =>
      have hes := @step_silent st (.readable s type available datagram) fun _ h => by cases h
      show Recorders (calls ++ []) _ _
      rw [List.append_nil]
      obtain ⟨-, -, ⟨-, heq⟩ | ⟨-, heq⟩⟩ := readable_ok hstep <;> subst heq
      · exact h.of_same (sameRecorders_refl _) hes fun s hs => hs
      · refine h.of_same ?_ hes ?_
        · exact (sameRecorders_refl st).setIngest _ _
        · exact fun s hs => hs
  | ingest x fails =>
      have hes := @step_silent st (.ingest x fails) fun _ h => by cases h
      obtain ⟨hingest, -⟩ := ingest_ok hstep
      show Recorders (calls ++ []) _ _
      rw [List.append_nil]
      refine h.of_same (stepIngest_sameRecorders hingest) hes fun s hs => ?_
      rwa [(stepIngest_sameControlData hingest).control] at hs
  -- the one step in which a recorder works
  | capture r =>
      obtain ⟨heq, -⟩ := guarded_ok hstep
      obtain ⟨hstep, -⟩ := capture_ok hstep
      show Recorders (calls ++ []) _ _
      rw [List.append_nil, step, heq]
      exact stepCapture_recorders hrelies h hstep
  -- a call of `addCaptureRtpSession` is one more call
  | add fileName videoPort audioPort videoFrequency =>
      have hes := @step_silent st (.add fileName videoPort audioPort videoFrequency)
        fun _ h => by cases h
      refine (h.newSession hstep).of_same (sameRecorders_refl st') hes fun s hs => hs
  | del id =>
      have hes := @step_silent st (.del id) fun _ h => by cases h
      show Recorders (calls ++ []) _ _
      rw [List.append_nil]
      obtain ⟨-, ⟨-, rfl⟩ | ⟨s, -, rfl⟩⟩ := del_ok hstep
      · exact h.of_same (sameRecorders_refl _) hes fun s hs => hs
      · refine h.of_same ?_ hes ?_
        · exact ⟨rfl, fun _ => rfl, fun _ => rfl, fun _ => rfl, rfl, rfl⟩
        · exact fun s hs => by cases hs
  -- a recorder is constructed or deleted
  | control fails u =>
      have hes := @step_silent st (.control fails u) fun _ h => by cases h
      obtain ⟨hcontrol, -⟩ := control_ok hstep
      show Recorders (calls ++ []) _ _
      rw [List.append_nil]
      exact stepControl_recorders hrelies.known h hcontrol hes

/-- **A step that stops**: what the recorders did includes what the one at work did last. -/
theorem Recorders.all_of_error (h : Recorders calls history st) (hrelies : Relies history st)
    {a : Action} {f : Stop}
    (hstep : (st.step a).outcome = .error f) :
    AllRecorded calls (history ++ (st.step a).trace) := by
  cases a with
  | capture r =>
      revert hstep
      show (st.guarded .capture (st.stepCapture r)).outcome = .error f →
        AllRecorded calls (history ++ (st.guarded .capture (st.stepCapture r)).trace)
      unfold guarded
      split
      · exact fun _ => h.all.silently silent_nil
      · split
        · exact fun _ => h.all.silently silent_nil
        · intro hstep
          rcases stepCapture_error hstep with hnil | ⟨k, s, node, dump, hpc, hdump, htrace⟩
          · rw [hnil]
            exact h.all.silently silent_nil
          · rw [htrace]
            exact h.all_handle hrelies hpc hdump r
  | _ => exact h.all.silently (step_silent st fun _ h => by cases h)

/-- **`CaptureCenter::run` is at a session of the vector.** -/
def Captured (st : Sdk) : Prop := ∀ s, st.capture.session? = some s → s ∈ st.sessionVector

/-- While it is inside its scope the vector does not change. -/
theorem step_captured (hcoherent : st.Coherent) (h : st.Captured) {a : Action}
    (hstep : (st.step a).outcome = .ok st') : st'.Captured := by
  cases a with
  | onRTPData t id data len =>
      obtain ⟨-, rfl⟩ := onRTPData_ok hstep
      exact h
  | readable s type available datagram =>
      obtain ⟨-, -, ⟨-, rfl⟩ | ⟨-, rfl⟩⟩ := readable_ok hstep <;> exact h
  | ingest x fails =>
      obtain ⟨es, -, hends⟩ := (stepIngest_endsIn st x fails).exists_ok (ingest_ok hstep).1
      generalize st.ingest x = pc at hends
      cases hends <;> exact h
  | capture r =>
      obtain ⟨es, -, hends⟩ := stepCapture_ok (capture_ok hstep).1
      unfold Captured at h
      generalize st.capture = pc at hends h
      cases hends with
      -- the session it turns to is taken from the vector
      | lockBuffer k s hs =>
          rintro s' ⟨⟩
          exact List.mem_of_getElem? hs
      | unlockBuffer | throwBuffer => rintro s' ⟨⟩
      | lockVector | unlockVector | head | erase | enter | handle | throws | lockPool | release
      | throwVector => exact h
  | add fileName videoPort audioPort videoFrequency =>
      obtain ⟨-, rfl⟩ := add_ok hstep
      exact h
  | del id =>
      obtain ⟨-, ⟨-, rfl⟩ | ⟨s, -, rfl⟩⟩ := del_ok hstep <;> exact h
  | control fails u =>
      obtain ⟨es, -, hends⟩ := (stepControl_endsIn st fails u).exists_ok (control_ok hstep).1
      have houtside := hcoherent.capture_outside
      generalize st.control = pc at hends houtside
      cases hends with
      | addPush s => exact fun s' hs' => List.mem_append_left _ (h s' hs')
      -- a session leaves the vector only while `CaptureCenter::run` is outside
      | delDump c =>
          intro s' hs'
          have hnone : st.capture.session? = none := (houtside (by simp [Control.holds])).1
          rw [show st.capture.session? = some s' from hs'] at hnone
          cases hnone
      | _ => exact h

/-- `CaptureCenter::run` handles packets of sessions that have a recorder, in every state. -/
theorem captured_of_reaches {memory : Block → Memory} (h : Reaches step (construct memory) st) :
    st.Captured := by
  refine (h.invariant (fun st => st.Coherent ∧ st.Captured) ?_ ⟨coherent_construct memory, ?_⟩).2
  · rintro st a st' ⟨hcoherent, hcaptured⟩ hstep
    exact ⟨step_coherent hcoherent hstep, step_captured hcoherent hcaptured hstep⟩
  · rintro s ⟨⟩

/-- **What the recorders rely on** holds in every run. -/
theorem relies_of_run {memory : Block → Memory} {as : List Action}
    (hrun : (run (construct memory) as).outcome = .ok st) :
    Relies (run (construct memory) as).trace st where
  known := (coherent_of_reaches ⟨as, hrun⟩).known
  reads := fun k s node hpc => handle_reads hrun hpc
  apart := fun s hs hadding => by
    obtain ⟨m, -, hfollows⟩ := run_mail memory as
    have hvector : s ∈ st.sessionVector := captured_of_reaches ⟨as, hrun⟩ s hs
    exact ((hfollows st hrun).adding s (adding_of_unrecorded hadding)).2 hvector

/-- **The recorders of the system are recorders**: in every run, whatever the order of the steps and
even when the run stops, the recorder of the session of every call of `addCaptureRtpSession` did
what an `RTPDump` with the arguments of that call does on the packets its `rtpHandler` was called on,
or on all but the last of them. -/
theorem run_recorded (memory : Block → Memory) (as : List Action) :
    AllRecorded (as.filterMap Action.added?) (run (construct memory) as).trace := by
  suffices key : AllRecorded (as.filterMap Action.added?) (run (construct memory) as).trace ∧
      ∀ st, (run (construct memory) as).outcome = .ok st →
        Recorders (as.filterMap Action.added?) (run (construct memory) as).trace st from key.1
  unfold run
  induction as using List.reverseRecOn with
  | nil =>
      refine ⟨(recorders_construct memory).all, ?_⟩
      rintro st ⟨⟩
      exact recorders_construct memory
  | append_singleton as a ih =>
      obtain ⟨hall, hok⟩ := ih
      rw [List.filterMap_append]
      have hlast : [a].filterMap Action.added? = a.added?.toList := by
        cases a <;> rfl
      rw [hlast]
      cases hrun : (Traced.run step (construct memory) as).outcome with
      | error f =>
          rw [run_append_of_error hrun, hrun]
          exact ⟨hall.append _, fun st hst => by cases hst⟩
      | ok st =>
          have hrecorders := hok st hrun
          have hrelies := relies_of_run hrun
          rw [run_append_of_ok hrun, run_singleton]
          cases hstep : (st.step a).outcome with
          | error f =>
              exact ⟨(hrecorders.all_of_error hrelies hstep).append _,
                fun st' hst' => by cases hst'⟩
          | ok st₁ =>
              have hnext := step_recorders hrelies hrecorders hstep
              refine ⟨hnext.all, ?_⟩
              rintro st' ⟨⟩
              exact hnext

/-- **What is recorded is what was pushed**: in every run the events of the recorder of a session are
those of an `RTPDump` on the first packets that were pushed to the list of the session. -/
theorem run_recorded_pushed (memory : Block → Memory) (as : List Action) {s : SessionRef}
    {call : String × Word} (hcall : (as.filterMap Action.added?)[s]? = some call) :
    ∃ handed dump, handed <+: SdkEvent.pushedTo s (run (construct memory) as).trace ∧
      Recorded call.1 call.2 handed (recorderEvents s (run (construct memory) as).trace) dump := by
  obtain ⟨handed, dump, hhanded, hrecorded⟩ := (run_recorded memory as).recorded s call hcall
  exact ⟨handed, dump, hhanded.1.trans (handedTo_isPrefix as List.prefix_rfl s), hrecorded⟩

/-- **Delivery is exactly once, in order and unaltered.** In every run, whatever the order of the
steps of the threads: at every moment the packets `rtpHandler` of a session was called on are the
first packets pushed to its list; at the call the recorder reads the bytes and gets the length of the
last of them, and what it does is what an `RTPDump` does that is fed with these packets; a caller
pushes only the packet of its call, and a bad call is turned away and changes no list; `rtpHandler` is
never entered twice at once for a session, nor after its deletion returned. -/
theorem run_delivers (memory : Block → Memory) (as : List Action) :
    (∀ past, past <+: (run (construct memory) as).trace →
      ∀ s, SdkEvent.handedTo s past <+: SdkEvent.pushedTo s past) ∧
    (∀ st, (run (construct memory) as).outcome = .ok st →
      ∀ k s node, st.capture = .handle k s node → ∃ earlier,
        SdkEvent.handedTo s (run (construct memory) as).trace =
          earlier ++ [((st.memory node.buffer).read 0 node.len.toNat, node.len)]) ∧
    AllRecorded (as.filterMap Action.added?) (run (construct memory) as).trace ∧
    Always (SdkEvent.Accepted 1500) (run (construct memory) as).trace ∧
    (∀ st, Reaches step (construct memory) st → st.TurnsAway) ∧
    Always SdkEvent.Exclusive (run (construct memory) as).trace := by
  refine ⟨fun past hpast s => handedTo_isPrefix as hpast s, fun st hst k s node hpc => ?_,
    run_recorded memory as, (run_accepted memory as).1, fun st hst => ?_, run_exclusive as⟩
  · exact handle_reads hst hpc
  · exact turnsAway st (by rw [blockSize_of_reaches hst]; decide)

end Sdk

end RtpCapture
