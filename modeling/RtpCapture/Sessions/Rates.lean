import RtpCapture.Foundations.TwoRuns
import RtpCapture.Sessions.System

/-! # What the system makes of a rate

`RTPDump` divides the rate of its session by 1000 when it is constructed, and nothing else in the
system reads it. A change of rates that keeps the quotients therefore commutes with every step.

* **`Sdk.rerate`** — the system with other rates in its sessions.
* **`Sdk.step_rerate`**, **`Sdk.run_rerate`** — the steps and the runs with such rates are the same
  but for the rates in the sessions. -/

namespace RtpCapture

open Traced

/-- The session with another rate. -/
def RTPSession.rerate (h : Word → Word) (session : RTPSession) : RTPSession :=
  { session with videoFrequency := h session.videoFrequency }

namespace Sdk

/-- The same call with another rate. -/
def Action.rerate (h : Word → Word) : Action → Action
  | .add fileName videoPort audioPort videoFrequency =>
      .add fileName videoPort audioPort (h videoFrequency)
  | a => a

/-- **The system with other rates**: every session has `h` of its rate. -/
def rerate (h : Word → Word) (st : Sdk) : Sdk :=
  { st with sessions := fun s => (st.sessions s).rerate h }

variable {h : Word → Word} {st : Sdk}

/-- Another rate for a session that is written. -/
theorem rerate_setSession (h : Word → Word) (st : Sdk) (s : SessionRef) (session : RTPSession) :
    (st.setSession s session).rerate h = (st.rerate h).setSession s (session.rerate h) := by
  unfold rerate setSession
  congr 1
  exact Function.comp_update (RTPSession.rerate h) st.sessions s session

/-- Another rate has nothing to do with locks. -/
theorem rerate_setHolder (t : Option Thread) (m : Mutex) :
    (st.setHolder t m).rerate h = (st.rerate h).setHolder t m := by
  cases m with
  | map | vector | pool => rfl
  | buffer s => exact rerate_setSession h st s _

/-- The threads that bring packets in read no rate. -/
theorem stepIngest_rerate (x : Source) (fails : Bool) :
    (st.rerate h).stepIngest x fails = (st.stepIngest x fails).mapValue (rerate h) := by
  -- what the thread reads is the same
  have hingest : (st.rerate h).ingest = st.ingest := rfl
  have hmap : (st.rerate h).receiverMap = st.receiverMap := rfl
  have hpool : (st.rerate h).pool = st.pool := rfl
  unfold stepIngest
  rw [hingest, hmap, hpool]
  cases st.ingest x
  -- each branch is one of the function with the other rates
  case lookup id bytes len =>
    dsimp only
    cases st.receiverMap id with
    | none => rfl
    | some s =>
        dsimp only
        split
        · rfl
        · rfl
  case get d =>
    dsimp only
    cases st.pool.get with
    | none => rfl
    | some got => rfl
  case fill d b =>
    dsimp only
    split
    · rfl
    · rfl
  case lockBuffer d b =>
    dsimp only
    rw [← rerate_setHolder]
    rfl
  -- the session that is written keeps its rate
  case push d b =>
    dsimp only
    rw [mapValue_emit_bind]
    congr 1
    funext u
    rw [mapValue_pure]
    congr 1
    have hsession := rerate_setSession h st d.session { st.sessions d.session with
      bufferList := (st.sessions d.session).bufferList ++ [⟨b, d.len⟩] }
    exact congrArg (fun st' => setIngest st' x (.unlockBuffer d)) hsession.symm
  case unlockBuffer d =>
    dsimp only
    rw [← rerate_setHolder]
    rfl
  all_goals rfl

/-- `CaptureCenter::run` neither. -/
theorem stepCapture_rerate (r : FileResults) :
    (st.rerate h).stepCapture r = (st.stepCapture r).mapValue (rerate h) := by
  -- what the thread reads is the same: a recorder has divided its rate already
  have hcapture : (st.rerate h).capture = st.capture := rfl
  have hvector : (st.rerate h).sessionVector = st.sessionVector := rfl
  have hlist : ∀ s, ((st.rerate h).sessions s).bufferList = (st.sessions s).bufferList :=
    fun _ => rfl
  have hdump : ∀ s, ((st.rerate h).sessions s).rtpDump = (st.sessions s).rtpDump := fun _ => rfl
  have hmemory : (st.rerate h).memory = st.memory := rfl
  unfold stepCapture
  simp only [hcapture, hvector, hlist, hdump, hmemory]
  cases st.capture
  case session k =>
    dsimp only
    cases st.sessionVector[k]? with
    | none => rfl
    | some s =>
        dsimp only
        rw [← rerate_setHolder]
        rfl
  case drain k s =>
    dsimp only
    cases (st.sessions s).bufferList with
    | nil =>
        dsimp only
        rw [← rerate_setHolder]
        rfl
    | cons node rest => rfl
  case erase k s node =>
    dsimp only
    rw [mapValue_pure]
    congr 1
    have hsession := rerate_setSession h st s
      { st.sessions s with bufferList := (st.sessions s).bufferList.tail }
    exact congrArg (fun st' : Sdk => { st' with capture := .enter k s node }) hsession.symm
  -- `rtpHandler` is the same, and the recorder it leaves goes into the session
  case handle k s node =>
    dsimp only
    cases (st.sessions s).rtpDump with
    | none => rfl
    | some dump =>
        dsimp only
        rw [mapValue_bind]
        congr 1
        funext returned
        rw [mapValue_emit_bind]
        congr 1
        funext _
        cases returned with
        | none => rfl
        | some dump' =>
            dsimp only
            rw [mapValue_pure]
            congr 1
            have hsession := rerate_setSession h st s { st.sessions s with rtpDump := some dump' }
            exact congrArg (fun st' : Sdk => { st' with
              memory := Function.update st.memory node.buffer
                (blockAfter (rtpHandler r dump ⟨st.memory node.buffer, node.len⟩).trace
                  (st.memory node.buffer))
              capture := .lockPool k s node.buffer }) hsession.symm
  case throwBuffer s =>
    dsimp only
    rw [← rerate_setHolder]
    rfl
  all_goals rfl

/-- A session changes, and the control thread goes on at `p`. -/
theorem rerate_setSession_control (h : Word → Word) (st : Sdk) (s : SessionRef)
    (session : RTPSession) (p : Control) :
    ({ st.setSession s session with control := p } : Sdk).rerate h =
      { (st.rerate h).setSession s (session.rerate h) with control := p } :=
  congrArg (fun st' : Sdk => { st' with control := p }) (rerate_setSession h st s session)

/-- **The control thread** reads the rate of a session once, for its recorder. -/
theorem stepControl_rerate (hq : ∀ f, (h f).sdiv 1000 = f.sdiv 1000) (fails : Bool)
    (u : Uninitialised) :
    (st.rerate h).stepControl fails u = (st.stepControl fails u).mapValue (rerate h) := by
  have hcontrol : (st.rerate h).control = st.control := rfl
  unfold stepControl
  rw [hcontrol]
  -- every branch but the one of `new RTPDump` does the same for any rate
  cases st.control
  case addBind s =>
    dsimp only
    show (if (st.sessions s).listenVideoPort ≠ 0 ∧ (st.sessions s).listenAudioPort ≠ 0 then
      (if fails then _ else _) else _) = _
    have hsession := rerate_setSession_control h st s
      { st.sessions s with rtpHandler := false }
    split
    · split
      · exact congrArg pure (hsession (.addThrowMap s)).symm
      · exact congrArg pure (hsession (.addRegisterAudio s)).symm
    · exact congrArg pure (hsession (.addPublish s)).symm
  case addRegisterAudio s =>
    dsimp only
    split
    · rfl
    · rfl
  case addRegisterVideo s =>
    dsimp only
    split
    · rfl
    · have hsession := rerate_setSession h st s { st.sessions s with rtpHandler := true }
      exact congrArg (fun st' : Sdk => (pure { st' with
        handlers := st.handlers ++ [⟨s, .video, true⟩], control := .addPublish s } : SdkRun Sdk))
        hsession.symm
  case addDump s =>
    dsimp only
    split
    · rfl
    · -- the recorder divides the rate before it keeps it
      have hdump : RTPDump.construct (st.sessions s).fileName (h (st.sessions s).videoFrequency) u =
          RTPDump.construct (st.sessions s).fileName (st.sessions s).videoFrequency u := by
        unfold RTPDump.construct
        rw [hq]
      have hsession := rerate_setSession_control h st s { st.sessions s with
        rtpDump := some (RTPDump.construct (st.sessions s).fileName
          (st.sessions s).videoFrequency u) } (.addPush s)
      rw [mapValue_pure, hsession, ← hdump]
      rfl
  case delFind c =>
    dsimp only
    show (if c.session ∈ st.sessionVector then _ else _) = _
    split
    · rfl
    · rfl
  case delLockBuffer c =>
    dsimp only
    rw [← rerate_setHolder]
    rfl
  -- the list of the session is the same
  case delDrain c =>
    dsimp only
    have hlist : ((st.rerate h).sessions c.session).bufferList =
        (st.sessions c.session).bufferList := rfl
    rw [hlist]
    cases (st.sessions c.session).bufferList with
    | nil => rfl
    | cons node rest => rfl
  case delErase c node =>
    have hsession := rerate_setSession_control h st c.session
      { st.sessions c.session with bufferList := (st.sessions c.session).bufferList.tail }
    exact congrArg pure (hsession (.delLockPool c node.buffer)).symm
  case delDump c =>
    have hsession := rerate_setSession h st c.session
      { st.sessions c.session with rtpDump := none }
    exact congrArg (fun st' : Sdk => (pure { st' with
      sessionVector := st.sessionVector.erase c.session
      control := .delUnlockBuffer c } : SdkRun Sdk)) hsession.symm
  case delUnlockBuffer c =>
    dsimp only
    rw [← rerate_setHolder]
    rfl
  case delFree c =>
    have hsession := rerate_setSession_control h st c.session
      { st.sessions c.session with deleted := true }
    exact congrArg pure (hsession (.delForget c)).symm
  all_goals rfl

/-- The threads wait for the same mutexes and access the same sessions. -/
theorem guarded_rerate (th : Thread) {x : SdkRun Sdk} {y : SdkRun Sdk}
    (hxy : x = y.mapValue (rerate h)) :
    (st.rerate h).guarded th x = (st.guarded th y).mapValue (rerate h) := by
  have hdangling : (st.rerate h).dangling th = st.dangling th := by
    cases th <;> rfl
  have hblocked : (st.rerate h).blocked th = st.blocked th := by
    have hholder : (st.rerate h).holder = st.holder := by
      funext m
      cases m <;> rfl
    have hwants : (st.rerate h).wants th = st.wants th := by cases th <;> rfl
    unfold blocked
    rw [hwants, hholder]
  unfold guarded
  rw [hdangling, hblocked, hxy]
  split
  · rfl
  · split
    · rfl
    · rfl

/-- **Nothing but the quotient of a rate matters** to a step. -/
theorem step_rerate (hq : ∀ f, (h f).sdiv 1000 = f.sdiv 1000) (a : Action) :
    (st.rerate h).step (a.rerate h) = (st.step a).mapValue (rerate h) := by
  -- a call starts with the same state, and an addition with the other rate
  cases a with
  | onRTPData t id data len =>
      show (st.rerate h).callIngest t id data len = (st.callIngest t id data len).mapValue _
      unfold callIngest
      have hingest : (st.rerate h).ingest = st.ingest := rfl
      rw [hingest]
      cases st.ingest (.caller t) <;> rfl
  | readable s type available datagram =>
      show (st.rerate h).dispatch s type available datagram =
        (st.dispatch s type available datagram).mapValue _
      unfold dispatch
      have hingest : (st.rerate h).ingest = st.ingest := rfl
      have hhandlers : (st.rerate h).handlers = st.handlers := rfl
      rw [hingest, hhandlers]
      cases st.ingest .reactor
      case idle =>
        dsimp only
        split
        · split
          · rfl
          · rfl
        · split
          · rfl
          · rfl
      all_goals rfl
  | ingest x fails => exact guarded_rerate _ (stepIngest_rerate x fails)
  | capture r => exact guarded_rerate _ (stepCapture_rerate r)
  | add fileName videoPort audioPort videoFrequency =>
      show (st.rerate h).callAdd fileName videoPort audioPort (h videoFrequency) =
        (st.callAdd fileName videoPort audioPort videoFrequency).mapValue _
      unfold callAdd
      have hcontrol : (st.rerate h).control = st.control := rfl
      rw [hcontrol]
      cases st.control
      case idle =>
        dsimp only
        rw [mapValue_pure]
        congr 1
        have hsession := rerate_setSession h st st.next { RTPSession.none with
          sessionID := nextSessionID st.sessionCounter
          videoFrequency := videoFrequency
          listenVideoPort := videoPort
          listenAudioPort := audioPort
          fileName := fileName }
        exact congrArg (fun st' : Sdk => { st' with
          sessionCounter := nextSessionID st.sessionCounter
          next := st.next + 1
          control := .addLockMap st.next }) hsession.symm
      all_goals rfl
  | del id =>
      show (st.rerate h).callDel id = (st.callDel id).mapValue _
      unfold callDel
      have hcontrol : (st.rerate h).control = st.control := rfl
      have hmap : (st.rerate h).sdkMap = st.sdkMap := rfl
      rw [hcontrol, hmap]
      cases st.control
      case idle =>
        dsimp only
        cases st.sdkMap id with
        | none => rfl
        | some s => rfl
      all_goals rfl
  | control fails u => exact guarded_rerate _ (stepControl_rerate hq fails u)

/-- **Runs with other rates.** -/
theorem run_rerate (hq : ∀ f, (h f).sdiv 1000 = f.sdiv 1000) (st : Sdk) (as : List Action) :
    (st.rerate h).run (as.map (Action.rerate h)) = (st.run as).mapValue (rerate h) :=
  run_mapValue (fun _ a => step_rerate hq a) st as

end Sdk

end RtpCapture
