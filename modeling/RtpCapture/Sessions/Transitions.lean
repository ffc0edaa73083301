import RtpCapture.Sessions.System

/-! # What a step of a thread does

A step that is taken, from each place in the functions of the threads: the events it emits and the
state it leaves. What holds of the steps is proved by cases on these, not on the code of the steps.

* **`IngestStep`**, **`CaptureStep`**, **`ControlStep`** — the ways a step can end.
* **`Sdk.stepIngest_endsIn`**, **`Sdk.stepCapture_ok`**, **`Sdk.stepControl_endsIn`** — a step that
  is taken ends in one of them.
* **`Sdk.onRTPData_ok`**, **`Sdk.readable_ok`**, **`Sdk.add_ok`**, **`Sdk.del_ok`** — what a call
  does. -/

namespace RtpCapture

open Traced Sdk

/-- What is asked of the content of nothing. -/
theorem elim_none {α : Type} {P : α → Prop} : ∀ a, (none : Option α) = some a → P a := by
  rintro a ⟨⟩

/-- There is nothing in `none`. -/
theorem elim_none₂ {α β : Type} {P : α → β → Prop} :
    ∀ a b, (none : Option (α × β)) = some (a, b) → P a b := by
  rintro a b ⟨⟩

/-- A value is not `none`. -/
theorem elim_some {α : Type} {a : α} {P : Prop} (h : some a = none) : P := by cases h

/-- **A step of `onRTPData` or of a receive handler.** -/
inductive IngestStep (st : Sdk) (x : Source) (fails : Bool) :
    Ingest → List SdkEvent → Sdk → Prop
  | lockMap (id : Word) (bytes : List Byte) (len : Word) :
      IngestStep st x fails (.lockMap id bytes len) []
        ((st.setHolder (some (.source x)) .map).setIngest x (.lookup id bytes len))
  | notFound (id : Word) (bytes : List Byte) (len : Word) (hnone : st.receiverMap id = none) :
      IngestStep st x fails (.lookup id bytes len) [.rejected x .notFound]
        (st.setIngest x .unlockMap)
  | overflow (id : Word) (bytes : List Byte) (len : Word) (s : SessionRef)
      (hs : st.receiverMap id = some s) (hlen : overflows len st.pool.blockSize = true) :
      IngestStep st x fails (.lookup id bytes len) [.rejected x .overflow]
        (st.setIngest x .unlockMap)
  | found (id : Word) (bytes : List Byte) (len : Word) (s : SessionRef)
      (hs : st.receiverMap id = some s) (hlen : overflows len st.pool.blockSize = false) :
      IngestStep st x fails (.lookup id bytes len) []
        (st.setIngest x (.lockPool ⟨s, bytes, len.toInt⟩))
  | lockPool (d : Delivery) :
      IngestStep st x fails (.lockPool d) []
        ((st.setHolder (some (.source x)) .pool).setIngest x (.get d))
  | outOfMemory (d : Delivery) (hnone : st.pool.get = none) :
      IngestStep st x fails (.get d) [.rejected x .outOfMemory]
        ((st.setHolder none .pool).setIngest x (afterScope x))
  | get (d : Delivery) (b : Block) (pool : MemoryPool) (hget : st.pool.get = some (b, pool)) :
      IngestStep st x fails (.get d) []
        ({ st.setHolder none .pool with pool := pool }.setIngest x (.fill d b))
  | receiveFailed (d : Delivery) (b : Block) (hfails : fails = true) (hx : x = .reactor) :
      IngestStep st x fails (.fill d b) [.rejected x .receiveFailed] (st.setIngest x .idle)
  | fill (d : Delivery) (b : Block) (hreceived : ¬(fails = true ∧ x = .reactor)) :
      IngestStep st x fails (.fill d b) []
        ({ st with
          memory := Function.update st.memory b ((st.memory b).write 0 d.bytes) }.setIngest x
            (.lockBuffer d b))
  | lockBuffer (d : Delivery) (b : Block) :
      IngestStep st x fails (.lockBuffer d b) []
        ((st.setHolder (some (.source x)) (.buffer d.session)).setIngest x (.push d b))
  | push (d : Delivery) (b : Block) :
      IngestStep st x fails (.push d b) [.pushed x d.session d.bytes d.len]
        ((st.setSession d.session { st.sessions d.session with
          bufferList := (st.sessions d.session).bufferList ++ [⟨b, d.len⟩] }).setIngest x
            (.unlockBuffer d))
  | unlockBuffer (d : Delivery) :
      IngestStep st x fails (.unlockBuffer d) []
        ((st.setHolder none (.buffer d.session)).setIngest x (afterScope x))
  | unlockMap :
      IngestStep st x fails .unlockMap [.returned x] ((st.setHolder none .map).setIngest x .idle)

/-- **A step of `CaptureCenter::run`.** -/
inductive CaptureStep (st : Sdk) (r : FileResults) : Capture → List SdkEvent → Sdk → Prop
  | lockVector :
      CaptureStep st r .idle []
        { st.setHolder (some .capture) .vector with capture := .session 0 }
  | unlockVector (k : ℕ) (hnone : st.sessionVector[k]? = none) :
      CaptureStep st r (.session k) [] { st.setHolder none .vector with capture := .idle }
  | lockBuffer (k : ℕ) (s : SessionRef) (hs : st.sessionVector[k]? = some s) :
      CaptureStep st r (.session k) []
        { st.setHolder (some .capture) (.buffer s) with capture := .drain k s }
  | unlockBuffer (k : ℕ) (s : SessionRef) (hempty : (st.sessions s).bufferList = []) :
      CaptureStep st r (.drain k s) []
        { st.setHolder none (.buffer s) with capture := .session (k + 1) }
  | head (k : ℕ) (s : SessionRef) (node : BufferNode) (rest : List BufferNode)
      (hlist : (st.sessions s).bufferList = node :: rest) :
      CaptureStep st r (.drain k s) [] { st with capture := .erase k s node }
  | erase (k : ℕ) (s : SessionRef) (node : BufferNode) :
      CaptureStep st r (.erase k s node) []
        { st.setSession s { st.sessions s with
            bufferList := (st.sessions s).bufferList.tail } with capture := .enter k s node }
  | enter (k : ℕ) (s : SessionRef) (node : BufferNode) :
      CaptureStep st r (.enter k s node)
        [.entered s ((st.memory node.buffer).read 0 node.len.toNat) node.len]
        { st with capture := .handle k s node }
  /-- `rtpHandler` returns. -/
  | handle (k : ℕ) (s : SessionRef) (node : BufferNode) (dump dump' : RTPDump)
      (hdump : (st.sessions s).rtpDump = some dump)
      (hhandled : (rtpHandler r dump ⟨st.memory node.buffer, node.len⟩).outcome = .ok dump') :
      CaptureStep st r (.handle k s node)
        ((rtpHandler r dump ⟨st.memory node.buffer, node.len⟩).trace.map (.recorder s) ++ [.left s])
        { st.setSession s { st.sessions s with rtpDump := some dump' } with
          memory := Function.update st.memory node.buffer
            (blockAfter (rtpHandler r dump ⟨st.memory node.buffer, node.len⟩).trace
              (st.memory node.buffer))
          capture := .lockPool k s node.buffer }
  /-- `std::length_error` leaves it. -/
  | throws (k : ℕ) (s : SessionRef) (node : BufferNode) (dump : RTPDump)
      (hdump : (st.sessions s).rtpDump = some dump)
      (hthrows : (rtpHandler r dump ⟨st.memory node.buffer, node.len⟩).outcome =
        .error .lengthError) :
      CaptureStep st r (.handle k s node)
        ((rtpHandler r dump ⟨st.memory node.buffer, node.len⟩).trace.map (.recorder s) ++ [.left s])
        { st with capture := .throwBuffer s }
  | lockPool (k : ℕ) (s : SessionRef) (b : Block) :
      CaptureStep st r (.lockPool k s b) []
        { st.setHolder (some .capture) .pool with capture := .release k s b }
  | release (k : ℕ) (s : SessionRef) (b : Block) :
      CaptureStep st r (.release k s b) []
        { st.setHolder none .pool with pool := st.pool.release b, capture := .drain k s }
  | throwBuffer (s : SessionRef) :
      CaptureStep st r (.throwBuffer s) []
        { st.setHolder none (.buffer s) with capture := .throwVector }
  | throwVector :
      CaptureStep st r .throwVector [] { st.setHolder none .vector with capture := .ended }

/-- **A step of `addCaptureRtpSession` or of `delCaptureRtpSession`.** -/
inductive ControlStep (st : Sdk) (fails : Bool) (u : Uninitialised) :
    Control → List SdkEvent → Sdk → Prop
  | addLockMap (s : SessionRef) :
      ControlStep st fails u (.addLockMap s) []
        { st.setHolder (some .control) .map with control := .addBind s }
  /-- The first bind throws. -/
  | addBindThrows (s : SessionRef)
      (hports : (st.sessions s).listenVideoPort ≠ 0 ∧ (st.sessions s).listenAudioPort ≠ 0)
      (hfails : fails = true) :
      ControlStep st fails u (.addBind s) []
        { st.setSession s { st.sessions s with rtpHandler := false } with
          control := .addThrowMap s }
  | addBind (s : SessionRef)
      (hports : (st.sessions s).listenVideoPort ≠ 0 ∧ (st.sessions s).listenAudioPort ≠ 0)
      (hfails : ¬fails = true) :
      ControlStep st fails u (.addBind s) []
        { st.setSession s { st.sessions s with rtpHandler := false } with
          control := .addRegisterAudio s }
  /-- A port is `0`: no handler is constructed. -/
  | addNoPorts (s : SessionRef)
      (hports : ¬((st.sessions s).listenVideoPort ≠ 0 ∧ (st.sessions s).listenAudioPort ≠ 0)) :
      ControlStep st fails u (.addBind s) []
        { st.setSession s { st.sessions s with rtpHandler := false } with
          control := .addPublish s }
  | addRegisterAudioThrows (s : SessionRef) (hfails : fails = true) :
      ControlStep st fails u (.addRegisterAudio s) [] { st with control := .addThrowMap s }
  | addRegisterAudio (s : SessionRef) (hfails : ¬fails = true) :
      ControlStep st fails u (.addRegisterAudio s) []
        { st with
          handlers := st.handlers ++ [⟨s, .audio, true⟩], control := .addRegisterVideo s }
  | addRegisterVideoThrows (s : SessionRef) (hfails : fails = true) :
      ControlStep st fails u (.addRegisterVideo s) []
        { st with handlers := orphan st.handlers s, control := .addThrowMap s }
  | addRegisterVideo (s : SessionRef) (hfails : ¬fails = true) :
      ControlStep st fails u (.addRegisterVideo s) []
        { st.setSession s { st.sessions s with rtpHandler := true } with
          handlers := st.handlers ++ [⟨s, .video, true⟩], control := .addPublish s }
  | addPublish (s : SessionRef) :
      ControlStep st fails u (.addPublish s) []
        { st with
          receiverMap := insert st.receiverMap (st.sessions s).sessionID s
          control := .addUnlockMap s }
  | addUnlockMap (s : SessionRef) :
      ControlStep st fails u (.addUnlockMap s) []
        { st.setHolder none .map with control := .addLockVector s }
  | addThrowMap (s : SessionRef) :
      ControlStep st fails u (.addThrowMap s) [.addFailed s]
        { st.setHolder none .map with control := .idle }
  | addLockVector (s : SessionRef) :
      ControlStep st fails u (.addLockVector s) []
        { st.setHolder (some .control) .vector with control := .addDump s }
  | addDumpThrows (s : SessionRef) (hfails : fails = true) :
      ControlStep st fails u (.addDump s) [] { st with control := .addThrowVector s }
  | addDump (s : SessionRef) (hfails : ¬fails = true) :
      ControlStep st fails u (.addDump s) []
        { st.setSession s { st.sessions s with
            rtpDump := some (RTPDump.construct (st.sessions s).fileName
              (st.sessions s).videoFrequency u) } with
          control := .addPush s }
  | addPush (s : SessionRef) :
      ControlStep st fails u (.addPush s) []
        { st with sessionVector := st.sessionVector ++ [s], control := .addUnlockVector s }
  | addUnlockVector (s : SessionRef) :
      ControlStep st fails u (.addUnlockVector s) []
        { st.setHolder none .vector with control := .addRemember s }
  | addThrowVector (s : SessionRef) :
      ControlStep st fails u (.addThrowVector s) [.addFailed s]
        { st.setHolder none .vector with control := .idle }
  | addRemember (s : SessionRef) :
      ControlStep st fails u (.addRemember s) [.added (st.sessions s).sessionID s]
        { st with sdkMap := insert st.sdkMap (st.sessions s).sessionID s, control := .idle }
  | delLockVector (c : DelCall) :
      ControlStep st fails u (.delLockVector c) []
        { st.setHolder (some .control) .vector with control := .delFind c }
  | delFind (c : DelCall) (hmem : c.session ∈ st.sessionVector) :
      ControlStep st fails u (.delFind c) [] { st with control := .delLockBuffer c }
  | delNotFound (c : DelCall) (hmem : c.session ∉ st.sessionVector) :
      ControlStep st fails u (.delFind c) [] { st with control := .delUnlockVector c }
  | delLockBuffer (c : DelCall) :
      ControlStep st fails u (.delLockBuffer c) []
        { st.setHolder (some .control) (.buffer c.session) with control := .delDrain c }
  | delDrained (c : DelCall) (hempty : (st.sessions c.session).bufferList = []) :
      ControlStep st fails u (.delDrain c) [] { st with control := .delDump c }
  | delHead (c : DelCall) (node : BufferNode) (rest : List BufferNode)
      (hlist : (st.sessions c.session).bufferList = node :: rest) :
      ControlStep st fails u (.delDrain c) [] { st with control := .delErase c node }
  | delErase (c : DelCall) (node : BufferNode) :
      ControlStep st fails u (.delErase c node) []
        { st.setSession c.session { st.sessions c.session with
            bufferList := (st.sessions c.session).bufferList.tail } with
          control := .delLockPool c node.buffer }
  | delLockPool (c : DelCall) (b : Block) :
      ControlStep st fails u (.delLockPool c b) []
        { st.setHolder (some .control) .pool with control := .delRelease c b }
  | delRelease (c : DelCall) (b : Block) :
      ControlStep st fails u (.delRelease c b) []
        { st.setHolder none .pool with pool := st.pool.release b, control := .delDrain c }
  | delDump (c : DelCall) :
      ControlStep st fails u (.delDump c) []
        { st.setSession c.session { st.sessions c.session with rtpDump := none } with
          sessionVector := st.sessionVector.erase c.session, control := .delUnlockBuffer c }
  | delUnlockBuffer (c : DelCall) :
      ControlStep st fails u (.delUnlockBuffer c) []
        { st.setHolder none (.buffer c.session) with control := .delUnlockVector c }
  | delUnlockVector (c : DelCall) :
      ControlStep st fails u (.delUnlockVector c) []
        { st.setHolder none .vector with control := .delFree c }
  | delFree (c : DelCall) :
      ControlStep st fails u (.delFree c) []
        { st.setSession c.session { st.sessions c.session with deleted := true } with
          control := .delForget c }
  | delForget (c : DelCall) :
      ControlStep st fails u (.delForget c) [.deleted c.id c.session]
        { st with sdkMap := erase st.sdkMap c.id, control := .idle }

namespace Sdk

variable {st st' : Sdk}

/-- **A step of a thread that brings packets in**, from where it is. -/
theorem stepIngest_endsIn (st : Sdk) (x : Source) (fails : Bool) :
    (st.stepIngest x fails).EndsIn (IngestStep st x fails (st.ingest x)) := by
  unfold stepIngest
  cases hpc : st.ingest x
  case idle => exact .inl ⟨_, rfl⟩
  all_goals right
  case lockMap id bytes len => exact ⟨_, _, rfl, .lockMap id bytes len⟩
  case lookup id bytes len =>
    dsimp only
    cases hfound : st.receiverMap id with
    | none => exact ⟨_, _, rfl, .notFound id bytes len hfound⟩
    | some s =>
        dsimp only
        split
        · next hlen => exact ⟨_, _, rfl, .overflow id bytes len s hfound hlen⟩
        · next hlen => exact ⟨_, _, rfl, .found id bytes len s hfound (by simpa using hlen)⟩
  case lockPool d => exact ⟨_, _, rfl, .lockPool d⟩
  case get d =>
    dsimp only
    cases hget : st.pool.get with
    | none => exact ⟨_, _, rfl, .outOfMemory d hget⟩
    | some got => exact ⟨_, _, rfl, .get d got.1 got.2 hget⟩
  case fill d b =>
    dsimp only
    split
    · next hfails => exact ⟨_, _, rfl, .receiveFailed d b hfails.1 hfails.2⟩
    · next hreceived => exact ⟨_, _, rfl, .fill d b hreceived⟩
  case lockBuffer d b => exact ⟨_, _, rfl, .lockBuffer d b⟩
  case push d b => exact ⟨_, _, rfl, .push d b⟩
  case unlockBuffer d => exact ⟨_, _, rfl, .unlockBuffer d⟩
  case unlockMap => exact ⟨_, _, rfl, .unlockMap⟩

/-- **A step of the capture thread**, from where it is: the thread has ended, `rtpHandler` stops
after some of its events, or the step is taken. -/
theorem stepCapture_elim {motive : SdkRun Sdk → Prop} (st : Sdk) (r : FileResults)
    (hended : motive (fault .notEnabled))
    (hfault : ∀ k s node (events : List Event) f, st.capture = .handle k s node →
      motive ⟨events.map (.recorder s), .error f⟩)
    (hok : ∀ es st', CaptureStep st r st.capture es st' → motive ⟨es, .ok st'⟩) :
    motive (st.stepCapture r) := by
  unfold stepCapture
  cases hpc : st.capture <;> rw [hpc] at hok <;> dsimp only
  case idle => exact hok _ _ .lockVector
  case session k =>
    cases hs : st.sessionVector[k]? with
    | none => exact hok _ _ (.unlockVector k hs)
    | some s => exact hok _ _ (.lockBuffer k s hs)
  case drain k s =>
    cases hlist : (st.sessions s).bufferList with
    | nil => exact hok _ _ (.unlockBuffer k s hlist)
    | cons node rest => exact hok _ _ (.head k s node rest hlist)
  case erase k s node => exact hok _ _ (.erase k s node)
  case enter k s node => exact hok _ _ (.enter k s node)
  -- the recorder is null, returns, throws or stops
  case handle k s node =>
    cases hdump : (st.sessions s).rtpDump with
    | none => exact hfault k s node [] .invalidPointer hpc
    | some dump =>
        dsimp only
        cases hhandled : (rtpHandler r dump ⟨st.memory node.buffer, node.len⟩).outcome with
        | ok dump' =>
            rw [catching_of_ok hhandled]
            exact hok _ _ (.handle k s node dump dump' hdump hhandled)
        | error f =>
            by_cases hthrows : f = .lengthError
            · subst hthrows
              rw [catching_of_caught hhandled]
              exact hok _ _ (.throws k s node dump hdump hhandled)
            · rw [catching_of_error hhandled hthrows]
              exact hfault k s node _ (.recorder f) hpc
  case lockPool k s b => exact hok _ _ (.lockPool k s b)
  case release k s b => exact hok _ _ (.release k s b)
  case throwBuffer s => exact hok _ _ (.throwBuffer s)
  case throwVector => exact hok _ _ .throwVector
  case ended => exact hended

/-- A step of `CaptureCenter::run` is one of its transitions. -/
theorem stepCapture_ok {r : FileResults} (h : (st.stepCapture r).outcome = .ok st') :
    ∃ es, st.stepCapture r = ⟨es, .ok st'⟩ ∧ CaptureStep st r st.capture es st' := by
  revert h
  refine stepCapture_elim (motive := fun x => x.outcome = .ok st' →
    ∃ es, x = ⟨es, .ok st'⟩ ∧ CaptureStep st r st.capture es st') st r ?_ ?_ ?_
  · intro h
    cases h
  · intro k s node events f _ h
    cases h
  · intro es st₁ hstep h
    obtain rfl := Except.ok.inj h
    exact ⟨es, rfl, hstep⟩

/-- **A step of the control thread**, from where it is. -/
theorem stepControl_endsIn (st : Sdk) (fails : Bool) (u : Uninitialised) :
    (st.stepControl fails u).EndsIn (ControlStep st fails u st.control) := by
  unfold stepControl
  cases hpc : st.control
  case idle => exact .inl ⟨_, rfl⟩
  all_goals right
  case addBind s =>
    dsimp only
    split
    · next hports =>
        split
        · next hfails => exact ⟨_, _, rfl, .addBindThrows s hports hfails⟩
        · next hfails => exact ⟨_, _, rfl, .addBind s hports hfails⟩
    · next hports => exact ⟨_, _, rfl, .addNoPorts s hports⟩
  case addRegisterAudio s =>
    dsimp only
    split
    · next hfails => exact ⟨_, _, rfl, .addRegisterAudioThrows s hfails⟩
    · next hfails => exact ⟨_, _, rfl, .addRegisterAudio s hfails⟩
  case addRegisterVideo s =>
    dsimp only
    split
    · next hfails => exact ⟨_, _, rfl, .addRegisterVideoThrows s hfails⟩
    · next hfails => exact ⟨_, _, rfl, .addRegisterVideo s hfails⟩
  case addDump s =>
    dsimp only
    split
    · next hfails => exact ⟨_, _, rfl, .addDumpThrows s hfails⟩
    · next hfails => exact ⟨_, _, rfl, .addDump s hfails⟩
  case delFind c =>
    dsimp only
    split
    · next hmem => exact ⟨_, _, rfl, .delFind c hmem⟩
    · next hmem => exact ⟨_, _, rfl, .delNotFound c hmem⟩
  case delDrain c =>
    dsimp only
    cases hlist : (st.sessions c.session).bufferList with
    | nil => exact ⟨_, _, rfl, .delDrained c hlist⟩
    | cons node rest => exact ⟨_, _, rfl, .delHead c node rest hlist⟩
  -- the other places have one way to go on
  all_goals exact ⟨_, _, rfl, by constructor⟩

/-! ## A step that is taken -/

/-- **A thread that goes on** accesses no deleted session and waits for no mutex. -/
theorem guarded_ok {th : Thread} {x : SdkRun Sdk}
    (h : (st.guarded th x).outcome = .ok st') :
    st.guarded th x = x ∧ st.dangling th = false ∧ ∀ m, st.wants th = some m → st.holder m = none := by
  unfold guarded at h ⊢
  split at h
  · cases h
  · next hdangling =>
      split at h
      · cases h
      · next hblocked =>
          rw [if_neg hdangling, if_neg hblocked]
          refine ⟨rfl, by simpa using hdangling, fun m hm => ?_⟩
          simpa [blocked, hm] using hblocked

/-- **A call of `onRTPData`** comes from a thread that is in none. -/
theorem onRTPData_ok {t : ℕ} {id : Word} {data : Memory} {len : Word}
    (h : (st.step (.onRTPData t id data len)).outcome = .ok st') :
    st.ingest (.caller t) = .idle ∧
      st' = st.setIngest (.caller t) (.lockMap id (data.read 0 len.toInt.toNat) len) := by
  simp only [step, callIngest] at h
  split at h
  · next hidle => exact ⟨hidle, (Except.ok.inj h).symm⟩
  · cases h

/-- **A receive handler is called** while it is registered; it goes on when there are bytes. -/
theorem readable_ok {s : SessionRef} {type : TagType} {available : Bool} {datagram : List Byte}
    (h : (st.step (.readable s type available datagram)).outcome = .ok st') :
    st.ingest .reactor = .idle ∧ ⟨s, type, true⟩ ∈ st.handlers ∧
      (available = false ∧ st' = st ∨ available = true ∧
        st' = st.setIngest .reactor (.lockPool ⟨s, datagram.take st.pool.blockSize,
          (datagram.take st.pool.blockSize).length⟩)) := by
  simp only [step, dispatch] at h
  split at h
  · next hidle =>
      refine ⟨hidle, ?_⟩
      split at h
      · next hmem =>
          refine ⟨hmem, ?_⟩
          cases available with
          | false => exact .inl ⟨rfl, (Except.ok.inj h).symm⟩
          | true => exact .inr ⟨rfl, (Except.ok.inj h).symm⟩
      · split at h <;> cases h
  · cases h

/-- **A call of `addCaptureRtpSession`** constructs a session. -/
theorem add_ok {fileName : String} {videoPort audioPort videoFrequency : Word}
    (h : (st.step (.add fileName videoPort audioPort videoFrequency)).outcome = .ok st') :
    st.control = .idle ∧ st' = { st.setSession st.next
      { RTPSession.none with
        sessionID := nextSessionID st.sessionCounter
        videoFrequency := videoFrequency
        listenVideoPort := videoPort
        listenAudioPort := audioPort
        fileName := fileName } with
      sessionCounter := nextSessionID st.sessionCounter
      next := st.next + 1
      control := .addLockMap st.next } := by
  simp only [step, callAdd] at h
  split at h
  · next hidle => exact ⟨hidle, (Except.ok.inj h).symm⟩
  · cases h

/-- **A call of `delCaptureRtpSession`** goes on with a session it finds. -/
theorem del_ok {id : Word} (h : (st.step (.del id)).outcome = .ok st') :
    st.control = .idle ∧ (st.sdkMap id = none ∧ st' = st ∨
      ∃ s, st.sdkMap id = some s ∧ st' = { st with control := .delLockVector ⟨id, s⟩ }) := by
  simp only [step, callDel] at h
  split at h
  · next hidle =>
      refine ⟨hidle, ?_⟩
      cases hfound : st.sdkMap id with
      | none =>
          rw [hfound] at h
          exact .inl ⟨rfl, (Except.ok.inj h).symm⟩
      | some s =>
          rw [hfound] at h
          exact .inr ⟨s, rfl, (Except.ok.inj h).symm⟩
  · cases h

/-- A thread that brings packets in goes on. -/
theorem ingest_ok {x : Source} {fails : Bool}
    (h : (st.step (.ingest x fails)).outcome = .ok st') :
    (st.stepIngest x fails).outcome = .ok st' ∧ st.dangling (.source x) = false ∧
      ∀ m, st.wants (.source x) = some m → st.holder m = none := by
  obtain ⟨heq, htaken⟩ := guarded_ok h
  rw [step, heq] at h
  exact ⟨h, htaken⟩

/-- The capture thread goes on. -/
theorem capture_ok {r : FileResults} (h : (st.step (.capture r)).outcome = .ok st') :
    (st.stepCapture r).outcome = .ok st' ∧ st.dangling .capture = false ∧
      ∀ m, st.wants .capture = some m → st.holder m = none := by
  obtain ⟨heq, htaken⟩ := guarded_ok h
  rw [step, heq] at h
  exact ⟨h, htaken⟩

/-- The control thread goes on. -/
theorem control_ok {fails : Bool} {u : Uninitialised}
    (h : (st.step (.control fails u)).outcome = .ok st') :
    (st.stepControl fails u).outcome = .ok st' ∧ st.dangling .control = false ∧
      ∀ m, st.wants .control = some m → st.holder m = none := by
  obtain ⟨heq, htaken⟩ := guarded_ok h
  rw [step, heq] at h
  exact ⟨h, htaken⟩

end Sdk

end RtpCapture
