import RtpCapture.Recorder.RTPDump
import RtpCapture.Sessions.MemoryPool

/-! # The sessions and the threads around them

`RTPCaptureSDK`, `ReceiverCenter`, `CaptureCenter` and `RTPHandler`: packets come in through
`onRTPData`, called from any number of threads, and through the receive handlers that the reactor
thread runs; they wait in the `bufferList` of their session until the thread of
`CaptureCenter::run` hands them to the session's `RTPDump`. Sessions are added and deleted while all
this goes on.

The system is a machine whose actions are the steps of its threads: each step is one statement of
the source between two accesses to what the threads share. Where a thread is in its function is
recorded by `Ingest` (`onRTPData` and the receive handlers), `Capture` (`CaptureCenter::run`) and
`Control` (`addCaptureRtpSession` and `delCaptureRtpSession`, whose calls are serialised).

* **`Sdk`** — everything the threads share, and where each of them is.
* **`Sdk.wants`**, **`Sdk.touches`** — the mutex a thread is about to lock and the session it is
  about to access; a step waits for the mutex, and stops the system at a session that was deleted.
* **`Sdk.step`** — one step of one thread. -/

namespace RtpCapture

open Traced

/-! ## Sessions -/

/-- An `RTPSession *`; the objects are numbered as they are constructed. -/
abbrev SessionRef := ℕ

/-- The threads that bring packets in: callers of `onRTPData`, and the reactor. -/
inductive Source
  | caller (t : ℕ)
  | reactor
  deriving DecidableEq, Repr

/-- The threads of the system. -/
inductive Thread
  | source (x : Source)
  /-- `CaptureCenter::run`. -/
  | capture
  /-- The thread that adds and deletes sessions. -/
  | control
  deriving DecidableEq, Repr

/-- `RTPSession::buffer_node`. -/
structure BufferNode where
  buffer : Block
  len : ℤ
  deriving DecidableEq, Repr

/-- **The fields of `RTPSession`.** -/
structure RTPSession where
  sessionID : Word
  videoFrequency : Word
  listenVideoPort : Word
  listenAudioPort : Word
  fileName : String
  /-- Uninitialised until the session is added to the capture center. -/
  rtpDump : Option RTPDump
  /-- `rtpHandler != NULL`. -/
  rtpHandler : Bool
  bufferMutex : Option Thread
  bufferList : List BufferNode
  /-- The object was deleted. -/
  deleted : Bool

/-- No object yet. -/
def RTPSession.none : RTPSession := ⟨0, 0, 0, 0, "", .none, false, .none, [], false⟩

/-- `if(++SessionCounter < 0) SessionCounter = 0;` -/
def nextSessionID (counter : Word) : Word := if (counter + 1).toInt < 0 then 0 else counter + 1

/-- A `std::map<int,RTPSession*>`. -/
abbrev SessionMap := Word → Option SessionRef

/-- A receive handler that is registered with the reactor. -/
structure Handler where
  session : SessionRef
  /-- `onAudioSocketReadable` or `onVideoSocketReadable`. -/
  type : TagType
  /-- The `RTPHandler` it belongs to exists. -/
  alive : Bool
  deriving DecidableEq, Repr

/-! ## Where the threads are -/

/-- A packet on its way into the buffer list of a session. -/
structure Delivery where
  session : SessionRef
  bytes : List Byte
  len : ℤ
  deriving DecidableEq, Repr

/-- **A thread in `onRTPData` or in a receive handler.** -/
inductive Ingest
  | idle
  /-- Before `ScopedLock lock(m_sessionMapMutex)`. -/
  | lockMap (id : Word) (bytes : List Byte) (len : Word)
  /-- Before `m_sessionMap.find(session)` and the check of the length. -/
  | lookup (id : Word) (bytes : List Byte) (len : Word)
  /-- Before `m_memoryPool.get()`, and inside it. -/
  | lockPool (d : Delivery)
  | get (d : Delivery)
  /-- Before `memcpy` or `receiveBytes`. -/
  | fill (d : Delivery) (b : Block)
  /-- Before `ScopedLock lock(bufferMutex)`. -/
  | lockBuffer (d : Delivery) (b : Block)
  /-- Before `bufferList.push_back(node)`. -/
  | push (d : Delivery) (b : Block)
  /-- At the end of the scope of the two locks. -/
  | unlockBuffer (d : Delivery)
  | unlockMap
  deriving DecidableEq, Repr

/-- **The thread in `CaptureCenter::run`**, at the `k`-th element of `m_sessionVector`. -/
inductive Capture
  /-- Before `ScopedLock lock(m_sessionVectorMutex)`. -/
  | idle
  /-- Before `it != m_sessionVector.end()` and the lock of its session. -/
  | session (k : ℕ)
  /-- Before `while(!bufferList.empty())` and `node = *bufferList.begin()`. -/
  | drain (k : ℕ) (s : SessionRef)
  /-- Before `bufferList.erase(bufferList.begin())`. -/
  | erase (k : ℕ) (s : SessionRef) (node : BufferNode)
  /-- Before `rtpDump->rtpHandler(node.buffer, node.len)`, and inside it. -/
  | enter (k : ℕ) (s : SessionRef) (node : BufferNode)
  | handle (k : ℕ) (s : SessionRef) (node : BufferNode)
  /-- Before `m_memoryPool.release(node.buffer)`, and inside it. -/
  | lockPool (k : ℕ) (s : SessionRef) (b : Block)
  | release (k : ℕ) (s : SessionRef) (b : Block)
  /-- The ends of the two scopes when `std::length_error` leaves `rtpHandler`, and of the thread. -/
  | throwBuffer (s : SessionRef)
  | throwVector
  | ended
  deriving DecidableEq, Repr

/-- The argument of `RTPCaptureSDK::delCaptureRtpSession` and the session it found. -/
structure DelCall where
  id : Word
  session : SessionRef
  deriving DecidableEq, Repr

/-- **The thread in `addCaptureRtpSession` or `delCaptureRtpSession`.** -/
inductive Control
  | idle
  /-- `ReceiverCenter::addCaptureRtpSession`: the lock, the two binds, the two registrations, the
  map, the end of the scope. -/
  | addLockMap (s : SessionRef)
  | addBind (s : SessionRef)
  | addRegisterAudio (s : SessionRef)
  | addRegisterVideo (s : SessionRef)
  | addPublish (s : SessionRef)
  | addUnlockMap (s : SessionRef)
  /-- The end of that scope when an exception leaves it. -/
  | addThrowMap (s : SessionRef)
  /-- `CaptureCenter::addCaptureRtpSession`: the lock, `new RTPDump`, `push_back`, the end of the
  scope. -/
  | addLockVector (s : SessionRef)
  | addDump (s : SessionRef)
  | addPush (s : SessionRef)
  | addUnlockVector (s : SessionRef)
  | addThrowVector (s : SessionRef)
  /-- `m_sessionMap[s->SessionID] = s` of `RTPCaptureSDK`. -/
  | addRemember (s : SessionRef)
  /-- `CaptureCenter::delCaptureRtpSession`: the lock, `find`, the lock of the session. -/
  | delLockVector (c : DelCall)
  | delFind (c : DelCall)
  | delLockBuffer (c : DelCall)
  /-- Its loop: the head, `erase`, `release`. -/
  | delDrain (c : DelCall)
  | delErase (c : DelCall) (node : BufferNode)
  | delLockPool (c : DelCall) (b : Block)
  | delRelease (c : DelCall) (b : Block)
  /-- `delete rtpDump; m_sessionVector.erase(result)` and the end of the two scopes. -/
  | delDump (c : DelCall)
  | delUnlockBuffer (c : DelCall)
  | delUnlockVector (c : DelCall)
  /-- `delete r->second` and `m_sessionMap.erase(r)` of `RTPCaptureSDK`. -/
  | delFree (c : DelCall)
  | delForget (c : DelCall)
  deriving DecidableEq, Repr

/-! ## The state -/

/-- **The system.** -/
structure Sdk where
  sessionCounter : Word
  sessions : SessionRef → RTPSession
  /-- The number of the next session object. -/
  next : SessionRef
  /-- `RTPCaptureSDK::m_sessionMap`. -/
  sdkMap : SessionMap
  /-- `ReceiverCenter::m_sessionMap`. -/
  receiverMap : SessionMap
  handlers : List Handler
  /-- `CaptureCenter::m_sessionVector`. -/
  sessionVector : List SessionRef
  pool : MemoryPool
  memory : Block → Memory
  /-- The holders of `m_sessionMapMutex`, `m_sessionVectorMutex` and the mutex of the pool. -/
  mapMutex : Option Thread
  vectorMutex : Option Thread
  poolMutex : Option Thread
  ingest : Source → Ingest
  capture : Capture
  control : Control

/-- The SDK as it is constructed, over the memory it finds. -/
def Sdk.construct (memory : Block → Memory) : Sdk where
  sessionCounter := 0
  sessions := fun _ => RTPSession.none
  next := 0
  sdkMap := fun _ => none
  receiverMap := fun _ => none
  handlers := []
  sessionVector := []
  pool := MemoryPool.construct 1500 10 20000
  memory := memory
  mapMutex := none
  vectorMutex := none
  poolMutex := none
  ingest := fun _ => .idle
  capture := .idle
  control := .idle

/-- Why `onRTPData` or a receive handler gives up. -/
inductive Rejection
  | notFound
  | overflow
  | outOfMemory
  | receiveFailed
  deriving DecidableEq, Repr

/-- **What can be observed of the system.** -/
inductive SdkEvent
  /-- A thread calls `onRTPData`. -/
  | called (t : ℕ) (id : Word) (bytes : List Byte) (len : Word)
  | rejected (x : Source) (why : Rejection)
  /-- A packet is appended to the buffer list of a session. -/
  | pushed (x : Source) (s : SessionRef) (bytes : List Byte) (len : ℤ)
  /-- The thread leaves `onRTPData` or the receive handler. -/
  | returned (x : Source)
  /-- `rtpHandler` is entered for a session, and left, also by an exception. -/
  | entered (s : SessionRef) (bytes : List Byte) (len : ℤ)
  | left (s : SessionRef)
  /-- An event of the recorder of a session. -/
  | recorder (s : SessionRef) (e : Event)
  | added (id : Word) (s : SessionRef)
  | addFailed (s : SessionRef)
  | deleted (id : Word) (s : SessionRef)
  | delNotFound (id : Word)
  deriving DecidableEq, Repr

/-- Why the system stops. -/
inductive Stop
  /-- The action is not possible in this state. -/
  | notEnabled
  /-- An access through a pointer that points to no object. -/
  | invalidPointer
  /-- A fault of a recorder. -/
  | recorder (f : Fault)
  deriving DecidableEq, Repr

/-- A step of the system. -/
abbrev SdkRun := Traced SdkEvent Stop

namespace Sdk

/-! ## Mutexes -/

/-- The mutexes the threads share. -/
inductive Mutex
  | map
  | vector
  | pool
  | buffer (s : SessionRef)
  deriving DecidableEq, Repr

/-- The thread that holds a mutex. -/
def holder (st : Sdk) : Mutex → Option Thread
  | .map => st.mapMutex
  | .vector => st.vectorMutex
  | .pool => st.poolMutex
  | .buffer s => (st.sessions s).bufferMutex

/-- A session changes. -/
def setSession (st : Sdk) (s : SessionRef) (session : RTPSession) : Sdk :=
  { st with sessions := Function.update st.sessions s session }

/-- A mutex changes hands. -/
def setHolder (st : Sdk) (h : Option Thread) : Mutex → Sdk
  | .map => { st with mapMutex := h }
  | .vector => { st with vectorMutex := h }
  | .pool => { st with poolMutex := h }
  | .buffer s => st.setSession s { st.sessions s with bufferMutex := h }

/-- A thread that brings packets in goes on. -/
def setIngest (st : Sdk) (x : Source) (pc : Ingest) : Sdk :=
  { st with ingest := Function.update st.ingest x pc }

end Sdk

/-- The mutex the next step locks. -/
def Ingest.wants : Ingest → Option Sdk.Mutex
  | .lockMap _ _ _ => some .map
  | .lockPool _ => some .pool
  | .lockBuffer d _ => some (.buffer d.session)
  | _ => none

/-- The session the next step accesses. -/
def Ingest.touches : Ingest → Option SessionRef
  | .lockBuffer d _ => some d.session
  | .push d _ => some d.session
  | .unlockBuffer d => some d.session
  | _ => none

/-- The mutex `CaptureCenter::run` is about to lock. -/
def Capture.wants (vector : List SessionRef) : Capture → Option Sdk.Mutex
  | .idle => some .vector
  | .session k => vector[k]?.map .buffer
  | .lockPool _ _ _ => some .pool
  | _ => none

/-- The session it reads or writes next. -/
def Capture.touches (vector : List SessionRef) : Capture → Option SessionRef
  | .idle => none
  | .session k => vector[k]?
  | .drain _ s => some s
  | .erase _ s _ => some s
  | .enter _ s _ => some s
  | .handle _ s _ => some s
  | .lockPool _ _ _ => none
  | .release _ _ _ => none
  | .throwBuffer s => some s
  | .throwVector => none
  | .ended => none

/-- The mutex the control thread is about to lock. -/
def Control.wants : Control → Option Sdk.Mutex
  | .addLockMap _ => some .map
  | .addLockVector _ => some .vector
  | .delLockVector _ => some .vector
  | .delLockBuffer c => some (.buffer c.session)
  | .delLockPool _ _ => some .pool
  | _ => none

/-- The control thread reads the session it was given before it deletes it, and never after. -/
def Control.touches : Control → Option SessionRef
  | .delFind c => some c.session
  | .delLockBuffer c => some c.session
  | .delDrain c => some c.session
  | .delErase c _ => some c.session
  | .delDump c => some c.session
  | .delUnlockBuffer c => some c.session
  | .delFree c => some c.session
  | _ => none

namespace Sdk

/-- **The mutex a thread is about to lock.** -/
def wants (st : Sdk) : Thread → Option Mutex
  | .source x => (st.ingest x).wants
  | .capture => st.capture.wants st.sessionVector
  | .control => st.control.wants

/-- **The session a thread is about to access.** -/
def touches (st : Sdk) : Thread → Option SessionRef
  | .source x => (st.ingest x).touches
  | .capture => st.capture.touches st.sessionVector
  | .control => st.control.touches

/-- The thread has to wait. -/
def blocked (st : Sdk) (th : Thread) : Bool := (st.wants th).any fun m => (st.holder m).isSome

/-- The thread is about to access a session that was deleted. -/
def dangling (st : Sdk) (th : Thread) : Bool := (st.touches th).any fun s => (st.sessions s).deleted

/-! ## Bringing packets in -/

/-- `len > m_memoryPool.blockSize()`: the `int` is converted to `size_t`. -/
def overflows (len : Word) (blockSize : ℕ) : Bool := (blockSize : ℤ) < len.toInt % 2 ^ 64

/-- Where a thread goes when it leaves the scope of the pool and of the session: a caller still
holds `m_sessionMapMutex`. -/
def afterScope : Source → Ingest
  | .caller _ => .unlockMap
  | .reactor => .idle

/-- **One step of `onRTPData` or of a receive handler.** -/
def stepIngest (st : Sdk) (x : Source) (fails : Bool) : SdkRun Sdk :=
  match st.ingest x with
  | .idle => fault .notEnabled
  | .lockMap id bytes len =>
      return (st.setHolder (some (.source x)) .map).setIngest x (.lookup id bytes len)
  | .lookup id bytes len =>
      match st.receiverMap id with
      | none => do
          emit (.rejected x .notFound)
          return st.setIngest x .unlockMap
      | some s =>
          if overflows len st.pool.blockSize then do
            emit (.rejected x .overflow)
            return st.setIngest x .unlockMap
          else return st.setIngest x (.lockPool ⟨s, bytes, len.toInt⟩)
  | .lockPool d => return (st.setHolder (some (.source x)) .pool).setIngest x (.get d)
  | .get d =>
      match st.pool.get with
      -- the exception leaves through the scopes of the locks
      | none => do
          emit (.rejected x .outOfMemory)
          return (st.setHolder none .pool).setIngest x (afterScope x)
      | some (b, pool) =>
          return { st.setHolder none .pool with pool := pool }.setIngest x (.fill d b)
  | .fill d b =>
      -- only `receiveBytes` can throw; nothing releases the block then
      if fails = true ∧ x = .reactor then do
        emit (.rejected x .receiveFailed)
        return st.setIngest x .idle
      else
        return { st with
          memory := Function.update st.memory b ((st.memory b).write 0 d.bytes) }.setIngest x
            (.lockBuffer d b)
  | .lockBuffer d b =>
      return (st.setHolder (some (.source x)) (.buffer d.session)).setIngest x (.push d b)
  | .push d b => do
      emit (.pushed x d.session d.bytes d.len)
      let session := st.sessions d.session
      return (st.setSession d.session { session with
        bufferList := session.bufferList ++ [⟨b, d.len⟩] }).setIngest x (.unlockBuffer d)
  | .unlockBuffer d =>
      return (st.setHolder none (.buffer d.session)).setIngest x (afterScope x)
  | .unlockMap => do
      emit (.returned x)
      return (st.setHolder none .map).setIngest x .idle

/-! ## Handing packets on -/

/-- `audioHandler` stores the format byte over the byte in front of the payload: the block behind
a call of `rtpHandler`. -/
def blockAfter (trace : List Event) (buf : Memory) : Memory :=
  match trace.findSome? fun e => match e with
    | .flvWriteTag _ .audio _ data => data.head?
    | _ => none with
  | none => buf
  | some header => buf.write 11 [header]

/-- **One step of `CaptureCenter::run`.** -/
def stepCapture (st : Sdk) (r : FileResults) : SdkRun Sdk :=
  match st.capture with
  | .idle => return { st.setHolder (some .capture) .vector with capture := .session 0 }
  | .session k =>
      match st.sessionVector[k]? with
      | none => return { st.setHolder none .vector with capture := .idle }
      | some s => return { st.setHolder (some .capture) (.buffer s) with capture := .drain k s }
  | .drain k s =>
      match (st.sessions s).bufferList with
      | [] => return { st.setHolder none (.buffer s) with capture := .session (k + 1) }
      | node :: _ => return { st with capture := .erase k s node }
  | .erase k s node =>
      let session := st.sessions s
      return { st.setSession s { session with bufferList := session.bufferList.tail } with
        capture := .enter k s node }
  | .enter k s node => do
      emit (.entered s ((st.memory node.buffer).read 0 node.len.toNat) node.len)
      return { st with capture := .handle k s node }
  | .handle k s node =>
      match (st.sessions s).rtpDump with
      | none => fault .invalidPointer
      | some dump => do
          let handled := rtpHandler r dump ⟨st.memory node.buffer, node.len⟩
          let returned ← (handled.catching .lengthError).hoist (.recorder s) .recorder
          emit (.left s)
          match returned with
          -- nothing catches the exception in `run`: the block is not released, and the recorder,
          -- which no other thread calls, is left as it is
          | none => return { st with capture := .throwBuffer s }
          | some dump => return { st.setSession s { st.sessions s with rtpDump := some dump } with
              memory := Function.update st.memory node.buffer
                (blockAfter handled.trace (st.memory node.buffer))
              capture := .lockPool k s node.buffer }
  | .lockPool k s b =>
      return { st.setHolder (some .capture) .pool with capture := .release k s b }
  | .release k s b =>
      return { st.setHolder none .pool with pool := st.pool.release b, capture := .drain k s }
  | .throwBuffer s => return { st.setHolder none (.buffer s) with capture := .throwVector }
  | .throwVector => return { st.setHolder none .vector with capture := .ended }
  | .ended => fault .notEnabled

/-! ## Adding and deleting sessions -/

/-- `std::map::operator[]` with an assignment. -/
def insert (m : SessionMap) (id : Word) (s : SessionRef) : SessionMap :=
  Function.update m id (some s)

/-- `std::map::erase`. -/
def erase (m : SessionMap) (id : Word) : SessionMap := Function.update m id none

/-- The handlers when the `RTPHandler` of a session is destroyed before it was constructed: what has
been registered stays registered. -/
def orphan (handlers : List Handler) (s : SessionRef) : List Handler :=
  handlers.map fun h => if h.session = s then { h with alive := false } else h

/-- **One step of `addCaptureRtpSession` or `delCaptureRtpSession`**; `fails` says that the
fallible statement of the step throws. -/
def stepControl (st : Sdk) (fails : Bool) (u : Uninitialised) : SdkRun Sdk :=
  match st.control with
  | .idle => fault .notEnabled
  -- `ReceiverCenter::addCaptureRtpSession`
  | .addLockMap s => return { st.setHolder (some .control) .map with control := .addBind s }
  | .addBind s =>
      let session := st.sessions s
      let st := st.setSession s { session with rtpHandler := false }
      if session.listenVideoPort ≠ 0 ∧ session.listenAudioPort ≠ 0 then
        if fails then return { st with control := .addThrowMap s }
        else return { st with control := .addRegisterAudio s }
      else return { st with control := .addPublish s }
  | .addRegisterAudio s =>
      if fails then return { st with control := .addThrowMap s }
      else return { st with
        handlers := st.handlers ++ [⟨s, .audio, true⟩], control := .addRegisterVideo s }
  -- the handlers are registered one after the other, in the constructor of `RTPHandler`
  | .addRegisterVideo s =>
      if fails then return { st with
        handlers := orphan st.handlers s, control := .addThrowMap s }
      else return { st.setSession s { st.sessions s with rtpHandler := true } with
        handlers := st.handlers ++ [⟨s, .video, true⟩], control := .addPublish s }
  | .addPublish s =>
      return { st with
        receiverMap := insert st.receiverMap (st.sessions s).sessionID s
        control := .addUnlockMap s }
  | .addUnlockMap s => return { st.setHolder none .map with control := .addLockVector s }
  -- an exception leaves through the lock
  | .addThrowMap s => do
      emit (.addFailed s)
      return { st.setHolder none .map with control := .idle }
  -- `CaptureCenter::addCaptureRtpSession`
  | .addLockVector s => return { st.setHolder (some .control) .vector with control := .addDump s }
  | .addDump s =>
      if fails then return { st with control := .addThrowVector s }
      else
        let session := st.sessions s
        return { st.setSession s { session with
            rtpDump := some (RTPDump.construct session.fileName session.videoFrequency u) } with
          control := .addPush s }
  | .addPush s =>
      return { st with sessionVector := st.sessionVector ++ [s], control := .addUnlockVector s }
  | .addUnlockVector s => return { st.setHolder none .vector with control := .addRemember s }
  | .addThrowVector s => do
      emit (.addFailed s)
      return { st.setHolder none .vector with control := .idle }
  -- `m_sessionMap[s->SessionID] = s`, behind both
  | .addRemember s => do
      emit (.added (st.sessions s).sessionID s)
      return { st with
        sdkMap := insert st.sdkMap (st.sessions s).sessionID s, control := .idle }
  -- `CaptureCenter::delCaptureRtpSession`
  | .delLockVector c => return { st.setHolder (some .control) .vector with control := .delFind c }
  | .delFind c =>
      if c.session ∈ st.sessionVector then return { st with control := .delLockBuffer c }
      else return { st with control := .delUnlockVector c }
  | .delLockBuffer c =>
      return { st.setHolder (some .control) (.buffer c.session) with control := .delDrain c }
  | .delDrain c =>
      match (st.sessions c.session).bufferList with
      | [] => return { st with control := .delDump c }
      | node :: _ => return { st with control := .delErase c node }
  | .delErase c node =>
      let session := st.sessions c.session
      return { st.setSession c.session { session with
          bufferList := session.bufferList.tail } with
        control := .delLockPool c node.buffer }
  | .delLockPool c b =>
      return { st.setHolder (some .control) .pool with control := .delRelease c b }
  | .delRelease c b =>
      return { st.setHolder none .pool with pool := st.pool.release b, control := .delDrain c }
  | .delDump c =>
      return { st.setSession c.session { st.sessions c.session with rtpDump := none } with
        sessionVector := st.sessionVector.erase c.session, control := .delUnlockBuffer c }
  | .delUnlockBuffer c =>
      return { st.setHolder none (.buffer c.session) with control := .delUnlockVector c }
  | .delUnlockVector c => return { st.setHolder none .vector with control := .delFree c }
  -- `delete r->second`, and the entry is erased
  | .delFree c =>
      return { st.setSession c.session { st.sessions c.session with deleted := true } with
        control := .delForget c }
  | .delForget c => do
      emit (.deleted c.id c.session)
      return { st with sdkMap := erase st.sdkMap c.id, control := .idle }

/-! ## The machine -/

/-- **What can happen next.** -/
inductive Action
  /-- The thread `t` calls `onRTPData(id, data, len)`. -/
  | onRTPData (t : ℕ) (id : Word) (data : Memory) (len : Word)
  /-- A socket of a session is readable and the reactor calls its receive handler; `available`:
  `available()` reports bytes, and `receiveBytes` will get the datagram. -/
  | readable (s : SessionRef) (type : TagType) (available : Bool) (datagram : List Byte)
  /-- A thread that brings packets in goes on; `fails`: `receiveBytes` throws. -/
  | ingest (x : Source) (fails : Bool)
  /-- The capture thread goes on. -/
  | capture (r : FileResults)
  /-- `addCaptureRtpSession(fileName, videoPort, audioPort, videoFrequency)` is called. -/
  | add (fileName : String) (videoPort audioPort videoFrequency : Word)
  /-- `delCaptureRtpSession(id)` is called. -/
  | del (id : Word)
  /-- The control thread goes on; `fails`: the fallible statement throws. -/
  | control (fails : Bool) (u : Uninitialised)

/-- The call of `onRTPData`. -/
def callIngest (st : Sdk) (t : ℕ) (id : Word) (data : Memory) (len : Word) : SdkRun Sdk :=
  match st.ingest (.caller t) with
  | .idle => do
      let bytes := data.read 0 len.toInt.toNat
      emit (.called t id bytes len)
      return st.setIngest (.caller t) (.lockMap id bytes len)
  | _ => fault .notEnabled

/-- The reactor calls a receive handler, which does nothing when no bytes are available;
`receiveBytes` will cut the datagram to the size of a block. -/
def dispatch (st : Sdk) (s : SessionRef) (type : TagType) (available : Bool)
    (datagram : List Byte) : SdkRun Sdk :=
  match st.ingest .reactor with
  | .idle =>
      if ⟨s, type, true⟩ ∈ st.handlers then
        if !available then return st
        else
          let bytes := datagram.take st.pool.blockSize
          return st.setIngest .reactor (.lockPool ⟨s, bytes, bytes.length⟩)
      else if ⟨s, type, false⟩ ∈ st.handlers then fault .invalidPointer
      else fault .notEnabled
  | _ => fault .notEnabled

/-- The call of `addCaptureRtpSession`: the session object is constructed. -/
def callAdd (st : Sdk) (fileName : String) (videoPort audioPort videoFrequency : Word) :
    SdkRun Sdk :=
  match st.control with
  | .idle =>
      return { st.setSession st.next
          { RTPSession.none with
            sessionID := nextSessionID st.sessionCounter
            videoFrequency := videoFrequency
            listenVideoPort := videoPort
            listenAudioPort := audioPort
            fileName := fileName } with
        sessionCounter := nextSessionID st.sessionCounter
        next := st.next + 1
        control := .addLockMap st.next }
  | _ => fault .notEnabled

/-- The call of `delCaptureRtpSession`: it looks into the map of the SDK. -/
def callDel (st : Sdk) (id : Word) : SdkRun Sdk :=
  match st.control with
  | .idle =>
      match st.sdkMap id with
      | none => do
          emit (.delNotFound id)
          return st
      | some s => return { st with control := .delLockVector ⟨id, s⟩ }
  | _ => fault .notEnabled

/-- A step of a thread: it waits for the mutex it wants, and needs the session it accesses. -/
def guarded (st : Sdk) (th : Thread) (x : SdkRun Sdk) : SdkRun Sdk :=
  if st.dangling th then fault .invalidPointer
  else if st.blocked th then fault .notEnabled
  else x

/-- **One step of the system.** -/
def step (st : Sdk) : Action → SdkRun Sdk
  | .onRTPData t id data len => st.callIngest t id data len
  | .readable s type available datagram => st.dispatch s type available datagram
  | .ingest x fails => st.guarded (.source x) (st.stepIngest x fails)
  | .capture r => st.guarded .capture (st.stepCapture r)
  | .add fileName videoPort audioPort videoFrequency =>
      st.callAdd fileName videoPort audioPort videoFrequency
  | .del id => st.callDel id
  | .control fails u => st.guarded .control (st.stepControl fails u)

/-- **A run of the system.** -/
def run (st : Sdk) (as : List Action) : SdkRun Sdk := Traced.run step st as

end Sdk

end RtpCapture
