import RtpCapture.Foundations.Mutexes
import RtpCapture.Sessions.Transitions

/-! # The sections of the mutexes, and the sessions in use

Two invariants of the system that do not depend on what travels through it.

* **`Sdk.Known`** — every session that a map, a handler, the vector or a thread refers to was
  constructed; the others are as no thread has ever touched them.
* **`Sdk.Coherent`** — moreover a thread holds a mutex exactly while it is between the lock and the
  end of the scope; so `bufferList` has one user at a time (`Sdk.exclusive_of_reaches`). -/

namespace RtpCapture

open Traced

/-! ## The sessions the threads are at -/

/-- The session a packet is on its way to. -/
def Ingest.session? : Ingest → Option SessionRef
  | .idle => none
  | .lockMap _ _ _ => none
  | .lookup _ _ _ => none
  | .lockPool d => some d.session
  | .get d => some d.session
  | .fill d _ => some d.session
  | .lockBuffer d _ => some d.session
  | .push d _ => some d.session
  | .unlockBuffer d => some d.session
  | .unlockMap => none

/-- Only `onRTPData` has this step. -/
def Ingest.callerOnly : Ingest → Bool
  | .lockMap _ _ _ => true
  | .lookup _ _ _ => true
  | .unlockMap => true
  | _ => false

/-- The session `CaptureCenter::run` is at. -/
def Capture.session? : Capture → Option SessionRef
  | .idle => none
  | .session _ => none
  | .drain _ s => some s
  | .erase _ s _ => some s
  | .enter _ s _ => some s
  | .handle _ s _ => some s
  | .lockPool _ s _ => some s
  | .release _ s _ => some s
  | .throwBuffer s => some s
  | .throwVector => none
  | .ended => none

/-- The session that is being added, before it is in the vector. -/
def Control.adding : Control → Option SessionRef
  | .addLockMap s => some s
  | .addBind s => some s
  | .addRegisterAudio s => some s
  | .addRegisterVideo s => some s
  | .addPublish s => some s
  | .addUnlockMap s => some s
  | .addThrowMap s => some s
  | .addLockVector s => some s
  | .addDump s => some s
  | .addPush s => some s
  | .addThrowVector s => some s
  | _ => none

/-- The call of `delCaptureRtpSession` that is going on. -/
def Control.deleting : Control → Option DelCall
  | .delLockVector c => some c
  | .delFind c => some c
  | .delLockBuffer c => some c
  | .delDrain c => some c
  | .delErase c _ => some c
  | .delLockPool c _ => some c
  | .delRelease c _ => some c
  | .delDump c => some c
  | .delUnlockBuffer c => some c
  | .delUnlockVector c => some c
  | .delFree c => some c
  | .delForget c => some c
  | _ => none

/-- The session the control thread is at. -/
def Control.session? : Control → Option SessionRef
  | .addUnlockVector s => some s
  | .addRemember s => some s
  | pc => pc.adding <|> pc.deleting.map DelCall.session

/-! ## The mutexes the threads are inside -/

/-- A caller holds `m_sessionMapMutex` from `lookup` on; a receive handler never does. -/
def Source.scope : Source → List Sdk.Mutex
  | .caller _ => [.map]
  | .reactor => []

/-- A caller holds nothing but that mutex outside the inner scopes. -/
theorem Source.eq_map {x : Source} {m : Sdk.Mutex} (h : m ∈ x.scope) : m = .map := by
  cases x with
  | caller t => exact List.mem_singleton.mp h
  | reactor => cases h

/-- The mutexes a delivery holds at each point. -/
def Ingest.holds (x : Source) : Ingest → List Sdk.Mutex
  | .idle => []
  | .lockMap _ _ _ => []
  | .lookup _ _ _ => x.scope
  | .lockPool _ => x.scope
  | .get _ => .pool :: x.scope
  | .fill _ _ => x.scope
  | .lockBuffer _ _ => x.scope
  | .push d _ => .buffer d.session :: x.scope
  | .unlockBuffer d => .buffer d.session :: x.scope
  | .unlockMap => x.scope

/-- The mutexes `CaptureCenter::run` holds at each point. -/
def Capture.holds : Capture → List Sdk.Mutex
  | .idle => []
  | .session _ => [.vector]
  | .drain _ s => [.buffer s, .vector]
  | .erase _ s _ => [.buffer s, .vector]
  | .enter _ s _ => [.buffer s, .vector]
  | .handle _ s _ => [.buffer s, .vector]
  | .lockPool _ s _ => [.buffer s, .vector]
  | .release _ s _ => [.pool, .buffer s, .vector]
  | .throwBuffer s => [.buffer s, .vector]
  | .throwVector => [.vector]
  | .ended => []

/-- The mutexes the control thread holds at each point. -/
def Control.holds : Control → List Sdk.Mutex
  | .idle => []
  | .addLockMap _ => []
  | .addBind _ => [.map]
  | .addRegisterAudio _ => [.map]
  | .addRegisterVideo _ => [.map]
  | .addPublish _ => [.map]
  | .addUnlockMap _ => [.map]
  | .addThrowMap _ => [.map]
  | .addLockVector _ => []
  | .addDump _ => [.vector]
  | .addPush _ => [.vector]
  | .addUnlockVector _ => [.vector]
  | .addThrowVector _ => [.vector]
  | .addRemember _ => []
  | .delLockVector _ => []
  | .delFind _ => [.vector]
  | .delLockBuffer _ => [.vector]
  | .delDrain c => [.buffer c.session, .vector]
  | .delErase c _ => [.buffer c.session, .vector]
  | .delLockPool c _ => [.buffer c.session, .vector]
  | .delRelease c _ => [.pool, .buffer c.session, .vector]
  | .delDump c => [.buffer c.session, .vector]
  | .delUnlockBuffer c => [.buffer c.session, .vector]
  | .delUnlockVector _ => [.vector]
  | .delFree _ => []
  | .delForget _ => []

/-! ## Positions -/

/-- Where one of the threads is. -/
inductive Position
  | ingest (x : Source) (pc : Ingest)
  | capture (pc : Capture)
  | control (pc : Control)

namespace Position

/-- The thread that can be at a position. -/
def thread : Position → Thread
  | ingest x _ => .source x
  | capture _ => .capture
  | control _ => .control

/-- The session that is in use at a position. -/
def session? : Position → Option SessionRef
  | ingest _ pc => pc.session?
  | capture pc => pc.session?
  | control pc => pc.session?

/-- The mutexes held at a position. -/
def holds : Position → List Sdk.Mutex
  | ingest x pc => pc.holds x
  | capture pc => pc.holds
  | control pc => pc.holds

/-- A receive handler is nowhere where only `onRTPData` can be. -/
def possible : Position → Prop
  | ingest x pc => x = .reactor → pc.callerOnly = false
  | _ => True

end Position

namespace Sdk

/-- Where a thread is. -/
def position (st : Sdk) : Thread → Position
  | .source x => .ingest x (st.ingest x)
  | .capture => .capture st.capture
  | .control => .control st.control

/-- A thread goes on. -/
def goTo (st : Sdk) : Position → Sdk
  | .ingest x pc => st.setIngest x pc
  | .capture pc => { st with capture := pc }
  | .control pc => { st with control := pc }

/-- The mutexes a thread is inside. -/
def holds (st : Sdk) (th : Thread) : List Mutex := (st.position th).holds

/-- The other threads stay where they are. -/
theorem position_goTo (st : Sdk) (p : Position) :
    (st.goTo p).position = Function.update st.position p.thread p := by
  funext th
  cases p with
  | ingest x pc =>
      cases th with
      | source y =>
          by_cases hy : y = x
          · subst hy
            simp [position, goTo, setIngest, Position.thread]
          · simp [position, goTo, setIngest, Position.thread, hy]
      | capture | control => simp [position, goTo, setIngest, Position.thread]
  | capture pc | control pc => cases th <;> simp [position, goTo, Position.thread]

/-- A thread that moves holds what its new position says. -/
theorem holds_goTo (st : Sdk) (p : Position) :
    (st.goTo p).holds = Function.update st.holds p.thread p.holds := by
  funext th
  simp only [holds, position_goTo]
  by_cases hth : th = p.thread
  · rw [hth, Function.update_self, Function.update_self]
  · rw [Function.update_of_ne hth, Function.update_of_ne hth]
    rfl

/-- A lock moves no thread. -/
@[simp] theorem position_setHolder (st : Sdk) (t : Option Thread) (m : Mutex) :
    (st.setHolder t m).position = st.position := by
  funext th
  cases m <;> cases th <;> rfl

/-- So the positions hold what they held. -/
@[simp] theorem holds_setHolder (st : Sdk) (t : Option Thread) (m : Mutex) :
    (st.setHolder t m).holds = st.holds := by
  funext th
  rw [holds, position_setHolder]
  rfl

/-- Writing a session moves no thread. -/
@[simp] theorem holds_setSession (st : Sdk) (s : SessionRef) (session : RTPSession) :
    (st.setSession s session).holds = st.holds := rfl

/-! ## The sessions in use -/

/-- **Every session referred to was constructed.** -/
structure Known (st : Sdk) : Prop where
  fresh : ∀ s, st.next ≤ s → st.sessions s = RTPSession.none
  receiver : ∀ id s, st.receiverMap id = some s → s < st.next
  sdk : ∀ id s, st.sdkMap id = some s → s < st.next
  handler : ∀ h ∈ st.handlers, h.session < st.next
  vector : ∀ s ∈ st.sessionVector, s < st.next
  ingest : ∀ x s, (st.ingest x).session? = some s → s < st.next
  capture : ∀ s, st.capture.session? = some s → s < st.next
  control : ∀ s, st.control.session? = some s → s < st.next

/-- A fresh SDK uses no session. -/
theorem known_construct (memory : Block → Memory) : (construct memory).Known where
  fresh := fun _ _ => rfl
  receiver := fun _ _ h => by cases h
  sdk := fun _ _ h => by cases h
  handler := fun _ h => by cases h
  vector := fun _ h => by cases h
  ingest := fun _ _ h => by cases h
  capture := fun _ h => by cases h
  control := fun _ h => by cases h

namespace Known

variable {st : Sdk} {s : SessionRef}

/-- A known session is written. -/
theorem setSession (h : st.Known) (hs : s < st.next) (session : RTPSession) :
    (st.setSession s session).Known :=
  { h with
    fresh := fun s' hs' => by
      have hne : s' ≠ s := by
        rintro rfl
        exact Nat.not_lt.mpr hs' hs
      simp only [Sdk.setSession]
      rw [Function.update_of_ne hne]
      exact h.fresh s' hs' }

/-- The mutex of a known session is taken or released. -/
theorem setHolder (h : st.Known) (t : Option Thread) {m : Mutex}
    (hm : ∀ s, m = .buffer s → s < st.next) : (st.setHolder t m).Known := by
  cases m with
  | map | vector | pool => exact { h with }
  | buffer s => exact h.setSession (hm s rfl) _

/-- A thread moves to a position whose session is known. -/
theorem goTo (h : st.Known) {p : Position} (hp : ∀ s, p.session? = some s → s < st.next) :
    (st.goTo p).Known := by
  cases p with
  | ingest x pc =>
      refine { h with ingest := fun y s hs => ?_ }
      by_cases hy : y = x
      · subst hy
        exact hp s (by simpa [Sdk.goTo, Sdk.setIngest, Position.session?] using hs)
      · exact h.ingest y s (by simpa [Sdk.goTo, Sdk.setIngest, Function.update_of_ne hy] using hs)
  | capture pc => exact { h with capture := hp }
  | control pc => exact { h with control := hp }

end Known

/-! ## The sections -/

/-- The mutex has the new holder. -/
theorem holder_setHolder (st : Sdk) (t : Option Thread) (m : Mutex) :
    (st.setHolder t m).holder = Function.update st.holder m t := by
  funext k
  cases m with
  | map | vector | pool => cases k <;> simp [setHolder, holder]
  | buffer s =>
      cases k with
      | map | vector | pool => simp [setHolder, setSession, holder]
      | buffer s' =>
          by_cases hs : s' = s
          · simp [setHolder, setSession, holder, hs]
          · simp [setHolder, setSession, holder, hs]

/-- A thread that moves takes no mutex by that. -/
theorem holder_goTo (st : Sdk) (p : Position) : (st.goTo p).holder = st.holder := by
  funext k
  cases p <;> cases k <;> rfl

/-- A session changes, but not its mutex. -/
theorem holder_setSession {st : Sdk} {s : SessionRef} {session : RTPSession}
    (hmutex : session.bufferMutex = (st.sessions s).bufferMutex) :
    (st.setSession s session).holder = st.holder := by
  funext k
  cases k with
  | map | vector | pool => rfl
  | buffer s' =>
      by_cases hs : s' = s
      · simp [setSession, holder, hs, hmutex]
      · simp [setSession, holder, hs]

/-- **The threads and the mutexes agree**: a thread holds a mutex exactly while it is in the scope
of the lock, and refers only to sessions that exist. -/
structure Coherent (st : Sdk) : Prop where
  known : st.Known
  locked : Locked st.holder st.holds
  possible : ∀ th, (st.position th).possible

/-- A fresh SDK is coherent. -/
theorem coherent_construct (memory : Block → Memory) : (construct memory).Coherent where
  known := known_construct memory
  locked := fun k t => by
    cases t <;> simp only [holds, position, Position.holds, construct, Ingest.holds, Capture.holds,
      Control.holds, List.not_mem_nil, iff_false] <;> cases k <;> nofun
  possible := fun th => by cases th <;> simp [construct, position, Position.possible, Ingest.callerOnly]

namespace Coherent

variable {st : Sdk} {p : Position} {m : Mutex}

/-- A thread that moves to a possible position is where it can be. -/
theorem possible_goTo (h : st.Coherent) (hp : p.possible) (th : Thread) :
    ((st.goTo p).position th).possible := by
  rw [position_goTo]
  by_cases hth : th = p.thread
  · rw [hth, Function.update_self]
    exact hp
  · rw [Function.update_of_ne hth]
    exact h.possible th

/-- **A thread goes on** inside the same scopes. -/
theorem goTo (h : st.Coherent) (hsession : ∀ s, p.session? = some s → s < st.next)
    (hholds : st.holds p.thread = p.holds) (hp : p.possible) :
    (st.goTo p).Coherent where
  known := h.known.goTo hsession
  locked := by
    rw [holder_goTo, holds_goTo]
    exact h.locked.move hholds
  possible := h.possible_goTo hp

/-- **A thread enters the scope of a lock.** -/
theorem lock (h : st.Coherent) (hfree : st.holder m = none)
    (hm : ∀ s, m = .buffer s → s < st.next) (hsession : ∀ s, p.session? = some s → s < st.next)
    (hholds : p.holds = m :: st.holds p.thread) (hp : p.possible) :
    ((st.setHolder (some p.thread) m).goTo p).Coherent where
  known := (h.known.setHolder _ hm).goTo (by cases m <;> exact hsession)
  locked := by
    rw [holder_goTo, holds_goTo, holder_setHolder, holds_setHolder]
    exact h.locked.lock hfree hholds
  possible := fun th => by
    have hposition := h.possible_goTo hp th
    rw [position_goTo] at hposition ⊢
    rwa [position_setHolder]

/-- **A thread leaves the scope of a lock.** -/
theorem unlock (h : st.Coherent) (hm : ∀ s, m = .buffer s → s < st.next)
    (hsession : ∀ s, p.session? = some s → s < st.next)
    (hholds : st.holds p.thread = m :: p.holds) (hout : m ∉ p.holds) (hp : p.possible) :
    ((st.setHolder none m).goTo p).Coherent where
  known := (h.known.setHolder _ hm).goTo (by cases m <;> exact hsession)
  locked := by
    rw [holder_goTo, holds_goTo, holder_setHolder, holds_setHolder]
    exact h.locked.unlock hholds hout
  possible := fun th => by
    have hposition := h.possible_goTo hp th
    rw [position_goTo] at hposition ⊢
    rwa [position_setHolder]

/-- The memory and the pool concern neither sessions nor mutexes. -/
theorem setBlocks (h : st.Coherent) (pool : MemoryPool) (memory : Block → Memory) :
    ({ st with pool := pool, memory := memory } : Sdk).Coherent :=
  ⟨{ h.known with }, h.locked, h.possible⟩

/-- The registries change, and refer to constructed sessions as before. -/
theorem setRegistries (h : st.Coherent) {receiver sdk : SessionMap} {handlers : List Handler}
    {vector : List SessionRef} (hreceiver : ∀ id s, receiver id = some s → s < st.next)
    (hsdk : ∀ id s, sdk id = some s → s < st.next) (hhandlers : ∀ h ∈ handlers, h.session < st.next)
    (hvector : ∀ s ∈ vector, s < st.next) :
    ({ st with receiverMap := receiver, sdkMap := sdk, handlers := handlers,
               sessionVector := vector } : Sdk).Coherent :=
  ⟨{ h.known with receiver := hreceiver, sdk := hsdk, handler := hhandlers, vector := hvector },
    h.locked, h.possible⟩

/-- A session changes, but not its mutex. -/
theorem setSession (h : st.Coherent) {s : SessionRef} (hs : s < st.next) {session : RTPSession}
    (hmutex : session.bufferMutex = (st.sessions s).bufferMutex) :
    (st.setSession s session).Coherent where
  known := h.known.setSession hs session
  locked := by
    rw [holder_setSession hmutex]
    exact h.locked
  possible := h.possible

/-- **A session is constructed** and the control thread starts to add it. -/
theorem newSession (h : st.Coherent) (hidle : st.control = .idle) {session : RTPSession}
    (hmutex : session.bufferMutex = .none) (counter : Word) :
    ({ st.setSession st.next session with
        sessionCounter := counter, next := st.next + 1,
        control := .addLockMap st.next } : Sdk).Coherent where
  known := by
    have hlift : ∀ s, s < st.next → s < st.next + 1 := fun _ => Nat.lt_succ_of_lt
    exact
      { fresh := fun s hs => by
          dsimp only [Sdk.setSession]
          rw [Function.update_of_ne (Nat.ne_of_gt hs)]
          exact h.known.fresh s (Nat.le_of_succ_le hs)
        receiver := fun id s hs => hlift s (h.known.receiver id s hs)
        sdk := fun id s hs => hlift s (h.known.sdk id s hs)
        handler := fun handler hmem => hlift _ (h.known.handler handler hmem)
        vector := fun s hs => hlift s (h.known.vector s hs)
        ingest := fun x s hs => hlift s (h.known.ingest x s hs)
        capture := fun s hs => hlift s (h.known.capture s hs)
        control := fun s hs => by
          obtain rfl := Option.some.inj hs
          exact Nat.lt_succ_self _ }
  locked := by
    have hfresh : session.bufferMutex = (st.sessions st.next).bufferMutex := by
      rw [hmutex, h.known.fresh st.next (Nat.le_refl _)]
      rfl
    have hholds : st.holds .control = [] := congrArg Control.holds hidle
    have hlocked := h.locked.move hholds
    rw [← holder_setSession hfresh, ← holds_setSession st st.next session] at hlocked
    exact holds_goTo (st.setSession st.next session) (.control (.addLockMap st.next)) ▸ hlocked
  possible := fun th => by
    cases th with
    | source x => exact h.possible (.source x)
    | capture | control => trivial

end Coherent

/-! ## Every step -/

/-- A session is inserted into a map. -/
theorem lt_of_insert {m : SessionMap} {n : ℕ} {key : Word} {new : SessionRef}
    (h : ∀ id s, m id = some s → s < n) (hnew : new < n) (id : Word) (s : SessionRef)
    (hs : insert m key new id = some s) : s < n := by
  unfold insert at hs
  by_cases hid : id = key
  · rw [hid, Function.update_self] at hs
    obtain rfl := Option.some.inj hs
    exact hnew
  · rw [Function.update_of_ne hid] at hs
    exact h id s hs

/-- A key is erased from a map. -/
theorem lt_of_erase {m : SessionMap} {n : ℕ} {key : Word} (h : ∀ id s, m id = some s → s < n)
    (id : Word) (s : SessionRef) (hs : erase m key id = some s) : s < n := by
  unfold erase at hs
  by_cases hid : id = key
  · rw [hid, Function.update_self] at hs
    cases hs
  · rw [Function.update_of_ne hid] at hs
    exact h id s hs

/-- A thread is a caller where only `onRTPData` can be. -/
theorem eq_caller {x : Source} {pc : Ingest} (h : (Position.ingest x pc).possible)
    (hpc : pc.callerOnly = true) : ∃ t, x = .caller t := by
  cases x with
  | caller t => exact ⟨t, rfl⟩
  | reactor =>
      have hnot : pc.callerOnly = false := h rfl
      rw [hpc] at hnot
      cases hnot

variable {st st' : Sdk} {x : Source}

/-- **The end of the scope of the pool or of the session**: a caller goes on under
`m_sessionMapMutex`. -/
theorem Coherent.unlockScope (h : st.Coherent) {m : Mutex} (hm : ∀ s, m = .buffer s → s < st.next)
    (hholds : st.holds (.source x) = m :: x.scope) (hmap : m ≠ .map) :
    ((st.setHolder none m).setIngest x (afterScope x)).Coherent := by
  apply h.unlock (p := .ingest x (afterScope x)) (m := m) hm
  · cases x <;> nofun
  · rw [Position.thread, hholds]
    cases x <;> rfl
  · cases x with
    | caller t => exact fun hmem => hmap (Source.eq_map (x := .caller t) hmem)
    | reactor => exact List.not_mem_nil
  · cases x with
    | caller t => nofun
    | reactor => exact fun _ => rfl

/-- The steps of `onRTPData` and of the receive handlers. -/
theorem stepIngest_coherent (h : st.Coherent) {fails : Bool}
    (hfree : ∀ m, (st.ingest x).wants = some m → st.holder m = none)
    (hstep : (st.stepIngest x fails).outcome = .ok st') : st'.Coherent := by
  have hknown := h.known.ingest x
  have hpossible : (Position.ingest x (st.ingest x)).possible := h.possible (.source x)
  have hholds : st.holds (.source x) = (st.ingest x).holds x := rfl
  obtain ⟨es, -, hends⟩ := (stepIngest_endsIn st x fails).exists_ok hstep
  generalize hpc : st.ingest x = pc at hends hknown hpossible hholds hfree
  cases hends with
  -- only callers of `onRTPData` go through the map
  | lockMap id bytes len =>
      obtain ⟨t, rfl⟩ := eq_caller hpossible rfl
      refine h.lock (p := .ingest _ (.lookup id bytes len)) (hfree .map rfl) nofun nofun ?_ nofun
      exact congrArg (Mutex.map :: ·) hholds.symm
  | notFound | overflow =>
      obtain ⟨t, rfl⟩ := eq_caller hpossible rfl
      exact h.goTo (p := .ingest _ .unlockMap) nofun hholds nofun
  -- the session comes from the map, so it was constructed
  | found id bytes len s hs =>
      obtain ⟨t, rfl⟩ := eq_caller hpossible rfl
      refine h.goTo (p := .ingest _ (.lockPool ⟨s, bytes, len.toInt⟩)) ?_ hholds nofun
      rintro s' ⟨⟩
      exact h.known.receiver id s hs
  | lockPool d =>
      refine h.lock (p := .ingest x (.get d)) (hfree .pool rfl) nofun hknown ?_ fun _ => rfl
      exact congrArg (Mutex.pool :: ·) hholds.symm
  -- the exception gives up the mutex of the pool and what is held around it
  | outOfMemory d => exact h.unlockScope nofun hholds nofun
  | get d b pool =>
      exact (h.setBlocks pool st.memory).unlock (p := .ingest x (.fill d b)) (m := .pool)
        nofun hknown hholds (fun hmem => nomatch Source.eq_map hmem) fun _ => rfl
  -- only the reactor receives, and it holds nothing
  | receiveFailed d b hfails hx =>
      subst hx
      exact h.goTo (p := .ingest _ .idle) nofun hholds fun _ => rfl
  | fill d b =>
      exact (h.setBlocks st.pool _).goTo (p := .ingest x (.lockBuffer d b)) hknown hholds
        fun _ => rfl
  | lockBuffer d b =>
      have hsession : ∀ s, Mutex.buffer d.session = .buffer s → s < st.next := by
        rintro s ⟨⟩
        exact hknown _ rfl
      refine h.lock (p := .ingest x (.push d b)) (hfree _ rfl) hsession hknown ?_ fun _ => rfl
      exact congrArg (Mutex.buffer d.session :: ·) hholds.symm
  | push d b =>
      refine (h.setSession (hknown _ rfl) ?_).goTo (p := .ingest x (.unlockBuffer d)) hknown hholds
        fun _ => rfl
      rfl
  | unlockBuffer d =>
      refine h.unlockScope ?_ hholds nofun
      rintro s ⟨⟩
      exact hknown _ rfl
  | unlockMap =>
      obtain ⟨t, rfl⟩ := eq_caller hpossible rfl
      exact h.unlock (p := .ingest _ .idle) (m := .map) nofun nofun hholds
        (by simp [Position.holds, Ingest.holds]) nofun

/-- The steps of `CaptureCenter::run`. -/
theorem stepCapture_coherent (h : st.Coherent) {r : FileResults}
    (hfree : ∀ m, st.capture.wants st.sessionVector = some m → st.holder m = none)
    (hstep : (st.stepCapture r).outcome = .ok st') : st'.Coherent := by
  have hknown := h.known.capture
  have hholds : st.holds .capture = st.capture.holds := rfl
  have hsession : ∀ s', st.capture.session? = some s' → ∀ s, Mutex.buffer s' = .buffer s →
      s < st.next := by
    rintro s' hs' s ⟨⟩
    exact hknown s' hs'
  obtain ⟨es, -, hends⟩ := stepCapture_ok hstep
  generalize hpc : st.capture = pc at hends hknown hholds hfree hsession
  cases hends with
  | lockVector =>
      exact h.lock (p := .capture (.session 0)) (hfree .vector rfl) nofun nofun
        (congrArg (Mutex.vector :: ·) hholds.symm) trivial
  | unlockVector k =>
      exact h.unlock (p := .capture .idle) (m := .vector) nofun nofun hholds List.not_mem_nil trivial
  -- the session comes from the vector, so it was constructed
  | lockBuffer k s hs =>
      have hlt := h.known.vector s (List.mem_of_getElem? hs)
      refine h.lock (p := .capture (.drain k s)) (m := .buffer s) (hfree _ ?_) ?_ ?_
        (congrArg (Mutex.buffer s :: ·) hholds.symm) trivial
      · simp [Capture.wants, hs]
      · rintro s' ⟨⟩
        exact hlt
      · rintro s' ⟨⟩
        exact hlt
  | unlockBuffer k s =>
      exact h.unlock (p := .capture (.session (k + 1))) (m := .buffer s) (hsession s rfl) nofun
        hholds (by simp [Position.holds, Capture.holds]) trivial
  | head k s node => exact h.goTo (p := .capture (.erase k s node)) hknown hholds trivial
  | erase k s node =>
      refine (h.setSession (hknown _ rfl) ?_).goTo (p := .capture (.enter k s node)) hknown hholds
        trivial
      rfl
  | enter k s node => exact h.goTo (p := .capture (.handle k s node)) hknown hholds trivial
  | handle k s node dump dump' =>
      refine ((h.setSession (hknown _ rfl) ?_).goTo
        (p := .capture (.lockPool k s node.buffer)) hknown hholds trivial).setBlocks st.pool _
      rfl
  -- an exception unlocks the two mutexes on its way out
  | throws k s node => exact h.goTo (p := .capture (.throwBuffer s)) hknown hholds trivial
  | throwBuffer s =>
      exact h.unlock (p := .capture .throwVector) (m := .buffer s) (hsession s rfl) nofun hholds
        (by simp [Position.holds, Capture.holds]) trivial
  | throwVector =>
      exact h.unlock (p := .capture .ended) (m := .vector) nofun nofun hholds List.not_mem_nil trivial
  -- behind `rtpHandler`, the block goes back under the mutex of the pool
  | lockPool k s b =>
      exact h.lock (p := .capture (.release k s b)) (hfree .pool rfl) nofun hknown
        (congrArg (Mutex.pool :: ·) hholds.symm) trivial
  | release k s b =>
      exact (h.setBlocks (st.pool.release b) st.memory).unlock (p := .capture (.drain k s))
        (m := .pool) nofun hknown hholds (by simp [Position.holds, Capture.holds]) trivial

/-- The steps of `addCaptureRtpSession` and `delCaptureRtpSession`. -/
theorem stepControl_coherent (h : st.Coherent) {fails : Bool} {u : Uninitialised}
    (hfree : ∀ m, st.control.wants = some m → st.holder m = none)
    (hstep : (st.stepControl fails u).outcome = .ok st') : st'.Coherent := by
  have hknown := h.known.control
  have hholds : st.holds .control = st.control.holds := rfl
  have hbuffer : ∀ s', st.control.session? = some s' → ∀ s, Mutex.buffer s' = .buffer s →
      s < st.next := by
    rintro s' hs' s ⟨⟩
    exact hknown s' hs'
  obtain ⟨es, -, hends⟩ := (stepControl_endsIn st fails u).exists_ok hstep
  generalize hpc : st.control = pc at hends hknown hholds hfree hbuffer
  cases hends with
  -- `ReceiverCenter::addCaptureRtpSession` under the mutex of the map
  | addLockMap s =>
      exact h.lock (p := .control (.addBind s)) (hfree .map rfl) nofun hknown
        (congrArg (Mutex.map :: ·) hholds.symm) trivial
  | addBindThrows s =>
      exact (h.setSession (hknown _ rfl) (by rfl)).goTo (p := .control (.addThrowMap s)) hknown hholds
        trivial
  | addBind s =>
      exact (h.setSession (hknown _ rfl) (by rfl)).goTo (p := .control (.addRegisterAudio s)) hknown
        hholds trivial
  | addNoPorts s =>
      exact (h.setSession (hknown _ rfl) (by rfl)).goTo (p := .control (.addPublish s)) hknown hholds
        trivial
  | addRegisterAudioThrows s =>
      exact h.goTo (p := .control (.addThrowMap s)) hknown hholds trivial
  -- the new handlers are of the session that is added
  | addRegisterAudio s =>
      refine (h.goTo (p := .control (.addRegisterVideo s)) hknown hholds trivial).setRegistries
        h.known.receiver h.known.sdk ?_ h.known.vector
      exact List.forall_mem_append.mpr ⟨h.known.handler, List.forall_mem_singleton.mpr (hknown _ rfl)⟩
  -- the observer that stays registered is of a known session
  | addRegisterVideoThrows s =>
      refine (h.goTo (p := .control (.addThrowMap s)) hknown hholds trivial).setRegistries
        h.known.receiver h.known.sdk (fun handler hhandler => ?_) h.known.vector
      obtain ⟨old, hold, rfl⟩ := List.mem_map.mp hhandler
      split
      · exact h.known.handler old hold
      · exact h.known.handler old hold
  | addRegisterVideo s =>
      refine ((h.setSession (hknown _ rfl) ?_).goTo (p := .control (.addPublish s)) hknown hholds
        trivial).setRegistries h.known.receiver h.known.sdk ?_ h.known.vector
      · rfl
      · exact List.forall_mem_append.mpr ⟨h.known.handler, List.forall_mem_singleton.mpr (hknown _ rfl)⟩
  | addPublish s =>
      exact (h.goTo (p := .control (.addUnlockMap s)) hknown hholds trivial).setRegistries
        (lt_of_insert h.known.receiver (hknown _ rfl)) h.known.sdk h.known.handler h.known.vector
  | addUnlockMap s =>
      exact h.unlock (p := .control (.addLockVector s)) (m := .map) nofun hknown hholds
        List.not_mem_nil trivial
  | addThrowMap s =>
      exact h.unlock (p := .control .idle) (m := .map) nofun nofun hholds List.not_mem_nil trivial
  -- `CaptureCenter::addCaptureRtpSession` under the mutex of the vector
  | addLockVector s =>
      exact h.lock (p := .control (.addDump s)) (hfree .vector rfl) nofun hknown
        (congrArg (Mutex.vector :: ·) hholds.symm) trivial
  | addDumpThrows s => exact h.goTo (p := .control (.addThrowVector s)) hknown hholds trivial
  | addDump s =>
      refine (h.setSession (hknown _ rfl) ?_).goTo (p := .control (.addPush s)) hknown hholds trivial
      rfl
  | addPush s =>
      refine (h.goTo (p := .control (.addUnlockVector s)) hknown hholds trivial).setRegistries
        h.known.receiver h.known.sdk h.known.handler ?_
      exact List.forall_mem_append.mpr ⟨h.known.vector, List.forall_mem_singleton.mpr (hknown _ rfl)⟩
  | addUnlockVector s =>
      exact h.unlock (p := .control (.addRemember s)) (m := .vector) nofun hknown hholds
        List.not_mem_nil trivial
  | addThrowVector s =>
      exact h.unlock (p := .control .idle) (m := .vector) nofun nofun hholds List.not_mem_nil trivial
  | addRemember s =>
      exact (h.goTo (p := .control .idle) nofun hholds trivial).setRegistries h.known.receiver
        (lt_of_insert h.known.sdk (hknown _ rfl)) h.known.handler h.known.vector
  -- `CaptureCenter::delCaptureRtpSession`, with the mutex of the list inside that of the vector
  | delLockVector c =>
      exact h.lock (p := .control (.delFind c)) (hfree .vector rfl) nofun hknown
        (congrArg (Mutex.vector :: ·) hholds.symm) trivial
  | delFind c => exact h.goTo (p := .control (.delLockBuffer c)) hknown hholds trivial
  | delNotFound c => exact h.goTo (p := .control (.delUnlockVector c)) hknown hholds trivial
  | delLockBuffer c =>
      exact h.lock (p := .control (.delDrain c)) (hfree _ rfl) (hbuffer _ rfl) hknown
        (congrArg (Mutex.buffer c.session :: ·) hholds.symm) trivial
  | delDrained c => exact h.goTo (p := .control (.delDump c)) hknown hholds trivial
  | delHead c node => exact h.goTo (p := .control (.delErase c node)) hknown hholds trivial
  | delErase c node =>
      refine (h.setSession (hknown _ rfl) ?_).goTo (p := .control (.delLockPool c node.buffer)) hknown
        hholds trivial
      rfl
  -- and that of the pool inside both
  | delLockPool c b =>
      exact h.lock (p := .control (.delRelease c b)) (hfree .pool rfl) nofun hknown
        (congrArg (Mutex.pool :: ·) hholds.symm) trivial
  | delRelease c b =>
      exact (h.setBlocks (st.pool.release b) st.memory).unlock (p := .control (.delDrain c))
        (m := .pool) nofun hknown hholds (by simp [Position.holds, Control.holds]) trivial
  | delDump c =>
      refine ((h.setSession (hknown _ rfl) ?_).goTo (p := .control (.delUnlockBuffer c)) hknown hholds
        trivial).setRegistries h.known.receiver h.known.sdk h.known.handler ?_
      · rfl
      · exact fun s hs => h.known.vector s (List.mem_of_mem_erase hs)
  -- the scopes end in turn
  | delUnlockBuffer c =>
      exact h.unlock (p := .control (.delUnlockVector c)) (m := .buffer c.session) (hbuffer _ rfl)
        hknown hholds (by simp [Position.holds, Control.holds]) trivial
  | delUnlockVector c =>
      exact h.unlock (p := .control (.delFree c)) (m := .vector) nofun hknown hholds
        List.not_mem_nil trivial
  | delFree c =>
      refine (h.setSession (hknown _ rfl) ?_).goTo (p := .control (.delForget c)) hknown hholds trivial
      rfl
  | delForget c =>
      exact (h.goTo (p := .control .idle) nofun hholds trivial).setRegistries h.known.receiver
        (lt_of_erase h.known.sdk) h.known.handler h.known.vector

/-- **One step of the system.** -/
theorem step_coherent (h : st.Coherent) {a : Action} (hstep : (st.step a).outcome = .ok st') :
    st'.Coherent := by
  cases a with
  | onRTPData t id data len =>
      obtain ⟨hidle, rfl⟩ := onRTPData_ok hstep
      have hholds : st.holds (.source (.caller t)) = (st.ingest (.caller t)).holds (.caller t) := rfl
      rw [hidle] at hholds
      exact h.goTo (p := .ingest _ (.lockMap id (data.read 0 len.toInt.toNat) len)) nofun hholds nofun
  | readable s type available datagram =>
      obtain ⟨hidle, hmem, ⟨-, rfl⟩ | ⟨-, rfl⟩⟩ := readable_ok hstep
      · exact h
      · have hholds : st.holds (.source .reactor) = (st.ingest .reactor).holds .reactor := rfl
        rw [hidle] at hholds
        refine h.goTo (p := .ingest _ (.lockPool ⟨s, _, _⟩)) ?_ hholds fun _ => rfl
        rintro s' ⟨⟩
        exact h.known.handler _ hmem
  | ingest x fails =>
      obtain ⟨hstep, -, hfree⟩ := ingest_ok hstep
      exact stepIngest_coherent h hfree hstep
  | capture r =>
      obtain ⟨hstep, -, hfree⟩ := capture_ok hstep
      exact stepCapture_coherent h hfree hstep
  | add fileName videoPort audioPort videoFrequency =>
      obtain ⟨hidle, rfl⟩ := add_ok hstep
      exact h.newSession hidle rfl _
  | del id =>
      obtain ⟨hidle, ⟨-, rfl⟩ | ⟨s, hs, rfl⟩⟩ := del_ok hstep
      · exact h
      · have hholds : st.holds .control = st.control.holds := rfl
        rw [hidle] at hholds
        refine h.goTo (p := .control (.delLockVector ⟨id, s⟩)) ?_ hholds trivial
        rintro s' ⟨⟩
        exact h.known.sdk id s hs
  | control fails u =>
      obtain ⟨hstep, -, hfree⟩ := control_ok hstep
      exact stepControl_coherent h hfree hstep

/-- **Every state of every run.** -/
theorem coherent_of_reaches {memory : Block → Memory} (h : Reaches step (construct memory) st) :
    st.Coherent :=
  h.invariant Coherent (fun _ _ _ hinv hstep => step_coherent hinv hstep) (coherent_construct memory)

/-- **Mutual exclusion**: no two threads are in the scope of one mutex; so the `bufferList` of a
session has one user at a time. -/
theorem exclusive_of_reaches {memory : Block → Memory} (h : Reaches step (construct memory) st)
    {m : Mutex} {th th' : Thread} (hm : m ∈ st.holds th) (hm' : m ∈ st.holds th') : th = th' :=
  (coherent_of_reaches h).locked.exclusive hm hm'

end Sdk

end RtpCapture
