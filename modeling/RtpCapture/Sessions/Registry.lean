import RtpCapture.Sessions.Locks

/-! # The three registries

`RTPCaptureSDK::m_sessionMap`, `ReceiverCenter::m_sessionMap` and `CaptureCenter::m_sessionVector`
each keep the sessions, and the receive handlers keep theirs. `addCaptureRtpSession` enters a session
in all of them; `delCaptureRtpSession` never calls `ReceiverCenter::delCaptureRtpSession` and so
leaves it in the map of the receiver and with the handlers.

* **`Sdk.RegistriesAgree`** — the three name the same sessions, and nobody keeps a deleted one.
* **`Sdk.run_registriesAgree`** — between the calls this holds in every run without a deletion, in
  which no id comes twice and no `new RTPDump` throws.
* **`Sdk.run_registries_disagree`** — after one deletion it does not. -/

namespace RtpCapture

open Traced

/-- The session that is in the map of the receiver, and not yet in the vector. -/
def Control.published : Control → Option SessionRef
  | .addUnlockMap s => some s
  | .addLockVector s => some s
  | .addDump s => some s
  | .addPush s => some s
  | .addThrowVector s => some s
  | _ => none

/-- The session that is in the vector, and not yet in the map of the SDK. -/
def Control.pushed : Control → Option SessionRef
  | .addUnlockVector s => some s
  | .addRemember s => some s
  | _ => none

namespace Sdk

/-- **The registries agree**: the maps and the vector name the same sessions under the same ids; an id
that the SDK does not know is not found by `onRTPData`; every handler that is registered is one of an
`RTPHandler` that exists; and nobody refers to a deleted session, not the registries, not a handler,
not a packet on its way. -/
structure RegistriesAgree (st : Sdk) : Prop where
  sdk_iff : ∀ id s, st.sdkMap id = some s ↔
    s ∈ st.sessionVector ∧ (st.sessions s).sessionID = id
  receiver_iff : ∀ id s, st.receiverMap id = some s ↔
    s ∈ st.sessionVector ∧ (st.sessions s).sessionID = id
  notFound : ∀ id, st.sdkMap id = none → st.receiverMap id = none
  vector_alive : ∀ s ∈ st.sessionVector, (st.sessions s).deleted = false
  handler_alive : ∀ h ∈ st.handlers, h.alive = true ∧ (st.sessions h.session).deleted = false
  ingest_alive : ∀ x s, (st.ingest x).session? = some s → (st.sessions s).deleted = false

/-- **Nothing a registry has to forget**: no session is deleted, a new session gets an id that is not
in use, and neither the constructor of `RTPDump` throws nor the constructor of `RTPHandler` once it has
registered the first of its two handlers. -/
def KeepsRegistries (st : Sdk) : Action → Prop
  | .add _ _ _ _ => st.sdkMap (nextSessionID st.sessionCounter) = none
  | .del id => st.sdkMap id = none
  | .control fails _ =>
      ∀ s, st.control = .addDump s ∨ st.control = .addRegisterVideo s → fails = false
  | _ => True

/-! ## The steps of the other threads -/

/-- **The maps and the vector say the same** in two states. -/
structure SameRegistries (st st' : Sdk) : Prop where
  sdk : st'.sdkMap = st.sdkMap
  receiver : st'.receiverMap = st.receiverMap
  vector : st'.sessionVector = st.sessionVector
  control : st'.control = st.control
  sessionID : ∀ s, (st'.sessions s).sessionID = (st.sessions s).sessionID
  deleted : ∀ s, (st'.sessions s).deleted = (st.sessions s).deleted

variable {st st' : Sdk}

/-- A session keeps its id and is not deleted. -/
theorem sameRegistries_setSession {s : SessionRef} {session : RTPSession}
    (hid : session.sessionID = (st.sessions s).sessionID)
    (hdeleted : session.deleted = (st.sessions s).deleted) :
    st.SameRegistries (st.setSession s session) where
  sdk := rfl
  receiver := rfl
  vector := rfl
  control := rfl
  sessionID := fun s' => by
    by_cases hs : s' = s
    · simp [setSession, hs, hid]
    · simp [setSession, hs]
  deleted := fun s' => by
    by_cases hs : s' = s
    · simp [setSession, hs, hdeleted]
    · simp [setSession, hs]

/-- A lock does not change the registries. -/
theorem sameRegistries_setHolder (t : Option Thread) (m : Mutex) :
    st.SameRegistries (st.setHolder t m) := by
  cases m with
  | map | vector | pool => exact ⟨rfl, rfl, rfl, rfl, fun _ => rfl, fun _ => rfl⟩
  | buffer s => exact sameRegistries_setSession rfl rfl

/-- **What only the control thread changes** says the same: the registries, the handlers of the
reactor, the counter of the ids and that of the session objects. -/
structure SameControlData (st st' : Sdk) : Prop extends SameRegistries st st' where
  handlers : st'.handlers = st.handlers
  sessionCounter : st'.sessionCounter = st.sessionCounter
  next : st'.next = st.next

/-- What the control thread reads is the same as it is. -/
theorem sameControlData_refl (st : Sdk) : st.SameControlData st :=
  ⟨⟨rfl, rfl, rfl, rfl, fun _ => rfl, fun _ => rfl⟩, rfl, rfl, rfl⟩

/-- A session that keeps its id and is not deleted reads the same. -/
theorem sameControlData_setSession {s : SessionRef} {session : RTPSession}
    (hid : session.sessionID = (st.sessions s).sessionID)
    (hdeleted : session.deleted = (st.sessions s).deleted) :
    st.SameControlData (st.setSession s session) :=
  ⟨sameRegistries_setSession hid hdeleted, rfl, rfl, rfl⟩

/-- A lock does not change it. -/
theorem sameControlData_setHolder (t : Option Thread) (m : Mutex) :
    st.SameControlData (st.setHolder t m) := by
  refine ⟨sameRegistries_setHolder t m, ?_, ?_, ?_⟩
  · cases m <;> rfl
  · cases m <;> rfl
  · cases m <;> rfl

/-- A delivery that moves does not change it. -/
theorem SameControlData.setIngest (h : st.SameControlData st') (x : Source) (p : Ingest) :
    st.SameControlData (st'.setIngest x p) := { h with }

/-- Neither does `CaptureCenter::run` by moving. -/
theorem SameControlData.setCapture (h : st.SameControlData st') (memory : Block → Memory)
    (p : Capture) : st.SameControlData { st' with memory := memory, capture := p } := { h with }

/-- **The threads that bring packets in** change nothing that is the control thread's. -/
theorem stepIngest_sameControlData {x : Source} {fails : Bool}
    (hstep : (st.stepIngest x fails).outcome = .ok st') : st.SameControlData st' := by
  have hsame : ∀ t k p, st.SameControlData ((st.setHolder t k).setIngest x p) := fun t k p =>
    (sameControlData_setHolder t k).setIngest x p
  have hmove : ∀ p, st.SameControlData (st.setIngest x p) := (sameControlData_refl st).setIngest x
  obtain ⟨es, -, hends⟩ := (stepIngest_endsIn st x fails).exists_ok hstep
  generalize st.ingest x = pc at hends
  cases hends with
  | notFound | overflow | found | receiveFailed => exact hmove _
  | lockMap | lockPool | outOfMemory | lockBuffer | unlockBuffer | unlockMap => exact hsame _ _ _
  -- the pool and the memory are no registries
  | get d b pool => exact { hsame none .pool .idle with }
  | fill d b => exact { hmove .idle with }
  | push d b =>
      refine SameControlData.setIngest (sameControlData_setSession ?_ ?_) x _
      · rfl
      · rfl

/-- **`CaptureCenter::run`** neither. -/
theorem stepCapture_sameControlData {r : FileResults}
    (hstep : (st.stepCapture r).outcome = .ok st') : st.SameControlData st' := by
  have hsame : ∀ t k p, st.SameControlData { st.setHolder t k with capture := p } := fun t k p =>
    { @sameControlData_setHolder st t k with }
  obtain ⟨es, -, hends⟩ := stepCapture_ok hstep
  generalize st.capture = pc at hends
  cases hends with
  | lockVector | unlockVector | lockBuffer | unlockBuffer | lockPool | throwBuffer | throwVector =>
      exact hsame _ _ _
  | head | enter | throws => exact { sameControlData_refl st with }
  | erase k s node =>
      refine SameControlData.setCapture (sameControlData_setSession ?_ ?_) st.memory _
      · rfl
      · rfl
  -- the recorder is changed, and the block behind the packet
  | handle k s node dump dump' =>
      refine SameControlData.setCapture (sameControlData_setSession ?_ ?_) _ _
      · rfl
      · rfl
  | release k s b => exact { hsame none .pool .idle with }

/-! ## Adding sessions -/

/-- **Between the entries of an `add`**: the map of the receiver has the session from `addPublish`
on, the vector from `addPush` on, and the map of the SDK at last. -/
structure Registered (st : Sdk) : Prop where
  sdk_iff : ∀ id s, st.sdkMap id = some s ↔
    s ∈ st.sessionVector ∧ st.control.pushed ≠ some s ∧ (st.sessions s).sessionID = id
  receiver_iff : ∀ id s, st.receiverMap id = some s ↔
    (s ∈ st.sessionVector ∨ st.control.published = some s) ∧ (st.sessions s).sessionID = id
  adding : ∀ s, st.control.adding = some s → s ∉ st.sessionVector
  free : ∀ s, st.control.adding = some s → st.control.published = none →
    st.sdkMap (st.sessions s).sessionID = none
  pushed : ∀ s, st.control.pushed = some s → s ∈ st.sessionVector
  deleting : st.control.deleting = none
  noThrow : ∀ s, st.control ≠ .addThrowVector s
  alive : ∀ s, (st.sessions s).deleted = false

/-- **Every registered handler** is one of an `RTPHandler` that exists. -/
def HandlersAlive (st : Sdk) : Prop := ∀ h ∈ st.handlers, h.alive = true

/-- Between the calls the registries agree. -/
theorem Registered.agree (h : st.Registered) (hhandlers : st.HandlersAlive)
    (hidle : st.control = .idle) : st.RegistriesAgree := by
  have hsdk : ∀ id s, st.sdkMap id = some s ↔
      s ∈ st.sessionVector ∧ (st.sessions s).sessionID = id := by
    intro id s
    rw [h.sdk_iff, hidle]
    simp [Control.pushed]
  have hreceiver : ∀ id s, st.receiverMap id = some s ↔
      s ∈ st.sessionVector ∧ (st.sessions s).sessionID = id := by
    intro id s
    rw [h.receiver_iff, hidle]
    simp [Control.published]
  refine ⟨hsdk, hreceiver, fun id hnone => ?_, fun s _ => h.alive s,
    fun handler hmem => ⟨hhandlers handler hmem, h.alive handler.session⟩, fun _ s _ => h.alive s⟩
  rw [Option.eq_none_iff_forall_ne_some]
  intro s hs
  rw [(hsdk id s).mpr ((hreceiver id s).mp hs)] at hnone
  cases hnone

/-- A fresh SDK has nothing registered. -/
theorem registered_construct (memory : Block → Memory) : (construct memory).Registered where
  sdk_iff := fun id s => by simp [construct]
  receiver_iff := fun id s => by simp [construct, Control.published]
  adding := nofun
  free := nofun
  pushed := nofun
  deleting := rfl
  noThrow := nofun
  alive := fun _ => rfl

/-- The steps of the other threads. -/
theorem SameRegistries.registered (hsame : st.SameRegistries st') (h : st.Registered) :
    st'.Registered where
  sdk_iff := fun id s => by
    rw [hsame.sdk, hsame.vector, hsame.control, hsame.sessionID]
    exact h.sdk_iff id s
  receiver_iff := fun id s => by
    rw [hsame.receiver, hsame.vector, hsame.control, hsame.sessionID]
    exact h.receiver_iff id s
  adding := by
    rw [hsame.control, hsame.vector]
    exact h.adding
  free := fun s => by
    rw [hsame.control, hsame.sdk, hsame.sessionID]
    exact h.free s
  pushed := by
    rw [hsame.control, hsame.vector]
    exact h.pushed
  deleting := by
    rw [hsame.control]
    exact h.deleting
  noThrow := by
    rw [hsame.control]
    exact h.noThrow
  alive := fun s => by
    rw [hsame.deleted]
    exact h.alive s

/-- **The control thread goes on** between two entries. -/
theorem SameRegistries.setControl (hsame : st.SameRegistries st') (h : st.Registered)
    {p q : Control} (hpc : st.control = q) (hpushed : q.pushed = p.pushed)
    (hpublished : q.published = p.published) (hadding : q.adding = p.adding ∨ p.adding = none)
    (hdeleting : p.deleting = none) (hthrow : ∀ s, p ≠ .addThrowVector s) :
    ({ st' with control := p } : Sdk).Registered := by
  have h' := hsame.registered h
  rw [← hpc, ← hsame.control] at hpushed hpublished hadding
  exact
    { sdk_iff := fun id s => by
        dsimp only
        rw [← hpushed]
        exact h'.sdk_iff id s
      receiver_iff := fun id s => by
        dsimp only
        rw [← hpublished]
        exact h'.receiver_iff id s
      adding := fun s hs => by
        rcases hadding with heq | hnone
        · exact h'.adding s (heq ▸ hs)
        · rw [show p.adding = some s from hs] at hnone
          cases hnone
      free := fun s hs hnone => by
        rcases hadding with heq | hnone'
        · exact h'.free s (heq ▸ hs) (hpublished ▸ hnone)
        · rw [show p.adding = some s from hs] at hnone'
          cases hnone'
      pushed := fun s hs => h'.pushed s (hpushed ▸ hs)
      deleting := hdeleting
      noThrow := hthrow
      alive := h'.alive }

/-- `ReceiverCenter` enters the session under an id that nobody has. -/
theorem Registered.publish (h : st.Registered) {s : SessionRef} (hpc : st.control = .addPublish s) :
    ({ st with
        receiverMap := insert st.receiverMap (st.sessions s).sessionID s
        control := .addUnlockMap s } : Sdk).Registered := by
  have hfree := h.free s (by rw [hpc]; rfl) (by rw [hpc]; rfl)
  -- a session with this id would be known to the SDK
  have hvector : ∀ s' ∈ st.sessionVector, (st.sessions s').sessionID ≠ (st.sessions s).sessionID := by
    intro s' hs' heq
    have hold := (h.sdk_iff _ s').mpr ⟨hs', by rw [hpc]; nofun, heq⟩
    rw [hfree] at hold
    cases hold
  refine { h with
    sdk_iff := ?_, receiver_iff := ?_, adding := ?_, free := nofun, pushed := nofun,
    deleting := rfl, noThrow := nofun }
  · have hsdk := h.sdk_iff
    rw [hpc] at hsdk
    exact hsdk
  -- the map of the receiver has one more entry
  · intro id s'
    have hreceiver := h.receiver_iff id s'
    rw [hpc] at hreceiver
    simp only [insert, Control.published, Option.some.injEq] at hreceiver ⊢
    by_cases hid : id = (st.sessions s).sessionID
    · subst hid
      rw [Function.update_self]
      constructor
      · intro heq
        obtain rfl := Option.some.inj heq
        exact ⟨.inr rfl, rfl⟩
      · rintro ⟨hs' | rfl, heq⟩
        · exact absurd heq (hvector s' hs')
        · rfl
    · rw [Function.update_of_ne hid, hreceiver]
      constructor
      · rintro ⟨hs' | hs', heq⟩
        · exact ⟨.inl hs', heq⟩
        · cases hs'
      · rintro ⟨hs' | rfl, heq⟩
        · exact ⟨.inl hs', heq⟩
        · exact absurd heq.symm hid
  · have hadding := h.adding
    rw [hpc] at hadding
    exact hadding

/-- `CaptureCenter` enters the session. -/
theorem Registered.push (h : st.Registered) {s : SessionRef} (hpc : st.control = .addPush s) :
    ({ st with sessionVector := st.sessionVector ++ [s], control := .addUnlockVector s } :
      Sdk).Registered := by
  have hnot := h.adding s (by rw [hpc]; rfl)
  refine { h with
    sdk_iff := ?_, receiver_iff := ?_, adding := nofun, free := nofun, pushed := ?_,
    deleting := rfl, noThrow := nofun }
  · intro id s'
    have hsdk := h.sdk_iff id s'
    rw [hpc] at hsdk
    simp only [Control.pushed, List.mem_append, List.mem_singleton, ne_eq, Option.some.injEq] at hsdk ⊢
    rw [hsdk]
    constructor
    · rintro ⟨hs', -, heq⟩
      exact ⟨.inl hs', fun hs => hnot (hs ▸ hs'), heq⟩
    · rintro ⟨hs' | rfl, hne, heq⟩
      · exact ⟨hs', nofun, heq⟩
      · exact absurd rfl hne
  · intro id s'
    have hreceiver := h.receiver_iff id s'
    rw [hpc] at hreceiver
    simp only [Control.published, List.mem_append, List.mem_singleton, Option.some.injEq] at hreceiver ⊢
    rw [hreceiver]
    simp [eq_comm]
  · rintro s' ⟨⟩
    exact List.mem_append_right _ (List.mem_singleton_self _)

/-- `RTPCaptureSDK` enters the session: its id is its own. -/
theorem Registered.remember (h : st.Registered) {s : SessionRef}
    (hpc : st.control = .addRemember s) :
    ({ st with sdkMap := insert st.sdkMap (st.sessions s).sessionID s, control := .idle } :
      Sdk).Registered := by
  have hmem := h.pushed s (by rw [hpc]; rfl)
  have hreceiver := h.receiver_iff
  rw [hpc] at hreceiver
  refine { h with
    sdk_iff := ?_, receiver_iff := hreceiver, adding := nofun, free := nofun, pushed := nofun,
    deleting := rfl, noThrow := nofun }
  intro id s'
  have hsdk := h.sdk_iff id s'
  rw [hpc] at hsdk
  simp only [insert, Control.pushed, ne_eq, Option.some.injEq] at hsdk ⊢
  by_cases hid : id = (st.sessions s).sessionID
  · subst hid
    rw [Function.update_self]
    constructor
    · intro heq
      obtain rfl := Option.some.inj heq
      exact ⟨hmem, nofun, rfl⟩
    · rintro ⟨hs', -, heq⟩
      -- the map of the receiver has one session under the id
      have hold := (hreceiver _ s').mpr ⟨.inl hs', heq⟩
      rw [(hreceiver _ s).mpr ⟨.inl hmem, rfl⟩] at hold
      exact hold
  · rw [Function.update_of_ne hid, hsdk]
    constructor
    · rintro ⟨hs', -, heq⟩
      exact ⟨hs', nofun, heq⟩
    · rintro ⟨hs', -, heq⟩
      exact ⟨hs', fun hs => hid (by rw [← heq, hs]), heq⟩

/-- **A session is constructed** with an id that nobody has. -/
theorem Registered.newSession (h : st.Registered) (hknown : st.Known) (hidle : st.control = .idle)
    {session : RTPSession} {counter : Word} (hfree : st.sdkMap session.sessionID = none)
    (hdeleted : session.deleted = false) :
    ({ st.setSession st.next session with
        sessionCounter := counter, next := st.next + 1, control := .addLockMap st.next } :
      Sdk).Registered := by
  have hsdk := h.sdk_iff
  have hreceiver := h.receiver_iff
  rw [hidle] at hsdk hreceiver
  -- the sessions of the vector are older
  have hsame : ∀ s ∈ st.sessionVector,
      ((st.setSession st.next session).sessions s).sessionID = (st.sessions s).sessionID := by
    intro s hs
    simp only [setSession]
    rw [Function.update_of_ne (Nat.ne_of_lt (hknown.vector s hs))]
  refine
    { sdk_iff := fun id s => ?_
      receiver_iff := fun id s => ?_
      adding := ?_, free := ?_, pushed := elim_none, deleting := rfl, noThrow := fun _ h => by cases h
      alive := fun s => ?_ }
  · refine (hsdk id s).trans ⟨?_, ?_⟩
    · rintro ⟨hs, -, heq⟩
      exact ⟨hs, (fun h => by cases h), (hsame s hs).trans heq⟩
    · rintro ⟨hs, -, heq⟩
      exact ⟨hs, (fun h => by cases h), (hsame s hs).symm.trans heq⟩
  · refine (hreceiver id s).trans ⟨?_, ?_⟩
    · rintro ⟨hs | hs, heq⟩
      · exact ⟨.inl hs, (hsame s hs).trans heq⟩
      · cases hs
    · rintro ⟨hs | hs, heq⟩
      · exact ⟨.inl hs, (hsame s hs).symm.trans heq⟩
      · cases hs
  -- the new session is in no registry, and its id is free
  · rintro s ⟨⟩ hs
    exact Nat.lt_irrefl _ (hknown.vector _ hs)
  · rintro s ⟨⟩ -
    simpa [setSession] using hfree
  · by_cases hs : s = st.next
    · simp [setSession, hs, hdeleted]
    · simpa [setSession, hs] using h.alive s

/-- The steps of `addCaptureRtpSession`. -/
theorem stepControl_registered (h : st.Registered) {fails : Bool} {u : Uninitialised}
    (hkeeps : st.KeepsRegistries (.control fails u))
    (hstep : (st.stepControl fails u).outcome = .ok st') : st'.Registered := by
  have hdump : ∀ s, st.control = .addDump s → fails = false := fun s hs => hkeeps s (.inl hs)
  have hdeleting := h.deleting
  have hthrow := h.noThrow
  -- most steps leave the registries alone
  have hself : st.SameRegistries st := ⟨rfl, rfl, rfl, rfl, fun _ => rfl, fun _ => rfl⟩
  obtain ⟨es, -, hends⟩ := (stepControl_endsIn st fails u).exists_ok hstep
  generalize hpc : st.control = pc at hends hdeleting hthrow hdump
  cases hends with
  | addLockMap s =>
      exact (sameRegistries_setHolder _ .map).setControl (p := .addBind s) h hpc rfl rfl
        (.inl rfl) rfl nofun
  | addBindThrows s =>
      exact (sameRegistries_setSession (by rfl) (by rfl)).setControl (p := .addThrowMap s) h hpc rfl
        rfl (.inl rfl) rfl nofun
  | addBind s =>
      exact (sameRegistries_setSession (by rfl) (by rfl)).setControl (p := .addRegisterAudio s) h hpc
        rfl rfl (.inl rfl) rfl nofun
  | addNoPorts s =>
      exact (sameRegistries_setSession (by rfl) (by rfl)).setControl (p := .addPublish s) h hpc rfl
        rfl (.inl rfl) rfl nofun
  | addRegisterAudioThrows s =>
      exact hself.setControl (p := .addThrowMap s) h hpc rfl rfl (.inl rfl) rfl nofun
  | addRegisterAudio s =>
      have hhandlers : st.SameRegistries
          { st with handlers := st.handlers ++ [⟨s, .audio, true⟩] } := { hself with }
      exact hhandlers.setControl (p := .addRegisterVideo s) h hpc rfl rfl (.inl rfl) rfl nofun
  | addRegisterVideoThrows s =>
      have hhandlers : st.SameRegistries { st with handlers := orphan st.handlers s } :=
        { hself with }
      exact hhandlers.setControl (p := .addThrowMap s) h hpc rfl rfl (.inl rfl) rfl nofun
  | addRegisterVideo s =>
      have hsession : st.SameRegistries (st.setSession s { st.sessions s with rtpHandler := true }) :=
        sameRegistries_setSession rfl rfl
      have hhandlers : st.SameRegistries
          { st.setSession s { st.sessions s with rtpHandler := true } with
            handlers := st.handlers ++ [⟨s, .video, true⟩] } := { hsession with }
      exact hhandlers.setControl (p := .addPublish s) h hpc rfl rfl (.inl rfl) rfl nofun
  | addPublish s => exact h.publish hpc
  | addUnlockMap s =>
      exact (sameRegistries_setHolder _ .map).setControl (p := .addLockVector s) h hpc rfl rfl
        (.inl rfl) rfl nofun
  | addThrowMap s =>
      exact (sameRegistries_setHolder _ .map).setControl (p := .idle) h hpc rfl rfl
        (.inr rfl) rfl nofun
  | addLockVector s =>
      exact (sameRegistries_setHolder _ .vector).setControl (p := .addDump s) h hpc rfl rfl
        (.inl rfl) rfl nofun
  -- the condition excludes that the entry in the map stays behind
  | addDumpThrows s hfails =>
      rw [hdump s rfl] at hfails
      cases hfails
  | addDump s =>
      exact (sameRegistries_setSession (by rfl) (by rfl)).setControl (p := .addPush s) h hpc rfl rfl
        (.inl rfl) rfl nofun
  | addPush s => exact h.push hpc
  | addUnlockVector s =>
      exact (sameRegistries_setHolder _ .vector).setControl (p := .addRemember s) h hpc rfl rfl
        (.inr rfl) rfl nofun
  | addThrowVector s => exact absurd rfl (hthrow s)
  | addRemember s => exact h.remember hpc
  -- nothing is being deleted
  | _ => cases hdeleting

/-- **One step of the system** that gives the registries nothing to forget. -/
theorem step_registered (hcoherent : st.Coherent) (h : st.Registered) {a : Action}
    (hkeeps : st.KeepsRegistries a) (hstep : (st.step a).outcome = .ok st') : st'.Registered := by
  cases a with
  | onRTPData t id data len =>
      obtain ⟨-, rfl⟩ := onRTPData_ok hstep
      exact { h with }
  | readable s type available datagram =>
      obtain ⟨-, -, ⟨-, rfl⟩ | ⟨-, rfl⟩⟩ := readable_ok hstep
      · exact h
      · exact { h with }
  | ingest x fails =>
      obtain ⟨hstep, -, -⟩ := ingest_ok hstep
      exact (stepIngest_sameControlData hstep).registered h
  | capture r =>
      obtain ⟨hstep, -, -⟩ := capture_ok hstep
      exact (stepCapture_sameControlData hstep).registered h
  | add fileName videoPort audioPort videoFrequency =>
      obtain ⟨hidle, rfl⟩ := add_ok hstep
      exact h.newSession hcoherent.known hidle hkeeps rfl
  | del id =>
      have hnone : st.sdkMap id = none := hkeeps
      obtain ⟨-, ⟨-, rfl⟩ | ⟨s, hs, -⟩⟩ := del_ok hstep
      · exact h
      · exact nomatch hnone.symm.trans hs
  | control fails u =>
      obtain ⟨hstep, -, -⟩ := control_ok hstep
      exact stepControl_registered h hkeeps hstep

/-- **One step of the system** leaves no handler of a destroyed `RTPHandler` registered. -/
theorem step_handlersAlive (h : st.HandlersAlive) {a : Action} (hkeeps : st.KeepsRegistries a)
    (hstep : (st.step a).outcome = .ok st') : st'.HandlersAlive := by
  -- the handlers are the same, or there is one more of an `RTPHandler` that exists
  have hsame : st'.handlers = st.handlers → st'.HandlersAlive := by
    intro hhandlers
    rw [HandlersAlive, hhandlers]
    exact h
  have hmore : ∀ handler : Handler, handler.alive = true →
      st'.handlers = st.handlers ++ [handler] → st'.HandlersAlive := by
    intro handler halive hhandlers
    rw [HandlersAlive, hhandlers]
    intro handler' hmem
    rcases List.mem_append.mp hmem with hold | hnew
    · exact h handler' hold
    · rwa [List.mem_singleton.mp hnew]
  cases a with
  | onRTPData t id data len =>
      obtain ⟨-, rfl⟩ := onRTPData_ok hstep
      exact h
  | readable s type available datagram =>
      obtain ⟨-, -, ⟨-, rfl⟩ | ⟨-, rfl⟩⟩ := readable_ok hstep <;> exact h
  | ingest x fails => exact hsame (stepIngest_sameControlData (ingest_ok hstep).1).handlers
  | capture r => exact hsame (stepCapture_sameControlData (capture_ok hstep).1).handlers
  | add fileName videoPort audioPort videoFrequency =>
      obtain ⟨-, rfl⟩ := add_ok hstep
      exact h
  | del id =>
      obtain ⟨-, ⟨-, rfl⟩ | ⟨s, -, rfl⟩⟩ := del_ok hstep <;> exact h
  | control fails u =>
      obtain ⟨es, -, hends⟩ := (stepControl_endsIn st fails u).exists_ok (control_ok hstep).1
      unfold KeepsRegistries at hkeeps
      generalize st.control = pc at hends hkeeps
      cases hends with
      | addRegisterAudio s => exact hmore _ rfl rfl
      | addRegisterVideo s => exact hmore _ rfl rfl
      -- the condition excludes that the first handler stays behind
      | addRegisterVideoThrows s hfails =>
          rw [hkeeps s (.inr rfl)] at hfails
          cases hfails
      | addLockMap | addUnlockMap | addThrowMap | addLockVector | addUnlockVector | addThrowVector
      | delLockVector | delLockBuffer | delLockPool | delUnlockBuffer | delUnlockVector =>
          exact hsame (@sameControlData_setHolder st _ _).handlers
      | _ => exact h

/-- **The registries agree between the calls** in every run whose steps give them nothing to
forget. -/
theorem run_registriesAgree (memory : Block → Memory) {as : List Action}
    (hkeeps : StepsMeet step KeepsRegistries (construct memory) as)
    (hrun : (run (construct memory) as).outcome = .ok st) (hidle : st.control = .idle) :
    st.RegistriesAgree := by
  have hinit : (construct memory).Coherent ∧ (construct memory).Registered ∧
      (construct memory).HandlersAlive :=
    ⟨coherent_construct memory, registered_construct memory, nofun⟩
  have hpreserved : ∀ (st : Sdk) (a : Action) (st' : Sdk), st.Coherent ∧ st.Registered ∧ st.HandlersAlive →
      st.KeepsRegistries a → (st.step a).outcome = .ok st' →
      st'.Coherent ∧ st'.Registered ∧ st'.HandlersAlive := by
    rintro st a st' ⟨hcoherent, hregistered, hhandlers⟩ hcond hstep
    exact ⟨step_coherent hcoherent hstep, step_registered hcoherent hregistered hcond hstep,
      step_handlersAlive hhandlers hcond hstep⟩
  obtain ⟨-, hregistered, hhandlers⟩ := hkeeps.invariant
    (fun st => st.Coherent ∧ st.Registered ∧ st.HandlersAlive) hpreserved hinit hrun
  exact hregistered.agree hhandlers hidle

/-! ## Deleting sessions -/

/-- **What a deletion leaves**: the map of the receiver keeps the session, and at the end the map of
the SDK does not. -/
def Stale (c : DelCall) (st : Sdk) : Prop :=
  st.receiverMap c.id = some c.session ∧
    (st.control.deleting = some c ∨ st.control = .idle ∧ st.sdkMap c.id = none)

/-- The steps of `delCaptureRtpSession`. -/
theorem stepControl_stale {c : DelCall} (h : st.Stale c) {fails : Bool} {u : Uninitialised}
    (hstep : (st.stepControl fails u).outcome = .ok st') : st'.Stale c := by
  obtain ⟨hreceiver, hdeleting⟩ := h
  obtain ⟨es, -, hends⟩ := (stepControl_endsIn st fails u).exists_ok hstep
  generalize st.control = pc at hends hdeleting
  obtain hdeleting | ⟨rfl, -⟩ := hdeleting
  · cases hends with
    | delForget c' =>
        obtain rfl := Option.some.inj hdeleting
        exact ⟨hreceiver, .inr ⟨rfl, Function.update_self ..⟩⟩
    -- the other steps of a deletion neither read nor write the map of the receiver
    | delLockVector | delFind | delNotFound | delLockBuffer | delDrained | delHead | delErase
    | delLockPool | delRelease | delDump | delUnlockBuffer | delUnlockVector | delFree =>
        exact ⟨hreceiver, .inl hdeleting⟩
    | _ => cases hdeleting
  · cases hends

/-- No session is added or deleted by a new call. -/
def NoCall (_ : Sdk) : Action → Prop
  | .add _ _ _ _ => False
  | .del _ => False
  | _ => True

/-- The steps of all threads. -/
theorem step_stale {c : DelCall} (h : st.Stale c) {a : Action} (hcall : st.NoCall a)
    (hstep : (st.step a).outcome = .ok st') : st'.Stale c := by
  have hsame : st.SameRegistries st' → st'.Stale c := fun hsame => by
    unfold Stale
    rw [hsame.receiver, hsame.control, hsame.sdk]
    exact h
  cases a with
  | onRTPData t id data len =>
      obtain ⟨-, rfl⟩ := onRTPData_ok hstep
      exact h
  | readable s type available datagram =>
      obtain ⟨-, -, ⟨-, rfl⟩ | ⟨-, rfl⟩⟩ := readable_ok hstep
      · exact h
      · exact h
  | ingest x fails =>
      obtain ⟨hstep, -, -⟩ := ingest_ok hstep
      exact hsame (stepIngest_sameControlData hstep).toSameRegistries
  | capture r =>
      obtain ⟨hstep, -, -⟩ := capture_ok hstep
      exact hsame (stepCapture_sameControlData hstep).toSameRegistries
  | add fileName videoPort audioPort videoFrequency => exact hcall.elim
  | del id => exact hcall.elim
  | control fails u =>
      obtain ⟨hstep, -, -⟩ := control_ok hstep
      exact stepControl_stale h hstep

/-- **Every deletion breaks the agreement**: whatever the other threads do meanwhile, when
`delCaptureRtpSession` returns from the deletion of a session that `onRTPData` found, the map of the
receiver has it still. -/
theorem run_disagree {id : Word} {s : SessionRef} {st₁ st₂ : Sdk} {as : List Action}
    (hsdk : st.sdkMap id = some s) (hreceiver : st.receiverMap id = some s)
    (hcall : (st.step (.del id)).outcome = .ok st₁) (hothers : StepsMeet step NoCall st₁ as)
    (hrun : (run st₁ as).outcome = .ok st₂) (hidle : st₂.control = .idle) :
    ¬ st₂.RegistriesAgree := by
  have hinit : st₁.Stale ⟨id, s⟩ := by
    obtain ⟨-, ⟨hnone, -⟩ | ⟨s', hs', rfl⟩⟩ := del_ok hcall
    · exact nomatch hnone.symm.trans hsdk
    · obtain rfl := Option.some.inj (hs'.symm.trans hsdk)
      exact ⟨hreceiver, .inl rfl⟩
  obtain ⟨hkept, hdone⟩ := hothers.invariant (Stale ⟨id, s⟩)
    (fun _ _ _ hinv hcond hstep => step_stale hinv hcond hstep) hinit hrun
  rcases hdone with hdeleting | ⟨-, hforgotten⟩
  · rw [hidle] at hdeleting
    cases hdeleting
  · intro hagree
    rw [hagree.notFound id hforgotten] at hkept
    cases hkept

/-! ## A session that listens on two ports, added and deleted -/

/-- The session is added. -/
def sampleAdd : List Action :=
  .add "camera.flv" 5000 5002 90000 :: List.replicate 11 (.control false .zero)

/-- The session is deleted again. -/
def sampleDelete : List Action := .del 1 :: List.replicate 9 (.control false .zero)

/-- Steps of the control thread in which nothing throws. -/
theorem stepsMeet_control (st : Sdk) (n : ℕ) (u : Uninitialised) :
    StepsMeet step KeepsRegistries st (List.replicate n (.control false u)) := by
  induction n generalizing st with
  | zero => trivial
  | succ n ih => exact ⟨fun _ _ => rfl, fun st' _ => ih st'⟩

/-- The addition meets the condition of `run_registriesAgree`. -/
theorem run_registriesAgree_sampleAdd :
    ∃ st, (run (construct fun _ _ => 0) sampleAdd).outcome = .ok st ∧ st.RegistriesAgree ∧
      st.sdkMap 1 = some 0 ∧ st.receiverMap 1 = some 0 ∧ st.sessionVector = [0] := by
  have hkeeps : StepsMeet step KeepsRegistries (construct fun _ _ => 0) sampleAdd :=
    ⟨rfl, fun st' _ => stepsMeet_control st' 11 .zero⟩
  exact ⟨_, rfl, run_registriesAgree (fun _ _ => 0) hkeeps rfl rfl, rfl, rfl, rfl⟩

/-- **The registries do not agree** after the deletion: the map of the receiver has the session
still, `onRTPData` finds it, and so does a receive handler. -/
theorem run_registries_disagree :
    ∃ st, (run (construct fun _ _ => 0) (sampleAdd ++ sampleDelete)).outcome = .ok st ∧
      st.control = .idle ∧ ¬ st.RegistriesAgree ∧
      st.sdkMap 1 = none ∧ st.receiverMap 1 = some 0 ∧ (st.sessions 0).deleted = true ∧
      (run st (.onRTPData 0 1 (fun _ => 0) 12 ::
        List.replicate 6 (.ingest (.caller 0) false))).outcome = .error .invalidPointer ∧
      (run st (.readable 0 .video true [0] ::
        List.replicate 4 (.ingest .reactor false))).outcome = .error .invalidPointer := by
  refine ⟨_, rfl, rfl, ?_, rfl, rfl, rfl, rfl, rfl⟩
  intro h
  have hnone := h.notFound 1 rfl
  cases hnone

end Sdk

end RtpCapture
