import RtpCapture.Sessions.Blocks
import RtpCapture.Sessions.Ingestion

/-! # Additions that fail

`addCaptureRtpSession` enters a session with the reactor, in the map of the receiver, in the vector
of the capture center and in the map of the SDK. Binding a socket, registering a handler and
`new RTPDump` can throw in between, and nothing undoes what was done before.

* **`Sdk.Restored`** — the registries and the handlers are what they were before the call, and the
  list of the new session is empty.
* **`Sdk.add_restores_iff`** — whatever the other threads do meanwhile, an addition that fails leaves
  everything as it was exactly when it fails at a bind or at the registration of the audio handler;
  and its steps never change a list.
* **`Sdk.add_leaves_entries`** — when `new RTPDump` throws, `onRTPData` and the sockets feed a session
  that nobody empties. -/

namespace RtpCapture

open Traced

namespace Control

/-- An exception is leaving the scope of a lock. -/
def throwing : Control → Bool
  | addThrowMap _ => true
  | addThrowVector _ => true
  | _ => false

/-- **The fallible statements in front of which nothing has been entered**: the two binds and the
registration of the audio handler. -/
def unentered : Control → Bool
  | addBind _ => true
  | addRegisterAudio _ => true
  | _ => false

end Control

namespace Sdk

/-! ## What has been entered -/

/-- **The registries and the receive handlers are the same** in two states. -/
structure SameEntries (st st' : Sdk) : Prop where
  sdk : st'.sdkMap = st.sdkMap
  receiver : st'.receiverMap = st.receiverMap
  vector : st'.sessionVector = st.sessionVector
  handlers : st'.handlers = st.handlers

/-- **Nothing is left of an addition** that was called in the state `st`: nobody has an entry of it,
and its session has no packets. -/
structure Restored (st st' : Sdk) : Prop where
  entries : st.SameEntries st'
  list : (st'.sessions st.next).bufferList = []

/-- The control thread changes no list of packets. -/
def KeepsLists (st : Sdk) (a : Action) : Prop :=
  a.thread = .control → ∀ st', (st.step a).outcome = .ok st' → st.SameQueues st'

/-- **Nobody has heard of the session** that is being added: not even a packet is on its way to it. -/
structure Unheard (st st' : Sdk) : Prop where
  restored : st.Restored st'
  ingest : ∀ x s, (st'.ingest x).session? = some s → s < st.next

variable {st st₁ st₂ st₃ st' : Sdk}

/-- Entries that stay the same twice. -/
theorem SameEntries.trans (h : st.SameEntries st₁) (h' : st₁.SameEntries st₂) :
    st.SameEntries st₂ where
  sdk := h'.sdk.trans h.sdk
  receiver := h'.receiver.trans h.receiver
  vector := h'.vector.trans h.vector
  handlers := h'.handlers.trans h.handlers

/-- The same entries, the other way round. -/
theorem SameEntries.symm (h : st.SameEntries st') : st'.SameEntries st :=
  ⟨h.sdk.symm, h.receiver.symm, h.vector.symm, h.handlers.symm⟩

/-! ## The other threads -/

/-- `CaptureCenter::run` puts nothing into a list: what is empty stays empty. -/
theorem stepCapture_empty {r : FileResults} (hstep : (st.stepCapture r).outcome = .ok st')
    {s : SessionRef} (hs : (st.sessions s).bufferList = []) : (st'.sessions s).bufferList = [] := by
  have hgo : ∀ (t : Option Thread) (m : Mutex) (pc : Capture),
      (({ st.setHolder t m with capture := pc } : Sdk).sessions s).bufferList = [] := by
    intro t m pc
    rw [← hs]
    exact congrFun (congrArg Queues.lists (queues_setHolder st t m)) s
  have hsession : ∀ (s' : SessionRef) (session : RTPSession),
      ((st.sessions s').bufferList = [] → session.bufferList = []) →
      ((st.setSession s' session).sessions s).bufferList = [] := by
    intro s' session hempty
    by_cases heq : s = s'
    · subst heq
      simpa [setSession] using hempty hs
    · simpa [setSession, heq] using hs
  obtain ⟨es, -, hends⟩ := stepCapture_ok hstep
  generalize st.capture = pc at hends
  cases hends with
  | lockVector | unlockVector | lockBuffer | unlockBuffer | lockPool | throwBuffer | throwVector =>
      exact hgo _ _ _
  | head | enter | release | throws => exact hs
  | erase k s' node =>
      refine hsession s' _ fun hempty => ?_
      rw [hempty]
      rfl
  | handle k s' node dump dump' => exact hsession s' _ id

/-- **The other threads change no entry**, and leave the control thread where it is. -/
theorem step_others {a : Action} (ha : a.thread ≠ .control)
    (hstep : (st.step a).outcome = .ok st') : st.SameEntries st' ∧ st'.control = st.control := by
  cases a with
  | onRTPData t id data len =>
      obtain ⟨-, rfl⟩ := onRTPData_ok hstep
      exact ⟨⟨rfl, rfl, rfl, rfl⟩, rfl⟩
  | readable s type available datagram =>
      obtain ⟨-, -, ⟨-, rfl⟩ | ⟨-, rfl⟩⟩ := readable_ok hstep
      · exact ⟨⟨rfl, rfl, rfl, rfl⟩, rfl⟩
      · exact ⟨⟨rfl, rfl, rfl, rfl⟩, rfl⟩
  | ingest x fails =>
      obtain ⟨hstep, -, -⟩ := ingest_ok hstep
      have hsame := stepIngest_sameControlData hstep
      exact ⟨⟨hsame.sdk, hsame.receiver, hsame.vector, hsame.handlers⟩, hsame.control⟩
  | capture r =>
      obtain ⟨hstep, -, -⟩ := capture_ok hstep
      have hsame := stepCapture_sameControlData hstep
      exact ⟨⟨hsame.sdk, hsame.receiver, hsame.vector, hsame.handlers⟩, hsame.control⟩
  | add fileName videoPort audioPort videoFrequency => exact absurd rfl ha
  | del id => exact absurd rfl ha
  | control fails u => exact absurd rfl ha

/-- **The other threads do not hear of the session**: what they bring in goes to sessions that have
an entry. -/
theorem Unheard.others (hknown : st.Known) (hcoherent : st₁.Coherent) (h : st.Unheard st₁)
    {a : Action} (ha : a.thread ≠ .control) (hstep : (st₁.step a).outcome = .ok st₂) : st.Unheard st₂ := by
  obtain ⟨hentries, -⟩ := step_others ha hstep
  have hsame := h.restored.entries.trans hentries
  -- a thread that brings packets in goes somewhere else
  have hmove : ∀ (x : Source) (pc : Ingest), st₂.ingest = Function.update st₁.ingest x pc →
      (∀ s, pc.session? = some s → s < st.next) →
      ∀ y s, (st₂.ingest y).session? = some s → s < st.next := by
    intro x pc hingest hpc y s hs
    rw [hingest] at hs
    by_cases hy : y = x
    · rw [hy, Function.update_self] at hs
      exact hpc s hs
    · rw [Function.update_of_ne hy] at hs
      exact h.ingest y s hs
  cases a with
  | onRTPData t id data len =>
      obtain ⟨-, rfl⟩ := onRTPData_ok hstep
      exact ⟨⟨hsame, h.restored.list⟩, hmove _ (.lockMap _ _ _) rfl nofun⟩
  | readable s type available datagram =>
      obtain ⟨-, hmem, ⟨-, rfl⟩ | ⟨-, rfl⟩⟩ := readable_ok hstep
      · exact h
      · rw [h.restored.entries.handlers] at hmem
        have hs : s < st.next := hknown.handler _ hmem
        refine ⟨⟨hsame, h.restored.list⟩, hmove .reactor (.lockPool _) rfl ?_⟩
        rintro s' ⟨⟩
        exact hs
  | ingest x fails =>
      obtain ⟨hstep, -, -⟩ := ingest_ok hstep
      refine ⟨⟨hsame, ?_⟩, fun y s hs => ?_⟩
      · rcases stepIngest_queues hstep with hlists | ⟨d, b, hpc⟩
        · rw [hlists]
          exact h.restored.list
        · -- the packet is pushed to a session that has an entry
          have hne : st.next ≠ d.session := Nat.ne_of_gt (h.ingest x d.session (by rw [hpc]; rfl))
          obtain ⟨es, -, hends⟩ := (stepIngest_endsIn st₁ x fails).exists_ok hstep
          rw [hpc] at hends
          cases hends
          rw [← h.restored.list]
          simp [setIngest, setSession, hne]
      · by_cases hy : y = x
        · subst hy
          have hgoal := (stepIngest_nearer hstep).2 s (destination_of_session hs)
          cases hpc : st₁.ingest y <;> rw [hpc] at hgoal
          case lockMap id bytes len | lookup id bytes len =>
            rw [destination, h.restored.entries.receiver] at hgoal
            exact hknown.receiver id s hgoal
          all_goals exact h.ingest y s (by rw [hpc]; exact hgoal)
        · have hposition := congrFun
            (stepIngest_sections (hcoherent.possible (.source x)) hstep).position (.source y)
          rw [Function.update_of_ne fun heq => hy (Thread.source.inj heq)] at hposition
          rw [(Position.ingest.inj hposition).2] at hs
          exact h.ingest y s hs
  | capture r =>
      obtain ⟨hstep, -, -⟩ := capture_ok hstep
      refine ⟨⟨hsame, stepCapture_empty hstep h.restored.list⟩, ?_⟩
      rw [((stepCapture_aside st₁ r).state st₂ hstep).1]
      exact h.ingest
  | add fileName videoPort audioPort videoFrequency => exact absurd rfl ha
  | del id => exact absurd rfl ha
  | control fails u => exact absurd rfl ha

/-! ## The control thread -/

/-- A session changes, and no list. -/
theorem sameQueues_setSession {s : SessionRef} {session : RTPSession}
    (hlist : session.bufferList = (st.sessions s).bufferList) :
    st.SameQueues (st.setSession s session) := by
  intro s'
  by_cases hs : s' = s
  · simp [setSession, hs, hlist]
  · simp [setSession, hs]

/-- **The steps of `addCaptureRtpSession` change no list.** -/
theorem stepControl_sameQueues (hadding : st.control.deleting = none) {fails : Bool}
    {u : Uninitialised} (hstep : (st.stepControl fails u).outcome = .ok st') :
    st.SameQueues st' ∧ st'.control.deleting = none := by
  have hholder : ∀ (t : Option Thread) (m : Mutex) (pc : Control),
      st.SameQueues { st.setHolder t m with control := pc } := fun t m pc s =>
    congrFun (congrArg Queues.lists (queues_setHolder st t m)) s
  obtain ⟨es, -, hends⟩ := (stepControl_endsIn st fails u).exists_ok hstep
  generalize st.control = pc at hends hadding
  cases hends with
  | addLockMap | addUnlockMap | addThrowMap | addLockVector | addUnlockVector | addThrowVector =>
      exact ⟨hholder _ _ _, rfl⟩
  | addRegisterAudioThrows | addRegisterAudio | addRegisterVideoThrows | addPublish | addDumpThrows
  | addPush | addRemember => exact ⟨fun _ => rfl, rfl⟩
  | addBindThrows | addBind | addNoPorts | addRegisterVideo | addDump =>
      refine ⟨sameQueues_setSession ?_, rfl⟩
      rfl
  -- nothing is being deleted
  | _ => cases hadding

/-- **How far an addition has come** that was called in the state `st`, as far as what it has entered
tells. -/
def Adding (st st' : Sdk) : Prop :=
  match st'.control with
  | .addLockMap s => s = st.next ∧ st.Unheard st'
  | .addBind s => s = st.next ∧ st.Unheard st'
  | .addRegisterAudio s => s = st.next ∧ st.Unheard st'
  | .addRegisterVideo s => s = st.next ∧ st'.handlers = st.handlers ++ [⟨s, .audio, true⟩]
  | .addPublish s => s = st.next
  | .addUnlockMap s => s = st.next ∧ ∃ id, st'.receiverMap id = some s
  | .addLockVector s => s = st.next ∧ ∃ id, st'.receiverMap id = some s
  | .addDump s => s = st.next ∧ ∃ id, st'.receiverMap id = some s
  | _ => True

/-- The session is constructed: nobody has heard of it. -/
theorem adding_call (hcoherent : st.Coherent) {fileName : String}
    {videoPort audioPort videoFrequency : Word}
    (hcall : (st.step (.add fileName videoPort audioPort videoFrequency)).outcome = .ok st') :
    st.Adding st' ∧ st.SameQueues st' ∧ st'.control.deleting = none := by
  obtain ⟨-, rfl⟩ := add_ok hcall
  refine ⟨⟨rfl, ⟨⟨rfl, rfl, rfl, rfl⟩, ?_⟩, hcoherent.known.ingest⟩, ?_, rfl⟩
  · simp [setSession, RTPSession.none]
  · refine sameQueues_setSession ?_
    rw [hcoherent.known.fresh st.next (Nat.le_refl _)]

/-- The steps of the other threads. -/
theorem Adding.others (hknown : st.Known) (hcoherent : st₁.Coherent) (h : st.Adding st₁) {a : Action}
    (ha : a.thread ≠ .control) (hstep : (st₁.step a).outcome = .ok st₂) : st.Adding st₂ := by
  obtain ⟨hentries, hcontrol⟩ := step_others ha hstep
  unfold Adding at h ⊢
  rw [hcontrol]
  cases hpc : st₁.control <;> rw [hpc] at h
  case addLockMap s | addBind s | addRegisterAudio s =>
    exact ⟨h.1, h.2.others hknown hcoherent ha hstep⟩
  case addRegisterVideo s => exact ⟨h.1, hentries.handlers.trans h.2⟩
  case addPublish s => exact h
  case addUnlockMap s | addLockVector s | addDump s =>
    dsimp only
    rw [hentries.receiver]
    exact h
  all_goals trivial

/-- A step of the control thread that concerns nobody else. -/
theorem Unheard.of_control (h : st.Unheard st₁) (hentries : st₁.SameEntries st₂)
    (hlists : st₁.SameQueues st₂) (hingest : st₂.ingest = st₁.ingest) : st.Unheard st₂ where
  restored := ⟨h.restored.entries.trans hentries, (hlists st.next).trans h.restored.list⟩
  ingest := by
    rw [hingest]
    exact h.ingest

/-- The steps of the control thread. -/
theorem Adding.control (h : st.Adding st₁) (hadding : st₁.control.deleting = none) {fails : Bool}
    {u : Uninitialised} (hstep : (st₁.stepControl fails u).outcome = .ok st₂) : st.Adding st₂ := by
  have hlists := (stepControl_sameQueues hadding hstep).1
  obtain ⟨es, -, hends⟩ := (stepControl_endsIn st₁ fails u).exists_ok hstep
  unfold Adding at h
  generalize st₁.control = pc at hends h hadding
  cases hends with
  | addLockMap s =>
      obtain ⟨hs, hunheard⟩ := h
      exact ⟨hs, hunheard.of_control ⟨rfl, rfl, rfl, rfl⟩ hlists rfl⟩
  | addBind s =>
      obtain ⟨hs, hunheard⟩ := h
      exact ⟨hs, hunheard.of_control ⟨rfl, rfl, rfl, rfl⟩ hlists rfl⟩
  | addNoPorts s => exact h.1
  | addRegisterAudio s =>
      obtain ⟨hs, hunheard⟩ := h
      exact ⟨hs, congrArg (· ++ _) hunheard.restored.entries.handlers⟩
  | addRegisterVideo s => exact h.1
  | addPublish s => exact ⟨h, _, Function.update_self ..⟩
  | addUnlockMap s | addLockVector s => exact h
  | addBindThrows | addRegisterAudioThrows | addRegisterVideoThrows | addThrowMap | addDumpThrows
  | addDump | addPush | addUnlockVector | addThrowVector | addRemember => trivial
  | _ => cases hadding

/-- **Where an addition fails**: nobody has heard of the session, or it has entered what it does not
take back. -/
theorem Adding.throws (hknown : st.Known) (h : st.Adding st₁)
    (hadding : st₁.control.deleting = none) {fails : Bool} {u : Uninitialised}
    (hstep : (st₁.stepControl fails u).outcome = .ok st₂) (hthrows : st₂.control.throwing = true) :
    st₁.control.unentered = true ∧ st.Unheard st₂ ∨
      st₁.control.unentered = false ∧ ¬ st.SameEntries st₂ := by
  have hlists := (stepControl_sameQueues hadding hstep).1
  obtain ⟨es, -, hends⟩ := (stepControl_endsIn st₁ fails u).exists_ok hstep
  unfold Adding at h
  generalize st₁.control = pc at hends h hadding
  cases hends with
  | addBindThrows s => exact .inl ⟨rfl, h.2.of_control ⟨rfl, rfl, rfl, rfl⟩ hlists rfl⟩
  | addRegisterAudioThrows s => exact .inl ⟨rfl, h.2.of_control ⟨rfl, rfl, rfl, rfl⟩ hlists rfl⟩
  | addRegisterVideoThrows s =>
      refine .inr ⟨rfl, fun hsame => ?_⟩
      -- the audio handler stays registered
      have hlength := congrArg List.length hsame.handlers
      simp [orphan, h.2] at hlength
  | addDumpThrows s =>
      obtain ⟨hs, id, hid⟩ := h
      refine .inr ⟨rfl, fun hsame => ?_⟩
      -- the map of the receiver names the session
      have hentry : st.receiverMap id = some s := by
        rw [← hsame.receiver]
        exact hid
      exact absurd (hknown.receiver id s hentry) (hs ▸ Nat.lt_irrefl _)
  | addLockMap | addBind | addNoPorts | addRegisterAudio | addRegisterVideo | addPublish
  | addUnlockMap | addThrowMap | addLockVector | addDump | addPush | addUnlockVector
  | addThrowVector | addRemember => cases hthrows
  | _ => cases hadding

/-! ## Every run -/

/-- An action of an addition under way: the control thread goes on, or another thread does
something. -/
theorem NoCall.cases {a : Action} (h : st.NoCall a) :
    a.thread ≠ .control ∨ ∃ fails u, a = .control fails u := by
  cases a with
  | onRTPData | readable | ingest | capture => exact .inl nofun
  | add | del => exact h.elim
  | control fails u => exact .inr ⟨fails, u, rfl⟩

/-- **Before the failure.** -/
theorem step_adding (hknown : st.Known) {a : Action} (hcall : st₁.NoCall a)
    (h : st₁.Coherent ∧ st.Adding st₁ ∧ st₁.control.deleting = none)
    (hstep : (st₁.step a).outcome = .ok st₂) :
    st₂.Coherent ∧ st.Adding st₂ ∧ st₂.control.deleting = none := by
  obtain ⟨hcoherent, hadding, hdeleting⟩ := h
  refine ⟨step_coherent hcoherent hstep, ?_⟩
  rcases hcall.cases with hother | ⟨fails, u, rfl⟩
  · exact ⟨hadding.others hknown hcoherent hother hstep,
      (congrArg Control.deleting (step_others hother hstep).2).trans hdeleting⟩
  · obtain ⟨hcontrol, -⟩ := control_ok hstep
    exact ⟨hadding.control hdeleting hcontrol, (stepControl_sameQueues hdeleting hcontrol).2⟩

/-- **What stays after the failure**: the control thread leaves its scope, and no entry changes. -/
structure Failed (st st₁ st' : Sdk) : Prop where
  coherent : st'.Coherent
  control : st'.control.throwing = true ∨ st'.control = .idle
  entries : st₁.SameEntries st'
  unheard : st.Unheard st₁ → st.Unheard st'

/-- An exception leaves the scope. -/
theorem stepControl_leaves (h : st.control.throwing = true ∨ st.control = .idle) {fails : Bool}
    {u : Uninitialised} (hstep : (st.stepControl fails u).outcome = .ok st') :
    st'.control = .idle ∧ st.SameEntries st' ∧ st'.ingest = st.ingest := by
  obtain ⟨es, -, hends⟩ := (stepControl_endsIn st fails u).exists_ok hstep
  generalize st.control = pc at hends h
  cases hends with
  | addThrowMap | addThrowVector => exact ⟨rfl, ⟨rfl, rfl, rfl, rfl⟩, rfl⟩
  | _ => rcases h with ⟨⟨⟩⟩ | ⟨⟨⟩⟩

/-- **After the failure.** -/
theorem Failed.step (hknown : st.Known) (h : Failed st st₁ st₂) {a : Action} (hcall : st₂.NoCall a)
    (hstep : (st₂.step a).outcome = .ok st') : Failed st st₁ st' := by
  have hcoherent := step_coherent h.coherent hstep
  rcases hcall.cases with hother | ⟨fails, u, rfl⟩
  · obtain ⟨hentries, hcontrol⟩ := step_others hother hstep
    refine ⟨hcoherent, hcontrol ▸ h.control, h.entries.trans hentries, fun hunheard => ?_⟩
    exact (h.unheard hunheard).others hknown h.coherent hother hstep
  · obtain ⟨hstep, -⟩ := control_ok hstep
    obtain ⟨hidle, hentries, hingest⟩ := stepControl_leaves h.control hstep
    have hdeleting : st₂.control.deleting = none := by
      rcases h.control with hthrowing | hidle
      · cases hpc : st₂.control <;> rw [hpc] at hthrowing <;> first | rfl | cases hthrowing
      · rw [hidle]
        rfl
    refine ⟨hcoherent, .inr hidle, h.entries.trans hentries, fun hunheard => ?_⟩
    exact (h.unheard hunheard).of_control hentries (stepControl_sameQueues hdeleting hstep).1 hingest

/-- No step of the control thread in an addition changes a list. -/
theorem keepsLists_of_deleting {a : Action} (hcall : st.NoCall a)
    (hdeleting : st.control.deleting = none) : st.KeepsLists a := by
  intro hcontrol st' hstep
  rcases hcall.cases with hother | ⟨fails, u, rfl⟩
  · exact absurd hcontrol hother
  · exact (stepControl_sameQueues hdeleting (control_ok hstep).1).1

/-- **An addition that fails** at a bind or at the registration of the audio handler leaves the
registries, the handlers and the new session as they were, whatever the other threads do from the
call on; one that fails anywhere else does not. No step of it changes a list of packets. -/
theorem add_restores_iff {memory : Block → Memory} (hreach : Reaches step (construct memory) st)
    {fileName : String} {videoPort audioPort videoFrequency : Word}
    (hcall : (st.step (.add fileName videoPort audioPort videoFrequency)).outcome = .ok st₁)
    {as bs : List Action} {u : Uninitialised}
    (hothers : StepsMeet step NoCall st₁ (as ++ .control true u :: bs))
    (hbefore : (run st₁ as).outcome = .ok st₂)
    (hstep : (st₂.step (.control true u)).outcome = .ok st₃) (hthrows : st₃.control.throwing = true)
    (hafter : (run st₃ bs).outcome = .ok st') :
    StepsMeet step KeepsLists st (.add fileName videoPort audioPort videoFrequency ::
        (as ++ .control true u :: bs)) ∧
      (st.Restored st' ↔ st₂.control.unentered = true) := by
  have hcoherent := coherent_of_reaches hreach
  have hknown := hcoherent.known
  obtain ⟨hadding, hlists, hdeleting⟩ := adding_call hcoherent hcall
  constructor
  -- every step of it keeps the lists
  · refine ⟨fun _ r hr => ?_, fun r hr => ?_⟩
    · obtain rfl := Except.ok.inj (hcall.symm.trans hr)
      exact hlists
    · obtain rfl := Except.ok.inj (hcall.symm.trans hr)
      refine hothers.imp (fun r => r.Coherent ∧ st.Adding r ∧ r.control.deleting = none) ?_ ?_
        ⟨step_coherent hcoherent hcall, hadding, hdeleting⟩
      · exact fun r a r' hr hcond hrstep => step_adding hknown hcond hr hrstep
      · exact fun r a hr hcond => keepsLists_of_deleting hcond hr.2.2
  -- the steps before the exception, and those behind it
  · obtain ⟨hfirst, -, hrest⟩ := (stepsMeet_append hbefore _).mp hothers
    obtain ⟨hcoherent₂, hadding₂, hdeleting₂⟩ := hfirst.invariant
      (fun r => r.Coherent ∧ st.Adding r ∧ r.control.deleting = none)
      (fun _ _ _ hr hcond hrstep => step_adding hknown hcond hr hrstep)
      ⟨step_coherent hcoherent hcall, hadding, hdeleting⟩ hbefore
    obtain ⟨heq, -, -⟩ := guarded_ok hstep
    have hfailed : Failed st st₃ st' := (hrest st₃ hstep).invariant (Failed st st₃)
      (fun _ _ _ hr hcond hrstep => hr.step hknown hcond hrstep)
      ⟨step_coherent hcoherent₂ hstep, .inl hthrows, ⟨rfl, rfl, rfl, rfl⟩, id⟩ hafter
    rw [step, heq] at hstep
    -- where it was thrown decides
    rcases hadding₂.throws hknown hdeleting₂ hstep hthrows with
      ⟨hunentered, hunheard⟩ | ⟨hentered, hchanged⟩
    · exact iff_of_true (hfailed.unheard hunheard).restored hunentered
    · refine iff_of_false (fun hrestored => hchanged ?_) (by rw [hentered]; exact Bool.false_ne_true)
      exact hrestored.entries.trans hfailed.entries.symm

/-- The port of the audio socket is in use. -/
theorem add_restores_iff_bind :
    ∃ st₁ st₂ st₃ st',
      ((construct fun _ _ => 0).step (.add "camera.flv" 5000 5002 90000)).outcome = .ok st₁ ∧
      (run st₁ [.control false .zero]).outcome = .ok st₂ ∧ st₂.control = .addBind 0 ∧
      (st₂.step (.control true .zero)).outcome = .ok st₃ ∧
      (run st₃ [.control false .zero]).outcome = .ok st' ∧ st'.control = .idle ∧
      (construct fun _ _ => 0).Restored st' := by
  refine ⟨_, _, _, _, rfl, rfl, rfl, rfl, rfl, rfl, ?_⟩
  have hcall : ((construct fun _ _ => 0).step (.add "camera.flv" 5000 5002 90000)).outcome = .ok _ :=
    rfl
  have hothers : ∀ r : Sdk, StepsMeet step NoCall r
      ([.control false .zero] ++ .control true .zero :: [.control false .zero]) :=
    fun _ => ⟨trivial, fun _ _ => ⟨trivial, fun _ _ => ⟨trivial, fun _ _ => trivial⟩⟩⟩
  exact (add_restores_iff (.refl step _) hcall (hothers _) rfl rfl rfl rfl).2.mpr rfl

/-- `new RTPDump` throws. -/
def sampleFailedDump : List Action :=
  .add "camera.flv" 5000 5002 90000 :: (List.replicate 7 (.control false .zero) ++
    [.control true .zero, .control false .zero])

/-- The registration of the video handler throws. -/
def sampleFailedVideo : List Action :=
  .add "camera.flv" 5000 5002 90000 :: (List.replicate 3 (.control false .zero) ++
    [.control true .zero, .control false .zero])

/-- **Entries are left** when `new RTPDump` throws: the receiver and the reactor have the session, the
capture center has not, and a packet that comes in stays in its list. When the registration of the
video handler throws, the audio handler is left, of an `RTPHandler` that does not exist. -/
theorem add_leaves_entries :
    (∃ st, (run (construct fun _ _ => 0) sampleFailedDump).outcome = .ok st ∧ st.control = .idle ∧
        ¬ (construct fun _ _ => 0).Restored st ∧ st.receiverMap 1 = some 0 ∧
        st.handlers = [⟨0, .audio, true⟩, ⟨0, .video, true⟩] ∧ st.sessionVector = [] ∧
        ∃ st', (run st sampleReception).outcome = .ok st' ∧
          (st'.sessions 0).bufferList.length = 1) ∧
      ∃ st, (run (construct fun _ _ => 0) sampleFailedVideo).outcome = .ok st ∧ st.control = .idle ∧
        ¬ (construct fun _ _ => 0).Restored st ∧ st.handlers = [⟨0, .audio, false⟩] ∧
        (st.step (.readable 0 .audio true [1, 2, 3])).outcome = .error .invalidPointer := by
  constructor
  · refine ⟨_, rfl, rfl, fun h => ?_, rfl, rfl, rfl, _, rfl, rfl⟩
    cases congrFun h.entries.receiver 1
  · refine ⟨_, rfl, rfl, fun h => ?_, rfl, rfl⟩
    cases h.entries.handlers

end Sdk

end RtpCapture
