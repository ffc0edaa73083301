import RtpCapture.Sessions.Locks

/-! # No deadlock

Every function locks the mutexes it needs in the order `m_sessionMapMutex`, `m_sessionVectorMutex`,
the `bufferMutex` of one session, the mutex of the pool, and unlocks them the other way round, also
when it leaves early.

* **`Sdk.sections`** — the functions as a locking program: the positions of a thread, the sections
  each is inside, the mutex it is about to lock there, and the steps between the positions.
* **`Sdk.sections_respects`** — the program respects that order.
* **`Sdk.step_lockStep`** — every step of the system is a step of this program.
* **`Sdk.deadlock_free`** — so any number of threads running these functions, several additions and
  deletions at a time among them, never deadlock; nor does the system. -/

namespace RtpCapture

open Traced

/-- Where a thread is outside all calls. -/
def Thread.start : Thread → Position
  | .source x => .ingest x .idle
  | .capture => .capture .idle
  | .control => .control .idle

/-- The thread that acts. -/
def Sdk.Action.thread : Sdk.Action → Thread
  | .onRTPData t _ _ _ => .source (.caller t)
  | .readable _ _ _ _ => .source .reactor
  | .ingest x _ => .source x
  | .capture _ => .capture
  | .add _ _ _ _ => .control
  | .del _ => .control
  | .control _ _ => .control

namespace Sdk

/-- **The order of the mutexes.** -/
def Mutex.rank : Mutex → ℕ
  | .map => 0
  | .vector => 1
  | .buffer _ => 2
  | .pool => 3

/-- **What the functions do with the mutexes**: the mutex a thread is about to lock in some state of
the system, be it free or not, and the steps it can take in a state in which it is. -/
def sections : LockProgram Position Mutex where
  holds := Position.holds
  -- which session `CaptureCenter::run` is about to lock depends on the vector
  wants := fun p m => ∃ st : Sdk, st.position p.thread = p ∧ st.wants p.thread = some m
  next := fun p w p' => ∃ (st : Sdk) (a : Action) (st' : Sdk), st.Coherent ∧
    a.thread = p.thread ∧ st.position p.thread = p ∧ st.wants p.thread = w ∧
    (st.step a).outcome = .ok st' ∧ st'.position p.thread = p'
  wants_of_next := by
    rintro p m p' ⟨st, -, -, -, -, hp, hwants, -⟩
    exact ⟨st, hp, hwants⟩

variable {st st' : Sdk}

/-! ## The steps and the sections -/

/-- **A mutex is locked above all that the thread holds.** -/
theorem rank_lt_of_wants {th : Thread} {m : Mutex} (hwants : st.wants th = some m) :
    ∀ j ∈ st.holds th, j.rank < m.rank := by
  cases th with
  | source x =>
      have hholds : st.holds (.source x) = (st.ingest x).holds x := rfl
      have hingest : (st.ingest x).wants = some m := hwants
      rw [hholds]
      cases hpc : st.ingest x <;> rw [hpc] at hingest
      -- with nothing in hand
      case lockMap => exact nofun
      -- inside of the map, if of anything
      case lockPool d =>
        obtain rfl := Option.some.inj hingest
        intro j hj
        rw [Source.eq_map hj]
        decide
      case lockBuffer d b =>
        obtain rfl := Option.some.inj hingest
        intro j hj
        rw [Source.eq_map hj]
        exact Nat.two_pos
      all_goals cases hingest
  | capture =>
      have hholds : st.holds .capture = st.capture.holds := rfl
      have hcapture : st.capture.wants st.sessionVector = some m := hwants
      rw [hholds]
      cases hpc : st.capture <;> rw [hpc] at hcapture
      case idle => exact nofun
      -- a list inside of the vector
      case session k =>
        obtain ⟨s, -, rfl⟩ := Option.map_eq_some_iff.mp hcapture
        simp [Capture.holds, Mutex.rank]
      -- and the pool inside of both
      case lockPool k s b =>
        cases hcapture
        simp [Capture.holds, Mutex.rank]
      all_goals cases hcapture
  | control =>
      have hholds : st.holds .control = st.control.holds := rfl
      have hcontrol : st.control.wants = some m := hwants
      rw [hholds]
      cases hpc : st.control <;> rw [hpc] at hcontrol <;> cases hcontrol <;>
        simp [Control.holds, Mutex.rank]

/-- **A step as the sections see it**: the other threads stay where they are, and the thread enters
the section of the mutex it waited for, or leaves the innermost one, or neither. -/
structure SectionStep (st st' : Sdk) (th : Thread) : Prop where
  position : st'.position = Function.update st.position th (st'.position th)
  lock : ∀ m, st.wants th = some m → st'.holds th = m :: st.holds th
  go : st.wants th = none → st'.holds th = st.holds th ∨
    ∃ m, st.holds th = m :: st'.holds th ∧ m ∉ st'.holds th

/-- The step, with the position the thread goes to. -/
theorem SectionStep.of_position {p : Position}
    (hposition : st'.position = Function.update st.position p.thread p)
    (hlock : ∀ m, st.wants p.thread = some m → p.holds = m :: st.holds p.thread)
    (hgo : st.wants p.thread = none → p.holds = st.holds p.thread ∨
      ∃ m, st.holds p.thread = m :: p.holds ∧ m ∉ p.holds) : SectionStep st st' p.thread := by
  have hself : st'.position p.thread = p := by rw [hposition, Function.update_self]
  have hholds : st'.holds p.thread = p.holds := congrArg Position.holds hself
  refine ⟨by rw [hself, hposition], ?_, ?_⟩
  · rwa [hholds]
  · rwa [hholds]

/-- A delivery that moves. -/
theorem position_ingest {x : Source} {pc : Ingest}
    (hingest : st'.ingest = Function.update st.ingest x pc) (hcapture : st'.capture = st.capture)
    (hcontrol : st'.control = st.control) :
    st'.position = Function.update st.position (.source x) (.ingest x pc) := by
  have h := st.position_goTo (.ingest x pc)
  rw [← show (Position.ingest x pc).thread = .source x from rfl, ← h]
  funext th
  cases th with
  | source y => exact congrArg (fun ingest => Position.ingest y (ingest y)) hingest
  | capture => exact congrArg Position.capture hcapture
  | control => exact congrArg Position.control hcontrol

/-- The capture thread, when it moves. -/
theorem position_capture {pc : Capture} (hingest : st'.ingest = st.ingest)
    (hcapture : st'.capture = pc) (hcontrol : st'.control = st.control) :
    st'.position = Function.update st.position .capture (.capture pc) := by
  rw [Function.eq_update_iff]
  refine ⟨congrArg Position.capture hcapture, fun th hne => ?_⟩
  cases th with
  | source y => exact congrArg (fun ingest => Position.ingest y (ingest y)) hingest
  | capture => exact absurd rfl hne
  | control => exact congrArg Position.control hcontrol

/-- The control thread, when it moves. -/
theorem position_control {pc : Control} (hingest : st'.ingest = st.ingest)
    (hcapture : st'.capture = st.capture) (hcontrol : st'.control = pc) :
    st'.position = Function.update st.position .control (.control pc) := by
  rw [Function.eq_update_iff]
  refine ⟨congrArg Position.control hcontrol, fun th hne => ?_⟩
  cases th with
  | source y => exact congrArg (fun ingest => Position.ingest y (ingest y)) hingest
  | capture => exact congrArg Position.capture hcapture
  | control => exact absurd rfl hne

/-- The steps of `onRTPData` and of the receive handlers. -/
theorem stepIngest_sections {x : Source} {fails : Bool}
    (hpossible : x = .reactor → (st.ingest x).callerOnly = false)
    (hstep : (st.stepIngest x fails).outcome = .ok st') : SectionStep st st' (.source x) := by
  -- a step is one of the program when it locks what the position waits for, or unlocks
  have hgo : ∀ (pc : Ingest), st'.ingest = Function.update st.ingest x pc →
      st'.capture = st.capture → st'.control = st.control →
      (∀ m, (st.ingest x).wants = some m → pc.holds x = m :: (st.ingest x).holds x) →
      ((st.ingest x).wants = none → pc.holds x = (st.ingest x).holds x ∨
        ∃ m, (st.ingest x).holds x = m :: pc.holds x ∧ m ∉ pc.holds x) →
      SectionStep st st' (.source x) :=
    fun pc hingest hcapture hcontrol hlock hgo =>
      .of_position (p := .ingest x pc) (position_ingest hingest hcapture hcontrol) hlock hgo
  have hscope : (afterScope x).holds x = x.scope := by cases x <;> rfl
  obtain ⟨es, -, hends⟩ := (stepIngest_endsIn st x fails).exists_ok hstep
  generalize hpc : st.ingest x = pc at hends hgo hpossible
  cases hends with
  | lockMap id bytes len =>
      obtain ⟨t, rfl⟩ := eq_caller hpossible rfl
      refine hgo (.lookup id bytes len) rfl rfl rfl ?_ nofun
      rintro m ⟨⟩
      rfl
  | notFound | overflow => exact hgo .unlockMap rfl rfl rfl nofun fun _ => .inl rfl
  | found => exact hgo (.lockPool _) rfl rfl rfl nofun fun _ => .inl rfl
  | lockPool d =>
      refine hgo (.get d) rfl rfl rfl ?_ nofun
      rintro m ⟨⟩
      rfl
  -- the exception unlocks the pool
  | outOfMemory d =>
      have hnot : Mutex.pool ∉ x.scope := fun hmem => nomatch Source.eq_map hmem
      refine hgo (afterScope x) rfl rfl rfl nofun fun _ => .inr ⟨.pool, ?_, ?_⟩
      · rw [hscope]
        rfl
      · rwa [hscope]
  | get d b pool =>
      have hnot : Mutex.pool ∉ x.scope := fun hmem => nomatch Source.eq_map hmem
      exact hgo (.fill d b) rfl rfl rfl nofun fun _ => .inr ⟨.pool, rfl, hnot⟩
  | receiveFailed d b hfails hx =>
      subst hx
      exact hgo .idle rfl rfl rfl nofun fun _ => .inl rfl
  | fill d b => exact hgo (.lockBuffer d b) rfl rfl rfl nofun fun _ => .inl rfl
  | lockBuffer d b =>
      refine hgo (.push d b) rfl rfl rfl ?_ nofun
      rintro m ⟨⟩
      rfl
  | push d b => exact hgo (.unlockBuffer d) rfl rfl rfl nofun fun _ => .inl rfl
  -- behind the list, a caller still holds the map
  | unlockBuffer d =>
      have hnot : Mutex.buffer d.session ∉ x.scope := fun hmem => nomatch Source.eq_map hmem
      refine hgo (afterScope x) rfl rfl rfl nofun fun _ => .inr ⟨.buffer d.session, ?_, ?_⟩
      · rw [hscope]
        rfl
      · rwa [hscope]
  | unlockMap =>
      obtain ⟨t, rfl⟩ := eq_caller hpossible rfl
      exact hgo .idle rfl rfl rfl nofun fun _ => .inr ⟨.map, rfl, List.not_mem_nil⟩

/-- The steps of `CaptureCenter::run`. -/
theorem stepCapture_sections {r : FileResults} (hstep : (st.stepCapture r).outcome = .ok st') :
    SectionStep st st' .capture := by
  have hgo : ∀ (pc : Capture), st'.ingest = st.ingest → st'.capture = pc →
      st'.control = st.control →
      (∀ m, st.capture.wants st.sessionVector = some m → pc.holds = m :: st.capture.holds) →
      (st.capture.wants st.sessionVector = none → pc.holds = st.capture.holds ∨
        ∃ m, st.capture.holds = m :: pc.holds ∧ m ∉ pc.holds) →
      SectionStep st st' .capture :=
    fun pc hingest hcapture hcontrol hlock hgo =>
      .of_position (p := .capture pc) (position_capture hingest hcapture hcontrol) hlock hgo
  obtain ⟨es, -, hends⟩ := stepCapture_ok hstep
  generalize hpc : st.capture = pc at hends hgo
  cases hends with
  | lockVector =>
      refine hgo (.session 0) rfl rfl rfl ?_ elim_some
      rintro m ⟨⟩
      rfl
  -- at the end of the vector there is no list to lock
  | unlockVector k hend =>
      refine hgo .idle rfl rfl rfl (fun m hm => ?_) fun _ => .inr ⟨.vector, rfl, List.not_mem_nil⟩
      rw [Capture.wants, hend] at hm
      cases hm
  -- in front of it there is one
  | lockBuffer k s hs =>
      refine hgo (.drain k s) rfl rfl rfl (fun m hm => ?_) fun hnone => ?_
      · rw [Capture.wants, hs] at hm
        obtain rfl := Option.some.inj hm
        rfl
      · rw [Capture.wants, hs] at hnone
        cases hnone
  | unlockBuffer k s =>
      exact hgo (.session (k + 1)) rfl rfl rfl elim_none
        fun _ => .inr ⟨.buffer s, rfl, by simp [Capture.holds]⟩
  | head k s node => exact hgo (.erase k s node) rfl rfl rfl elim_none fun _ => .inl rfl
  | erase k s node => exact hgo (.enter k s node) rfl rfl rfl elim_none fun _ => .inl rfl
  | enter k s node => exact hgo (.handle k s node) rfl rfl rfl elim_none fun _ => .inl rfl
  | handle k s node => exact hgo (.lockPool k s node.buffer) rfl rfl rfl elim_none fun _ => .inl rfl
  | lockPool k s b =>
      refine hgo (.release k s b) rfl rfl rfl ?_ elim_some
      rintro m ⟨⟩
      rfl
  | throws k s node => exact hgo (.throwBuffer s) rfl rfl rfl elim_none fun _ => .inl rfl
  | release k s b =>
      exact hgo (.drain k s) rfl rfl rfl elim_none
        fun _ => .inr ⟨.pool, rfl, by simp [Capture.holds]⟩
  | throwBuffer s =>
      exact hgo .throwVector rfl rfl rfl elim_none
        fun _ => .inr ⟨.buffer s, rfl, by simp [Capture.holds]⟩
  | throwVector =>
      exact hgo .ended rfl rfl rfl elim_none fun _ => .inr ⟨.vector, rfl, List.not_mem_nil⟩

/-- The steps of `addCaptureRtpSession` and `delCaptureRtpSession`. -/
theorem stepControl_sections {fails : Bool} {u : Uninitialised}
    (hstep : (st.stepControl fails u).outcome = .ok st') : SectionStep st st' .control := by
  have hgo : (∀ m, st.control.wants = some m → st'.control.holds = m :: st.control.holds) →
      (st.control.wants = none → st'.control.holds = st.control.holds ∨
        ∃ m, st.control.holds = m :: st'.control.holds ∧ m ∉ st'.control.holds) →
      st'.ingest = st.ingest → st'.capture = st.capture → SectionStep st st' .control :=
    fun hlock hgo hingest hcapture =>
      .of_position (p := .control st'.control) (position_control hingest hcapture rfl) hlock hgo
  obtain ⟨es, -, hends⟩ := (stepControl_endsIn st fails u).exists_ok hstep
  generalize hpc : st.control = pc at hends hgo
  cases hends
  case addLockMap | addLockVector | delLockVector | delLockBuffer | delLockPool =>
    refine hgo ?_ elim_some rfl rfl
    rintro m ⟨⟩
    rfl
  case addUnlockMap | addThrowMap | addUnlockVector | addThrowVector | delRelease |
      delUnlockBuffer | delUnlockVector =>
    exact hgo elim_none (fun _ => .inr ⟨_, rfl, by simp [Control.holds]⟩) rfl rfl
  -- the thread stays inside the same scopes
  all_goals exact hgo elim_none (fun _ => .inl rfl) rfl rfl

/-- A call starts outside all sections, and the thread is outside them still. -/
theorem SectionStep.call {th : Thread} {p : Position} (hth : p.thread = th)
    (hposition : st'.position = Function.update st.position th p) (hwants : st.wants th = none)
    (hholds : p.holds = st.holds th) : SectionStep st st' th := by
  subst hth
  exact .of_position hposition (fun m hm => by rw [hwants] at hm; cases hm) fun _ => .inl hholds

/-- A thread that does nothing. -/
theorem SectionStep.refl {th : Thread} (hwants : st.wants th = none) : SectionStep st st th where
  position := (Function.update_eq_self th st.position).symm
  lock := fun m hm => by rw [hwants] at hm; cases hm
  go := fun _ => .inl rfl

/-- **One step of the system**, for the thread that acts. -/
theorem step_sections (hcoherent : st.Coherent) {a : Action}
    (hstep : (st.step a).outcome = .ok st') : SectionStep st st' a.thread := by
  cases a with
  | onRTPData t id data len =>
      obtain ⟨hidle, rfl⟩ := onRTPData_ok hstep
      exact .call (p := .ingest (.caller t) (.lockMap id _ len)) rfl
        (position_ingest rfl rfl rfl) (congrArg Ingest.wants hidle)
        (congrArg (Ingest.holds (.caller t)) hidle).symm
  | readable s type available datagram =>
      obtain ⟨hidle, -, ⟨-, rfl⟩ | ⟨-, rfl⟩⟩ := readable_ok hstep
      · exact .refl (congrArg Ingest.wants hidle)
      · exact .call (p := .ingest .reactor (.lockPool ⟨s, _, _⟩)) rfl
          (position_ingest rfl rfl rfl) (congrArg Ingest.wants hidle)
          (congrArg (Ingest.holds .reactor) hidle).symm
  | ingest x fails =>
      obtain ⟨hstep, -, -⟩ := ingest_ok hstep
      exact stepIngest_sections (hcoherent.possible (.source x)) hstep
  | capture r =>
      obtain ⟨hstep, -, -⟩ := capture_ok hstep
      exact stepCapture_sections hstep
  | add fileName videoPort audioPort videoFrequency =>
      obtain ⟨hidle, rfl⟩ := add_ok hstep
      exact .call (p := .control (.addLockMap st.next)) rfl (position_control rfl rfl rfl)
        (congrArg Control.wants hidle) (congrArg Control.holds hidle).symm
  | del id =>
      obtain ⟨hidle, ⟨-, rfl⟩ | ⟨s, hs, rfl⟩⟩ := del_ok hstep
      · exact .refl (congrArg Control.wants hidle)
      · exact .call (p := .control (.delLockVector ⟨id, s⟩)) rfl (position_control rfl rfl rfl)
          (congrArg Control.wants hidle) (congrArg Control.holds hidle).symm
  | control fails u =>
      obtain ⟨hstep, -, -⟩ := control_ok hstep
      exact stepControl_sections hstep

/-! ## Any number of threads -/

/-- **The functions respect the order of the mutexes.** -/
theorem sections_respects : sections.Respects Mutex.rank where
  lock := by
    rintro p m p' ⟨st, a, st', hcoherent, hthread, hp, hwants, hstep, rfl⟩
    have hholds : st.holds p.thread = sections.holds p := congrArg Position.holds hp
    have hsections := step_sections hcoherent hstep
    rw [hthread] at hsections
    exact (hsections.lock m hwants).trans (congrArg (List.cons m) hholds)
  order := by
    rintro p m ⟨st, hp, hwants⟩
    have hholds : st.holds p.thread = sections.holds p := congrArg Position.holds hp
    rw [← hholds]
    exact rank_lt_of_wants hwants
  go := by
    rintro p p' ⟨st, a, st', hcoherent, hthread, hp, hwants, hstep, rfl⟩
    have hholds : st.holds p.thread = sections.holds p := congrArg Position.holds hp
    have hsections := step_sections hcoherent hstep
    rw [hthread] at hsections
    rw [← hholds]
    exact hsections.go hwants

/-- All threads outside all calls, and no mutex locked. -/
def startOf {θ : Type} (role : θ → Thread) : LockState θ Mutex Position where
  holder := fun _ => none
  position := fun t => (role t).start

/-- At the start nobody holds a mutex. -/
theorem startOf_locked {θ : Type} (role : θ → Thread) :
    Locked (startOf role).holder ((startOf role).holds sections) := by
  intro m t
  have hempty : (startOf role).holds sections t = [] := by
    show (role t).start.holds = []
    cases role t <;> rfl
  rw [hempty]
  exact ⟨nofun, nofun⟩

/-- The threads of the system with the mutexes. -/
def lockState (st : Sdk) : LockState Thread Mutex Position := ⟨st.holder, st.position⟩

/-- The position of a thread is one of its own. -/
theorem thread_position (st : Sdk) (th : Thread) : (st.position th).thread = th := by
  cases th <;> rfl

/-- A thread that goes on found the mutex free. -/
theorem holder_of_wants {a : Action} (hstep : (st.step a).outcome = .ok st') {m : Mutex}
    (hwants : st.wants a.thread = some m) : st.holder m = none := by
  cases a with
  | onRTPData t id data len =>
      have hnone : st.wants (.source (.caller t)) = none :=
        congrArg Ingest.wants (onRTPData_ok hstep).1
      exact nomatch hnone.symm.trans hwants
  | readable s type available datagram =>
      have hnone : st.wants (.source .reactor) = none := congrArg Ingest.wants (readable_ok hstep).1
      exact nomatch hnone.symm.trans hwants
  | add fileName videoPort audioPort videoFrequency =>
      have hnone : st.wants .control = none := congrArg Control.wants (add_ok hstep).1
      exact nomatch hnone.symm.trans hwants
  | del id =>
      have hnone : st.wants .control = none := congrArg Control.wants (del_ok hstep).1
      exact nomatch hnone.symm.trans hwants
  | ingest x fails => exact (ingest_ok hstep).2.2 m hwants
  | capture r => exact (capture_ok hstep).2.2 m hwants
  | control fails u => exact (control_ok hstep).2.2 m hwants

/-- **Every step of the system is a step of the program**, by the thread that acts. -/
theorem step_lockStep (hcoherent : st.Coherent) {a : Action}
    (hstep : (st.step a).outcome = .ok st') :
    LockStep sections st.lockState st'.lockState := by
  have hsections := step_sections hcoherent hstep
  have hself := st.thread_position a.thread
  have hnext : ∀ w, st.wants a.thread = w →
      sections.next (st.lockState.position a.thread) w (st'.position a.thread) := by
    intro w hw
    refine ⟨st, a, st', hcoherent, hself.symm, ?_, ?_, hstep, ?_⟩
    · rw [show (st.lockState.position a.thread).thread = a.thread from hself]
      rfl
    · rw [show (st.lockState.position a.thread).thread = a.thread from hself, hw]
    · rw [show (st.lockState.position a.thread).thread = a.thread from hself]
  -- who holds what follows from where the threads are
  have hholds : st'.holds = Function.update st.holds a.thread (st'.holds a.thread) := by
    rw [Function.eq_update_iff]
    refine ⟨rfl, fun th hne => ?_⟩
    show (st'.position th).holds = (st.position th).holds
    rw [hsections.position, Function.update_of_ne hne]
  have hlocked' := (step_coherent hcoherent hstep).locked
  rw [hholds] at hlocked'
  have hstate : ∀ holder, st'.holder = holder → st'.lockState =
      ⟨holder, Function.update st.position a.thread (st'.position a.thread)⟩ := by
    rintro holder rfl
    rw [← hsections.position]
    rfl
  cases hwants : st.wants a.thread with
  | some m =>
      have hfree := holder_of_wants hstep hwants
      have hholder := hlocked'.unique (hcoherent.locked.lock hfree (hsections.lock m hwants))
      rw [hstate _ hholder]
      exact .lock (hnext _ hwants) hfree
  | none =>
      rcases hsections.go hwants with hsame | ⟨m, hleave, hnot⟩
      · have hholder := hlocked'.unique (hcoherent.locked.move hsame.symm)
        rw [hstate _ hholder]
        exact .go (hnext _ hwants) hsame
      · have hholder := hlocked'.unique (hcoherent.locked.unlock hleave hnot)
        rw [hstate _ hholder]
        exact .unlock (hnext _ hwants) hleave

/-- **A run of the system is a run of the program.** -/
theorem lockSteps_of_reaches {memory : Block → Memory} (h : Reaches step (construct memory) st) :
    Relation.ReflTransGen (LockStep sections) (startOf id) st.lockState := by
  refine (h.invariant (fun st => st.Coherent ∧
    Relation.ReflTransGen (LockStep sections) (startOf id) st.lockState) ?_ ?_).2
  · rintro st a st' ⟨hcoherent, hsteps⟩ hstep
    exact ⟨step_coherent hcoherent hstep, hsteps.tail (step_lockStep hcoherent hstep)⟩
  · have hinit : (construct memory).lockState = startOf id := by
      have hholder : (construct memory).holder = fun _ => none := by
        funext m
        cases m <;> rfl
      have hposition : (construct memory).position = Thread.start := by
        funext th
        cases th <;> rfl
      rw [lockState, hholder, hposition]
      rfl
    rw [hinit]
    exact ⟨coherent_construct memory, .refl⟩

/-- **No deadlock.** Any number of threads that call these functions in any order, several additions
and deletions at a time among them, are never about to lock a mutex they hold and never wait for one
another in a cycle; and so it is in every state the system can reach. -/
theorem deadlock_free :
    (∀ (θ : Type) [DecidableEq θ] (role : θ → Thread) (s : LockState θ Mutex Position),
        Relation.ReflTransGen (LockStep sections) (startOf role) s → s.DeadlockFree sections) ∧
      ∀ (memory : Block → Memory) (st : Sdk), Reaches step (construct memory) st →
        st.lockState.DeadlockFree sections := by
  have hcrew : ∀ (θ : Type) [DecidableEq θ] (role : θ → Thread) (s : LockState θ Mutex Position),
      Relation.ReflTransGen (LockStep sections) (startOf role) s → s.DeadlockFree sections :=
    fun θ _ role _ hreaches =>
      sections_respects.deadlockFree_of_reaches (startOf_locked role) hreaches
  exact ⟨hcrew, fun _ st h => hcrew Thread id st.lockState (lockSteps_of_reaches h)⟩

/-- Two threads add a session each: one holds the map, the other one waits for it. -/
theorem deadlock_free_two_additions :
    ∃ s : LockState Bool Mutex Position, s.position true = .control (.addBind 0) ∧
      s.position false = .control (.addLockMap 0) ∧ s.WaitsFor sections false true ∧
        s.DeadlockFree sections := by
  have hcall : sections.next (.control .idle) none (.control (.addLockMap 0)) :=
    ⟨construct fun _ _ => 0, .add "camera.flv" 5000 5002 90000, _, coherent_construct _, rfl, rfl,
      rfl, rfl, rfl⟩
  have hlock : sections.next (.control (.addLockMap 0)) (some .map) (.control (.addBind 0)) := by
    have hcoherent := step_coherent (coherent_construct fun _ _ => 0)
      (a := .add "camera.flv" 5000 5002 90000) rfl
    exact ⟨_, .control false .zero, _, hcoherent, rfl, rfl, rfl, rfl, rfl⟩
  have hreaches : Relation.ReflTransGen (LockStep sections)
      (startOf fun _ : Bool => Thread.control) _ :=
    ((Relation.ReflTransGen.refl.tail (.go (t := true) hcall rfl)).tail
      (.go (t := false) hcall rfl)).tail (.lock (t := true) hlock rfl)
  exact ⟨_, rfl, rfl, ⟨.map, sections.wants_of_next hlock, rfl⟩, deadlock_free.1 Bool _ _ hreaches⟩

end Sdk

end RtpCapture
