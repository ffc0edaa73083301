import RtpCapture.Foundations.RoundRobin
import RtpCapture.Sessions.Atomicity
import RtpCapture.Sessions.InOrder
import RtpCapture.Sessions.PoolUse
import Mathlib.Data.List.Infix

/-! # Every packet is handed on

`CaptureCenter::run` goes round the sessions and empties the list of each. Packets come in meanwhile,
sessions are added and removed, and the thread waits for the mutexes of others. Still no session
starves: its packets are handed to its `rtpHandler` after a number of steps of the thread that only
depends on how many sessions there are.

* **`Sdk.server`** — `CaptureCenter::run` as a round robin server.
* **`Sdk.stepCapture_server`** — its steps are steps of the server; **`Sdk.step_elsewhere`** — the
  other threads leave the server where it is.
* **`Sdk.run_drains`** — the result, for every schedule. -/

namespace RtpCapture

open Traced

/-- **The thread as a server** of the lists, whose lengths are given: it takes six steps to hand on a
packet. -/
def Capture.server (length : SessionRef → ℕ) : Capture → Server
  | .idle => .outside
  | .session k => .between k
  | .drain k s => .visiting k (6 * length s)
  | .erase k s _ => .visiting k (6 * (length s - 1) + 5)
  | .enter k s _ => .visiting k (6 * length s + 4)
  | .handle k s _ => .visiting k (6 * length s + 3)
  | .lockPool k s _ => .visiting k (6 * length s + 2)
  | .release k s _ => .visiting k (6 * length s + 1)
  | .throwBuffer _ => .stopping 2
  | .throwVector => .stopping 1
  | .ended => .stopping 0

/-- The element of the vector the thread is at. -/
def Capture.element? : Capture → Option (ℕ × SessionRef)
  | .idle => none
  | .session _ => none
  | .drain k s => some (k, s)
  | .erase k s _ => some (k, s)
  | .enter k s _ => some (k, s)
  | .handle k s _ => some (k, s)
  | .lockPool k s _ => some (k, s)
  | .release k s _ => some (k, s)
  | .throwBuffer _ => none
  | .throwVector => none
  | .ended => none

/-- The server only looks at the list of the session it is at. -/
theorem Capture.server_congr {length length' : SessionRef → ℕ} (pc : Capture)
    (h : ∀ s, .buffer s ∈ pc.holds → length' s = length s) :
    pc.server length' = pc.server length := by
  cases pc with
  | idle | session | throwBuffer | throwVector | ended => rfl
  | drain k s | erase k s | enter k s | handle k s | lockPool k s | release k s =>
      simp only [Capture.server, h s (by simp [Capture.holds])]

namespace Sdk

open SdkEvent

variable {memory : Block → Memory} {st st' : Sdk} {s : SessionRef}

/-- **`CaptureCenter::run` in a state of the system.** -/
def server (st : Sdk) : Server := st.capture.server fun s => (st.sessions s).bufferList.length

/-! ## The steps of the thread -/

/-- A mutex is no packet. -/
theorem length_setHolder (st : Sdk) (t : Option Thread) (m : Mutex) (s : SessionRef) :
    ((st.setHolder t m).sessions s).bufferList.length = (st.sessions s).bufferList.length :=
  congrArg List.length (congrFun (congrArg Queues.lists (queues_setHolder st t m)) s)

/-- **A step of `CaptureCenter::run` is a step of the server**, when no list is longer than the pool
allows and the node that is erased is at the front of its list. -/
theorem stepCapture_server {r : FileResults} (hlist : ∀ s, (st.sessions s).bufferList.length ≤ 20000)
    (hfront : ∀ s node, st.capture.front = some (s, node) →
      ∃ rest, (st.sessions s).bufferList = node :: rest)
    (hstep : (st.stepCapture r).outcome = .ok st') :
    Server.Step (6 * 20000) st.sessionVector.length st.server st'.server := by
  obtain ⟨es, -, hends⟩ := stepCapture_ok hstep
  unfold server
  generalize st.capture = pc at hends hfront
  cases hends with
  | lockVector => exact .start
  | unlockVector k hnone => exact .stop (List.getElem?_eq_none_iff.mp hnone)
  | lockBuffer k s hs =>
      simp only [Capture.server, length_setHolder]
      exact .visit (List.getElem?_eq_some_iff.mp hs).1 (Nat.mul_le_mul_left 6 (hlist s))
  | unlockBuffer k s hempty =>
      simp only [Capture.server, hempty, List.length_nil]
      exact .leave k
  | head k s node rest hnext =>
      simp only [Capture.server, hnext, List.length_cons]
      exact .work (by omega)
  | erase k s node =>
      obtain ⟨rest, hrest⟩ := hfront s node rfl
      simp only [Capture.server, setSession, Function.update_self, hrest, List.length_cons,
        List.tail_cons]
      exact .work (by omega)
  | enter k s node => exact .work (Nat.lt_succ_self _)
  | handle k s node dump dump' hdump hhandled =>
      simp only [Capture.server, setSession, Function.update_self]
      exact .work (Nat.lt_succ_self _)
  | throws k s node dump hdump hthrows => exact .giveUp (by omega)
  | lockPool k s b => exact .work (Nat.lt_succ_self _)
  | release k s b => exact .work (Nat.lt_succ_self _)
  | throwBuffer | throwVector => exact .finish (Nat.lt_succ_self _)

/-- The thread changes no registry. -/
theorem stepCapture_vector {r : FileResults} (hstep : (st.stepCapture r).outcome = .ok st') :
    st'.sessionVector = st.sessionVector :=
  (stepCapture_sameControlData hstep).vector

/-! ## The steps of the other threads -/

/-- **What the other threads leave alone**: where `CaptureCenter::run` is, the vector while it goes
round, and the list it is at. -/
structure Elsewhere (st st' : Sdk) : Prop where
  capture : st'.capture = st.capture
  vector : .vector ∈ st.capture.holds → st'.sessionVector = st.sessionVector
  list : ∀ s, .buffer s ∈ st.capture.holds →
    (st'.sessions s).bufferList.length = (st.sessions s).bufferList.length

/-- The other threads do not move the server. -/
theorem Elsewhere.server_eq (h : st.Elsewhere st') : st'.server = st.server := by
  unfold server
  rw [h.capture]
  exact st.capture.server_congr h.list

/-- The steps of the control thread. -/
theorem stepControl_elsewhere (hcoherent : st.Coherent) {fails : Bool} {u : Uninitialised}
    (hstep : (st.stepControl fails u).outcome = .ok st') : st.Elsewhere st' := by
  have hfree : ∀ m ∈ st.control.holds, m ∉ st.capture.holds := by
    intro m hcontrol hcapture
    have hsame : Thread.capture = Thread.control := hcoherent.locked.exclusive hcapture hcontrol
    cases hsame
  have hsession : ∀ (c : SessionRef) (session : RTPSession),
      (session.bufferList = (st.sessions c).bufferList ∨ .buffer c ∉ st.capture.holds) →
      ∀ s, .buffer s ∈ st.capture.holds →
        ((st.setSession c session).sessions s).bufferList.length =
          (st.sessions s).bufferList.length := by
    intro c session hsame s hs
    by_cases heq : s = c
    · subst heq
      rcases hsame with hsame | hnot
      · simp [setSession, hsame]
      · exact absurd hs hnot
    · simp [setSession, heq]
  have hholder : ∀ (t : Option Thread) (m : Mutex) (pc : Control),
      st.Elsewhere { st.setHolder t m with control := pc } := fun t m pc =>
    ⟨by cases m <;> rfl, fun _ => by cases m <;> rfl, fun s _ => st.length_setHolder t m s⟩
  obtain ⟨es, -, hends⟩ := (stepControl_endsIn st fails u).exists_ok hstep
  generalize st.control = pc at hends hfree
  cases hends with
  | addBindThrows s | addBind s | addNoPorts s | addRegisterVideo s | addDump s | delFree c =>
      exact ⟨rfl, fun _ => rfl, hsession _ _ (.inl rfl)⟩
  | delErase c node =>
      exact ⟨rfl, fun _ => rfl, hsession _ _ (.inr (hfree _ (by simp [Control.holds])))⟩
  | addPush s => exact ⟨rfl, fun h => absurd h (hfree _ (by simp [Control.holds])), fun _ _ => rfl⟩
  | delDump c =>
      exact ⟨rfl, fun h => absurd h (hfree _ (by simp [Control.holds])), hsession _ _ (.inl rfl)⟩
  | addRegisterAudioThrows | addRegisterAudio | addRegisterVideoThrows | addPublish | addDumpThrows
  | addRemember | delFind | delNotFound | delDrained | delHead | delRelease | delForget =>
      exact ⟨rfl, fun _ => rfl, fun _ _ => rfl⟩
  | addLockMap | addUnlockMap | addThrowMap | addLockVector | addUnlockVector | addThrowVector
  | delLockVector | delLockBuffer | delLockPool | delUnlockBuffer | delUnlockVector =>
      exact hholder _ _ _

/-- The thread stays where it is. -/
theorem step_capture (hcoherent : st.Coherent) {a : Action} (ha : a.thread ≠ .capture)
    (hstep : (st.step a).outcome = .ok st') : st'.capture = st.capture := by
  have hposition := congrFun (step_sections hcoherent hstep).position .capture
  rw [Function.update_of_ne ha.symm] at hposition
  exact Position.capture.inj hposition

/-- **The other threads leave the server alone**: they wait for the mutexes it holds. -/
theorem step_elsewhere (hcoherent : st.Coherent) {a : Action} (ha : a.thread ≠ .capture)
    (hstep : (st.step a).outcome = .ok st') : st.Elsewhere st' := by
  cases a with
  | onRTPData t id data len =>
      obtain ⟨-, rfl⟩ := onRTPData_ok hstep
      exact ⟨rfl, fun _ => rfl, fun _ _ => rfl⟩
  | readable s type available datagram =>
      obtain ⟨-, -, ⟨-, rfl⟩ | ⟨-, rfl⟩⟩ := readable_ok hstep <;>
        exact ⟨rfl, fun _ => rfl, fun _ _ => rfl⟩
  | ingest x fails =>
      have hcapture := step_capture hcoherent ha hstep
      obtain ⟨hstep, -⟩ := ingest_ok hstep
      refine ⟨hcapture, fun _ => (stepIngest_sameControlData hstep).vector, fun s hs => ?_⟩
      rcases stepIngest_queues hstep with hsame | ⟨d, b, hpc⟩
      · rw [hsame s]
      · -- a packet is pushed under the mutex of its list
        have hne : s ≠ d.session := by
          rintro rfl
          have hpush : .buffer d.session ∈ st.holds (.source x) := by
            show _ ∈ (st.ingest x).holds x
            rw [hpc]
            exact List.mem_cons_self
          have hsame : Thread.capture = .source x := hcoherent.locked.exclusive hs hpush
          cases hsame
        obtain ⟨es, -, hends⟩ := (stepIngest_endsIn st x fails).exists_ok hstep
        rw [hpc] at hends
        cases hends
        simp [setIngest, setSession, hne]
  | capture r => exact absurd rfl ha
  -- the new session is not one that the server is at
  | add fileName videoPort audioPort videoFrequency =>
      obtain ⟨-, rfl⟩ := add_ok hstep
      refine ⟨rfl, fun _ => rfl, fun s hs => ?_⟩
      have hfresh := hcoherent.known.fresh st.next (Nat.le_refl _)
      exact congrArg List.length (sameQueues_setSession (by rw [hfresh]) s)
  | del id =>
      obtain ⟨-, ⟨-, rfl⟩ | ⟨s, -, rfl⟩⟩ := del_ok hstep <;> exact ⟨rfl, fun _ => rfl, fun _ _ => rfl⟩
  | control fails u =>
      obtain ⟨hstep, -⟩ := control_ok hstep
      exact stepControl_elsewhere hcoherent hstep

/-! ## The session that waits -/

/-- **The session is not taken out of the vector.** -/
def KeepsListed (s : SessionRef) (st : Sdk) : Action → Prop
  | .control _ _ => ∀ c, st.control = .delDump c → c.session ≠ s
  | _ => True

/-- Another element is erased: a place in front of it is lost, or none. -/
theorem idxOf_erase_le {c : SessionRef} (hne : s ≠ c) (l : List SessionRef) :
    (l.erase c).idxOf s ≤ l.idxOf s := by
  induction l with
  | nil => exact le_rfl
  | cons a l ih =>
      by_cases ha : a = c
      · subst ha
        rw [List.erase_cons_head, List.idxOf_cons_ne _ hne.symm]
        exact Nat.le_succ _
      · rw [List.erase_cons_tail (by simpa using ha)]
        by_cases hs : a = s
        · subst hs
          rw [List.idxOf_cons_self, List.idxOf_cons_self]
        · rw [List.idxOf_cons_ne _ hs, List.idxOf_cons_ne _ hs]
          exact Nat.succ_le_succ ih

/-- **Its place in the vector**: new sessions come behind it. -/
theorem step_idxOf (hs : s ∈ st.sessionVector) {a : Action} (hkeeps : KeepsListed s st a)
    (hstep : (st.step a).outcome = .ok st') :
    s ∈ st'.sessionVector ∧ st'.sessionVector.idxOf s ≤ st.sessionVector.idxOf s := by
  have hsame : st'.sessionVector = st.sessionVector →
      s ∈ st'.sessionVector ∧ st'.sessionVector.idxOf s ≤ st.sessionVector.idxOf s := by
    intro hvector
    rw [hvector]
    exact ⟨hs, le_rfl⟩
  cases a with
  | add fileName videoPort audioPort videoFrequency =>
      obtain ⟨-, rfl⟩ := add_ok hstep
      exact hsame rfl
  | del id =>
      obtain ⟨-, ⟨-, rfl⟩ | ⟨s', -, rfl⟩⟩ := del_ok hstep <;> exact hsame rfl
  | control fails u =>
      obtain ⟨hstep, -⟩ := control_ok hstep
      obtain ⟨es, -, hends⟩ := (stepControl_endsIn st fails u).exists_ok hstep
      unfold KeepsListed at hkeeps
      generalize st.control = pc at hends hkeeps
      cases hends with
      | addPush s' =>
          exact ⟨List.mem_append_left _ hs, (List.idxOf_append_of_mem hs).le⟩
      | delDump c =>
          have hne : s ≠ c.session := (hkeeps c rfl).symm
          exact ⟨(List.mem_erase_of_ne hne).mpr hs, idxOf_erase_le hne _⟩
      | addLockMap | addUnlockMap | addThrowMap | addLockVector | addUnlockVector | addThrowVector
      | delLockVector | delLockBuffer | delLockPool | delUnlockBuffer | delUnlockVector =>
          exact hsame (sameRegistries_setHolder _ _).vector
      | _ => exact hsame rfl
  | onRTPData | readable | ingest | capture =>
      exact hsame (step_others (fun h => by cases h) hstep).1.vector

/-- **The thread is at the element of the vector it counts.** -/
theorem element_of_reaches (h : Reaches step (construct memory) st) {k : ℕ}
    (hk : st.capture.element? = some (k, s)) : st.sessionVector[k]? = some s := by
  suffices key : st.Coherent ∧ ∀ k s, st.capture.element? = some (k, s) →
      st.sessionVector[k]? = some s from key.2 k s hk
  refine h.invariant (fun st => st.Coherent ∧ ∀ k s, st.capture.element? = some (k, s) →
    st.sessionVector[k]? = some s) ?_ ⟨coherent_construct memory, fun k s hk => by cases hk⟩
  rintro st a st' ⟨hcoherent, helement⟩ hstep
  refine ⟨step_coherent hcoherent hstep, ?_⟩
  by_cases ha : a.thread = .capture
  · cases a with
    | capture r =>
        obtain ⟨hstep, -⟩ := capture_ok hstep
        obtain ⟨es, -, hends⟩ := stepCapture_ok hstep
        generalize st.capture = pc at hends helement
        intro k s hk
        cases hends with
        | lockBuffer k s hs =>
            cases hk
            exact hs
        | lockVector | unlockVector | unlockBuffer | throws | throwBuffer | throwVector => cases hk
        | head | erase | enter | handle | lockPool | release =>
            cases hk
            exact helement _ _ rfl
    | _ => cases ha
  · have helsewhere := step_elsewhere hcoherent ha hstep
    intro k s hk
    rw [helsewhere.capture] at hk
    have hholds : .vector ∈ st.capture.holds := by
      cases hpc : st.capture <;> rw [hpc] at hk <;> simp [Capture.element?, Capture.holds] at hk ⊢
    rw [helsewhere.vector hholds]
    exact helement k s hk

/-- **Where the wait ends**: the thread has emptied the list of the session. -/
theorem drained_of_server (h : Reaches step (construct memory) st) (hs : s ∈ st.sessionVector)
    (hserver : st.server = .visiting (st.sessionVector.idxOf s) 0) :
    ∃ k, st.capture = .drain k s ∧ (st.sessions s).bufferList = [] := by
  unfold server at hserver
  have helement := fun k s' => @element_of_reaches memory st s' h k
  cases hpc : st.capture with
  | drain k s' =>
      rw [hpc] at hserver helement
      obtain ⟨hk, hlength⟩ := Server.visiting.inj hserver
      replace hlength : 6 * (st.sessions s').bufferList.length = 0 := hlength
      have hs' : st.sessionVector[st.sessionVector.idxOf s]? = some s' := hk ▸ helement k s' rfl
      rw [List.getElem?_idxOf hs] at hs'
      obtain rfl := Option.some.inj hs'
      exact ⟨k, rfl, List.length_eq_zero_iff.mp (by omega)⟩
  | _ =>
      rw [hpc] at hserver
      cases hserver

/-- The packets in the list of a session: their bytes and lengths. -/
def packets (st : Sdk) (s : SessionRef) : List (List Byte × ℤ) :=
  (st.sessions s).bufferList.map fun node =>
    ((st.memory node.buffer).read 0 node.len.toNat, node.len)

/-- **What was pushed was handed on or waits in the list**, unless it was thrown away. -/
theorem pushedTo_of_open {as : List Action} (hrun : (run (construct memory) as).outcome = .ok st)
    (hstage : st.capture.stage = .idle) (hopen : ∀ m, st.Follows m → s ∉ m.closed) :
    pushedTo s (run (construct memory) as).trace =
      handedTo s (run (construct memory) as).trace ++ st.packets s := by
  obtain ⟨m, hmail, hfollows⟩ := run_mail memory as
  have hst := hfollows st hrun
  have haccounted := (hmail.invariant (mailboxes_empty memory)).2.1.accounted s (hopen m hst)
  have hwaiting : m.waiting s = (st.sessions s).bufferList := by
    unfold Mailboxes.waiting
    rw [hst.stage, hstage, hst.box]
  have hmessage : m.message carrier = fun node : BufferNode =>
      ((st.memory node.buffer).read 0 node.len.toNat, node.len) := by
    funext node
    rw [← hst.memory]
    rfl
  rw [handedTo_eq, pushedTo_eq, haccounted, hwaiting, hmessage, packets]

/-- **Nothing waits when the list is empty**: what was pushed to it was handed on. -/
theorem handedTo_of_drained {as : List Action} (hrun : (run (construct memory) as).outcome = .ok st)
    {k : ℕ} (hpc : st.capture = .drain k s) (hempty : (st.sessions s).bufferList = []) :
    handedTo s (run (construct memory) as).trace =
      pushedTo s (run (construct memory) as).trace := by
  have hpushed := pushedTo_of_open hrun (by rw [hpc]; rfl) fun m hst =>
    hst.capture s (by rw [hpc]; rfl)
  rw [hpushed, packets, hempty, List.map_nil, List.append_nil]

/-- **How long a session waits at most**, in steps of `CaptureCenter::run`. -/
def wait (s : SessionRef) (st : Sdk) : ℕ :=
  st.server.wait (6 * 20000) st.sessionVector.length (st.sessionVector.idxOf s)

/-- The work left at a list is bounded by the pool: the packet in the hands of the thread comes out of
it, too. -/
theorem work_le_of_reaches (h : Reaches step (construct memory) st) :
    st.server.work ≤ 6 * 20000 := by
  have hlength := length_le_of_reaches h .capture
  have hhand : st.hand .capture = st.capture.hand := rfl
  rw [hhand] at hlength
  unfold server
  cases hpc : st.capture with
  | idle | session | throwBuffer | throwVector | ended => simp [Capture.server, Server.work]
  | drain k s | erase k s | enter k s | handle k s | lockPool k s | release k s =>
      rw [hpc] at hlength
      have hs := hlength s
      simp only [Capture.hand, Option.toList, List.length_nil, List.length_singleton] at hs
      simp only [Capture.server, Server.work]
      omega

/-- **Every step of `CaptureCenter::run` shortens the wait, and no other step lengthens it.** -/
theorem step_wait (h : Reaches step (construct memory) st) (hs : s ∈ st.sessionVector)
    (hwaiting : st.server ≠ .visiting (st.sessionVector.idxOf s) 0) {a : Action}
    (hkeeps : KeepsListed s st a) (hstep : (st.step a).outcome = .ok st') :
    wait s st' + (if a.thread = .capture then 1 else 0) ≤ wait s st := by
  have hcoherent := coherent_of_reaches h
  by_cases ha : a.thread = .capture
  · rw [if_pos ha]
    cases a with
    | capture r =>
        obtain ⟨hstep, -⟩ := capture_ok hstep
        obtain ⟨as, has⟩ := id h
        obtain ⟨m, -, hfollows⟩ := run_mail memory as
        have hserver := stepCapture_server
          (fun s => (Nat.le_add_right _ _).trans (length_le_of_reaches h .capture s))
          (hfollows st has).captureFront hstep
        unfold wait
        rw [stepCapture_vector hstep]
        exact hserver.wait_lt (List.idxOf_lt_length_of_mem hs) hwaiting
    | _ => cases ha
  · rw [if_neg ha, Nat.add_zero]
    have helsewhere := step_elsewhere hcoherent ha hstep
    unfold wait
    rw [helsewhere.server_eq]
    by_cases hround : .vector ∈ st.capture.holds
    · rw [helsewhere.vector hround]
    · -- between two rounds the vector may change, and when the thread has ended
      have hidle : st.server = .outside ∨ st.server = .stopping 0 := by
        unfold server
        cases hpc : st.capture <;> rw [hpc] at hround <;> simp [Capture.holds] at hround
        · exact .inl rfl
        · exact .inr rfl
      rcases hidle with hidle | hended
      · rw [hidle]
        exact Server.wait_outside_le (step_idxOf hs hkeeps hstep).2
      · rw [hended]
        exact le_rfl

/-- **The list of the session is emptied** at some moment of a run in which `CaptureCenter::run` takes
so many steps. -/
theorem exists_drained (memory : Block → Memory) {as₀ as : List Action}
    (hrun₀ : (run (construct memory) as₀).outcome = .ok st) (hs : s ∈ st.sessionVector)
    (hrun : (run st as).outcome = .ok st') (hkeeps : StepsMeet step (KeepsListed s) st as)
    (hturns : (st.sessionVector.length + st.sessionVector.idxOf s + 2) * (6 * 20000 + 2) <
      as.countP fun a => a.thread = .capture) :
    ∃ past k st₁, past <+: as ∧ (run (construct memory) (as₀ ++ past)).outcome = .ok st₁ ∧
      s ∈ st₁.sessionVector ∧ st₁.capture = .drain k s ∧ (st₁.sessions s).bufferList = [] := by
  have hreach : Reaches step (construct memory) st := ⟨as₀, hrun₀⟩
  have hbound : wait s st < as.countP fun a => a.thread = .capture :=
    Nat.lt_of_le_of_lt (Server.wait_le (List.idxOf_lt_length_of_mem hs) (work_le_of_reaches hreach))
      hturns
  have hshorter : ∀ st a st', Reaches step (construct memory) st ∧ s ∈ st.sessionVector →
      KeepsListed s st a → st.server ≠ .visiting (st.sessionVector.idxOf s) 0 →
      (st.step a).outcome = .ok st' →
      (Reaches step (construct memory) st' ∧ s ∈ st'.sessionVector) ∧
        wait s st' + (if decide (a.thread = .capture) then 1 else 0) ≤ wait s st := by
    rintro st a st' ⟨hreach, hs⟩ hkeeps hwaiting hstep
    refine ⟨⟨hreach.step hstep, (step_idxOf hs hkeeps hstep).1⟩, ?_⟩
    simpa using step_wait hreach hs hwaiting hkeeps hstep
  obtain ⟨past, st₁, hpast, hst₁, ⟨-, hs₁⟩, hgoal⟩ :=
    hkeeps.exists_goal _ _ _ _ hshorter ⟨hreach, hs⟩ hrun hbound
  have hreached : (run (construct memory) (as₀ ++ past)).outcome = .ok st₁ := by
    rw [run, run_append_of_ok hrun₀]
    exact hst₁
  obtain ⟨k, hpc, hempty⟩ := drained_of_server ⟨_, hreached⟩ hs₁ hgoal
  exact ⟨past, k, st₁, hpast, hreached, hs₁, hpc, hempty⟩

/-- The trace of the first actions. -/
theorem run_trace_isPrefix (st : Sdk) {as as' : List Action} (h : as <+: as') :
    (run st as).trace <+: (run st as').trace := by
  obtain ⟨rest, rfl⟩ := h
  cases hout : (run st as).outcome with
  | ok st' =>
      rw [run, run, run_append_of_ok hout]
      exact List.prefix_append _ _
  | error f => rw [run, run, run_append_of_error hout]

/-- **No session starves.** In every run, whatever the other threads do and in whatever order, and
while sessions are added and others removed: the packets that have been pushed to the list of a
session are handed to its `rtpHandler` before `CaptureCenter::run` has taken so many steps, as long as
the session is not removed. The number depends on the sessions in the vector and on the place of this
one among them; the thread takes no more steps when an exception has ended it. -/
theorem run_drains (memory : Block → Memory) {as₀ as : List Action}
    (hrun₀ : (run (construct memory) as₀).outcome = .ok st) (hs : s ∈ st.sessionVector)
    (hrun : (run st as).outcome = .ok st') (hkeeps : StepsMeet step (KeepsListed s) st as)
    (hturns : (st.sessionVector.length + st.sessionVector.idxOf s + 2) * (6 * 20000 + 2) <
      as.countP fun a => a.thread = .capture) :
    pushedTo s (run (construct memory) as₀).trace <+:
      handedTo s (run (construct memory) (as₀ ++ as)).trace := by
  obtain ⟨past, k, st₁, hpast, hst₁, -, hpc, hempty⟩ :=
    exists_drained memory hrun₀ hs hrun hkeeps hturns
  have hbefore := run_trace_isPrefix (construct memory) (List.prefix_append as₀ past)
  have hbehind := run_trace_isPrefix (construct memory) ((List.prefix_append_right_inj as₀).mpr hpast)
  calc pushedTo s (run (construct memory) as₀).trace
      <+: pushedTo s (run (construct memory) (as₀ ++ past)).trace := hbefore.filterMap _
    _ = handedTo s (run (construct memory) (as₀ ++ past)).trace :=
        (handedTo_of_drained hst₁ hpc hempty).symm
    _ <+: handedTo s (run (construct memory) (as₀ ++ as)).trace := hbehind.filterMap _

/-! ### One session, and a thread that goes round -/

/-- **Nothing to do**: the one session has no packets. -/
structure Resting (st : Sdk) : Prop where
  capture : st.capture = .idle
  vector : st.sessionVector = [0]
  empty : (st.sessions 0).bufferList = []
  alive : (st.sessions 0).deleted = false
  vectorMutex : st.vectorMutex = none
  bufferMutex : (st.sessions 0).bufferMutex = none

instance (st : Sdk) : Decidable st.Resting :=
  decidable_of_iff (st.capture = .idle ∧ st.sessionVector = [0] ∧ (st.sessions 0).bufferList = [] ∧
      (st.sessions 0).deleted = false ∧ st.vectorMutex = none ∧ (st.sessions 0).bufferMutex = none)
    ⟨fun ⟨h₁, h₂, h₃, h₄, h₅, h₆⟩ => ⟨h₁, h₂, h₃, h₄, h₅, h₆⟩,
      fun h => ⟨h.1, h.2, h.3, h.4, h.5, h.6⟩⟩

/-- A step of the thread that waits for no mutex and accesses an object that exists. -/
theorem step_capture_of_free {r : FileResults} (hblocked : st.blocked .capture = false)
    (hdangling : st.dangling .capture = false) : st.step (.capture r) = st.stepCapture r := by
  simp [step, guarded, hblocked, hdangling]

/-- A round over the one session takes four steps. -/
theorem Resting.round (h : st.Resting) (r : FileResults) :
    ∃ st', Traced.run step st (List.replicate 4 (.capture r)) = pure st' ∧ st'.Resting := by
  obtain ⟨hcapture, hvector, hempty, halive, hvectorMutex, hbufferMutex⟩ := h
  let st₁ : Sdk := { st.setHolder (some .capture) .vector with capture := .session 0 }
  let st₂ : Sdk := { st₁.setHolder (some .capture) (.buffer 0) with capture := .drain 0 0 }
  let st₃ : Sdk := { st₂.setHolder none (.buffer 0) with capture := .session 1 }
  let st₄ : Sdk := { st₃.setHolder none .vector with capture := .idle }
  have hfirst : st.step (.capture r) = pure st₁ := by
    rw [step_capture_of_free, stepCapture, hcapture]
    · simp [blocked, wants, Capture.wants, hcapture, holder, hvectorMutex]
    · simp [dangling, touches, Capture.touches, hcapture]
  have hsecond : st₁.step (.capture r) = pure st₂ := by
    rw [step_capture_of_free]
    · simp [stepCapture, st₁, st₂, setHolder, hvector]
    · simp [blocked, wants, Capture.wants, st₁, setHolder, holder, hvector, hbufferMutex]
    · simp [dangling, touches, Capture.touches, st₁, setHolder, hvector, halive]
  have hthird : st₂.step (.capture r) = pure st₃ := by
    rw [step_capture_of_free]
    · simp [stepCapture, st₁, st₂, st₃, setHolder, setSession, hempty]
    · rfl
    · simp [dangling, touches, Capture.touches, st₁, st₂, setHolder, setSession, halive]
  have hfourth : st₃.step (.capture r) = pure st₄ := by
    rw [step_capture_of_free]
    · simp [stepCapture, st₁, st₂, st₃, st₄, setHolder, setSession, hvector]
    · simp [blocked, wants, Capture.wants, st₁, st₂, st₃, setHolder, setSession, hvector]
    · simp [dangling, touches, Capture.touches, st₁, st₂, st₃, setHolder, setSession, hvector]
  refine ⟨st₄, ?_, rfl, hvector, ?_, ?_, rfl, ?_⟩
  · simp [List.replicate, Traced.run, hfirst, hsecond, hthird, hfourth]
  · simp [st₁, st₂, st₃, st₄, setHolder, setSession, hempty]
  · simp [st₁, st₂, st₃, st₄, setHolder, setSession, halive]
  · simp [st₁, st₂, st₃, st₄, setHolder, setSession]

/-- Any number of rounds, in which nothing happens. -/
theorem Resting.rounds (h : st.Resting) (r : FileResults) (n : ℕ) :
    ∃ st', Traced.run step st (List.replicate (4 * n) (.capture r)) = pure st' := by
  induction n generalizing st with
  | zero => exact ⟨st, rfl⟩
  | succ n ih =>
      obtain ⟨st₁, hround, hrest⟩ := h.round r
      obtain ⟨st', hst'⟩ := ih hrest
      refine ⟨st', ?_⟩
      have houtcome : (Traced.run step st (List.replicate 4 (.capture r))).outcome = .ok st₁ := by
        rw [hround]
        rfl
      rw [Nat.mul_succ, Nat.add_comm, List.replicate_add, run_append_of_ok houtcome, hround, hst']
      rfl

/-- The thread that goes round removes nothing. -/
theorem stepsMeet_capture (s : SessionRef) (st : Sdk) (r : FileResults) (n : ℕ) :
    StepsMeet step (KeepsListed s) st (List.replicate n (.capture r)) := by
  induction n generalizing st with
  | zero => trivial
  | succ n ih => exact ⟨trivial, fun st' _ => ih st'⟩

/-- The thread hands the one packet on, and goes round. -/
theorem run_drains_sampleReception :
    pushedTo 0 (run (construct fun _ _ => 0) (sampleAdd ++ sampleReception)).trace =
        [([1, 2, 3], 3)] ∧
      pushedTo 0 (run (construct fun _ _ => 0) (sampleAdd ++ sampleReception)).trace <+:
        handedTo 0 (run (construct fun _ _ => 0) (sampleAdd ++ sampleReception ++
          List.replicate (10 + 4 * 90000) (.capture .allGood))).trace := by
  refine ⟨rfl, ?_⟩
  have hdone : ∃ st st₁, (run (construct fun _ _ => 0) (sampleAdd ++ sampleReception)).outcome =
      .ok st ∧ (Traced.run step st (List.replicate 10 (.capture .allGood))).outcome = .ok st₁ ∧
      st.sessionVector = [0] ∧ st₁.Resting :=
    ⟨_, _, rfl, rfl, rfl, rfl, rfl, rfl, rfl, rfl, rfl⟩
  obtain ⟨st, st₁, hst, hst₁, hvector, hresting⟩ := hdone
  obtain ⟨st', hst'⟩ := hresting.rounds .allGood 90000
  have hrun : (run st (List.replicate (10 + 4 * 90000) (.capture .allGood))).outcome = .ok st' := by
    rw [run, List.replicate_add, run_append_of_ok hst₁, hst']
    rfl
  refine run_drains _ hst (by simp [hvector]) hrun (stepsMeet_capture ..) ?_
  have hcapture : decide ((Action.capture .allGood).thread = Thread.capture) = true := rfl
  rw [hvector, List.countP_replicate, if_pos hcapture]
  decide

end Sdk

end RtpCapture
