import RtpCapture.Recorder.LengthErrors
import RtpCapture.Sessions.Calls
import RtpCapture.Sessions.Deadlock
import RtpCapture.Sessions.Delivery
import RtpCapture.Sessions.Registry

/-! # Where the blocks are

Every block of the pool is free, named by a node of one `bufferList`, or in the hands of one thread.
Three things lose blocks: a receive handler whose `receiveBytes` throws forgets the block it has in
its hands, so does `CaptureCenter::run` when an exception leaves `rtpHandler`, and `delete` of a
session forgets the packets that came in after its list was emptied.

* **`Sdk.blocksAt`** — the blocks of a place.
* **`Sdk.BlockStep`** — what a step can do to them: nothing, or one block moves.
* **`Sdk.run_accounted`** — as long as none of the three happens, no block is ever lost, at two
  places or released twice, and between the calls the allocated blocks are the free ones and those in
  the lists.
* **`Sdk.run_loses_blocks`** — each of the three loses a block. -/

deriving instance DecidableEq for Place

namespace RtpCapture

open Traced

/-- The session that is deleted next. -/
def Control.freeing : Control → Option SessionRef
  | .delFree c => some c.session
  | _ => none

namespace Sdk

/-- **The blocks of a place**; those never allocated are not listed, and no place is for lost ones. -/
def blocksAt (st : Sdk) : Place Thread SessionRef → List Block
  | .fresh => []
  | .free => st.pool.blocks
  | .hand th => (st.hand th).toList
  | .box s => (st.sessions s).bufferList.map BufferNode.buffer
  | .lost => []

/-- **Nothing is dropped**: `receiveBytes` does not throw, `rtpHandler` is called on no packet that
makes it throw, and a session is deleted when its list is empty. -/
def KeepsBlocks (st : Sdk) : Action → Prop
  | .ingest x fails => ∀ d b, x = .reactor → st.ingest x = .fill d b → fails = false
  | .capture r => ∀ k s node dump, st.capture = .handle k s node →
      (st.sessions s).rtpDump = some dump →
      ¬ dump.ThrowsLength ⟨⟨st.memory node.buffer, node.len⟩, r⟩
  | .control _ _ => ∀ s, st.control.freeing = some s → (st.sessions s).bufferList = []
  | _ => True

/-! ## What a step does to the blocks -/

section Blocks

variable (st : Sdk)

/-- A thread that moves has in its hands what its new position says. -/
theorem hand_goTo (p : Position) :
    (st.goTo p).hand = Function.update st.hand p.thread p.hand := by
  funext th
  unfold hand
  rw [position_goTo]
  by_cases hth : th = p.thread
  · subst hth
    rw [Function.update_self, Function.update_self]
  · rw [Function.update_of_ne hth, Function.update_of_ne hth]

/-- Only the place of its hands changes. -/
theorem blocksAt_goTo (p : Position) :
    (st.goTo p).blocksAt = Function.update st.blocksAt (.hand p.thread) p.hand.toList := by
  rw [Function.eq_update_iff]
  constructor
  · show ((st.goTo p).hand p.thread).toList = _
    rw [hand_goTo, Function.update_self]
  · intro place hne
    cases place with
    | hand th =>
        show ((st.goTo p).hand th).toList = _
        rw [hand_goTo, Function.update_of_ne fun h => hne (congrArg Place.hand h)]
        rfl
    | _ => cases p <;> rfl

/-- A session that is written changes the place of its list. -/
theorem blocksAt_setSession (s : SessionRef) (session : RTPSession) :
    (st.setSession s session).blocksAt =
      Function.update st.blocksAt (.box s) (session.bufferList.map BufferNode.buffer) := by
  rw [Function.eq_update_iff]
  constructor
  · simp [blocksAt, setSession]
  · intro place hne
    cases place with
    | box s' =>
        have hs : s' ≠ s := fun h => hne (congrArg Place.box h)
        simp [blocksAt, setSession, hs]
    | _ => rfl

/-- A lock moves no block. -/
theorem blocksAt_setHolder (t : Option Thread) (m : Mutex) :
    (st.setHolder t m).blocksAt = st.blocksAt := by
  cases m with
  | map | vector | pool => rfl
  | buffer s => exact (st.blocksAt_setSession s _).trans (Function.update_eq_self ..)

/-- A change of the pool changes the free list. -/
theorem blocksAt_setPool (pool : MemoryPool) :
    ({ st with pool := pool } : Sdk).blocksAt =
      Function.update st.blocksAt .free pool.blocks := by
  rw [Function.eq_update_iff]
  constructor
  · rfl
  · intro place hne
    cases place with
    | free => exact absurd rfl hne
    | _ => rfl

end Blocks

/-- **What a step can do to the blocks** when nothing is dropped: it leaves them where they are, or
one block moves. Nothing moves to a session that was deleted. -/
inductive BlockStep (st st' : Sdk) : Prop
  | same (hblocks : st'.blocksAt = st.blocksAt) (hpool : st'.pool = st.pool)
      (hended : ∀ s, (st'.sessions s).deleted = true →
        (st.sessions s).deleted = true ∨ (st.sessions s).bufferList = [])
  | get (th : Thread) {b : Block} {pool : MemoryPool} (hget : st.pool.get = some (b, pool))
      (hhand : st.blocksAt (.hand th) = [])
      (hblocks : st'.blocksAt =
        Function.update (Function.update st.blocksAt .free pool.blocks) (.hand th) [b])
      (hpool : st'.pool = pool)
      (hended : ∀ s, (st'.sessions s).deleted = (st.sessions s).deleted)
  | move {p q : Place Thread SessionRef} {b : Block} {l m : List Block} (hp : p ≠ .fresh)
      (hq : q ≠ .fresh) (hne : p ≠ q) (hl : st.blocksAt p = b :: l)
      (hm : m.Perm (b :: st.blocksAt q))
      (hblocks : st'.blocksAt = Function.update (Function.update st.blocksAt p l) q m)
      (hpool : st'.pool.allocated = st.pool.allocated)
      (hended : ∀ s, (st'.sessions s).deleted = (st.sessions s).deleted)
      (halive : ∀ s, q = .box s → (st.sessions s).deleted = false)

variable {st st' : Sdk}

/-- A thread goes on, with what it has in its hands. -/
theorem BlockStep.goTo {st₁ : Sdk} {p : Position} (hblocks : st₁.blocksAt = st.blocksAt)
    (hpool : st₁.pool = st.pool)
    (hdeleted : ∀ s, (st₁.sessions s).deleted = true →
      (st.sessions s).deleted = true ∨ (st.sessions s).bufferList = [])
    (hhand : p.hand = st.hand p.thread) : BlockStep st (st₁.goTo p) := by
  refine .same ?_ ?_ ?_
  · rw [blocksAt_goTo, hblocks, hhand]
    exact Function.update_eq_self (.hand p.thread) st.blocksAt
  · cases p <;> exact hpool
  · cases p <;> exact hdeleted

/-- Writing a session does not delete it. -/
theorem deleted_setSession (s : SessionRef) (session : RTPSession)
    (h : session.deleted = (st.sessions s).deleted) (s' : SessionRef) :
    ((st.setSession s session).sessions s').deleted = (st.sessions s').deleted := by
  by_cases hs : s' = s
  · simp [setSession, hs, h]
  · simp [setSession, hs]

/-- A lock deletes no session. -/
theorem deleted_setHolder (t : Option Thread) (m : Mutex) (s : SessionRef) :
    ((st.setHolder t m).sessions s).deleted = (st.sessions s).deleted :=
  (sameRegistries_setHolder t m).deleted s

/-- A thread locks or unlocks a mutex. -/
theorem BlockStep.setHolder (t : Option Thread) (m : Mutex) {p : Position}
    (hhand : p.hand = st.hand p.thread) : BlockStep st ((st.setHolder t m).goTo p) := by
  refine .goTo (blocksAt_setHolder ..) ?_ (fun s hs => .inl ?_) hhand
  · cases m <;> rfl
  · rwa [deleted_setHolder] at hs

/-- No thread takes anything into its hands or out of them. -/
theorem hand_congr (hingest : st'.ingest = st.ingest) (hcapture : st'.capture.hand = st.capture.hand)
    (hcontrol : st'.control.hand = st.control.hand) : st'.hand = st.hand := by
  funext th
  cases th with
  | source x => exact congrArg (fun ingest => (ingest x).hand) hingest
  | capture => exact hcapture
  | control => exact hcontrol

/-- What is neither the pool nor a list nor a deletion may change. -/
theorem BlockStep.quiet (hpool : st'.pool = st.pool) (hhand : st'.hand = st.hand)
    (hlist : ∀ s, (st'.sessions s).bufferList = (st.sessions s).bufferList)
    (hdeleted : ∀ s, (st'.sessions s).deleted = (st.sessions s).deleted) : BlockStep st st' := by
  refine .same ?_ hpool fun s hs => .inl ((hdeleted s).symm.trans hs)
  funext place
  cases place with
  | fresh => rfl
  | lost => rfl
  | free => exact congrArg MemoryPool.blocks hpool
  | hand th => exact congrArg (fun hand => (hand th).toList) hhand
  | box s => exact congrArg (List.map BufferNode.buffer) (hlist s)

/-- A session changes in another field than its list. -/
theorem BlockStep.session (s : SessionRef) (session : RTPSession)
    (hsessions : st'.sessions = (st.setSession s session).sessions)
    (hlist : session.bufferList = (st.sessions s).bufferList)
    (hdeleted : session.deleted = (st.sessions s).deleted) (hpool : st'.pool = st.pool)
    (hhand : st'.hand = st.hand) : BlockStep st st' := by
  refine .quiet hpool hhand (fun s' => ?_) fun s' => ?_
  · rw [hsessions]
    by_cases hs : s' = s
    · simp [setSession, hs, hlist]
    · simp [setSession, hs]
  · rw [hsessions]
    exact deleted_setSession s session hdeleted s'

/-- What a thread is about to access was not deleted. -/
theorem alive_of_touches {th : Thread} {s : SessionRef} (h : st.dangling th = false)
    (hs : st.touches th = some s) : (st.sessions s).deleted = false := by
  rw [dangling, hs] at h
  exact h

/-- The steps of `onRTPData` and of the receive handlers. -/
theorem stepIngest_blocks {x : Source} {fails : Bool}
    (hkeeps : st.KeepsBlocks (.ingest x fails)) (hdangling : st.dangling (.source x) = false)
    (hstep : (st.stepIngest x fails).outcome = .ok st') : BlockStep st st' := by
  have hhand : st.hand (.source x) = (st.ingest x).hand := rfl
  have hnext : ∀ {pc : Ingest} (t k), pc.hand = st.hand (.source x) →
      BlockStep st ((st.setHolder t k).setIngest x pc) :=
    fun {pc} t k h => .setHolder (p := .ingest x pc) t k h
  have hleave : ∀ k, st.hand (.source x) = none →
      BlockStep st ((st.setHolder none k).setIngest x (afterScope x)) := by
    intro k h
    cases x <;> exact hnext none k h.symm
  have hstay : ∀ {pc : Ingest}, pc.hand = st.hand (.source x) → BlockStep st (st.setIngest x pc) :=
    fun {pc} h => .goTo (p := .ingest x pc) rfl rfl (fun _ => .inl) h
  obtain ⟨es, -, hends⟩ := (stepIngest_endsIn st x fails).exists_ok hstep
  generalize hpc : st.ingest x = pc at hends hhand
  cases hends with
  | lockMap | lockPool | lockBuffer | unlockMap => exact hnext _ _ hhand.symm
  | notFound | overflow | found => exact hstay hhand.symm
  | outOfMemory d => exact hleave .pool hhand
  | get d b pool hget =>
      refine .get (.source x) hget (congrArg Option.toList hhand) ?_ rfl fun _ => rfl
      rw [← blocksAt_setPool]
      exact blocksAt_goTo { st with pool := pool } (.ingest x (.fill d b))
  | receiveFailed d b hfails hx =>
      rw [hkeeps d b hx hpc] at hfails
      cases hfails
  | fill d b =>
      exact .goTo (p := .ingest x (.lockBuffer d b)) rfl rfl (fun _ => .inl) hhand.symm
  | push d b =>
      have halive : (st.sessions d.session).deleted = false :=
        alive_of_touches hdangling (congrArg Ingest.touches hpc)
      -- the block goes from the hands of the thread to the end of the list
      refine .move (p := .hand (.source x)) (q := .box d.session) (b := b) nofun nofun nofun
        (congrArg Option.toList hhand) (List.perm_append_singleton _ _) ?_ rfl ?_ ?_
      · have hne : Place.hand (Thread.source x) ≠ .box d.session := nofun
        rw [Function.update_comm hne]
        refine (blocksAt_goTo _ (.ingest x (.unlockBuffer d))).trans ?_
        rw [blocksAt_setSession, List.map_append]
        rfl
      · exact deleted_setSession d.session _ rfl
      · rintro s ⟨⟩
        exact halive
  | unlockBuffer d => exact hleave _ hhand

/-- **The first node of a list is taken out** by a thread with empty hands. -/
theorem BlockStep.pop {p : Position} {s : SessionRef} {node : BufferNode} {rest : List BufferNode}
    (hlist : (st.sessions s).bufferList = node :: rest) (hempty : st.hand p.thread = none)
    (hhand : p.hand = some node.buffer) :
    BlockStep st ((st.setSession s { st.sessions s with
      bufferList := (st.sessions s).bufferList.tail }).goTo p) := by
  refine .move (p := .box s) (q := .hand p.thread) (b := node.buffer)
    (l := rest.map BufferNode.buffer) (m := [node.buffer]) nofun nofun nofun ?_ ?_ ?_ ?_ ?_ nofun
  · show (st.sessions s).bufferList.map BufferNode.buffer = _
    rw [hlist]
    rfl
  · show ([node.buffer] : List Block).Perm (node.buffer :: (st.hand p.thread).toList)
    rw [hempty]
    exact List.Perm.refl _
  · rw [blocksAt_goTo, blocksAt_setSession, hhand, hlist]
    rfl
  · cases p <;> rfl
  · cases p <;> exact deleted_setSession s _ rfl

/-- **A thread gives its block back** to the pool. -/
theorem BlockStep.release {p : Position} {b : Block} (hheld : st.hand p.thread = some b)
    (hhand : p.hand = none) :
    BlockStep st ({ st.setHolder none .pool with pool := st.pool.release b }.goTo p) := by
  have hne : Place.hand p.thread ≠ (Place.free : Place Thread SessionRef) := nofun
  refine .move (p := .hand p.thread) (q := .free) (b := b) (l := []) nofun nofun hne
    (congrArg Option.toList hheld) (List.Perm.refl (b :: st.pool.blocks)) ?_ ?_ ?_ nofun
  · rw [Function.update_comm hne, blocksAt_goTo, hhand]
    show Function.update ({ st with pool := st.pool.release b } : Sdk).blocksAt _ _ = _
    rw [blocksAt_setPool]
    rfl
  · cases p <;> rfl
  · cases p <;> exact fun _ => rfl

/-- The steps of `CaptureCenter::run`. -/
theorem stepCapture_blocks {r : FileResults} (hkeeps : st.KeepsBlocks (.capture r))
    (hfront : ∀ s node, st.capture.front = some (s, node) →
      ∃ rest, (st.sessions s).bufferList = node :: rest)
    (hstep : (st.stepCapture r).outcome = .ok st') : BlockStep st st' := by
  have hhand : st.hand .capture = st.capture.hand := rfl
  have hnext : ∀ {pc : Capture} (t k), pc.hand = st.hand .capture →
      BlockStep st { st.setHolder t k with capture := pc } :=
    fun {pc} t k h => .setHolder (p := .capture pc) t k h
  have hstay : ∀ {pc : Capture}, pc.hand = st.hand .capture →
      BlockStep st { st with capture := pc } :=
    fun {pc} h => .goTo (p := .capture pc) rfl rfl (fun _ => .inl) h
  obtain ⟨es, -, hends⟩ := stepCapture_ok hstep
  generalize hpc : st.capture = pc at hends hhand hfront
  cases hends with
  | lockVector | unlockVector | lockBuffer | unlockBuffer | lockPool | throwBuffer | throwVector =>
      exact hnext _ _ hhand.symm
  | head | enter => exact hstay hhand.symm
  | throws k s node dump hdump hthrows =>
      refine absurd ?_ (hkeeps k s node dump hpc hdump)
      exact step_lengthError hthrows
  | erase k s node =>
      obtain ⟨rest, hlist⟩ := hfront s node rfl
      exact .pop (p := .capture (.enter k s node)) hlist hhand rfl
  | handle k s node dump dump' =>
      exact .session s { st.sessions s with rtpDump := some dump' } rfl rfl rfl rfl
        (hand_congr rfl hhand.symm rfl)
  | release k s b => exact .release (p := .capture (.drain k s)) hhand rfl

/-- The steps of `addCaptureRtpSession` and `delCaptureRtpSession`. -/
theorem stepControl_blocks {fails : Bool} {u : Uninitialised}
    (hkeeps : st.KeepsBlocks (.control fails u))
    (hfront : ∀ s node, st.control.front = some (s, node) →
      ∃ rest, (st.sessions s).bufferList = node :: rest)
    (hstep : (st.stepControl fails u).outcome = .ok st') : BlockStep st st' := by
  have hhand : st.hand .control = st.control.hand := rfl
  have hnext : ∀ {pc : Control} (t k), pc.hand = st.hand .control →
      BlockStep st { st.setHolder t k with control := pc } :=
    fun {pc} t k h => .setHolder (p := .control pc) t k h
  have hstay : ∀ {st' : Sdk}, st'.sessions = st.sessions → st'.pool = st.pool →
      st'.hand = st.hand → BlockStep st st' :=
    fun hsessions hpool hhand => .quiet hpool hhand (fun s => by rw [hsessions])
      fun s => by rw [hsessions]
  obtain ⟨es, -, hends⟩ := (stepControl_endsIn st fails u).exists_ok hstep
  generalize hpc : st.control = pc at hends hhand hfront
  cases hends with
  | addLockMap | addUnlockMap | addThrowMap | addLockVector | addUnlockVector | addThrowVector
  | delLockVector | delLockBuffer | delLockPool | delUnlockBuffer | delUnlockVector =>
      exact hnext _ _ hhand.symm
  | addRegisterAudioThrows | addRegisterAudio | addRegisterVideoThrows | addPublish | addDumpThrows
  | addPush | addRemember | delFind | delNotFound | delDrained | delHead | delForget =>
      exact hstay rfl rfl (hand_congr rfl rfl hhand.symm)
  | addBindThrows s | addBind s | addNoPorts s | addRegisterVideo s | addDump s =>
      exact .session s _ rfl rfl rfl rfl (hand_congr rfl rfl hhand.symm)
  -- a block goes from the list into the hands, and from there to the pool
  | delErase c node =>
      obtain ⟨rest, hlist⟩ := hfront c.session node rfl
      exact .pop (p := .control (.delLockPool c node.buffer)) hlist hhand rfl
  | delRelease c b => exact .release (p := .control (.delDrain c)) hhand rfl
  | delDump c =>
      exact .session c.session { st.sessions c.session with rtpDump := none } rfl rfl rfl rfl
        (hand_congr rfl rfl hhand.symm)
  -- the condition says that the list of the deleted session is empty
  | delFree c =>
      have hempty := hkeeps c.session (congrArg Control.freeing hpc)
      refine .goTo (p := .control (.delForget c)) ?_ rfl (fun s hs => ?_) hhand.symm
      · rw [blocksAt_setSession]
        exact Function.update_eq_self (.box c.session) st.blocksAt
      · by_cases heq : s = c.session
        · exact .inr (heq ▸ hempty)
        · simp only [setSession, Function.update_of_ne heq] at hs
          exact .inl hs

/-- **One step of the system** that drops nothing. -/
theorem step_blocks (hcoherent : st.Coherent) {m : Mail} (hfollows : st.Follows m) {a : Action}
    (hkeeps : st.KeepsBlocks a) (hstep : (st.step a).outcome = .ok st') : BlockStep st st' := by
  cases a with
  | onRTPData t id data len =>
      obtain ⟨hidle, rfl⟩ := onRTPData_ok hstep
      exact .goTo (p := .ingest (.caller t) (.lockMap id _ len)) rfl rfl (fun _ => .inl)
        (congrArg Ingest.hand hidle).symm
  | readable s type available datagram =>
      obtain ⟨hidle, -, ⟨-, rfl⟩ | ⟨-, rfl⟩⟩ := readable_ok hstep
      · exact .quiet rfl rfl (fun _ => rfl) fun _ => rfl
      · exact .goTo (p := .ingest .reactor (.lockPool ⟨s, _, _⟩)) rfl rfl (fun _ => .inl)
          (congrArg Ingest.hand hidle).symm
  | ingest x fails =>
      obtain ⟨hstep, hdangling, -⟩ := ingest_ok hstep
      exact stepIngest_blocks hkeeps hdangling hstep
  | capture r =>
      obtain ⟨hstep, -, -⟩ := capture_ok hstep
      exact stepCapture_blocks hkeeps hfollows.captureFront hstep
  | add fileName videoPort audioPort videoFrequency =>
      obtain ⟨hidle, rfl⟩ := add_ok hstep
      -- the new object has an empty list, as the place of an object not yet constructed has
      have hfresh := hcoherent.known.fresh st.next (Nat.le_refl _)
      exact .session st.next _ rfl (by rw [hfresh]) (by rw [hfresh]) rfl
        (hand_congr rfl rfl (congrArg Control.hand hidle).symm)
  | del id =>
      obtain ⟨hidle, ⟨-, rfl⟩ | ⟨s, hs, rfl⟩⟩ := del_ok hstep
      · exact .quiet rfl rfl (fun _ => rfl) fun _ => rfl
      · exact .quiet rfl (hand_congr rfl rfl (congrArg Control.hand hidle).symm) (fun _ => rfl)
          fun _ => rfl
  | control fails u =>
      obtain ⟨hstep, -, -⟩ := control_ok hstep
      exact stepControl_blocks hkeeps hfollows.controlFront hstep

/-! ## Every run -/

/-- **Every block is in one place**: not yet allocated, free, named by one node of one list, or in
the hands of one thread. The list of a deleted session is empty. -/
structure Accounted (st : Sdk) : Prop where
  partition : ∃ owner : Block → Place Thread SessionRef,
    (∀ b, owner b = .fresh ↔ st.pool.allocated ≤ b) ∧ Distributed .fresh owner st.blocksAt
  ended : ∀ s, (st.sessions s).deleted = true → (st.sessions s).bufferList = []

/-- A fresh SDK has not allocated a block. -/
theorem accounted_construct (memory : Block → Memory) : (construct memory).Accounted where
  partition := by
    have hdistinct : (Place.fresh : Place Thread SessionRef) ≠ .free := nofun
    have htracks := MemoryPool.tracks_construct 1500 10 20000 hdistinct
    refine ⟨_, htracks.fresh_iff, fun p hp => ?_⟩
    cases p with
    | fresh => exact absurd rfl hp
    | free => exact htracks.free
    | hand th =>
        have hempty : (construct memory).blocksAt (.hand th) = [] := by cases th <;> rfl
        rw [hempty]
        refine ⟨List.nodup_nil, fun b => ?_⟩
        split <;> simp
    | box s =>
        refine ⟨List.nodup_nil, fun b => ?_⟩
        split <;> simp [blocksAt, construct, RTPSession.none]
    | lost =>
        refine ⟨List.nodup_nil, fun b => ?_⟩
        split <;> simp [blocksAt]
  ended := fun _ h => by cases h

/-- The list of a deleted session names no block. -/
theorem Accounted.blocksAt_ended (h : st.Accounted) {s : SessionRef}
    (hs : (st.sessions s).deleted = true) : st.blocksAt (.box s) = [] :=
  List.map_eq_nil_iff.mpr (h.ended s hs)

/-- A block leaves the pool, which may have to allocate it. -/
theorem Accounted.get (h : st.Accounted) {th : Thread} {b : Block} {pool : MemoryPool}
    (hget : st.pool.get = some (b, pool)) (hhand : st.blocksAt (.hand th) = [])
    (hblocks : st'.blocksAt =
      Function.update (Function.update st.blocksAt .free pool.blocks) (.hand th) [b])
    (hpool : st'.pool = pool) (hdeleted : ∀ s, (st'.sessions s).deleted = (st.sessions s).deleted) :
    st'.Accounted := by
  obtain ⟨owner, hfresh, hplaces⟩ := h.partition
  refine ⟨⟨Function.update owner b (.hand th), ?_, ?_⟩, fun s hs => ?_⟩
  · have htracks : st.pool.Tracks owner .fresh .free := ⟨hfresh, hplaces .free nofun⟩
    rw [hpool]
    exact (htracks.get (p := .hand th) hget nofun nofun nofun).2.fresh_iff
  · have hperm : ([b] : List Block).Perm (b :: st.blocksAt (.hand th)) := by
      rw [hhand]
    rw [hblocks]
    rcases MemoryPool.get_cases hget with ⟨hback, -⟩ | ⟨hback, rfl, hgrown⟩
    · exact hplaces.move (p := .free) nofun nofun nofun hback hperm
    · -- a new block is allocated, and nothing was free
      have hsame : Function.update st.blocksAt .free pool.blocks = st.blocksAt := by
        rw [hgrown]
        exact Function.update_eq_self .free st.blocksAt
      rw [hsame]
      exact hplaces.arrive ((hfresh _).mpr (Nat.le_refl _)) nofun hperm
  · rw [← List.map_eq_nil_iff (f := BufferNode.buffer)]
    show st'.blocksAt (.box s) = []
    rw [hblocks]
    exact h.blocksAt_ended (hdeleted s ▸ hs)

/-- A block that was allocated moves, and to no deleted session. -/
theorem Accounted.move (h : st.Accounted) {p q : Place Thread SessionRef} {b : Block}
    {l m : List Block} (hp : p ≠ .fresh) (hq : q ≠ .fresh) (hne : p ≠ q)
    (hl : st.blocksAt p = b :: l) (hm : m.Perm (b :: st.blocksAt q))
    (hblocks : st'.blocksAt = Function.update (Function.update st.blocksAt p l) q m)
    (hpool : st'.pool.allocated = st.pool.allocated)
    (hdeleted : ∀ s, (st'.sessions s).deleted = (st.sessions s).deleted)
    (halive : ∀ s, q = .box s → (st.sessions s).deleted = false) : st'.Accounted := by
  obtain ⟨owner, hfresh, hplaces⟩ := h.partition
  have howner : owner b = p := (hplaces p hp).owner_eq (by simp [hl])
  refine ⟨⟨Function.update owner b q, fun b' => ?_, ?_⟩, fun s hs => ?_⟩
  · rw [hpool, ← hfresh b']
    by_cases hb : b' = b
    · subst hb
      rw [Function.update_self, howner]
      exact ⟨fun h => absurd h hq, fun h => absurd h hp⟩
    · rw [Function.update_of_ne hb]
  · rw [hblocks]
    exact hplaces.move hp hq hne hl hm
  · rw [hdeleted] at hs
    have hnil := h.blocksAt_ended hs
    have hqs : Place.box s ≠ q := by
      rintro rfl
      rw [halive s rfl] at hs
      cases hs
    rw [← List.map_eq_nil_iff (f := BufferNode.buffer)]
    show st'.blocksAt (.box s) = []
    rw [hblocks, Function.update_of_ne hqs]
    by_cases hps : Place.box s = p
    · subst hps
      rw [hnil] at hl
      cases hl
    · rw [Function.update_of_ne hps]
      exact hnil

/-- **Every move of a block keeps the account.** -/
theorem Accounted.step (h : st.Accounted) (hmove : BlockStep st st') : st'.Accounted := by
  cases hmove with
  | same hblocks hpool hdeleted =>
      obtain ⟨owner, hfresh, hplaces⟩ := h.partition
      refine ⟨⟨owner, by rwa [hpool], by rwa [hblocks]⟩, fun s hs => ?_⟩
      rw [← List.map_eq_nil_iff (f := BufferNode.buffer)]
      show st'.blocksAt (.box s) = []
      rw [hblocks]
      rcases hdeleted s hs with hs | hs
      · exact h.blocksAt_ended hs
      · exact List.map_eq_nil_iff.mpr hs
  | get th hget hhand hblocks hpool hdeleted => exact h.get hget hhand hblocks hpool hdeleted
  | move hp hq hne hl hm hblocks hpool hdeleted halive =>
      exact h.move hp hq hne hl hm hblocks hpool hdeleted halive

/-- The session objects that exist. -/
def liveSessions (st : Sdk) : List SessionRef :=
  (List.range st.next).filter fun s => !(st.sessions s).deleted

/-- **The balance**: when no thread has a block in its hands, the allocated blocks are the free ones
and those in the lists. -/
theorem Accounted.balance (h : st.Accounted) (hknown : st.Known) (hempty : ∀ th, st.hand th = none) :
    st.pool.allocated = st.pool.blocks.length +
      (st.liveSessions.map fun s => (st.sessions s).bufferList.length).sum := by
  obtain ⟨⟨owner, hfresh, hplaces⟩, hended⟩ := h
  have hvoid : (Place.fresh : Place Thread SessionRef) ∉
      Place.free :: st.liveSessions.map Place.box := by simp
  have hnodup : (Place.free :: st.liveSessions.map Place.box :
      List (Place Thread SessionRef)).Nodup := by
    refine List.nodup_cons.mpr ⟨by simp, List.Nodup.map (fun _ _ h => Place.box.inj h) ?_⟩
    exact List.nodup_range.filter _
  have hothers : ∀ p, p ≠ .fresh → p ∉ Place.free :: st.liveSessions.map Place.box →
      st.blocksAt p = [] := by
    intro p hp hnot
    cases p with
    | fresh => exact absurd rfl hp
    | free => exact absurd List.mem_cons_self hnot
    | hand th => exact congrArg Option.toList (hempty th)
    | lost => rfl
    | box s =>
        refine List.map_eq_nil_iff.mpr ?_
        by_cases hs : s < st.next
        · refine hended s (Bool.not_eq_false _ ▸ fun halive => hnot ?_)
          exact List.mem_cons_of_mem _ (List.mem_map_of_mem (List.mem_filter.mpr
            ⟨List.mem_range.mpr hs, by simp [halive]⟩))
        · rw [hknown.fresh s (Nat.not_lt.mp hs)]
          rfl
  -- the places listed hold exactly the allocated blocks
  have hperm : (List.range st.pool.allocated).Perm
      ((Place.free :: st.liveSessions.map Place.box).flatMap st.blocksAt) := by
    refine (List.perm_ext_iff_of_nodup List.nodup_range (hplaces.nodup_flatMap hnodup hvoid)).mpr
      fun b => ?_
    rw [hplaces.mem_flatMap_iff hvoid hothers, ne_eq, hfresh, List.mem_range, Nat.not_le]
  have hlength := hperm.length_eq
  rw [List.length_range, List.flatMap_cons, List.length_append, List.length_flatMap,
    List.map_map] at hlength
  rw [hlength]
  congr 2
  refine List.map_congr_left fun s _ => ?_
  exact List.length_map ..

/-- **No block is ever lost.** In every run in which no `receiveBytes` throws, `rtpHandler` is called
on no packet that makes it throw and every session is deleted when its list is empty, each block is
at one place; a block that a thread is about to release is not free already; and when no thread has a
block in its hands, the allocated blocks are the free ones and those in the lists of the sessions. -/
theorem run_accounted (memory : Block → Memory) {as : List Action}
    (hkeeps : StepsMeet step KeepsBlocks (construct memory) as)
    (hrun : (run (construct memory) as).outcome = .ok st) :
    (∃ owner : Block → Place Thread SessionRef, (∀ b, owner b = .fresh ↔ st.pool.allocated ≤ b) ∧
        Distributed .fresh owner st.blocksAt) ∧
      (∀ th b, st.hand th = some b → b ∉ st.pool.blocks) ∧
      ((∀ th, st.hand th = none) → st.pool.allocated = st.pool.blocks.length +
        (st.liveSessions.map fun s => (st.sessions s).bufferList.length).sum) := by
  have hinvariant : Reaches step (construct memory) st ∧ st.Accounted := by
    refine hkeeps.invariant (fun st => Reaches step (construct memory) st ∧ st.Accounted) ?_
      ⟨.refl _ _, accounted_construct memory⟩ hrun
    rintro st a st' ⟨hreaches, haccounted⟩ hcond hstep
    obtain ⟨as', has'⟩ := id hreaches
    obtain ⟨m, -, hfollows⟩ := run_mail memory as'
    exact ⟨hreaches.step hstep, haccounted.step
      (step_blocks (coherent_of_reaches hreaches) (hfollows st has') hcond hstep)⟩
  obtain ⟨hreaches, haccounted⟩ := hinvariant
  refine ⟨haccounted.partition, fun th b hb hfree => ?_, haccounted.balance
    (coherent_of_reaches hreaches).known⟩
  obtain ⟨owner, -, hplaces⟩ := haccounted.partition
  have hhand : b ∈ st.blocksAt (.hand th) := by
    show b ∈ (st.hand th).toList
    simp [hb]
  have hsame : Place.hand th = Place.free := hplaces.eq_of_mem nofun nofun hhand hfree
  cases hsame

/-- `CaptureCenter::run` is not about to call `rtpHandler`. -/
theorem keepsBlocks_capture (h : st.capture.handling = none) (r : FileResults) :
    st.KeepsBlocks (.capture r) := by
  intro k s node dump hpc
  rw [hpc] at h
  cases h

/-- A datagram of three bytes arrives. -/
def sampleReception : List Action :=
  .readable 0 .video true [1, 2, 3] :: List.replicate 6 (.ingest .reactor false)

/-- `CaptureCenter::run` takes the first packet out of the list of the first session. -/
def sampleCapture : List Action := List.replicate 8 (.capture .allGood)

/-- A session is added and gets two packets, one of which is recorded: of the ten blocks one is in
its list. -/
theorem run_accounted_sampleReception :
    ∃ st, (run (construct fun _ _ => 0)
        (sampleAdd ++ (sampleReception ++ (sampleReception ++ sampleCapture)))).outcome = .ok st ∧
      st.pool.allocated = st.pool.blocks.length +
        (st.liveSessions.map fun s => (st.sessions s).bufferList.length).sum ∧
      (st.liveSessions.map fun s => (st.sessions s).bufferList.length) = [1] := by
  have hkeeps : StepsMeet step KeepsBlocks (construct fun _ _ => 0)
      (sampleAdd ++ (sampleReception ++ (sampleReception ++ sampleCapture))) := by
    refine ⟨trivial, fun st hst => ?_⟩
    obtain rfl := Except.ok.inj hst
    -- the control thread adds the session and deletes none
    iterate 11
      refine ⟨nofun, fun st hst => ?_⟩
      obtain rfl := Except.ok.inj hst
    iterate 2
      refine ⟨trivial, fun st hst => ?_⟩
      obtain rfl := Except.ok.inj hst
      iterate 6
        refine ⟨fun _ _ _ _ => rfl, fun st hst => ?_⟩
        obtain rfl := Except.ok.inj hst
    iterate 5
      refine ⟨keepsBlocks_capture rfl _, fun st hst => ?_⟩
      obtain rfl := Except.ok.inj hst
    -- the recorder is fresh and counts no parameter set yet
    refine ⟨?_, fun st hst => ?_⟩
    · rintro k s node dump hpc hdump ⟨c, -, hsets, -⟩
      cases hpc
      cases hdump
      cases hsets
    obtain rfl := Except.ok.inj hst
    iterate 2
      refine ⟨keepsBlocks_capture rfl _, fun st hst => ?_⟩
      obtain rfl := Except.ok.inj hst
    trivial
  refine ⟨_, rfl, (run_accounted (fun _ _ => 0) hkeeps rfl).2.2 ?_, rfl⟩
  intro th
  rcases th with ⟨_ | _⟩ | _ | _ <;> rfl

/-- The receive handler gets a block, and `receiveBytes` throws. -/
def sampleFailure : List Action :=
  .readable 0 .video true [1, 2, 3] :: (List.replicate 2 (.ingest .reactor false) ++
    [.ingest .reactor true])

/-- A packet is appended between the end of the loop that empties the list and the `delete`. -/
def sampleRace : List Action :=
  .readable 0 .video true [1, 2, 3] :: (List.replicate 3 (.ingest .reactor false) ++
    .del 1 :: (List.replicate 6 (.control false .zero) ++
      (List.replicate 3 (.ingest .reactor false) ++ List.replicate 3 (.control false .zero))))

/-- A packet with a sequence parameter set. -/
def sampleSps : List Byte := [0x80, 98, 0, 1, 0, 0, 0, 0, 0, 0, 0, 0, 0x67, 0x42, 0x00, 0x1e]

/-- Two of them arrive for a recorder in which the size of the picture parameter set happens to be
negative, and `CaptureCenter::run` calls `rtpHandler` on both. -/
def sampleThrow : List Action :=
  .add "camera.flv" 5000 5002 90000 ::
    (List.replicate 11 (.control false { Uninitialised.zero with ppsSize := -1 }) ++
      (List.replicate 2 (.readable 0 .video true sampleSps ::
        List.replicate 6 (.ingest .reactor false))).flatten ++
      List.replicate 14 (.capture .allGood))

/-- **A run that loses a block**: at its end all threads are done and ten blocks are allocated, but
nine are free and none is in a list. -/
def LosesBlock (as : List Action) : Prop :=
  ∃ st, (run (construct fun _ _ => 0) as).outcome = .ok st ∧
    (∀ th, st.hand th = none) ∧ st.control = .idle ∧ st.pool.allocated = 10 ∧
    st.pool.blocks.length = 9 ∧
    (st.liveSessions.map fun s => (st.sessions s).bufferList.length).sum = 0

/-- A thread that never acts stays outside all calls. -/
theorem caller_idle {memory : Block → Memory} {as : List Action}
    (hthreads : ∀ a ∈ as, a.thread ∈ [Thread.source .reactor, .capture, .control])
    (hrun : (run (construct memory) as).outcome = .ok st) (t : ℕ) :
    st.ingest (.caller t) = .idle := by
  induction as using List.reverseRecOn generalizing st with
  | nil =>
      obtain rfl := Except.ok.inj hrun
      rfl
  | append_singleton as a ih =>
      obtain ⟨st₁, hbefore, hstep, -⟩ := exists_of_run_concat hrun
      have hne : Thread.source (.caller t) ≠ a.thread := by
        intro h
        have hmem := hthreads a (by simp)
        rw [← h] at hmem
        simp at hmem
      have hposition := congrFun
        (step_sections (coherent_of_reaches ⟨as, hbefore⟩) hstep).position (.source (.caller t))
      rw [Function.update_of_ne hne] at hposition
      rw [← ih (fun a ha => hthreads a (List.mem_append_left _ ha)) hbefore]
      exact (Position.ingest.inj hposition).2

/-- **Blocks are lost** when `receiveBytes` throws, when a packet comes in during the deletion of its
session, and when an exception leaves `rtpHandler`. -/
theorem run_loses_blocks :
    LosesBlock (sampleAdd ++ sampleFailure) ∧ LosesBlock (sampleAdd ++ sampleRace) ∧
      LosesBlock sampleThrow := by
  refine ⟨?_, ?_, ?_⟩
  case refine_3 =>
    have hthrow : ∃ st, (run (construct fun _ _ => 0) sampleThrow).outcome = .ok st ∧
        (st.capture = .ended ∧ st.hand (.source .reactor) = none ∧ st.control = .idle ∧
          st.pool.allocated = 10 ∧ st.pool.blocks.length = 9 ∧
          (st.liveSessions.map fun s => (st.sessions s).bufferList.length).sum = 0) := by
      decide +kernel
    obtain ⟨st, hst, hcapture, hreactor, hcontrol, hfacts⟩ := hthrow
    refine ⟨st, hst, fun th => ?_, hcontrol, hfacts⟩
    cases th with
    | source x =>
        cases x with
        | reactor => exact hreactor
        | caller t => exact congrArg Ingest.hand (caller_idle (by decide) hst t)
    | capture => exact congrArg Capture.hand hcapture
    | control => exact congrArg Control.hand hcontrol
  all_goals
    refine ⟨_, rfl, ?_, rfl, rfl, rfl, rfl⟩
    intro th
    rcases th with ⟨_ | _⟩ | _ | _ <;> rfl

end Sdk

end RtpCapture
