import RtpCapture.Foundations.Mailboxes
import RtpCapture.Sessions.Locks

/-! # From the sender to the recorder

The sessions are mailboxes: `bufferList` holds the packets of a session, their bytes are in blocks
of the pool, and `CaptureCenter::run` consumes them. A session is closed when its deletion starts to
throw its packets away.

* **`Sdk.Follows`** — a state of the system and the state of the mailboxes it stands for.
* **`Sdk.step_follows`** — every step of the system is a move of the mailboxes (or none).
* **`Sdk.run_mail`** — so what is seen of a run of the system is a history of the mailboxes. -/

namespace RtpCapture

open Traced

/-! ## The sessions as mailboxes -/

/-- A packet is its bytes and the length it comes with; its bytes are in a block. -/
def carrier : Carrier Thread BufferNode Block Memory (List Byte × ℤ) where
  block := BufferNode.buffer
  view := fun memory node => (memory.read 0 node.len.toNat, node.len)
  consumer := .capture

/-- The mailboxes of a system. -/
abbrev Mail := Mailboxes Thread SessionRef BufferNode Block Memory

/-- What an event says about the mailboxes. -/
def SdkEvent.mail : SdkEvent → Option (MailEvent SessionRef (List Byte × ℤ))
  | .pushed _ s bytes len => some (.posted s (bytes, len))
  | .entered s bytes len => some (.entered s (bytes, len))
  | .left s => some (.left s)
  | .deleted _ s => some (.retired s)
  | _ => none

/-! ## What the threads have in their hands -/

/-- The block a packet is written to. -/
def Ingest.hand : Ingest → Option Block
  | .fill _ b => some b
  | .lockBuffer _ b => some b
  | .push _ b => some b
  | _ => none

/-- The packet and the block that holds its bytes. -/
def Ingest.written : Ingest → Option (Delivery × Block)
  | .lockBuffer d b => some (d, b)
  | .push d b => some (d, b)
  | _ => none

/-- The bytes of the packet and their number. -/
def Ingest.size : Ingest → Option (List Byte × ℕ)
  | .lockMap _ bytes len => some (bytes, len.toInt.toNat)
  | .lookup _ bytes len => some (bytes, len.toInt.toNat)
  | .lockPool d => some (d.bytes, d.len.toNat)
  | .get d => some (d.bytes, d.len.toNat)
  | .fill d _ => some (d.bytes, d.len.toNat)
  | _ => none

/-- The block of the packet that is recorded. -/
def Capture.hand : Capture → Option Block
  | .enter _ _ node => some node.buffer
  | .handle _ _ node => some node.buffer
  | .lockPool _ _ b => some b
  | .release _ _ b => some b
  | _ => none

/-- The session `rtpHandler` has been called for, before it works. -/
def Capture.handling : Capture → Option SessionRef
  | .handle _ s _ => some s
  | _ => none

/-- How far `CaptureCenter::run` is with a packet. -/
def Capture.stage : Capture → Stage SessionRef BufferNode
  | .enter _ s node => .taken s node
  | .handle _ s node => .inside s node
  | _ => .idle

/-- The node at the front of a list, read and not yet erased. -/
def Capture.front : Capture → Option (SessionRef × BufferNode)
  | .erase _ s node => some (s, node)
  | _ => none

/-- The block of a packet that is thrown away. -/
def Control.hand : Control → Option Block
  | .delLockPool _ b => some b
  | .delRelease _ b => some b
  | _ => none

/-- The packet that is about to be thrown away, and its session. -/
def Control.front : Control → Option (SessionRef × BufferNode)
  | .delErase c node => some (c.session, node)
  | _ => none

/-- The session whose packets are thrown away; it is still in the vector. -/
def Control.draining : Control → Option SessionRef
  | .delDrain c => some c.session
  | .delErase c _ => some c.session
  | .delLockPool c _ => some c.session
  | .delRelease c _ => some c.session
  | .delDump c => some c.session
  | _ => none

/-- The session that `CaptureCenter::run` will not find any more. -/
def Control.closing : Control → Option SessionRef
  | .delUnlockBuffer c => some c.session
  | .delUnlockVector c => some c.session
  | .delFree c => some c.session
  | .delForget c => some c.session
  | pc => pc.draining

/-- The block at a position. -/
def Position.hand : Position → Option Block
  | .ingest _ pc => pc.hand
  | .capture pc => pc.hand
  | .control pc => pc.hand

namespace Sdk

/-- The block a thread has in its hands. -/
def hand (st : Sdk) (th : Thread) : Option Block := (st.position th).hand

/-! ## The simulation -/

/-- **The system and the mailboxes**: the same blocks, the same lists, and a session of the vector is
closed only while the control thread throws its packets away. -/
structure Follows (st : Sdk) (m : Mail) : Prop where
  memory : m.memory = st.memory
  box : ∀ s, m.box s = (st.sessions s).bufferList
  stage : m.stage = st.capture.stage
  pool : st.pool.Tracks m.owner .fresh .free
  hand : ∀ th b, st.hand th = some b → m.owner b = .hand th
  size : ∀ x bytes n, (st.ingest x).size = some (bytes, n) → bytes.length = n
  written : ∀ x d b, (st.ingest x).written = some (d, b) →
    (st.memory b).read 0 d.len.toNat = d.bytes
  captureFront : ∀ s node, st.capture.front = some (s, node) →
    ∃ rest, (st.sessions s).bufferList = node :: rest
  controlFront : ∀ s node, st.control.front = some (s, node) →
    ∃ rest, (st.sessions s).bufferList = node :: rest
  capture : ∀ s, st.capture.session? = some s → s ∉ m.closed
  closing : ∀ s, st.control.closing = some s → s ∈ m.closed
  vector : ∀ s ∈ st.sessionVector, s ∈ m.closed → st.control.draining = some s
  adding : ∀ s, st.control.adding = some s → s ∉ m.closed ∧ s ∉ st.sessionVector
  known : ∀ s, s ∈ m.closed → s < st.next
  nodup : st.sessionVector.Nodup

/-- The mailboxes at the start: nothing posted, the first blocks in the stock. -/
def mailboxes (memory : Block → Memory) : Mail where
  owner := fun b => if b < 10 then .free else .fresh
  memory := memory
  box := fun _ => []
  stage := .idle
  closed := ∅

/-- At the start all mailboxes are empty. -/
theorem mailboxes_empty (memory : Block → Memory) : (mailboxes memory).Empty where
  box := fun _ => rfl
  stage := rfl
  owner := fun b s => by
    unfold mailboxes
    dsimp only
    split <;> simp
  closed := rfl

/-- A fresh SDK follows them. -/
theorem follows_construct (memory : Block → Memory) :
    (construct memory).Follows (mailboxes memory) where
  memory := rfl
  box := fun _ => rfl
  stage := rfl
  pool := MemoryPool.tracks_construct 1500 10 20000 nofun
  hand := fun th b h => by cases th <;> cases h
  size := fun _ _ _ h => by cases h
  written := fun _ _ _ h => by cases h
  captureFront := fun _ _ h => by cases h
  controlFront := fun _ _ h => by cases h
  capture := fun _ h => by cases h
  closing := fun _ h => by cases h
  vector := fun _ h => by cases h
  adding := fun _ h => by cases h
  known := fun _ h => h.elim
  nodup := List.nodup_nil

namespace Follows

variable {st : Sdk} {m : Mail} {p : Position}

/-- **What the threads have in their hands** when one of them goes on. -/
theorem hand_goTo (h : st.Follows m) (hp : ∀ b, p.hand = some b → m.owner b = .hand p.thread)
    (th : Thread) (b : Block) (hb : (st.goTo p).hand th = some b) : m.owner b = .hand th := by
  unfold Sdk.hand at hb
  rw [position_goTo] at hb
  by_cases hth : th = p.thread
  · subst hth
    rw [Function.update_self] at hb
    exact hp b hb
  · rw [Function.update_of_ne hth] at hb
    exact h.hand th b hb

/-- A session changes, but not its list. -/
theorem setSession (h : st.Follows m) {s : SessionRef} (session : RTPSession)
    (hlist : session.bufferList = (st.sessions s).bufferList) :
    (st.setSession s session).Follows m := by
  have hlists : ∀ s', ((st.setSession s session).sessions s').bufferList =
      (st.sessions s').bufferList := by
    intro s'
    by_cases hs : s' = s
    · simp [Sdk.setSession, hs, hlist]
    · simp [Sdk.setSession, hs]
  exact { h with
    box := fun s' => by rw [hlists, h.box]
    captureFront := fun s' node hfront => by
      rw [hlists]
      exact h.captureFront s' node hfront
    controlFront := fun s' node hfront => by
      rw [hlists]
      exact h.controlFront s' node hfront
    hand := h.hand }

/-- A mutex changes hands. -/
theorem setHolder (h : st.Follows m) (t : Option Thread) (k : Mutex) :
    (st.setHolder t k).Follows m := by
  cases k with
  | map | vector | pool => exact { h with hand := h.hand }
  | buffer s => exact h.setSession _ rfl

/-- **A thread that brings packets in goes on** with what it has in its hands. -/
theorem setIngest (h : st.Follows m) {x : Source} {pc : Ingest}
    (hhand : ∀ b, pc.hand = some b → m.owner b = .hand (.source x))
    (hsize : ∀ bytes n, pc.size = some (bytes, n) → bytes.length = n)
    (hwritten : ∀ d b, pc.written = some (d, b) → (st.memory b).read 0 d.len.toNat = d.bytes) :
    (st.setIngest x pc).Follows m :=
  { h with
    hand := h.hand_goTo (p := .ingest x pc) hhand
    size := fun y bytes n hy => by
      by_cases hxy : y = x
      · subst hxy
        exact hsize bytes n (by simpa [Sdk.setIngest] using hy)
      · exact h.size y bytes n (by simpa [Sdk.setIngest, hxy] using hy)
    written := fun y d b hy => by
      by_cases hxy : y = x
      · subst hxy
        exact hwritten d b (by simpa [Sdk.setIngest] using hy)
      · exact h.written y d b (by simpa [Sdk.setIngest, hxy] using hy) }

/-- **`CaptureCenter::run` goes on.** -/
theorem setCapture (h : st.Follows m) {pc : Capture} {stage : Stage SessionRef BufferNode}
    (hstage : stage = pc.stage) (hhand : ∀ b, pc.hand = some b → m.owner b = .hand .capture)
    (hfront : ∀ s node, pc.front = some (s, node) →
      ∃ rest, (st.sessions s).bufferList = node :: rest)
    (hcapture : ∀ s, pc.session? = some s → s ∉ m.closed) :
    ({ st with capture := pc } : Sdk).Follows { m with stage := stage } :=
  { h with
    stage := hstage
    hand := h.hand_goTo (p := .capture pc) hhand
    captureFront := hfront
    capture := hcapture }

/-- **The control thread goes on.** -/
theorem setControl (h : st.Follows m) {p : Control}
    (hhand : ∀ b, p.hand = some b → m.owner b = .hand .control)
    (hfront : ∀ s node, p.front = some (s, node) →
      ∃ rest, (st.sessions s).bufferList = node :: rest)
    (hclosing : ∀ s, p.closing = some s → s ∈ m.closed)
    (hdraining : ∀ s ∈ st.sessionVector, s ∈ m.closed → p.draining = some s)
    (hadding : ∀ s, p.adding = some s → s ∉ m.closed ∧ s ∉ st.sessionVector) :
    ({ st with control := p } : Sdk).Follows m :=
  { h with
    hand := h.hand_goTo (p := .control p) hhand
    controlFront := hfront
    closing := hclosing
    vector := hdraining
    adding := hadding }

/-- The maps and the handlers are no part of the mailboxes. -/
theorem setMaps (h : st.Follows m) (receiver sdk : SessionMap) (handlers : List Handler) :
    ({ st with receiverMap := receiver, sdkMap := sdk, handlers := handlers } : Sdk).Follows m :=
  { h with hand := h.hand }

/-- **A session is closed** as the control thread goes on. -/
theorem close (h : st.Follows m) {p : Control} {s : SessionRef} (hs : s < st.next)
    (hcapture : st.capture.session? = none) (hhand : ∀ b, p.hand ≠ some b)
    (hfront : ∀ s' node, p.front ≠ some (s', node)) (hadding : ∀ s', p.adding ≠ some s')
    (hclosing : p.closing = some s) (hdraining : s ∈ st.sessionVector → p.draining = some s)
    (hbefore : st.control.draining = none) :
    m.Step carrier [] { m with closed := Insert.insert s m.closed } ∧
      ({ st with control := p } : Sdk).Follows { m with closed := Insert.insert s m.closed } := by
  have hidle : m.stage = .idle := by
    rw [h.stage]
    cases hpc : st.capture <;> rw [hpc] at hcapture <;> first | rfl | cases hcapture
  refine ⟨.close hidle, { h with
    hand := h.hand_goTo (p := .control p) fun b hb => absurd hb (hhand b)
    controlFront := fun s' node hnode => absurd hnode (hfront s' node)
    capture := fun s' hs' => ?_
    closing := fun s' hs' => ?_
    vector := fun s' hs' hclosed => ?_
    adding := fun s' hs' => absurd hs' (hadding s')
    known := fun s' hs' => ?_ }⟩
  · rw [hcapture] at hs'
    cases hs'
  · rw [hclosing] at hs'
    exact .inl (Option.some.inj hs').symm
  · rcases hclosed with rfl | hclosed
    · exact hdraining hs'
    · have hbusy := h.vector s' hs' hclosed
      rw [hbefore] at hbusy
      cases hbusy
  · rcases hs' with rfl | hclosed
    · exact hs
    · exact h.known s' hclosed

/-! ### One block moves -/

/-- A block that is where no thread has it can move. -/
theorem moveBlock (h : st.Follows m) {b : Block} (q : Place Thread SessionRef) (pool : MemoryPool)
    (hb : ∀ th, st.hand th ≠ some b)
    (hpool : pool.Tracks (Function.update m.owner b q) .fresh .free) :
    ({ st with pool := pool } : Sdk).Follows { m with owner := Function.update m.owner b q } :=
  { h with
    pool := hpool
    hand := fun th b' hb' => by
      have hne : b' ≠ b := by
        rintro rfl
        exact hb th hb'
      dsimp only
      rw [Function.update_of_ne hne]
      exact h.hand th b' hb' }

/-- A block in the hands of one thread is in the hands of no other. -/
theorem hand_eq (h : st.Follows m) {th th' : Thread} {b : Block} (howner : m.owner b = .hand th)
    (hb : st.hand th' = some b) : th' = th := by
  rw [h.hand th' b hb] at howner
  exact Place.hand.inj howner

/-- **`get`**: a block leaves the stock. -/
theorem take (h : st.Follows m) {b : Block} {pool : MemoryPool} (hget : st.pool.get = some (b, pool))
    (th : Thread) :
    m.Step carrier [] { m with owner := Function.update m.owner b (.hand th) } ∧
      ({ st with pool := pool } : Sdk).Follows
        { m with owner := Function.update m.owner b (.hand th) } := by
  obtain ⟨hstock, hpool⟩ :=
    h.pool.get (p := .hand th) hget nofun nofun nofun
  refine ⟨.take hstock, h.moveBlock _ _ (fun th' hb => ?_) hpool⟩
  rw [h.hand th' b hb] at hstock
  simp at hstock

/-- **`release`**: a block that no thread has any more goes back to the stock. -/
theorem putBack (h : st.Follows m) {b : Block} {th : Thread} (howner : m.owner b = .hand th)
    (hhand : st.hand th ≠ some b) (hidle : th ≠ .capture ∨ m.stage = .idle) :
    m.Step carrier [] { m with owner := Function.update m.owner b .free } ∧
      ({ st with pool := st.pool.release b } : Sdk).Follows
        { m with owner := Function.update m.owner b .free } := by
  refine ⟨.putBack howner hidle, h.moveBlock _ _ (fun th' hb => ?_) ?_⟩
  · exact hhand (h.hand_eq howner hb ▸ hb)
  · exact h.pool.release (by simp [howner]) (by simp [howner]) nofun

/-- A block that no thread has any more is lost. -/
theorem lose (h : st.Follows m) {b : Block} {th : Thread} (howner : m.owner b = .hand th)
    (hhand : st.hand th ≠ some b) (hidle : th ≠ .capture ∨ m.stage = .idle) :
    m.Step carrier [] { m with owner := Function.update m.owner b .lost } ∧
      st.Follows { m with owner := Function.update m.owner b .lost } := by
  refine ⟨.lose howner hidle, h.moveBlock _ st.pool (fun th' hb => ?_) ?_⟩
  · exact hhand (h.hand_eq howner hb ▸ hb)
  · exact h.pool.frame (by simp [howner]) (by simp [howner]) nofun nofun

/-- A packet that is written is in the hands of its thread. -/
theorem owner_written (h : st.Follows m) {x : Source} {d : Delivery} {b : Block}
    (hwritten : (st.ingest x).written = some (d, b)) : m.owner b = .hand (.source x) := by
  apply h.hand (.source x)
  show (st.ingest x).hand = some b
  cases hpc : st.ingest x <;> rw [hpc] at hwritten <;> cases hwritten <;> rfl

/-- **A thread writes into its block**; no packet that was written before changes. -/
theorem write (h : st.Follows m) {b : Block} {th : Thread} (howner : m.owner b = .hand th)
    (hwritten : ∀ x d, th = .source x → (st.ingest x).written ≠ some (d, b)) (contents : Memory) :
    ({ st with memory := Function.update st.memory b contents } : Sdk).Follows
      { m with memory := Function.update m.memory b contents } :=
  { h with
    memory := by
      dsimp only
      rw [h.memory]
    hand := h.hand
    written := fun x d b' hb' => by
      dsimp only
      rw [Function.update_of_ne, h.written x d b' hb']
      rintro rfl
      have howner' := h.owner_written hb'
      rw [howner] at howner'
      exact hwritten x d (Place.hand.inj howner') hb' }

/-- The list of a session grows at its end, or loses its first node. -/
theorem setList (h : st.Follows m) {s : SessionRef} (session : RTPSession) {b : Block}
    {q : Place Thread SessionRef} (hb : ∀ th, st.hand th ≠ some b)
    (hpool : st.pool.Tracks (Function.update m.owner b q) .fresh .free)
    (hcapture : ∀ node, st.capture.front = some (s, node) → ∃ rest, session.bufferList = node :: rest)
    (hcontrol : ∀ node, st.control.front = some (s, node) →
      ∃ rest, session.bufferList = node :: rest) :
    (st.setSession s session).Follows
      { m with
        owner := Function.update m.owner b q
        box := Function.update m.box s session.bufferList } :=
  { h.moveBlock q st.pool hb hpool with
    box := fun s' => by
      by_cases hs : s' = s
      · subst hs
        simp [Sdk.setSession]
      · simp [Sdk.setSession, hs, h.box s']
    captureFront := fun s' node hfront => by
      by_cases hs : s' = s
      · subst hs
        simpa [Sdk.setSession] using hcapture node hfront
      · simpa [Sdk.setSession, hs] using h.captureFront s' node hfront
    controlFront := fun s' node hfront => by
      by_cases hs : s' = s
      · subst hs
        simpa [Sdk.setSession] using hcontrol node hfront
      · simpa [Sdk.setSession, hs] using h.controlFront s' node hfront }

/-- **The first node leaves the list of a session** into the hands of a thread, when no thread has
read it before. -/
theorem popList (h : st.Follows m) (hsound : m.Sound carrier) {s : SessionRef} {node : BufferNode}
    {rest : List BufferNode} (hlist : (st.sessions s).bufferList = node :: rest) (th : Thread)
    (hcapture : st.capture.front = none) (hcontrol : st.control.front = none) :
    m.box s = node :: (st.sessions s).bufferList.tail ∧
      (st.setSession s { st.sessions s with
        bufferList := (st.sessions s).bufferList.tail }).Follows
        { m with
          owner := Function.update m.owner node.buffer (.hand th)
          box := Function.update m.box s (st.sessions s).bufferList.tail } := by
  have hbox : m.box s = node :: (st.sessions s).bufferList.tail := by
    rw [h.box, hlist, List.tail_cons]
  have howner : m.owner node.buffer = .box s := hsound.owner_box (by simp [hbox])
  refine ⟨hbox, h.setList _ (fun th' hb => ?_) ?_ ?_ ?_⟩
  · rw [h.hand th' _ hb] at howner
    cases howner
  · exact h.pool.frame (howner.trans_ne nofun) (howner.trans_ne nofun) nofun nofun
  · intro node' hnode'
    rw [hcapture] at hnode'
    cases hnode'
  · intro node' hnode'
    rw [hcontrol] at hnode'
    cases hnode'

end Follows

/-! ## Every step is a move -/

/-- **A computation that makes a move of the mailboxes** `m`, and lets just that be seen; or stops
and lets nothing be seen. -/
structure Advances (m : Mail) (x : SdkRun Sdk) : Prop where
  ok : ∀ st', x.outcome = .ok st' →
    ∃ m', m.Step carrier (x.trace.filterMap SdkEvent.mail) m' ∧ st'.Follows m'
  error : ∀ f, x.outcome = .error f → x.trace.filterMap SdkEvent.mail = []

section Advances

variable {st : Sdk} {m m' : Mail}

/-- A stop has nowhere to advance to. -/
theorem advances_fault (f : Stop) : Advances m (fault f) where
  ok := fun _ hst => by cases hst
  error := fun _ _ => rfl

/-- A step that nobody sees. -/
theorem advances_pure (h : m.Step carrier [] m' ∧ st.Follows m') : Advances m (pure st) where
  ok := fun _ hst => by
    obtain rfl := Except.ok.inj hst
    exact ⟨m', h⟩
  error := fun _ hf => by cases hf

/-- A step with one event. -/
theorem advances_emit {e : SdkEvent} {es : List (MailEvent SessionRef (List Byte × ℤ))}
    (he : [e].filterMap SdkEvent.mail = es) (h : m.Step carrier es m' ∧ st.Follows m') :
    Advances m (do emit e; return st) where
  ok := fun _ hst => by
    obtain rfl := Except.ok.inj hst
    subst he
    exact ⟨m', h⟩
  error := fun _ hf => by cases hf

/-- What a recorder emits is not seen. -/
theorem filterMap_recorder (s : SessionRef) (trace : List Event) :
    (trace.map (SdkEvent.recorder s)).filterMap SdkEvent.mail = [] := by
  simp [List.filterMap_eq_nil_iff, SdkEvent.mail]

/-- A recorder at work in front of a step with one event. -/
theorem advances_recorder {s : SessionRef} {trace : List Event} {e : SdkEvent}
    (h : m.Step carrier ([e].filterMap SdkEvent.mail) m' ∧ st.Follows m') :
    Advances m ⟨trace.map (.recorder s) ++ [e], .ok st⟩ where
  ok := fun _ hst => by
    obtain rfl := Except.ok.inj hst
    rw [List.filterMap_append, filterMap_recorder]
    exact ⟨m', h⟩
  error := fun _ hf => by cases hf

end Advances

variable {st : Sdk} {m : Mail}

/-- The steps of `onRTPData` and of the receive handlers. -/
theorem stepIngest_advances (h : st.Follows m) (x : Source) (fails : Bool) :
    Advances m (st.stepIngest x fails) := by
  have hsize := h.size x
  have hwritten := h.written x
  have hhand : ∀ b, (st.ingest x).hand = some b → m.owner b = .hand (.source x) :=
    h.hand (.source x)
  have hafter : ∀ k, ((st.setHolder none k).setIngest x (afterScope x)).Follows m := by
    intro k
    cases x <;> exact (h.setHolder none k).setIngest elim_none elim_none₂ elim_none₂
  refine (stepIngest_endsIn st x fails).elim (motive := Advances m) advances_fault
    fun es st' hends => ?_
  generalize hpc : st.ingest x = pc at hends hsize hwritten hhand
  cases hends with
  | lockMap | lockPool =>
      exact advances_pure ⟨.stay, (h.setHolder _ _).setIngest elim_none hsize elim_none₂⟩
  | notFound | overflow =>
      exact advances_emit rfl ⟨.stay, h.setIngest elim_none elim_none₂ elim_none₂⟩
  | found => exact advances_pure ⟨.stay, h.setIngest elim_none hsize elim_none₂⟩
  | outOfMemory => exact advances_emit rfl ⟨.stay, hafter .pool⟩
  | get d b pool hget =>
      obtain ⟨hmove, hfollows⟩ := h.take hget (.source x)
      refine advances_pure ⟨hmove, (hfollows.setHolder none .pool).setIngest ?_ hsize elim_none₂⟩
      rintro b' ⟨⟩
      exact Function.update_self ..
  | receiveFailed d b =>
      -- `receiveBytes` throws: the block is in nobody's hands any more
      have hidle : (st.setIngest x .idle).Follows m := h.setIngest elim_none elim_none₂ elim_none₂
      refine advances_emit rfl (hidle.lose (hhand b rfl) ?_ (.inl (by simp)))
      simp [hand, position, setIngest, Position.hand, Ingest.hand]
  | fill d b =>
      have howner := hhand b rfl
      refine advances_pure ⟨.write _ howner (by simp [carrier]),
        (h.write howner ?_ _).setIngest hhand elim_none₂ ?_⟩
      · rintro y d' ⟨⟩
        simp [hpc, Ingest.written]
      · rintro d' b' ⟨⟩
        simp only [Function.update_self]
        rw [← hsize _ _ rfl, Memory.read_write_self]
  | lockBuffer d b =>
      exact advances_pure ⟨.stay, (h.setHolder _ _).setIngest hhand elim_none₂ hwritten⟩
  | push d b =>
      have howner := hhand b rfl
      have hgone : (st.setIngest x (.unlockBuffer d)).hand (.source x) ≠ some b := by
        simp [hand, position, setIngest, Position.hand, Ingest.hand]
      have hdone : (st.setIngest x (.unlockBuffer d)).Follows m :=
        h.setIngest elim_none elim_none₂ elim_none₂
      have hmove := Mailboxes.Step.post (c := carrier) (s := d.session) (n := ⟨b, d.len⟩) howner
        (by simp [carrier])
      rw [h.box] at hmove
      refine advances_emit ?_ ⟨hmove, hdone.setList _ ?_ ?_ ?_ ?_⟩
      · simp [SdkEvent.mail, Mailboxes.message, carrier, h.memory, hwritten d b rfl]
      · exact fun th hb => hgone (hdone.hand_eq howner hb ▸ hb)
      · exact h.pool.frame (howner.trans_ne (by simp)) (howner.trans_ne (by simp)) (by simp)
          (by simp)
      · intro node hfront
        obtain ⟨rest, hlist⟩ := h.captureFront d.session node hfront
        exact ⟨rest ++ [⟨b, d.len⟩], by simp [hlist]⟩
      · intro node hfront
        obtain ⟨rest, hlist⟩ := h.controlFront d.session node hfront
        exact ⟨rest ++ [⟨b, d.len⟩], by simp [hlist]⟩
  | unlockBuffer => exact advances_pure ⟨.stay, hafter _⟩
  | unlockMap =>
      exact advances_emit rfl ⟨.stay,
        (h.setHolder none .map).setIngest elim_none elim_none₂ elim_none₂⟩

/-- While `CaptureCenter::run` is inside its scope, the control thread is not. -/
theorem Coherent.control_outside (h : st.Coherent) (hcapture : .vector ∈ st.capture.holds) :
    st.control.draining = none ∧ st.control.front = none := by
  have hnot : .vector ∉ st.control.holds := by
    intro hcontrol
    have hsame : Thread.capture = Thread.control := h.locked.exclusive hcapture hcontrol
    cases hsame
  cases hpc : st.control <;> rw [hpc] at hnot <;>
    first | exact ⟨rfl, rfl⟩ | exact absurd (by simp [Control.holds]) hnot

/-- The steps of `CaptureCenter::run`. -/
theorem stepCapture_advances (hcoherent : st.Coherent) (hsound : m.Sound carrier)
    (h : st.Follows m) (r : FileResults) : Advances m (st.stepCapture r) := by
  have hopen := h.capture
  have hstage := h.stage
  have houtside := hcoherent.control_outside
  have hhand : ∀ b, st.capture.hand = some b → m.owner b = .hand .capture := h.hand .capture
  have hfront := h.captureFront
  refine stepCapture_elim (motive := Advances m) st r (advances_fault _)
    (fun k s node events f _ => ?_) fun es st' hends => ?_
  · exact ⟨fun _ hst => (by cases hst), fun _ _ => filterMap_recorder s events⟩
  generalize st.capture = pc at hends hopen hstage houtside hhand hfront
  cases hends with
  | lockVector | unlockVector | unlockBuffer | throwBuffer | throwVector =>
      exact advances_pure ⟨.stay,
        (h.setHolder _ _).setCapture hstage elim_none elim_none₂ elim_none⟩
  | lockBuffer k s hs =>
      refine advances_pure ⟨.stay, (h.setHolder _ _).setCapture hstage elim_none elim_none₂ ?_⟩
      rintro s' ⟨⟩ hclosed
      have hdraining := h.vector s (List.mem_of_getElem? hs) hclosed
      rw [(houtside List.mem_cons_self).1] at hdraining
      cases hdraining
  | head k s node rest hlist =>
      refine advances_pure ⟨.stay, h.setCapture hstage elim_none ?_ hopen⟩
      rintro s' node' ⟨⟩
      exact ⟨rest, hlist⟩
  | erase k s node =>
      obtain ⟨rest, hlist⟩ := hfront s node rfl
      have hcontrol : st.control.front = none := (houtside (by simp [Capture.holds])).2
      -- the loop is at its head again when the node is gone
      have hdrain : ({ st with capture := .drain k s } : Sdk).Follows m :=
        h.setCapture hstage elim_none elim_none₂ hopen
      obtain ⟨hbox, herased⟩ := hdrain.popList hsound hlist .capture rfl hcontrol
      refine advances_pure ⟨.pull hbox (hopen s rfl) hstage,
        herased.setCapture rfl ?_ elim_none₂ hopen⟩
      rintro b ⟨⟩
      exact Function.update_self ..
  | enter k s node =>
      refine advances_emit ?_ ⟨.enter hstage, h.setCapture rfl hhand elim_none₂ hopen⟩
      simp [SdkEvent.mail, Mailboxes.message, carrier, h.memory]
  | handle k s node dump dump' =>
      have hidle : ({ st.setSession s { st.sessions s with rtpDump := some dump' } with
          capture := .lockPool k s node.buffer } : Sdk).Follows { m with stage := .idle } :=
        (h.setSession (s := s) { st.sessions s with rtpDump := some dump' } rfl).setCapture
          rfl hhand elim_none₂ hopen
      exact advances_recorder
        ⟨.leave _ hstage, hidle.write (b := node.buffer) (hhand _ rfl) (by simp) _⟩
  | throws k s node =>
      have hsame : Function.update m.memory node.buffer (m.memory node.buffer) = m.memory :=
        Function.update_eq_self ..
      have hleft := Mailboxes.Step.leave (c := carrier) (m.memory node.buffer) hstage
      rw [show carrier.block node = node.buffer from rfl, hsame] at hleft
      exact advances_recorder ⟨hleft, h.setCapture rfl elim_none elim_none₂ hopen⟩
  | lockPool =>
      exact advances_pure ⟨.stay, (h.setHolder _ _).setCapture hstage hhand elim_none₂ hopen⟩
  | release k s b =>
      have hidle : ({ st with capture := .drain k s } : Sdk).Follows m :=
        h.setCapture hstage elim_none elim_none₂ hopen
      obtain ⟨hmove, hfollows⟩ :=
        hidle.putBack (hhand b rfl) (Option.some_ne_none b).symm (.inr hstage)
      exact advances_pure ⟨hmove, hfollows.setHolder none .pool⟩

/-- While the control thread is inside that scope, `CaptureCenter::run` is not. -/
theorem Coherent.capture_outside (h : st.Coherent) (hcontrol : .vector ∈ st.control.holds) :
    st.capture.session? = none ∧ st.capture.front = none := by
  have hnot : .vector ∉ st.capture.holds := by
    intro hcapture
    have hsame : Thread.capture = Thread.control := h.locked.exclusive hcapture hcontrol
    cases hsame
  cases hpc : st.capture <;> rw [hpc] at hnot <;>
    first | exact ⟨rfl, rfl⟩ | exact absurd (by simp [Capture.holds]) hnot

/-- The steps of `addCaptureRtpSession` and `delCaptureRtpSession`. -/
theorem stepControl_advances (hcoherent : st.Coherent) (hsound : m.Sound carrier)
    (h : st.Follows m) (fails : Bool) (u : Uninitialised) : Advances m (st.stepControl fails u) := by
  -- what the state says about the position that is left
  have hknown := hcoherent.known.control
  have houtside := hcoherent.capture_outside
  have hhand : ∀ b, st.control.hand = some b → m.owner b = .hand .control := h.hand .control
  have hfront := h.controlFront
  have hclosing := h.closing
  have hvector := h.vector
  have hadding := h.adding
  refine (stepControl_endsIn st fails u).elim (motive := Advances m) advances_fault
    fun es st' hends => ?_
  generalize hpc : st.control = pc at hends hknown houtside hhand hfront hclosing hvector hadding
  cases hends with
  -- `addCaptureRtpSession`: up to the vector, no list and no mailbox is touched
  | addLockMap | addUnlockMap | addLockVector =>
      exact advances_pure ⟨.stay,
        (h.setHolder _ _).setControl elim_none elim_none₂ elim_none hvector hadding⟩
  | addBindThrows s | addBind s | addNoPorts s =>
      refine advances_pure ⟨.stay,
        (h.setSession _ ?_).setControl elim_none elim_none₂ elim_none hvector hadding⟩
      rfl
  | addRegisterAudioThrows | addDumpThrows =>
      exact advances_pure ⟨.stay, h.setControl elim_none elim_none₂ elim_none hvector hadding⟩
  | addRegisterAudio s =>
      have hmoved :=
        h.setControl (p := .addRegisterVideo s) elim_none elim_none₂ elim_none hvector hadding
      exact advances_pure ⟨.stay, hmoved.setMaps _ _ _⟩
  | addRegisterVideoThrows s =>
      have hmoved :=
        h.setControl (p := .addThrowMap s) elim_none elim_none₂ elim_none hvector hadding
      exact advances_pure ⟨.stay, hmoved.setMaps _ _ _⟩
  | addRegisterVideo s =>
      have hsession : (st.setSession s { st.sessions s with rtpHandler := true }).Follows m :=
        h.setSession _ rfl
      have hmoved :=
        hsession.setControl (p := .addPublish s) elim_none elim_none₂ elim_none hvector hadding
      exact advances_pure ⟨.stay, hmoved.setMaps _ _ _⟩
  | addPublish s =>
      have hmoved :=
        h.setControl (p := .addUnlockMap s) elim_none elim_none₂ elim_none hvector hadding
      exact advances_pure ⟨.stay, hmoved.setMaps _ _ _⟩
  | addThrowMap | addThrowVector =>
      exact advances_emit rfl ⟨.stay,
        (h.setHolder _ _).setControl elim_none elim_none₂ elim_none hvector elim_none⟩
  | addDump s =>
      refine advances_pure ⟨.stay,
        (h.setSession _ ?_).setControl elim_none elim_none₂ elim_none hvector hadding⟩
      rfl
  -- the session comes into the vector, and its mailbox is open
  | addPush s =>
      obtain ⟨hopen, hnot⟩ := hadding s rfl
      have hpushed :=
        h.setControl (p := .addUnlockVector s) elim_none elim_none₂ elim_none hvector elim_none
      refine advances_pure ⟨.stay, { hpushed with
        hand := hpushed.hand
        vector := fun s' hs' hclosed => ?_
        adding := elim_none
        nodup := ?_ }⟩
      · rcases List.mem_append.mp hs' with hmem | hmem
        · exact hvector s' hmem hclosed
        · obtain rfl := List.mem_singleton.mp hmem
          exact absurd hclosed hopen
      · exact List.nodup_append_comm.mp (List.nodup_cons.mpr ⟨hnot, h.nodup⟩)
  -- both are outside of every mailbox
  | addUnlockVector | delLockVector =>
      exact advances_pure ⟨.stay,
        (h.setHolder _ _).setControl elim_none elim_none₂ elim_none hvector elim_none⟩
  | addRemember s =>
      have hmoved := h.setControl (p := .idle) elim_none elim_none₂ elim_none hvector elim_none
      exact advances_emit rfl ⟨.stay, hmoved.setMaps _ _ _⟩
  | delFind =>
      exact advances_pure ⟨.stay, h.setControl elim_none elim_none₂ elim_none hvector elim_none⟩
  -- `delCaptureRtpSession`: the mailbox is closed under the mutex of the vector, which keeps
  -- `CaptureCenter::run` away from it
  | delNotFound c hnot =>
      exact advances_pure (h.close (hknown _ rfl) (houtside (by simp [Control.holds])).1
        elim_none elim_none₂ elim_none rfl (fun hmem => absurd hmem hnot) (congrArg Control.draining hpc))
  | delLockBuffer c =>
      have hclosed := (h.setHolder (some .control) (.buffer c.session)).close (p := .delDrain c)
        (hknown _ rfl) (houtside (by simp [Control.holds])).1 elim_none elim_none₂ elim_none rfl
        (fun _ => rfl) (congrArg Control.draining hpc)
      exact advances_pure hclosed
  | delDrained =>
      exact advances_pure ⟨.stay, h.setControl elim_none elim_none₂ hclosing hvector elim_none⟩
  -- what it is about to throw away is the first of the list
  | delHead c node rest hlist =>
      refine advances_pure ⟨.stay, h.setControl elim_none ?_ hclosing hvector elim_none⟩
      rintro s node' ⟨⟩
      exact ⟨rest, hlist⟩
  -- a packet of the closed mailbox is discarded
  | delErase c node =>
      obtain ⟨rest, hlist⟩ := hfront c.session node rfl
      have hcapture : st.capture.front = none := (houtside (by simp [Control.holds])).2
      have hdrain : ({ st with control := .delDrain c } : Sdk).Follows m :=
        h.setControl elim_none elim_none₂ hclosing hvector elim_none
      obtain ⟨hbox, herased⟩ := hdrain.popList hsound hlist .control hcapture rfl
      refine advances_pure ⟨.discard hbox (hclosing _ rfl),
        herased.setControl ?_ elim_none₂ hclosing hvector elim_none⟩
      rintro b ⟨⟩
      exact Function.update_self ..
  | delLockPool =>
      exact advances_pure ⟨.stay,
        (h.setHolder _ _).setControl hhand elim_none₂ hclosing hvector elim_none⟩
  -- its block goes back to the pool
  | delRelease c b =>
      have hdrain : ({ st with control := .delDrain c } : Sdk).Follows m :=
        h.setControl elim_none elim_none₂ hclosing hvector elim_none
      obtain ⟨hmove, hfollows⟩ :=
        hdrain.putBack (hhand b rfl) (Option.some_ne_none b).symm (.inl (by simp))
      exact advances_pure ⟨hmove, hfollows.setHolder none .pool⟩
  -- the session leaves the vector, which names it once
  | delDump c =>
      have hsession :
          (st.setSession c.session { st.sessions c.session with rtpDump := none }).Follows m :=
        h.setSession _ rfl
      refine advances_pure ⟨.stay, { hsession with
        hand := hsession.hand_goTo (p := .control (.delUnlockBuffer c)) elim_none
        controlFront := elim_none₂
        closing := hclosing
        vector := fun s hs hclosed => ?_
        adding := elim_none
        nodup := h.nodup.erase _ }⟩
      obtain ⟨hne, hmem⟩ := h.nodup.mem_erase_iff.mp hs
      exact absurd (Option.some.inj (hvector s hmem hclosed)).symm hne
  | delUnlockBuffer | delUnlockVector =>
      exact advances_pure ⟨.stay,
        (h.setHolder _ _).setControl elim_none elim_none₂ hclosing hvector elim_none⟩
  | delFree c =>
      refine advances_pure ⟨.stay,
        (h.setSession _ ?_).setControl elim_none elim_none₂ hclosing hvector elim_none⟩
      rfl
  -- the mailbox is retired when the call returns
  | delForget c =>
      have hmoved := h.setControl (p := .idle) elim_none elim_none₂ elim_none hvector elim_none
      exact advances_emit rfl ⟨.retire (hclosing _ rfl), hmoved.setMaps _ _ _⟩

/-- The calls that threads start. -/
theorem callIngest_advances (h : st.Follows m) (t : ℕ) (id : Word) (data : Memory) (len : Word) :
    Advances m (st.callIngest t id data len) := by
  unfold callIngest
  split
  · refine advances_emit rfl ⟨.stay, h.setIngest nofun ?_ nofun⟩
    rintro bytes n ⟨⟩
    exact Memory.length_read data 0 _
  · exact advances_fault _

/-- The dispatch of a readable socket. -/
theorem dispatch_advances (h : st.Follows m) (s : SessionRef) (type : TagType) (available : Bool)
    (datagram : List Byte) : Advances m (st.dispatch s type available datagram) := by
  unfold dispatch
  split
  · split
    · split
      · exact advances_pure ⟨.stay, h⟩
      · refine advances_pure ⟨.stay, h.setIngest nofun ?_ nofun⟩
        rintro bytes n ⟨⟩
        rfl
    · split
      · exact advances_fault _
      · exact advances_fault _
  · exact advances_fault _

/-- A call of `addCaptureRtpSession`. -/
theorem callAdd_advances (hcoherent : st.Coherent) (h : st.Follows m) (fileName : String)
    (videoPort audioPort videoFrequency : Word) :
    Advances m (st.callAdd fileName videoPort audioPort videoFrequency) := by
  unfold callAdd
  split
  · next hidle =>
      have hfresh := hcoherent.known.fresh st.next (Nat.le_refl _)
      have hvector : ∀ s ∈ st.sessionVector, s ∈ m.closed → none = some s := by
        have hvector := h.vector
        rwa [hidle] at hvector
      have hsession := h.setSession (s := st.next)
        { RTPSession.none with
          sessionID := nextSessionID st.sessionCounter
          videoFrequency := videoFrequency
          listenVideoPort := videoPort
          listenAudioPort := audioPort
          fileName := fileName } (by rw [hfresh])
      have hadded := hsession.setControl (p := .addLockMap st.next) nofun nofun nofun hvector ?_
      · exact advances_pure ⟨.stay, { hadded with
          hand := hadded.hand
          known := fun s hs => Nat.lt_succ_of_lt (h.known s hs) }⟩
      · rintro s ⟨⟩
        exact ⟨fun hs => Nat.lt_irrefl _ (h.known _ hs),
          fun hs => Nat.lt_irrefl _ (hcoherent.known.vector _ hs)⟩
  · exact advances_fault _

/-- A call of `delCaptureRtpSession`. -/
theorem callDel_advances (h : st.Follows m) (id : Word) : Advances m (st.callDel id) := by
  unfold callDel
  split
  · next hidle =>
      have hvector : ∀ s ∈ st.sessionVector, s ∈ m.closed → none = some s := by
        have hvector := h.vector
        rwa [hidle] at hvector
      split
      · exact advances_emit rfl ⟨.stay, h⟩
      · exact advances_pure ⟨.stay, h.setControl nofun nofun nofun hvector nofun⟩
  · exact advances_fault _

/-- A thread that may not move leaves the mailboxes alone. -/
theorem guarded_advances {th : Thread} {x : SdkRun Sdk} (h : Advances m x) :
    Advances m (st.guarded th x) := by
  unfold guarded
  split
  · exact advances_fault _
  · split
    · exact advances_fault _
    · exact h

/-- **One step of the system is a move of the mailboxes.** -/
theorem step_advances (hcoherent : st.Coherent) (hsound : m.Sound carrier) (h : st.Follows m)
    (a : Action) : Advances m (st.step a) := by
  cases a with
  | onRTPData t id data len => exact callIngest_advances h t id data len
  | readable s type available datagram => exact dispatch_advances h s type available datagram
  | ingest x fails => exact guarded_advances (stepIngest_advances h x fails)
  | capture r => exact guarded_advances (stepCapture_advances hcoherent hsound h r)
  | add fileName videoPort audioPort videoFrequency =>
      exact callAdd_advances hcoherent h fileName videoPort audioPort videoFrequency
  | del id => exact callDel_advances h id
  | control fails u => exact guarded_advances (stepControl_advances hcoherent hsound h fails u)

/-! ## Every run -/

/-- **The run lemma**: as long as the system runs, it follows a run of the mailboxes. -/
theorem run_advances {m₀ : Mail} {history : List (MailEvent SessionRef (List Byte × ℤ))}
    (hrun : Mailboxes.Run carrier m₀ history m) (h₀ : m₀.Empty) (hcoherent : st.Coherent)
    (h : st.Follows m) (as : List Action) :
    ∃ m', Mailboxes.Run carrier m₀ (history ++ (run st as).trace.filterMap SdkEvent.mail) m' ∧
      ∀ st', (run st as).outcome = .ok st' → st'.Follows m' := by
  induction as generalizing st m history with
  | nil =>
      refine ⟨m, by simpa [run] using hrun, fun st' hst => ?_⟩
      obtain rfl := Except.ok.inj hst
      exact h
  | cons a as ih =>
      have hadvances := step_advances hcoherent (hrun.invariant h₀).1 h a
      cases ha : (st.step a).outcome with
      | ok st₁ =>
          obtain ⟨m₁, hmove, h₁⟩ := hadvances.ok st₁ ha
          obtain ⟨m', hrun', h'⟩ := ih (hrun.step hmove) (step_coherent hcoherent ha) h₁
          refine ⟨m', ?_, ?_⟩
          · rw [run, run_cons_of_ok ha, List.filterMap_append, ← List.append_assoc]
            exact hrun'
          · rw [run, run_cons_of_ok ha]
            exact h'
      | error f =>
          refine ⟨m, ?_, fun st' hst => ?_⟩
          · rw [run, run_cons, bind_of_error ha, hadvances.error f ha, List.append_nil]
            exact hrun
          · rw [run, run_cons, bind_of_error ha] at hst
            cases hst

/-- **What is seen of a run of the system is a history of the mailboxes.** -/
theorem run_mail (memory : Block → Memory) (as : List Action) :
    ∃ m, Mailboxes.Run carrier (mailboxes memory)
        ((run (construct memory) as).trace.filterMap SdkEvent.mail) m ∧
      ∀ st, (run (construct memory) as).outcome = .ok st → st.Follows m := by
  obtain ⟨m, hrun, h⟩ := run_advances .start (mailboxes_empty memory) (coherent_construct memory)
    (follows_construct memory) as
  exact ⟨m, by simpa using hrun, h⟩

end Sdk

end RtpCapture
