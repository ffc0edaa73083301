import RtpCapture.Sessions.Calls
import RtpCapture.Sessions.Registry
import RtpCapture.Sessions.Deadlock

/-! # The two ways in

A datagram reaches the `bufferList` of a session through `onRTPData`, or through the receive handler
of a socket. The two are written separately: `onRTPData` turns away what is longer than a block, and
appends a packet of no bytes; `receiveBytes` cuts what is longer, and a receive handler does nothing
when `available()` reports no bytes.

* **`Sdk.Delivers`** — a thread starts to bring a datagram in, and alone goes on until it is done.
* **`Sdk.promised`** — the lists it will leave, read off where it is; none of its steps changes them
  (`step_promised`).
* **`Sdk.deliveries_agree_iff`** — both ways leave the list of the session the same exactly when the
  datagram has between 1 and 1500 bytes, or the pool is exhausted.
* **`Sdk.deliveries_disagree`** — a datagram of 1501 bytes, and an empty one. -/

namespace RtpCapture

open Traced

/-! ## The lists and the blocks they name -/

/-- **The buffer lists of all sessions**, and the memory their nodes point to. -/
structure Queues where
  lists : SessionRef → List BufferNode
  memory : Block → Memory

namespace Queues

/-- The packets in the list of a session: each node with the bytes it stands for. -/
def packets (q : Queues) (s : SessionRef) : List (BufferNode × List Byte) :=
  (q.lists s).map fun node => (node, (q.memory node.buffer).read 0 node.len.toNat)

/-- `memcpy` or `receiveBytes`. -/
def fill (q : Queues) (d : Delivery) (b : Block) : Queues :=
  { q with memory := Function.update q.memory b ((q.memory b).write 0 d.bytes) }

/-- `bufferList.push_back(node)`. -/
def append (q : Queues) (d : Delivery) (b : Block) : Queues :=
  { q with lists := Function.update q.lists d.session (q.lists d.session ++ [⟨b, d.len⟩]) }

/-- The list of the session grows by one node. -/
theorem length_packets_append (q : Queues) (d : Delivery) (b : Block) :
    ((q.append d b).packets d.session).length = (q.lists d.session).length + 1 := by
  simp [packets, append]

/-- There are as many packets as nodes in the list. -/
theorem length_packets (q : Queues) (s : SessionRef) :
    (q.packets s).length = (q.lists s).length := by
  simp [packets]

end Queues

namespace Sdk

/-- The buffer lists in a state. -/
def queues (st : Sdk) : Queues := ⟨fun s => (st.sessions s).bufferList, st.memory⟩

/-- The lists when a packet is appended in the block that the pool hands out next. -/
def queuesWith (st : Sdk) (d : Delivery) : Queues :=
  match st.pool.get with
  | none => st.queues
  | some (b, _) => (st.queues.fill d b).append d b

/-- The lists when `onRTPData` looks up the session. -/
def queuesFound (st : Sdk) (id : Word) (bytes : List Byte) (len : Word) : Queues :=
  match st.receiverMap id with
  | none => st.queues
  | some s =>
      if overflows len st.pool.blockSize then st.queues
      else st.queuesWith ⟨s, bytes, len.toInt⟩

/-- **The lists a thread that brings packets in will leave**, if it alone goes on and `receiveBytes`
does not throw. -/
def promised (st : Sdk) : Ingest → Queues
  | .lockMap id bytes len => st.queuesFound id bytes len
  | .lookup id bytes len => st.queuesFound id bytes len
  | .lockPool d => st.queuesWith d
  | .get d => st.queuesWith d
  | .fill d b => (st.queues.fill d b).append d b
  | .lockBuffer d b => st.queues.append d b
  | .push d b => st.queues.append d b
  | _ => st.queues

/-- **A delivery**: the thread `x` starts with the action `a`, and alone goes on until it is done. -/
def Delivers (st : Sdk) (x : Source) (a : Action) (st' : Sdk) : Prop :=
  ∃ n, (st.run (a :: List.replicate n (.ingest x false))).outcome = .ok st' ∧ st'.ingest x = .idle

variable {st st' : Sdk} {x : Source} {s : SessionRef}

/-! ## What a delivery leaves -/

/-- A delivery is where it was put. -/
@[simp] theorem ingest_setIngest (st : Sdk) (x : Source) (pc : Ingest) :
    (st.setIngest x pc).ingest x = pc := Function.update_self ..

/-- A mutex is in no list. -/
theorem queues_setHolder (st : Sdk) (t : Option Thread) (m : Mutex) :
    (st.setHolder t m).queues = st.queues := by
  cases m with
  | map | vector | pool => rfl
  | buffer s =>
      unfold queues setHolder setSession
      congr 1
      funext s'
      by_cases hs : s' = s
      · simp [hs]
      · simp [hs]

/-- A mutex changes hands, and the thread will leave the same lists. -/
theorem promised_setHolder (st : Sdk) (t : Option Thread) (m : Mutex) (pc : Ingest) :
    (st.setHolder t m).promised pc = st.promised pc := by
  have hpool : (st.setHolder t m).pool = st.pool := by cases m <;> rfl
  have hmap : (st.setHolder t m).receiverMap = st.receiverMap := by cases m <;> rfl
  have hwith : ∀ d, (st.setHolder t m).queuesWith d = st.queuesWith d := by
    intro d
    rw [queuesWith, queuesWith, hpool, queues_setHolder]
  have hfound : ∀ id bytes len, (st.setHolder t m).queuesFound id bytes len =
      st.queuesFound id bytes len := by
    intro id bytes len
    simp only [queuesFound, hpool, hmap, queues_setHolder, hwith]
  cases pc <;> simp only [promised, hwith, hfound, queues_setHolder]

/-- Outside the scopes nothing will be appended. -/
theorem promised_afterScope (st : Sdk) (x : Source) : st.promised (afterScope x) = st.queues := by
  cases x <;> rfl

/-- **A step of the thread keeps what it will leave.** -/
theorem stepIngest_promised (hstep : (st.stepIngest x false).outcome = .ok st') :
    st'.promised (st'.ingest x) = st.promised (st.ingest x) := by
  have hself : ∀ (st₁ : Sdk) pc, (st₁.setIngest x pc).promised ((st₁.setIngest x pc).ingest x) =
      st₁.promised pc := by
    intro st₁ pc
    rw [ingest_setIngest]
    cases pc <;> rfl
  obtain ⟨es, -, hends⟩ := (stepIngest_endsIn st x false).exists_ok hstep
  generalize st.ingest x = pc at hends
  cases hends with
  | lockMap | lockPool | lockBuffer | unlockMap =>
      rw [hself, promised_setHolder]
      rfl
  | notFound id bytes len hnone =>
      show _ = st.queuesFound id bytes len
      rw [hself, queuesFound, hnone]
      rfl
  | overflow id bytes len s hs hoverflow =>
      show _ = st.queuesFound id bytes len
      rw [hself, queuesFound, hs]
      exact (if_pos hoverflow).symm
  | found id bytes len s hs hfits =>
      show _ = st.queuesFound id bytes len
      rw [hself, queuesFound, hs]
      exact (if_neg (Bool.eq_false_iff.mp hfits)).symm
  | outOfMemory d hnone =>
      show _ = st.queuesWith d
      rw [hself, promised_setHolder, promised_afterScope, queuesWith, hnone]
  | get d b pool hget =>
      show _ = st.queuesWith d
      rw [hself, queuesWith, hget]
      rfl
  | receiveFailed d b hfails => cases hfails
  | fill d b =>
      rw [hself]
      rfl
  | push d b =>
      rw [hself]
      -- the node is in the list now
      show Queues.mk _ _ = Queues.mk _ _
      congr 1
      funext s
      by_cases hs : s = d.session
      · simp [setSession, queues, hs]
      · simp [setSession, queues, hs]
  | unlockBuffer d =>
      rw [hself, promised_setHolder, promised_afterScope]
      rfl

/-- **The thread leaves what it promised.** -/
theorem run_promised {n : ℕ}
    (hrun : (st.run (List.replicate n (.ingest x false))).outcome = .ok st') :
    st'.promised (st'.ingest x) = st.promised (st.ingest x) := by
  induction n generalizing st with
  | zero =>
      obtain rfl := Except.ok.inj hrun
      rfl
  | succ n ih =>
      obtain ⟨st₁, hstep, hrest, -⟩ := bind_eq_ok hrun
      rw [ih hrest]
      exact stepIngest_promised (ingest_ok hstep).1

/-- What a delivery leaves, from where the thread is after its first action. -/
theorem Delivers.queues_eq {a : Action} (h : st.Delivers x a st') :
    ∃ st₁, (st.step a).outcome = .ok st₁ ∧ st'.queues = st₁.promised (st₁.ingest x) := by
  obtain ⟨n, hrun, hidle⟩ := h
  obtain ⟨st₁, hstep, hrest, -⟩ := bind_eq_ok hrun
  refine ⟨st₁, hstep, ?_⟩
  rw [← run_promised hrest, hidle]
  rfl

/-- **What `onRTPData` leaves.** -/
theorem Delivers.onRTPData {t : ℕ} {id : Word} {data : Memory} {len : Word}
    (h : st.Delivers (.caller t) (.onRTPData t id data len) st') :
    st'.queues = st.queuesFound id (data.read 0 len.toInt.toNat) len := by
  obtain ⟨st₁, hstep, hqueues⟩ := h.queues_eq
  rw [hqueues]
  obtain ⟨-, rfl⟩ := onRTPData_ok hstep
  rw [ingest_setIngest]
  rfl

/-- **What a receive handler leaves.** -/
theorem Delivers.readable {type : TagType} {available : Bool} {datagram : List Byte}
    (h : st.Delivers .reactor (.readable s type available datagram) st') :
    st'.queues = if !available then st.queues
      else st.queuesWith ⟨s, datagram.take st.pool.blockSize,
        (datagram.take st.pool.blockSize).length⟩ := by
  obtain ⟨st₁, hstep, hqueues⟩ := h.queues_eq
  rw [hqueues]
  obtain ⟨hidle, -, ⟨rfl, rfl⟩ | ⟨rfl, rfl⟩⟩ := readable_ok hstep
  · rw [hidle]
    rfl
  · rw [ingest_setIngest]
    rfl

/-! ## The two ways compared -/

/-- When the pool is exhausted nothing is appended. -/
theorem queuesWith_of_exhausted (hget : st.pool.get = none) (d : Delivery) :
    st.queuesWith d = st.queues := by
  rw [queuesWith, hget]

/-- With a free block a packet is appended, and the list is not what it was. -/
theorem packets_queuesWith_ne (hget : st.pool.get ≠ none) (d : Delivery) :
    (st.queuesWith d).packets d.session ≠ st.queues.packets d.session := by
  intro heq
  have hlength := congrArg List.length heq
  unfold queuesWith at hlength
  split at hlength
  · next hnone => exact hget hnone
  · next b pool _ =>
      rw [Queues.length_packets_append, Queues.length_packets] at hlength
      exact Nat.succ_ne_self _ hlength

/-- **The two checks of the length**: what `onRTPData` leaves is what a receive handler leaves if
the datagram has at least one byte and fits into a block, or if no block is left. -/
theorem packets_agree_iff {id : Word} {len : Word} {datagram : List Byte}
    (hblocks : st.pool.blockSize < 2 ^ 31) (hmap : st.receiverMap id = some s)
    (hlen : len.toInt = datagram.length) :
    (st.queuesFound id datagram len).packets s =
        (if !decide (datagram ≠ []) then st.queues
          else st.queuesWith ⟨s, datagram.take st.pool.blockSize,
            (datagram.take st.pool.blockSize).length⟩).packets s ↔
      1 ≤ datagram.length ∧ datagram.length ≤ st.pool.blockSize ∨ st.pool.get = none := by
  -- `onRTPData` drops what does not fit into a block
  have hoverflows : overflows len st.pool.blockSize = false ↔
      datagram.length ≤ st.pool.blockSize := by
    rw [overflows_eq_false_iff hblocks, hlen]
    omega
  have hfound : st.queuesFound id datagram len =
      if overflows len st.pool.blockSize then st.queues
      else st.queuesWith ⟨s, datagram, datagram.length⟩ := by
    rw [queuesFound, hmap, ← hlen]
  rw [hfound]
  by_cases hget : st.pool.get = none
  · -- neither way gets a block
    simp only [queuesWith_of_exhausted hget, ite_self, hget, or_true]
  · rw [or_iff_left hget]
    by_cases hempty : datagram = []
    -- an empty datagram: `onRTPData` makes a packet of it, the handler does not
    · subst hempty
      have hfits : overflows len st.pool.blockSize = false := hoverflows.mpr (Nat.zero_le _)
      rw [hfits]
      constructor
      · intro heq
        exact absurd heq (packets_queuesWith_ne hget _)
      · rintro ⟨hlong, -⟩
        exact absurd hlong (Nat.not_succ_le_zero 0)
    -- any other: the handler cuts it to a block
    · have hlong : 1 ≤ datagram.length := List.length_pos_iff.mpr hempty
      have havailable : (!decide (datagram ≠ [])) = false := by simp [hempty]
      rw [havailable]
      by_cases hshort : datagram.length ≤ st.pool.blockSize
      · rw [hoverflows.mpr hshort, if_neg Bool.false_ne_true, if_neg Bool.false_ne_true,
          List.take_of_length_le hshort]
        exact iff_of_true rfl ⟨hlong, hshort⟩
      · have hoverflow : overflows len st.pool.blockSize = true := by
          rw [← Bool.not_eq_false, hoverflows]
          exact hshort
        rw [if_pos hoverflow, if_neg Bool.false_ne_true]
        constructor
        · intro heq
          exact absurd heq.symm (packets_queuesWith_ne hget _)
        · rintro ⟨-, h⟩
          exact absurd h hshort

/-! ## Deliveries that nobody is in the way of -/

/-- The session a delivery is about to reach; `onRTPData` has yet to find it. -/
def destination (st : Sdk) : Ingest → Option SessionRef
  | .lockMap id _ _ => st.receiverMap id
  | .lookup id _ _ => st.receiverMap id
  | pc => pc.session?

/-- A delivery that has its session goes there. -/
theorem destination_of_session {st : Sdk} {pc : Ingest} {s : SessionRef}
    (h : pc.session? = some s) : st.destination pc = some s := by
  cases pc <;> first | exact h | cases h

/-- The steps before a thread is done, at most. -/
def stepsLeft : Ingest → ℕ
  | .idle => 0
  | .unlockMap => 1
  | .unlockBuffer _ => 2
  | .push _ _ => 3
  | .lockBuffer _ _ => 4
  | .fill _ _ => 5
  | .get _ => 6
  | .lockPool _ => 7
  | .lookup _ _ _ => 8
  | .lockMap _ _ _ => 9

/-- The mutexes a delivery to a session locks. -/
def locksFor (s : SessionRef) : List Mutex := [.map, .pool, .buffer s]

/-- **Nobody is in the way** of a delivery to a session: it is not deleted, and no other thread is
inside a mutex that the delivery locks. -/
structure Clear (st : Sdk) (x : Source) (s : SessionRef) : Prop where
  alive : (st.sessions s).deleted = false
  destination : ∀ s', st.destination (st.ingest x) = some s' → s' = s
  others : ∀ m ∈ locksFor s, ∀ th, th ≠ .source x → m ∉ st.holds th

/-- A thread that brings packets in can go on. -/
theorem stepIngest_returns (fails : Bool) (hpc : st.ingest x ≠ .idle) :
    ∃ st', (st.stepIngest x fails).outcome = .ok st' := by
  unfold stepIngest
  cases h : st.ingest x
  case idle => exact absurd h hpc
  case lookup id bytes len =>
    dsimp only
    split
    · exact ⟨_, rfl⟩
    · split <;> exact ⟨_, rfl⟩
  case get | fill =>
    dsimp only
    split <;> exact ⟨_, rfl⟩
  all_goals exact ⟨_, rfl⟩

/-- Where a step leaves the thread: nearer to the end, and on the way to the same session. -/
theorem nearer_setIngest {r : Sdk} {p q : Ingest} (hless : stepsLeft q < stepsLeft p)
    (hsession : ∀ s, r.destination q = some s → st.destination p = some s) :
    stepsLeft ((r.setIngest x q).ingest x) < stepsLeft p ∧
      ∀ s, (r.setIngest x q).destination ((r.setIngest x q).ingest x) = some s →
        st.destination p = some s := by
  rw [ingest_setIngest]
  refine ⟨hless, fun s hs => hsession s ?_⟩
  rw [← hs]
  cases q <;> rfl

/-- **Each step brings a thread nearer to its end**, and it stays on the way to one session. -/
theorem stepIngest_nearer {fails : Bool} (hstep : (st.stepIngest x fails).outcome = .ok st') :
    stepsLeft (st'.ingest x) < stepsLeft (st.ingest x) ∧
      ∀ s, st'.destination (st'.ingest x) = some s → st.destination (st.ingest x) = some s := by
  have hafter : stepsLeft (afterScope x) < 2 := by
    cases x
    · exact Nat.lt_succ_self 1
    · exact Nat.two_pos
  have hnowhere : ∀ (r : Sdk) (p : Ingest) s, r.destination (afterScope x) = some s →
      st.destination p = some s := by
    intro r p s hs
    cases x <;> cases hs
  obtain ⟨es, -, hends⟩ := (stepIngest_endsIn st x fails).exists_ok hstep
  generalize st.ingest x = pc at hends
  cases hends with
  | lockMap => exact nearer_setIngest (Nat.lt_succ_self 8) fun _ hs => hs
  | notFound | overflow =>
      have hone : stepsLeft .unlockMap < 8 := by decide
      exact nearer_setIngest hone nofun
  | found id bytes len s hs =>
      refine nearer_setIngest (Nat.lt_succ_self 7) ?_
      rintro s' ⟨⟩
      exact hs
  | lockPool => exact nearer_setIngest (Nat.lt_succ_self 6) fun _ hs => hs
  | outOfMemory => exact nearer_setIngest (hafter.trans (by decide : 2 < 6)) (hnowhere _ _)
  | get => exact nearer_setIngest (Nat.lt_succ_self 5) fun _ hs => hs
  | receiveFailed => exact nearer_setIngest (Nat.succ_pos 4) nofun
  | fill => exact nearer_setIngest (Nat.lt_succ_self 4) fun _ hs => hs
  | lockBuffer => exact nearer_setIngest (Nat.lt_succ_self 3) fun _ hs => hs
  | push => exact nearer_setIngest (Nat.lt_succ_self 2) fun _ hs => hs
  | unlockBuffer => exact nearer_setIngest hafter (hnowhere _ _)
  | unlockMap => exact nearer_setIngest Nat.one_pos nofun

/-- The mutex a delivery waits for is one of those it locks. -/
theorem mem_locksFor {pc : Ingest} {m : Mutex} (hwants : pc.wants = some m)
    (hsession : ∀ s', pc.session? = some s' → s' = s) : m ∈ locksFor s := by
  cases pc
  case lockMap =>
    obtain rfl := Option.some.inj hwants
    simp [locksFor]
  case lockPool =>
    obtain rfl := Option.some.inj hwants
    simp [locksFor]
  case lockBuffer d b =>
    obtain rfl := Option.some.inj hwants
    simp [locksFor, hsession _ rfl]
  all_goals cases hwants

/-- The session a step accesses is the one the delivery is for. -/
theorem session_of_touches {pc : Ingest} {s' : SessionRef} (h : pc.touches = some s') :
    pc.session? = some s' := by
  cases pc <;> first | exact h | cases h

/-- **One step of a delivery that nobody is in the way of.** -/
theorem Clear.step (h : st.Coherent) (hclear : st.Clear x s) (hpc : st.ingest x ≠ .idle) :
    ∃ st', (st.step (.ingest x false)).outcome = .ok st' ∧ st'.Clear x s ∧
      stepsLeft (st'.ingest x) < stepsLeft (st.ingest x) := by
  have hsession : ∀ s', (st.ingest x).session? = some s' → s' = s := by
    intro s' hs'
    exact hclear.destination s' (destination_of_session hs')
  -- the session it accesses is not deleted
  have halive : st.dangling (.source x) = false := by
    unfold dangling
    rw [← Bool.not_eq_true, Option.any_eq_true]
    rintro ⟨s', htouches, hdeleted⟩
    rw [hsession s' (session_of_touches htouches), hclear.alive] at hdeleted
    cases hdeleted
  -- and nobody holds the mutex it waits for
  have hfree : st.blocked (.source x) = false := by
    unfold blocked
    rw [← Bool.not_eq_true, Option.any_eq_true]
    rintro ⟨m, hwants, hheld⟩
    obtain ⟨th, hth⟩ := Option.isSome_iff_exists.mp hheld
    have hholds : m ∈ st.holds th := (h.locked m th).mp hth
    by_cases hx : th = .source x
    · -- the thread would wait for itself
      subst hx
      exact Nat.lt_irrefl _ (rank_lt_of_wants hwants m hholds)
    · exact hclear.others m (mem_locksFor hwants hsession) th hx hholds
  have hguarded : st.guarded (.source x) (st.stepIngest x false) = st.stepIngest x false := by
    simp [guarded, halive, hfree]
  obtain ⟨st', hstep⟩ := stepIngest_returns false hpc
  -- so the step is taken, and the others stay where they are
  obtain ⟨hless, hdestination⟩ := stepIngest_nearer hstep
  have hsame := stepIngest_sameControlData hstep
  have hposition := (stepIngest_sections (h.possible (.source x)) hstep).position
  refine ⟨st', by rw [Sdk.step, hguarded, hstep], ⟨?_, ?_, ?_⟩, hless⟩
  · rw [hsame.deleted]
    exact hclear.alive
  · exact fun s' hs' => hclear.destination s' (hdestination s' hs')
  · intro m hm th hth
    have hstays : st'.position th = st.position th := by
      rw [hposition, Function.update_of_ne hth]
    have hholds : st'.holds th = st.holds th := congrArg Position.holds hstays
    rw [hholds]
    exact hclear.others m hm th hth

/-- **A delivery that nobody is in the way of comes to its end.** -/
theorem Clear.run (h : st.Coherent) (hclear : st.Clear x s) :
    ∃ n st', (st.run (List.replicate n (.ingest x false))).outcome = .ok st' ∧
      st'.ingest x = .idle := by
  -- the thread gets nearer to its end with each step
  generalize hleft : stepsLeft (st.ingest x) = left
  induction left using Nat.strong_induction_on generalizing st with
  | _ left ih =>
      by_cases hidle : st.ingest x = .idle
      · exact ⟨0, st, rfl, hidle⟩
      · obtain ⟨st₁, hstep, hclear₁, hless⟩ := hclear.step h hidle
        obtain ⟨n, st', hrun, hdone⟩ :=
          ih _ (hleft ▸ hless) (step_coherent h hstep) hclear₁ rfl
        refine ⟨n + 1, st', ?_, hdone⟩
        rw [List.replicate_succ, Sdk.run, run_cons_of_ok hstep]
        exact hrun

/-- A delivery that has begun, and that nobody is in the way of. -/
theorem delivers_of_clear {a : Action} {st₁ : Sdk} (h : st.Coherent)
    (hstep : (st.step a).outcome = .ok st₁) (hclear : st₁.Clear x s) :
    ∃ st', st.Delivers x a st' := by
  obtain ⟨n, st', hrun, hidle⟩ := hclear.run (step_coherent h hstep)
  refine ⟨st', n, ?_, hidle⟩
  rw [Sdk.run, run_cons_of_ok hstep]
  exact hrun

/-- Nobody is in the way of a thread on its way to a session whose mutexes are free. -/
theorem clear_setIngest (h : st.Coherent) {pc : Ingest} (halive : (st.sessions s).deleted = false)
    (hfree : ∀ m ∈ locksFor s, st.holder m = none)
    (hsession : ∀ s', st.destination pc = some s' → s' = s) : (st.setIngest x pc).Clear x s where
  alive := halive
  destination := by
    rw [ingest_setIngest]
    intro s' hs'
    apply hsession
    rw [← hs']
    cases pc <;> rfl
  others := by
    intro m hm th hth hholds
    have hsame : (st.goTo (.ingest x pc)).holds th = st.holds th := by
      rw [holds_goTo]
      exact Function.update_of_ne hth _ _
    rw [show (st.setIngest x pc).holds th = st.holds th from hsame, ← h.locked m th,
      hfree m hm] at hholds
    cases hholds

/-! ## The two ways, in every state -/

/-- A socket of a session gets a datagram: `available()` reports how many bytes it has. -/
def Action.received (s : SessionRef) (type : TagType) (datagram : List Byte) : Action :=
  .readable s type (decide (datagram ≠ [])) datagram

/-- **Both ways to a session are open**: it is not deleted, its socket is registered, and neither
the caller nor the reactor has to wait. -/
structure WaysOpen (st : Sdk) (t : ℕ) (s : SessionRef) (type : TagType) : Prop where
  alive : (st.sessions s).deleted = false
  registered : ⟨s, type, true⟩ ∈ st.handlers
  caller : st.ingest (.caller t) = .idle
  reactor : st.ingest .reactor = .idle
  free : ∀ m ∈ locksFor s, st.holder m = none

/-- A caller of `onRTPData` comes to the end of its call. -/
theorem WaysOpen.onRTPData {t : ℕ} {type : TagType} (hopen : st.WaysOpen t s type)
    (h : st.Coherent) {id : Word} (hmap : st.receiverMap id = some s) (data : Memory) (len : Word) :
    ∃ st', st.Delivers (.caller t) (.onRTPData t id data len) st' := by
  have hclear : (st.setIngest (.caller t)
      (.lockMap id (data.read 0 len.toInt.toNat) len)).Clear (.caller t) s := by
    apply clear_setIngest h hopen.alive hopen.free
    intro s' hs'
    exact Option.some.inj (hs'.symm.trans hmap)
  refine delivers_of_clear h ?_ hclear
  simp only [step, callIngest, hopen.caller]
  rfl

/-- The reactor comes to the end of the receive handler. -/
theorem WaysOpen.received {t : ℕ} {type : TagType} (hopen : st.WaysOpen t s type)
    (h : st.Coherent) (datagram : List Byte) :
    ∃ st', st.Delivers .reactor (.received s type datagram) st' := by
  by_cases hempty : datagram = []
  · refine ⟨st, 0, ?_, hopen.reactor⟩
    have hstep : st.step (.received s type datagram) = pure st := by
      simp [Action.received, step, dispatch, hopen.reactor, hopen.registered, hempty]
    rw [List.replicate_zero, Sdk.run, run_cons, hstep]
    rfl
  · have hclear : (st.setIngest .reactor (.lockPool ⟨s, datagram.take st.pool.blockSize,
        (datagram.take st.pool.blockSize).length⟩)).Clear .reactor s := by
      apply clear_setIngest h hopen.alive hopen.free
      rintro s' ⟨⟩
      rfl
    refine delivers_of_clear h ?_ hclear
    simp [Action.received, step, dispatch, hopen.reactor, hopen.registered, hempty]

/-- **The two ways in agree** on a datagram exactly when it has at least one byte and fits into a
block, or when the pool is exhausted; and where both ways are open both come to their end. -/
theorem deliveries_agree_iff {memory : Block → Memory} (hreach : Reaches step (construct memory) st)
    {id : Word} (hmap : st.receiverMap id = some s) {data : Memory} {len : Word}
    {datagram : List Byte} (hbytes : data.read 0 datagram.length = datagram)
    (hlen : len.toInt = datagram.length) (t : ℕ) (type : TagType) :
    (st.WaysOpen t s type →
      (∃ st₁, st.Delivers (.caller t) (.onRTPData t id data len) st₁) ∧
        ∃ st₂, st.Delivers .reactor (.received s type datagram) st₂) ∧
      ∀ st₁ st₂, st.Delivers (.caller t) (.onRTPData t id data len) st₁ →
        st.Delivers .reactor (.received s type datagram) st₂ →
        (st₁.queues.packets s = st₂.queues.packets s ↔
          1 ≤ datagram.length ∧ datagram.length ≤ 1500 ∨ st.pool.get = none) := by
  have hcoherent := coherent_of_reaches hreach
  have hblocks := blockSize_of_reaches hreach
  refine ⟨fun hopen => ⟨hopen.onRTPData hcoherent hmap data len, hopen.received hcoherent datagram⟩,
    fun st₁ st₂ hcaller hreactor => ?_⟩
  have hread : data.read 0 len.toInt.toNat = datagram := by
    rw [hlen, Int.toNat_natCast, hbytes]
  rw [hcaller.onRTPData, hread, hreactor.readable,
    packets_agree_iff (by rw [hblocks]; decide) hmap hlen, hblocks]

/-- Three bytes come in through the socket, or are passed to `onRTPData`. -/
theorem deliveries_agree_iff_three_bytes :
    ∃ st st₁ st₂, (run (construct fun _ _ => 0) sampleAdd).outcome = .ok st ∧
      st.Delivers (.caller 0) (.onRTPData 0 1 (.ofList [1, 2, 3]) 3) st₁ ∧
      st.Delivers .reactor (.received 0 .video [1, 2, 3]) st₂ ∧
      st₁.queues.packets 0 = st₂.queues.packets 0 ∧
      st₂.queues.packets 0 = [(⟨9, 3⟩, [1, 2, 3])] := by
  refine ⟨_, _, _, rfl, ⟨9, rfl, rfl⟩, ⟨6, rfl, rfl⟩, ?_, by decide⟩
  have hagree := @deliveries_agree_iff _ 0 (fun _ _ => 0) ⟨sampleAdd, rfl⟩ 1 rfl (.ofList [1, 2, 3]) 3
    [1, 2, 3] rfl rfl 0 .video
  refine (hagree.2 _ _ ⟨9, rfl, rfl⟩ ⟨6, rfl, rfl⟩).mpr (.inl ?_)
  decide

/-- **The two ways disagree** on a datagram of 1501 bytes, which `onRTPData` turns away and
`receiveBytes` cuts, and on an empty one, for which only `onRTPData` appends a packet. -/
theorem deliveries_disagree :
    ∃ st, (run (construct fun _ _ => 0) sampleAdd).outcome = .ok st ∧
      (∃ st₁ st₂, st.Delivers (.caller 0) (.onRTPData 0 1 (fun _ => 0) 1501) st₁ ∧
        st.Delivers .reactor (.received 0 .video (List.replicate 1501 0)) st₂ ∧
        st₁.queues.lists 0 = [] ∧ st₂.queues.lists 0 = [⟨9, 1500⟩]) ∧
      ∃ st₁ st₂, st.Delivers (.caller 0) (.onRTPData 0 1 (fun _ => 0) 0) st₁ ∧
        st.Delivers .reactor (.received 0 .video []) st₂ ∧
        st₁.queues.lists 0 = [⟨9, 0⟩] ∧ st₂.queues.lists 0 = [] := by
  have hcut : ∀ n : ℕ, ((List.replicate (n + 1) (0 : Byte)).take n).length = n := by
    intro n
    rw [List.length_take, List.length_replicate]
    omega
  refine ⟨_, rfl, ⟨_, _, ⟨3, rfl, rfl⟩, ⟨6, rfl, rfl⟩, rfl, ?_⟩,
    _, _, ⟨9, rfl, rfl⟩, ⟨0, rfl, rfl⟩, rfl, rfl⟩
  show [(⟨9, ((List.replicate (1500 + 1) (0 : Byte)).take 1500).length⟩ : BufferNode)] = _
  rw [hcut]
  rfl

end Sdk

end RtpCapture
