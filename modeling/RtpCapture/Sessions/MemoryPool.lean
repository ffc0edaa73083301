import RtpCapture.Foundations.Ownership

/-! # The memory pool

The vendored `Poco::MemoryPool`: a vector of free blocks of one size. `get` hands out the block at
the back, or a new one as long as fewer than the maximum have been allocated; `release` puts a block
back. Blocks are named by the order in which they were allocated.

* **`MemoryPool.get_eq_none_iff`** — when the pool is exhausted.
* **`MemoryPool.Tracks`** — the free blocks and the blocks never allocated, as places of the blocks;
  `Tracks.get` and `Tracks.release` move one block. -/

namespace RtpCapture

/-- A block of the pool, by the order of allocation. -/
abbrev Block := ℕ

/-- **The fields of `MemoryPool`.** -/
structure MemoryPool where
  blockSize : ℕ
  maxAlloc : ℕ
  allocated : ℕ
  /-- `_blocks`, from the back to the front. -/
  blocks : List Block
  deriving DecidableEq, Repr

namespace MemoryPool

/-- `MemoryPool::MemoryPool`: the first blocks are allocated at once. -/
def construct (blockSize preAlloc maxAlloc : ℕ) : MemoryPool where
  blockSize := blockSize
  maxAlloc := maxAlloc
  allocated := preAlloc
  blocks := (List.range preAlloc).reverse

/-- `MemoryPool::get`; nothing stands for the `OutOfMemoryException`. -/
def get (p : MemoryPool) : Option (Block × MemoryPool) :=
  match p.blocks with
  | [] =>
      if p.maxAlloc = 0 ∨ p.allocated < p.maxAlloc then
        some (p.allocated, { p with allocated := p.allocated + 1 })
      else none
  | b :: bs => some (b, { p with blocks := bs })

/-- `MemoryPool::release`. -/
def release (p : MemoryPool) (b : Block) : MemoryPool := { p with blocks := b :: p.blocks }

/-- Releasing a block does not change their size. -/
@[simp] theorem blockSize_release (p : MemoryPool) (b : Block) :
    (p.release b).blockSize = p.blockSize := rfl

/-- **The pool is exhausted** when nothing is free and the maximum has been allocated. -/
theorem get_eq_none_iff (p : MemoryPool) :
    p.get = none ↔ p.blocks = [] ∧ p.maxAlloc ≠ 0 ∧ p.maxAlloc ≤ p.allocated := by
  unfold get
  cases hblocks : p.blocks with
  | nil => simp [not_or]
  | cons b bs => simp

/-- What `get` hands out: the block at the back, or a new one. -/
theorem get_cases {p p' : MemoryPool} {b : Block} (h : p.get = some (b, p')) :
    p.blocks = b :: p'.blocks ∧ p' = { p with blocks := p'.blocks } ∨
      p.blocks = [] ∧ b = p.allocated ∧ p' = { p with allocated := p.allocated + 1 } := by
  unfold get at h
  cases hblocks : p.blocks with
  | nil =>
      rw [hblocks] at h
      dsimp only at h
      split at h
      · obtain ⟨rfl, rfl⟩ := Prod.mk.inj (Option.some.inj h)
        exact .inr ⟨rfl, rfl, rfl⟩
      · cases h
  | cons b' bs =>
      rw [hblocks] at h
      obtain ⟨rfl, rfl⟩ := Prod.mk.inj (Option.some.inj h)
      exact .inl ⟨rfl, rfl⟩

/-- Neither does getting one. -/
theorem blockSize_of_get {p p' : MemoryPool} {b : Block} (h : p.get = some (b, p')) :
    p'.blockSize = p.blockSize := by
  rcases get_cases h with ⟨-, hp'⟩ | ⟨-, -, rfl⟩
  · rw [hp']
  · rfl

/-! ## The pool as a place -/

variable {π : Type} {owner : Block → π} {fresh free p : π}

/-- **The pool holds the free blocks**, and the blocks never allocated are at the place `fresh`. -/
structure Tracks (pool : MemoryPool) (owner : Block → π) (fresh free : π) : Prop where
  fresh_iff : ∀ b, owner b = fresh ↔ pool.allocated ≤ b
  free : Holds owner free pool.blocks

/-- The pool as it is constructed: the first blocks are free. -/
theorem tracks_construct (blockSize preAlloc maxAlloc : ℕ) (hdistinct : fresh ≠ free) :
    (construct blockSize preAlloc maxAlloc).Tracks
      (fun b => if b < preAlloc then free else fresh) fresh free where
  fresh_iff := fun b => by simp [construct, hdistinct.symm]
  free := ⟨List.nodup_reverse.mpr List.nodup_range, fun b => by simp [construct, hdistinct]⟩

/-- **`get` takes a block** that was free or never allocated. -/
theorem Tracks.get {pool pool' : MemoryPool} {b : Block} (h : pool.Tracks owner fresh free)
    (hget : pool.get = some (b, pool')) (hfresh : p ≠ fresh) (hfree : p ≠ free)
    (hdistinct : fresh ≠ free) :
    (owner b = fresh ∨ owner b = free) ∧
      pool'.Tracks (Function.update owner b p) fresh free := by
  rcases get_cases hget with ⟨hblocks, hpool⟩ | ⟨hblocks, rfl, rfl⟩
  · have hholds := h.free
    rw [hblocks] at hholds
    have howner : owner b = free := hholds.owner_eq List.mem_cons_self
    refine ⟨.inr howner, fun b' => ?_, hholds.leave hfree⟩
    rw [hpool]
    by_cases hb : b' = b
    · subst hb
      have hallocated : ¬ pool.allocated ≤ b' := by
        rw [← h.fresh_iff, howner]
        exact hdistinct.symm
      simp [hfresh, hallocated]
    · rw [Function.update_of_ne hb]
      exact h.fresh_iff b'
  · have howner : owner pool.allocated = fresh := (h.fresh_iff _).mpr (Nat.le_refl _)
    refine ⟨.inl howner, fun b' => ?_, ?_⟩
    · by_cases hb : b' = pool.allocated
      · subst hb
        simp [hfresh]
      · rw [Function.update_of_ne hb, h.fresh_iff b']
        exact ⟨fun hle => Nat.lt_of_le_of_ne hle (Ne.symm hb), Nat.le_of_succ_le⟩
    · exact h.free.frame (by rw [howner]; exact hdistinct) hfree

/-- **`release` puts a block back** that was elsewhere. -/
theorem Tracks.release {pool : MemoryPool} {b : Block} (h : pool.Tracks owner fresh free)
    (hfresh : owner b ≠ fresh) (hfree : owner b ≠ free) (hdistinct : fresh ≠ free) :
    (pool.release b).Tracks (Function.update owner b free) fresh free := by
  refine ⟨fun b' => ?_, h.free.enter hfree (List.Perm.refl _)⟩
  by_cases hb : b' = b
  · subst hb
    have hallocated : ¬ pool.allocated ≤ b' := fun hle => hfresh ((h.fresh_iff b').mpr hle)
    simp [MemoryPool.release, hallocated, hdistinct.symm]
  · rw [Function.update_of_ne hb]
    exact h.fresh_iff b'

/-- A block that moves between other places leaves the pool alone. -/
theorem Tracks.frame {pool : MemoryPool} {b : Block} (h : pool.Tracks owner fresh free)
    (hfresh : owner b ≠ fresh) (hfree : owner b ≠ free) (hfresh' : p ≠ fresh) (hfree' : p ≠ free) :
    pool.Tracks (Function.update owner b p) fresh free := by
  refine ⟨fun b' => ?_, h.free.frame hfree hfree'⟩
  by_cases hb : b' = b
  · subst hb
    have hallocated : ¬ pool.allocated ≤ b' := fun hle => hfresh ((h.fresh_iff b').mpr hle)
    simp [hfresh', hallocated]
  · rw [Function.update_of_ne hb]
    exact h.fresh_iff b'

end MemoryPool

end RtpCapture
