import Mathlib.Data.List.Nodup
import Mathlib.Logic.Function.Basic

/-! # Resources with one owner

A set of resources is distributed over places, each resource being at one place at a time. The
distribution is a function from resources to places; what a place holds is given as a list without
repetition.

* **`Holds owner p l`** — the place `p` holds exactly the resources in `l`.
* **`Holds.leave`**, **`Holds.enter`**, **`Holds.frame`** — moving one resource: the place it leaves,
  the place it goes to, and every other place.
* **`Distributed void owner contents`** — all places together, but for one whose contents are not
  listed; `Distributed.move` and `Distributed.arrive` move a resource, and
  `Distributed.mem_flatMap_iff` collects what all places hold. -/

universe u v

variable {α : Type u} {π : Type v}

/-- **The place `p` holds exactly the resources in `l`**, each once. -/
structure Holds (owner : α → π) (p : π) (l : List α) : Prop where
  nodup : l.Nodup
  mem_iff : ∀ a, a ∈ l ↔ owner a = p

namespace Holds

variable {owner : α → π} {p q : π} {a : α} {l m : List α}

/-- The owner of a resource that a place holds. -/
theorem owner_eq (h : Holds owner p l) (ha : a ∈ l) : owner a = p := (h.mem_iff a).mp ha

variable [DecidableEq α]

/-- **The place a resource leaves.** -/
theorem leave (h : Holds owner p (a :: l)) (hne : q ≠ p) :
    Holds (Function.update owner a q) p l := by
  obtain ⟨hnot, hnodup⟩ := List.nodup_cons.mp h.nodup
  refine ⟨hnodup, fun b => ?_⟩
  by_cases hb : b = a
  · subst hb
    simp [hnot, hne]
  · rw [Function.update_of_ne hb, ← h.mem_iff b]
    simp [hb]

/-- **A place that the move does not concern.** -/
theorem frame (h : Holds owner p l) (hleave : owner a ≠ p) (henter : q ≠ p) :
    Holds (Function.update owner a q) p l := by
  refine ⟨h.nodup, fun b => ?_⟩
  by_cases hb : b = a
  · subst hb
    simp [h.mem_iff b, hleave, henter]
  · rw [Function.update_of_ne hb]
    exact h.mem_iff b

/-- **The place a resource goes to**, listed in any order. -/
theorem enter (h : Holds owner p l) (hne : owner a ≠ p) (hm : m.Perm (a :: l)) :
    Holds (Function.update owner a p) p m := by
  have hnot : a ∉ l := fun ha => hne (h.owner_eq ha)
  refine ⟨hm.nodup_iff.mpr (List.nodup_cons.mpr ⟨hnot, h.nodup⟩), fun b => ?_⟩
  rw [hm.mem_iff]
  by_cases hb : b = a
  · subst hb
    simp
  · rw [Function.update_of_ne hb, ← h.mem_iff b]
    simp [hb]

end Holds

/-! ## All places -/

/-- **Every place but `void` holds what is listed for it.** -/
def Distributed (void : π) (owner : α → π) (contents : π → List α) : Prop :=
  ∀ p, p ≠ void → Holds owner p (contents p)

namespace Distributed

variable {void p q : π} {owner : α → π} {contents : π → List α} {a : α} {l m : List α}

/-- A resource is listed at one place only. -/
theorem eq_of_mem (h : Distributed void owner contents) (hp : p ≠ void) (hq : q ≠ void)
    (hap : a ∈ contents p) (haq : a ∈ contents q) : p = q :=
  ((h p hp).owner_eq hap).symm.trans ((h q hq).owner_eq haq)

variable {ps : List π}

/-- What some places hold together has no repetition. -/
theorem nodup_flatMap (h : Distributed void owner contents) (hps : ps.Nodup)
    (hvoid : void ∉ ps) : (ps.flatMap contents).Nodup := by
  have hne : ∀ p ∈ ps, p ≠ void := by
    rintro p hp rfl
    exact hvoid hp
  refine List.nodup_flatMap.mpr ⟨fun p hp => (h p (hne p hp)).nodup, ?_⟩
  refine hps.imp_of_mem fun {p q} hp hq hpq => ?_
  intro a hap haq
  exact hpq (h.eq_of_mem (hne p hp) (hne q hq) hap haq)

/-- When every other place is empty, these places hold everything that is not at `void`. -/
theorem mem_flatMap_iff (h : Distributed void owner contents) (hvoid : void ∉ ps)
    (hempty : ∀ p, p ≠ void → p ∉ ps → contents p = []) :
    a ∈ ps.flatMap contents ↔ owner a ≠ void := by
  rw [List.mem_flatMap]
  constructor
  · rintro ⟨p, hp, ha⟩ howner
    have hne : p ≠ void := by
      rintro rfl
      exact hvoid hp
    exact hne (((h p hne).owner_eq ha).symm.trans howner)
  · intro howner
    have ha : a ∈ contents (owner a) := ((h _ howner).mem_iff a).mpr rfl
    refine ⟨owner a, by_contra fun hnot => ?_, ha⟩
    rw [hempty _ howner hnot] at ha
    cases ha

variable [DecidableEq α] [DecidableEq π]

/-- **A resource arrives** from `void` at a place. -/
theorem arrive (h : Distributed void owner contents) (ha : owner a = void) (hq : q ≠ void)
    (hm : m.Perm (a :: contents q)) :
    Distributed void (Function.update owner a q) (Function.update contents q m) := by
  intro r hr
  by_cases hrq : r = q
  · subst hrq
    rw [Function.update_self]
    exact (h r hr).enter (by rw [ha]; exact hq.symm) hm
  · rw [Function.update_of_ne hrq]
    exact (h r hr).frame (by rw [ha]; exact hr.symm) (Ne.symm hrq)

/-- **A resource moves** from one place to another. -/
theorem move (h : Distributed void owner contents) (hp : p ≠ void) (hq : q ≠ void) (hne : p ≠ q)
    (hl : contents p = a :: l) (hm : m.Perm (a :: contents q)) :
    Distributed void (Function.update owner a q)
      (Function.update (Function.update contents p l) q m) := by
  have howner : owner a = p := (h p hp).owner_eq (by simp [hl])
  intro r hr
  by_cases hrq : r = q
  · subst hrq
    rw [Function.update_self]
    exact (h r hr).enter (by rw [howner]; exact hne) hm
  rw [Function.update_of_ne hrq]
  by_cases hrp : r = p
  · subst hrp
    have hholds := h r hr
    rw [hl] at hholds
    rw [Function.update_self]
    exact hholds.leave hne.symm
  · rw [Function.update_of_ne hrp]
    exact (h r hr).frame (by rw [howner]; exact Ne.symm hrp) (Ne.symm hrq)

end Distributed
