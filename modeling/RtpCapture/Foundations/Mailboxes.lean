import RtpCapture.Foundations.Traced
import RtpCapture.Foundations.Ownership
import Mathlib.Data.Set.Insert

/-! # Mailboxes over recycled blocks

Messages travel in blocks of memory. A thread takes a block from a common stock, writes its message
into it and posts a note that names the block in a mailbox; one consumer takes the notes out of the
mailboxes in order, works on each message and puts the block back. A mailbox can be closed: the
consumer does not touch it any more, and other threads may throw its notes away.

* **`Mailboxes.Step`** — the moves, with the side conditions under which each is allowed, and what
  can be observed of them (`MailEvent`).
* **`Mailboxes.Run.entries_initial`** — what the consumer worked on is a prefix of what was posted:
  no message is lost, repeated, reordered or altered before it is read.
* **`Mailboxes.Run.entered_allowed`** — the consumer is never on two messages of a mailbox at once,
  and on none after the mailbox was retired. -/

universe u

/-- Where a block is. -/
inductive Place (θ σ : Type u)
  /-- It was never handed out. -/
  | fresh
  /-- It is in the stock. -/
  | free
  | hand (t : θ)
  | box (s : σ)
  /-- Nobody will ever give it back. -/
  | lost

/-- How far the consumer is with the note it took last. -/
inductive Stage (σ ν : Type u)
  | idle
  | taken (s : σ) (n : ν)
  | inside (s : σ) (n : ν)

/-- The note the consumer is on. -/
def Stage.current {σ ν : Type u} : Stage σ ν → Option (σ × ν)
  | .idle => none
  | .taken s n => some (s, n)
  | .inside s n => some (s, n)

/-- **What can be observed of the mailboxes.** -/
inductive MailEvent (σ π : Type u)
  | posted (s : σ) (p : π)
  /-- The consumer starts to work on a message, and ends. -/
  | entered (s : σ) (p : π)
  | left (s : σ)
  /-- It is announced that a mailbox is closed. -/
  | retired (s : σ)

/-- **How messages are carried**: the block a note names, the message it stands for when the block
has some contents, and the thread that consumes. -/
structure Carrier (θ ν β μ π : Type u) where
  block : ν → β
  view : μ → ν → π
  consumer : θ

/-- **The state of the mailboxes.** -/
structure Mailboxes (θ σ ν β μ : Type u) where
  owner : β → Place θ σ
  memory : β → μ
  box : σ → List ν
  stage : Stage σ ν
  closed : Set σ

namespace MailEvent

variable {σ π : Type u} [DecidableEq σ]

/-- The messages posted in a mailbox. -/
def posts (s : σ) (history : List (MailEvent σ π)) : List π :=
  history.filterMap fun e => match e with
    | .posted s' p => if s' = s then some p else none
    | _ => none

/-- The messages of a mailbox the consumer worked on. -/
def entries (s : σ) (history : List (MailEvent σ π)) : List π :=
  history.filterMap fun e => match e with
    | .entered s' p => if s' = s then some p else none
    | _ => none

/-- The consumer started on a message of the mailbox and did not end. -/
def isInside (s : σ) (history : List (MailEvent σ π)) : Bool :=
  history.foldl (fun inside e => match e with
    | .entered s' _ => if s' = s then true else inside
    | .left s' => if s' = s then false else inside
    | _ => inside) false

variable {s s' : σ} {p : π} {history : List (MailEvent σ π)}

/-- What is posted in one part of a history and then in the rest. -/
theorem posts_append (l l' : List (MailEvent σ π)) : posts s (l ++ l') = posts s l ++ posts s l' :=
  List.filterMap_append

/-- What is started on in one part of a history and then in the rest. -/
theorem entries_append (l l' : List (MailEvent σ π)) :
    entries s (l ++ l') = entries s l ++ entries s l' :=
  List.filterMap_append

/-- A message posted counts for its mailbox. -/
@[simp] theorem posts_posted : posts s [.posted s' p] = if s' = s then [p] else [] := by
  by_cases h : s' = s <;> simp [posts, h]

/-- An entry posts nothing. -/
@[simp] theorem posts_entered : posts s [.entered s' p] = [] := rfl

/-- Leaving posts nothing. -/
@[simp] theorem posts_left : posts s [(.left s' : MailEvent σ π)] = [] := rfl

/-- Retiring a mailbox posts nothing. -/
@[simp] theorem posts_retired : posts s [(.retired s' : MailEvent σ π)] = [] := rfl

/-- Posting starts on nothing. -/
@[simp] theorem entries_posted : entries s [.posted s' p] = [] := rfl

/-- A message started on counts for its mailbox. -/
@[simp] theorem entries_entered : entries s [.entered s' p] = if s' = s then [p] else [] := by
  by_cases h : s' = s <;> simp [entries, h]

/-- Leaving starts on nothing. -/
@[simp] theorem entries_left : entries s [(.left s' : MailEvent σ π)] = [] := rfl

/-- Retiring a mailbox starts on nothing. -/
@[simp] theorem entries_retired : entries s [(.retired s' : MailEvent σ π)] = [] := rfl

/-- Posting does not move the consumer. -/
@[simp] theorem isInside_posted : isInside s (history ++ [.posted s' p]) = isInside s history := by
  simp [isInside]

/-- An entry brings the consumer into its mailbox. -/
@[simp] theorem isInside_entered :
    isInside s (history ++ [.entered s' p]) = if s' = s then true else isInside s history := by
  simp [isInside]

/-- Leaving takes it out of the mailbox. -/
@[simp] theorem isInside_left :
    isInside s (history ++ [(.left s' : MailEvent σ π)]) =
      if s' = s then false else isInside s history := by
  simp [isInside]

/-- Retiring a mailbox does not move the consumer. -/
@[simp] theorem isInside_retired :
    isInside s (history ++ [(.retired s' : MailEvent σ π)]) = isInside s history := by
  simp [isInside]

end MailEvent

namespace Mailboxes

variable {θ σ ν β μ π : Type u}

/-- The message a note stands for. -/
def message (c : Carrier θ ν β μ π) (m : Mailboxes θ σ ν β μ) (n : ν) : π :=
  c.view (m.memory (c.block n)) n

section Step

variable [DecidableEq σ] [DecidableEq β]

/-- **The moves.** -/
inductive Step (c : Carrier θ ν β μ π) (m : Mailboxes θ σ ν β μ) :
    List (MailEvent σ π) → Mailboxes θ σ ν β μ → Prop
  | stay : Step c m [] m
  /-- A thread takes a block from the stock. -/
  | take {t : θ} {b : β} (hstock : m.owner b = .fresh ∨ m.owner b = .free) :
      Step c m [] { m with owner := Function.update m.owner b (.hand t) }
  /-- A thread writes into its block. -/
  | write {t : θ} {b : β} (x : μ) (hand : m.owner b = .hand t) (ht : t ≠ c.consumer) :
      Step c m [] { m with memory := Function.update m.memory b x }
  /-- A thread posts a note that names its block. -/
  | post {t : θ} {s : σ} {n : ν} (hand : m.owner (c.block n) = .hand t) (ht : t ≠ c.consumer) :
      Step c m [.posted s (m.message c n)]
        { m with
          owner := Function.update m.owner (c.block n) (.box s)
          box := Function.update m.box s (m.box s ++ [n]) }
  /-- The consumer takes the first note out of an open mailbox. -/
  | pull {s : σ} {n : ν} {rest : List ν} (hbox : m.box s = n :: rest) (hopen : s ∉ m.closed)
      (hidle : m.stage = .idle) :
      Step c m []
        { m with
          owner := Function.update m.owner (c.block n) (.hand c.consumer)
          box := Function.update m.box s rest
          stage := .taken s n }
  /-- The consumer starts to work on the message of the note it took. -/
  | enter {s : σ} {n : ν} (htaken : m.stage = .taken s n) :
      Step c m [.entered s (m.message c n)] { m with stage := .inside s n }
  /-- The consumer ends, and may have written into the block. -/
  | leave {s : σ} {n : ν} (x : μ) (hinside : m.stage = .inside s n) :
      Step c m [.left s]
        { m with memory := Function.update m.memory (c.block n) x, stage := .idle }
  /-- A note of a closed mailbox is thrown away. -/
  | discard {t : θ} {s : σ} {n : ν} {rest : List ν} (hbox : m.box s = n :: rest)
      (hclosed : s ∈ m.closed) :
      Step c m []
        { m with
          owner := Function.update m.owner (c.block n) (.hand t)
          box := Function.update m.box s rest }
  /-- A thread puts its block back into the stock. -/
  | putBack {t : θ} {b : β} (hand : m.owner b = .hand t)
      (hidle : t ≠ c.consumer ∨ m.stage = .idle) :
      Step c m [] { m with owner := Function.update m.owner b .free }
  /-- A thread loses its block. -/
  | lose {t : θ} {b : β} (hand : m.owner b = .hand t) (hidle : t ≠ c.consumer ∨ m.stage = .idle) :
      Step c m [] { m with owner := Function.update m.owner b .lost }
  /-- A mailbox is closed. -/
  | close {s : σ} (hidle : m.stage = .idle) : Step c m [] { m with closed := insert s m.closed }
  | retire {s : σ} (hclosed : s ∈ m.closed) : Step c m [.retired s] m

end Step

/-- A move lets at most one event be seen. -/
theorem Step.eq_nil_or_singleton [DecidableEq σ] [DecidableEq β] {c : Carrier θ ν β μ π}
    {m m' : Mailboxes θ σ ν β μ} {es : List (MailEvent σ π)} (h : m.Step c es m') :
    es = [] ∨ ∃ e, es = [e] := by
  cases h with
  | post | enter | leave | retire => exact .inr ⟨_, rfl⟩
  | _ => exact .inl rfl

/-! ## Every block is at one place -/

/-- **The notes and the blocks agree**: a mailbox owns exactly the blocks its notes name, each once,
and the consumer the block it is on, which came out of an open mailbox. -/
structure Sound (c : Carrier θ ν β μ π) (m : Mailboxes θ σ ν β μ) : Prop where
  boxes : ∀ s, Holds m.owner (.box s) ((m.box s).map c.block)
  current : ∀ s n, m.stage.current = some (s, n) →
    m.owner (c.block n) = .hand c.consumer ∧ s ∉ m.closed

variable {c : Carrier θ ν β μ π} {m m' : Mailboxes θ σ ν β μ} {es : List (MailEvent σ π)}

/-- The owner of a block that is named in a mailbox. -/
theorem Sound.owner_box (h : m.Sound c) {s : σ} {n : ν} (hn : n ∈ m.box s) :
    m.owner (c.block n) = .box s :=
  (h.boxes s).owner_eq (List.mem_map_of_mem hn)

/-- **A block moves between two places that are no mailboxes.** -/
theorem Sound.move [DecidableEq β] (h : m.Sound c) {b : β} {q : Place θ σ}
    (hb : ∀ s, m.owner b ≠ .box s) (hq : ∀ s, q ≠ .box s)
    (hcurrent : ∀ s n, m.stage.current = some (s, n) → c.block n ≠ b) :
    ({ m with owner := Function.update m.owner b q } : Mailboxes θ σ ν β μ).Sound c where
  boxes := fun s => (h.boxes s).frame (hb s) (hq s)
  current := fun s n hcur => by
    obtain ⟨howner, hopen⟩ := h.current s n hcur
    refine ⟨?_, hopen⟩
    dsimp only
    rw [Function.update_of_ne (hcurrent s n hcur), howner]

/-- The block the consumer is on is in nobody else's hands. -/
theorem Sound.current_ne (h : m.Sound c) {b : β} {t : θ} (hand : m.owner b = .hand t)
    (hidle : t ≠ c.consumer ∨ m.stage = .idle) (s : σ) (n : ν)
    (hcur : m.stage.current = some (s, n)) : c.block n ≠ b := by
  rintro rfl
  have howner := (h.current s n hcur).1
  rcases hidle with ht | hidle
  · rw [hand] at howner
    exact ht (Place.hand.inj howner)
  · simp [hidle, Stage.current] at hcur

variable [DecidableEq σ] [DecidableEq β]

/-- The first note leaves a mailbox. -/
theorem Sound.boxes_pop (h : m.Sound c) {s : σ} {n : ν} {rest : List ν}
    (hbox : m.box s = n :: rest) (t : θ) (s' : σ) :
    Holds (Function.update m.owner (c.block n) (.hand t)) (.box s')
      ((Function.update m.box s rest s').map c.block) := by
  have howner : m.owner (c.block n) = .box s := h.owner_box (by simp [hbox])
  by_cases hs : s' = s
  · subst hs
    have hholds := h.boxes s'
    rw [hbox, List.map_cons] at hholds
    rw [Function.update_self]
    exact hholds.leave (by simp)
  · rw [Function.update_of_ne hs]
    refine (h.boxes s').frame ?_ (by simp)
    rw [howner]
    exact fun heq => hs (Place.box.inj heq).symm

/-- **Every move keeps every block at one place.** -/
theorem Step.sound (hstep : m.Step c es m') (h : m.Sound c) : m'.Sound c := by
  cases hstep with
  | stay => exact h
  | take hstock =>
      refine h.move (fun s heq => ?_) (by simp) (fun s n hcur => ?_)
      · rcases hstock with hfresh | hfree
        · simp [hfresh] at heq
        · simp [hfree] at heq
      · rintro rfl
        rw [(h.current s n hcur).1] at hstock
        simp at hstock
  | write x hand ht => exact ⟨h.boxes, h.current⟩
  -- the block of the note goes where the note goes
  | @post t s n hand ht =>
      have hbox : ∀ s, m.owner (c.block n) ≠ .box s := by simp [hand]
      refine ⟨fun s' => ?_, fun s' n' hcur => ?_⟩
      · dsimp only
        by_cases hs : s' = s
        · subst hs
          rw [Function.update_self, List.map_append]
          apply (h.boxes s').enter (hbox s')
          exact List.perm_append_comm
        · rw [Function.update_of_ne hs]
          exact (h.boxes s').frame (hbox s') fun heq => hs (Place.box.inj heq).symm
      · obtain ⟨howner, hopen⟩ := h.current s' n' hcur
        refine ⟨?_, hopen⟩
        dsimp only
        rw [Function.update_of_ne (h.current_ne hand (.inl ht) s' n' hcur), howner]
  | @pull s n rest hbox hopen hidle =>
      refine ⟨h.boxes_pop hbox c.consumer, fun s' n' hcur => ?_⟩
      obtain ⟨rfl, rfl⟩ : s = s' ∧ n = n' := by simpa [Stage.current] using hcur
      exact ⟨Function.update_self .., hopen⟩
  | enter htaken =>
      refine ⟨h.boxes, fun s' n' hcur => h.current s' n' ?_⟩
      rw [htaken]
      exact hcur
  | leave x hinside => exact ⟨h.boxes, fun s' n' hcur => by simp [Stage.current] at hcur⟩
  | @discard t s n rest hbox hclosed =>
      have howner : m.owner (c.block n) = .box s := h.owner_box (by simp [hbox])
      refine ⟨h.boxes_pop hbox t, fun s' n' hcur => ?_⟩
      obtain ⟨howner', hopen⟩ := h.current s' n' hcur
      refine ⟨?_, hopen⟩
      dsimp only
      rw [Function.update_of_ne ?_, howner']
      -- the block the consumer is on came out of an open mailbox
      intro heq
      rw [heq, howner] at howner'
      cases howner'
  | putBack hand hidle => exact h.move (by simp [hand]) (by simp) (h.current_ne hand hidle)
  | lose hand hidle => exact h.move (by simp [hand]) (by simp) (h.current_ne hand hidle)
  | @close s hidle =>
      exact ⟨h.boxes, fun s' n' hcur => by simp [hidle, Stage.current] at hcur⟩
  | retire hclosed => exact h

/-! ## What is still to be worked on -/

/-- The notes the consumer has not started on: the one it took, and those in the mailbox. -/
def waiting (m : Mailboxes θ σ ν β μ) (s : σ) : List ν :=
  match m.stage with
  | .taken s' n => if s' = s then n :: m.box s else m.box s
  | _ => m.box s

omit [DecidableEq β] in
/-- A note that waits names a block that is in its mailbox or in the hands of the consumer. -/
theorem Sound.owner_waiting (h : m.Sound c) {s : σ} {n : ν} (hn : n ∈ m.waiting s) :
    m.owner (c.block n) = .box s ∨ m.owner (c.block n) = .hand c.consumer := by
  have hbox : n ∈ m.box s → m.owner (c.block n) = .box s ∨
      m.owner (c.block n) = .hand c.consumer := fun hn => .inl (h.owner_box hn)
  unfold waiting at hn
  split at hn
  · next s' n' hstage =>
      split at hn
      · next hs =>
          rcases List.mem_cons.mp hn with rfl | hn
          · exact .inr (h.current s' n (by rw [hstage]; rfl)).1
          · exact hbox hn
      · exact hbox hn
  · exact hbox hn

/-- A note posted in a mailbox waits there behind the others. -/
theorem waiting_post (m : Mailboxes θ σ ν β μ) (b : β) (s s' : σ) (n : ν) :
    ({ m with
      owner := Function.update m.owner b (.box s)
      box := Function.update m.box s (m.box s ++ [n]) } : Mailboxes θ σ ν β μ).waiting s' =
      if s = s' then m.waiting s' ++ [n] else m.waiting s' := by
  by_cases heq : s = s'
  · subst heq
    rw [if_pos rfl]
    unfold waiting
    cases hstage : m.stage with
    | idle => simp
    | taken s₁ n₁ =>
        by_cases hs₁ : s₁ = s
        · simp [hs₁]
        · simp [hs₁]
    | inside s₁ n₁ => simp
  · rw [if_neg heq]
    simp [waiting, Function.update_of_ne (Ne.symm heq)]

omit [DecidableEq σ] in
/-- A write into a block that none of the notes name leaves their messages as they are. -/
theorem map_message_write (stage : Stage σ ν) (x : μ) {b : β} {ns : List ν}
    (hb : ∀ n ∈ ns, c.block n ≠ b) :
    ns.map (({ m with memory := Function.update m.memory b x, stage := stage } :
      Mailboxes θ σ ν β μ).message c) = ns.map (m.message c) := by
  apply List.map_congr_left
  intro n hn
  simp only [message]
  rw [Function.update_of_ne (hb n hn)]

/-! ## What the history says -/

open MailEvent

/-- **The history accounts for the notes**: of an open mailbox the messages posted are those the
consumer started on and those that wait; of a closed one the rest is gone. -/
structure Logged (c : Carrier θ ν β μ π) (history : List (MailEvent σ π))
    (m : Mailboxes θ σ ν β μ) : Prop where
  accounted : ∀ s, s ∉ m.closed →
    posts s history = entries s history ++ (m.waiting s).map (m.message c)
  cut : ∀ s, s ∈ m.closed → entries s history <+: posts s history
  working : ∀ s n, m.stage = .inside s n →
    ∃ earlier, entries s history = earlier ++ [m.message c n]
  retired : ∀ s, .retired s ∈ history → s ∈ m.closed
  inside_iff : ∀ s, isInside s history = true ↔ ∃ n, m.stage = .inside s n

variable {history : List (MailEvent σ π)}

omit [DecidableEq β] in
/-- **What the consumer started on is a prefix of what was posted**, open mailbox or not. -/
theorem Logged.entries_initial (h : m.Logged c history) (s : σ) :
    entries s history <+: posts s history := by
  by_cases hclosed : s ∈ m.closed
  · exact h.cut s hclosed
  · rw [h.accounted s hclosed]
    exact List.prefix_append _ _

omit [DecidableEq β] in
/-- A move that nobody observes and that concerns neither the notes that wait nor the consumer. -/
theorem Logged.frame (h : m.Logged c history) (hclosed : m'.closed = m.closed)
    (hstage : ∀ s n, m'.stage = .inside s n ↔ m.stage = .inside s n)
    (hwaiting : ∀ s, s ∉ m.closed → m'.waiting s = m.waiting s)
    (hmessage : ∀ s, ∀ n ∈ m.waiting s, m'.message c n = m.message c n)
    (hcurrent : ∀ s n, m.stage = .inside s n → m'.message c n = m.message c n) :
    m'.Logged c (history ++ []) := by
  rw [List.append_nil]
  refine ⟨fun s hs => ?_, ?_, fun s n hn => ?_, ?_, ?_⟩
  · rw [hclosed] at hs
    rw [h.accounted s hs, hwaiting s hs, List.map_congr_left (hmessage s)]
  · rw [hclosed]
    exact h.cut
  · rw [hstage] at hn
    rw [hcurrent s n hn]
    exact h.working s n hn
  · rw [hclosed]
    exact h.retired
  · simp only [hstage]
    exact h.inside_iff

/-- A write into the block of a thread that is not the consumer changes no message. -/
theorem Logged.write (h : m.Logged c history) (hsound : m.Sound c) {t : θ} {b : β}
    (x : μ) (hand : m.owner b = .hand t) (ht : t ≠ c.consumer) :
    ({ m with memory := Function.update m.memory b x } : Mailboxes θ σ ν β μ).Logged c
      (history ++ []) := by
  have hne : ∀ n, m.owner (c.block n) = .hand c.consumer → c.block n ≠ b := by
    rintro n howner rfl
    rw [hand] at howner
    exact ht (Place.hand.inj howner)
  refine h.frame rfl (fun _ _ => Iff.rfl) (fun _ _ => rfl) (fun s n hn => ?_) fun s n hn => ?_
  · simp only [message]
    rw [Function.update_of_ne]
    rcases hsound.owner_waiting hn with howner | howner
    · rintro rfl
      rw [hand] at howner
      cases howner
    · exact hne n howner
  · simp only [message]
    rw [Function.update_of_ne]
    exact hne n (hsound.current s n (by rw [hn]; rfl)).1

/-- **A note that is posted** waits behind the others. -/
theorem Logged.post (h : m.Logged c history) (s : σ) (n : ν) :
    ({ m with
      owner := Function.update m.owner (c.block n) (.box s)
      box := Function.update m.box s (m.box s ++ [n]) } : Mailboxes θ σ ν β μ).Logged c
        (history ++ [.posted s (m.message c n)]) where
  accounted := fun s' hs' => by
    have hwaiting := m.waiting_post (c.block n) s s' n
    rw [hwaiting, posts_append, entries_append, h.accounted s' hs']
    by_cases heq : s = s'
    · simp [heq, message]
    · simp [heq, message]
  cut := fun s' hs' => by
    rw [posts_append, entries_append, entries_posted, List.append_nil]
    exact (h.cut s' hs').trans (List.prefix_append _ _)
  working := fun s' n' hn' => by
    rw [entries_append, entries_posted, List.append_nil]
    exact h.working s' n' hn'
  retired := fun s' hs' => h.retired s' (by simpa using hs')
  inside_iff := fun s' => by
    rw [isInside_posted]
    exact h.inside_iff s'

omit [DecidableEq β] in
/-- **The consumer starts** on the note that has waited longest. -/
theorem Logged.enter (h : m.Logged c history) {s : σ} {n : ν} (hopen : s ∉ m.closed)
    (htaken : m.stage = .taken s n) :
    ({ m with stage := .inside s n } : Mailboxes θ σ ν β μ).Logged c
      (history ++ [.entered s (m.message c n)]) where
  accounted := fun s' hs' => by
    rw [posts_append, entries_append, h.accounted s' hs']
    by_cases heq : s = s'
    · simp [waiting, htaken, heq, message]
    · simp [waiting, htaken, heq, message]
  cut := fun s' hs' => by
    have hne : s ≠ s' := fun heq => hopen (heq ▸ hs')
    rw [posts_append, entries_append, entries_entered, if_neg hne]
    simpa using h.cut s' hs'
  working := fun s' n' hn' => by
    obtain ⟨rfl, rfl⟩ := Stage.inside.inj hn'
    exact ⟨entries s history, by rw [entries_append, entries_entered, if_pos rfl]; rfl⟩
  retired := fun s' hs' => h.retired s' (by simpa using hs')
  inside_iff := fun s' => by
    rw [isInside_entered]
    by_cases heq : s = s'
    · simp [heq]
    · simp [heq, h.inside_iff s', htaken]

/-- **The consumer ends**; what it writes is in no block that waits. -/
theorem Logged.leave (h : m.Logged c history) (hsound : m.Sound c) {s : σ} {n : ν} (x : μ)
    (hinside : m.stage = .inside s n) :
    ({ m with memory := Function.update m.memory (c.block n) x, stage := .idle } :
      Mailboxes θ σ ν β μ).Logged c (history ++ [.left s]) where
  accounted := fun s' hs' => by
    have hwaiting : m.waiting s' = m.box s' := by rw [waiting, hinside]
    have howner := (hsound.current s n (by rw [hinside]; rfl)).1
    rw [posts_append, entries_append, posts_left, entries_left, List.append_nil,
      List.append_nil, h.accounted s' hs', hwaiting]
    congr 1
    symm
    -- the block of the consumer is in no mailbox
    apply map_message_write
    intro n' hn' heq
    have howner' := hsound.owner_box hn'
    rw [heq, howner] at howner'
    cases howner'
  cut := fun s' hs' => by simpa [posts_append, entries_append] using h.cut s' hs'
  working := fun s' n' hn' => by cases hn'
  retired := fun s' hs' => h.retired s' (by simpa using hs')
  inside_iff := fun s' => by
    rw [isInside_left]
    by_cases heq : s = s'
    · simp [heq]
    · simp [heq, h.inside_iff s', hinside]

/-- **Every move is accounted for.** -/
theorem Step.logged (hstep : m.Step c es m') (hsound : m.Sound c) (h : m.Logged c history) :
    m'.Logged c (history ++ es) := by
  cases hstep with
  | stay | take | putBack | lose =>
      exact h.frame rfl (fun _ _ => Iff.rfl) (fun _ _ => rfl) (fun _ _ _ => rfl) fun _ _ _ => rfl
  | write x hand ht => exact h.write hsound x hand ht
  | @post t s n => exact h.post s n
  | @pull s n rest hbox hopen hidle =>
      refine h.frame rfl (fun s' n' => by simp [hidle]) (fun s' hs' => ?_) (fun _ _ _ => rfl)
        fun _ _ _ => rfl
      by_cases heq : s = s'
      · simp [waiting, hidle, heq, ← hbox]
      · simp [waiting, hidle, heq, Function.update_of_ne (Ne.symm heq)]
  | @enter s n htaken => exact h.enter (hsound.current s n (by rw [htaken]; rfl)).2 htaken
  | leave x hinside => exact h.leave hsound x hinside
  | @discard t s n rest hbox hclosed =>
      refine h.frame rfl (fun _ _ => Iff.rfl) (fun s' hs' => ?_) (fun _ _ _ => rfl)
        fun _ _ _ => rfl
      -- only a closed mailbox loses a note
      have hne : s' ≠ s := fun heq => hs' (heq ▸ hclosed)
      simp [waiting, Function.update_of_ne hne]
  | @close s hidle =>
      rw [List.append_nil]
      refine ⟨fun s' hs' => ?_, fun s' hs' => h.entries_initial s', h.working, fun s' hs' => ?_,
        h.inside_iff⟩
      · exact h.accounted s' fun hs => hs' (Set.mem_insert_of_mem s hs)
      · exact Set.mem_insert_of_mem s (h.retired s' hs')
  | @retire s hclosed =>
      refine ⟨fun s' hs' => ?_, fun s' hs' => ?_, fun s' n' hn' => ?_, fun s' hs' => ?_,
        fun s' => ?_⟩
      · simpa [posts_append, entries_append] using h.accounted s' hs'
      · simpa [posts_append, entries_append] using h.cut s' hs'
      · simpa [entries_append] using h.working s' n' hn'
      · rcases List.mem_append.mp hs' with hmem | hmem
        · exact h.retired s' hmem
        · obtain rfl : s' = s := by simpa using hmem
          exact hclosed
      · rw [isInside_retired]
        exact h.inside_iff s'

/-- **What a move may let be seen**: the consumer starts on a message of a mailbox only when it is
on none, and not after the mailbox was retired. -/
def Allowed (history : List (MailEvent σ π)) (e : MailEvent σ π) : Prop :=
  ∀ s p, e = .entered s p → isInside s history = false ∧ .retired s ∉ history

/-- Every event of a move is allowed. -/
theorem Step.allowed (hstep : m.Step c es m') (hsound : m.Sound c) (h : m.Logged c history) :
    Always (fun past => Allowed (history ++ past)) es := by
  cases hstep with
  | stay | take | write | pull | discard | putBack | lose | close => exact always_nil
  | post | leave | retire => simp [Allowed]
  | @enter s n htaken =>
      rw [always_singleton, List.append_nil]
      intro s' p heq
      obtain ⟨rfl, -⟩ := MailEvent.entered.inj heq
      refine ⟨?_, fun hmem => ?_⟩
      · rw [← Bool.not_eq_true, h.inside_iff, htaken]
        simp
      · exact (hsound.current s n (by rw [htaken]; rfl)).2 (h.retired s hmem)

/-! ## Runs -/

/-- **Runs of the mailboxes**, with what was seen of them. -/
inductive Run (c : Carrier θ ν β μ π) (m₀ : Mailboxes θ σ ν β μ) :
    List (MailEvent σ π) → Mailboxes θ σ ν β μ → Prop
  | start : Run c m₀ [] m₀
  | step {history es : List (MailEvent σ π)} {m m' : Mailboxes θ σ ν β μ}
      (hrun : Run c m₀ history m) (hstep : m.Step c es m') : Run c m₀ (history ++ es) m'

/-- Mailboxes in which nothing was ever posted. -/
structure Empty (m : Mailboxes θ σ ν β μ) : Prop where
  box : ∀ s, m.box s = []
  stage : m.stage = .idle
  owner : ∀ b s, m.owner b ≠ .box s
  closed : m.closed = ∅

variable {m₀ : Mailboxes θ σ ν β μ}

omit [DecidableEq σ] [DecidableEq β] in
/-- In empty mailboxes the notes and the blocks agree. -/
theorem Empty.sound (h : m₀.Empty) (c : Carrier θ ν β μ π) : m₀.Sound c where
  boxes := fun s => ⟨by simp [h.box s], fun b => by simp [h.box s, h.owner b s]⟩
  current := fun s n hcur => by simp [h.stage, Stage.current] at hcur

omit [DecidableEq β] in
/-- Empty mailboxes are accounted for by an empty history. -/
theorem Empty.logged (h : m₀.Empty) (c : Carrier θ ν β μ π) : m₀.Logged c [] where
  accounted := fun s _ => by simp [posts, entries, waiting, h.stage, h.box s]
  cut := fun s hs => by simp [h.closed] at hs
  working := fun s n hn => by simp [h.stage] at hn
  retired := fun s hs => by simp at hs
  inside_iff := fun s => by simp [isInside, h.stage]

/-- **The run lemma**: along every run every block is at one place, the history accounts for the
notes, and every event is allowed. -/
theorem Run.invariant (hrun : Run c m₀ history m) (h₀ : m₀.Empty) :
    m.Sound c ∧ m.Logged c history ∧ Always Allowed history := by
  induction hrun with
  | start => exact ⟨h₀.sound c, h₀.logged c, always_nil⟩
  | step hrun hstep ih =>
      obtain ⟨hsound, hlogged, hallowed⟩ := ih
      exact ⟨hstep.sound hsound, hstep.logged hsound hlogged,
        always_append.mpr ⟨hallowed, hstep.allowed hsound hlogged⟩⟩

/-- **The past of a history is a history.** -/
theorem Run.past {past : List (MailEvent σ π)} (hrun : Run c m₀ history m)
    (hpast : past <+: history) : ∃ m', Run c m₀ past m' := by
  induction hrun with
  | start => exact ⟨m₀, List.prefix_nil.mp hpast ▸ .start⟩
  | @step history es m m' hrun hstep ih =>
      -- a move lets at most one event be seen
      rcases hstep.eq_nil_or_singleton with rfl | ⟨e, rfl⟩
      · exact ih (by simpa using hpast)
      · rcases List.prefix_concat_iff.mp hpast with rfl | hpast
        · exact ⟨m', .step hrun hstep⟩
        · exact ih hpast

/-- **In order, exactly once, unaltered**: what the consumer started on is a prefix of what was
posted. -/
theorem Run.entries_initial (hrun : Run c m₀ history m) (h₀ : m₀.Empty) (s : σ) :
    entries s history <+: posts s history :=
  (hrun.invariant h₀).2.1.entries_initial s

/-- **One message at a time**, and none after the mailbox was retired. -/
theorem Run.entered_allowed (hrun : Run c m₀ history m) (h₀ : m₀.Empty) :
    Always Allowed history :=
  (hrun.invariant h₀).2.2

end Mailboxes
