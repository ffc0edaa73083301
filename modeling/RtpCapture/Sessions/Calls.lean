import RtpCapture.Sessions.Locks

/-! # The calls of `onRTPData`

What a caller pushes is what it was called with, and a call that is turned away pushes nothing.

* **`SdkEvent.openCall`** — the arguments of the call a thread is in, as the history shows them; a
  call that was rejected is not open any more.
* **`Sdk.run_accepted`** — in every run a caller pushes only the bytes of its open call, whose length
  was between `0` and the size of a block.
* **`Sdk.turnsAway`** — a call with an unknown id or a bad length, or that finds the pool exhausted,
  is rejected and changes no list. -/

namespace RtpCapture

open Traced

/-- The arguments of a call of `onRTPData`. -/
structure DataCall where
  id : Word
  bytes : List Byte
  len : Word
  deriving DecidableEq, Repr

namespace SdkEvent

/-- The caller an event is about. -/
def caller? : SdkEvent → Option ℕ
  | .called t _ _ _ => some t
  | .rejected (.caller t) _ => some t
  | .pushed (.caller t) _ _ _ => some t
  | .returned (.caller t) => some t
  | _ => none

/-- What an event makes of the open call of a thread. -/
def openCallAfter (t : ℕ) (call : Option DataCall) : SdkEvent → Option DataCall
  | .called t' id bytes len => if t' = t then some ⟨id, bytes, len⟩ else call
  | .rejected (.caller t') _ => if t' = t then none else call
  | .returned (.caller t') => if t' = t then none else call
  | _ => call

/-- **The open call of a thread**: begun, and neither rejected nor at its end. -/
def openCall (t : ℕ) (history : List SdkEvent) : Option DataCall :=
  history.foldl (openCallAfter t) none

/-- The open call after one more event. -/
theorem openCall_concat (t : ℕ) (history : List SdkEvent) (e : SdkEvent) :
    openCall t (history ++ [e]) = openCallAfter t (openCall t history) e := by
  simp [openCall]

/-- Events about other threads leave the open call as it is. -/
theorem openCall_append_of_caller {t : ℕ} {history trace : List SdkEvent}
    (h : ∀ e ∈ trace, e.caller? ≠ some t) :
    openCall t (history ++ trace) = openCall t history := by
  induction trace generalizing history with
  | nil => rw [List.append_nil]
  | cons e trace ih =>
      obtain ⟨he, htrace⟩ := List.forall_mem_cons.mp h
      have hafter : openCallAfter t (openCall t history) e = openCall t history := by
        unfold openCallAfter
        unfold caller? at he
        split at he <;> simp_all
      rw [List.append_cons, ih htrace, openCall_concat, hafter]

end SdkEvent

open SdkEvent

/-- **The packet of a call** whose length is that of a block at most: its bytes and its length. -/
def Delivery.Answers (d : Delivery) (blockSize : ℕ) (call : Option DataCall) : Prop :=
  ∃ id len, call = some ⟨id, d.bytes, len⟩ ∧ len.toInt = d.len ∧ 0 ≤ d.len ∧ d.len ≤ blockSize

/-- **What a thread in `onRTPData` relies on**: it is in that call, and behind the check the length
is that of a block at most. -/
def Ingest.Answers (blockSize : ℕ) (call : Option DataCall) : Ingest → Prop
  | .lockMap id bytes len => call = some ⟨id, bytes, len⟩
  | .lookup id bytes len => call = some ⟨id, bytes, len⟩
  | .lockPool d => d.Answers blockSize call
  | .get d => d.Answers blockSize call
  | .fill d _ => d.Answers blockSize call
  | .lockBuffer d _ => d.Answers blockSize call
  | .push d _ => d.Answers blockSize call
  | _ => True

/-- **A packet is accepted** from a caller: it is the packet of the call the caller is in. -/
def SdkEvent.Accepted (blockSize : ℕ) (history : List SdkEvent) (e : SdkEvent) : Prop :=
  ∀ t s bytes len, e = .pushed (.caller t) s bytes len →
    (⟨s, bytes, len⟩ : Delivery).Answers blockSize (openCall t history)

namespace Sdk

/-- The check of the length as it is meant: a negative length is a huge `size_t`. -/
theorem overflows_eq_false_iff {len : Word} {blockSize : ℕ} (h : blockSize < 2 ^ 31) :
    overflows len blockSize = false ↔ 0 ≤ len.toInt ∧ len.toInt ≤ blockSize := by
  have hlow := BitVec.le_toInt len
  have hhigh := BitVec.toInt_lt (x := len)
  unfold overflows
  rw [decide_eq_false_iff_not]
  omega

/-- **Every thread in `onRTPData` is in its call.** -/
structure CallsOpen (limit : ℕ) (history : List SdkEvent) (st : Sdk) : Prop where
  blockSize : st.pool.blockSize = limit
  answers : ∀ t, (st.ingest (.caller t)).Answers limit (openCall t history)

variable {st st' : Sdk} {limit : ℕ} {history : List SdkEvent}

/-- What the callers rely on is not touched. -/
theorem CallsOpen.congr (h : CallsOpen limit history st) (hingest : st'.ingest = st.ingest)
    (hpool : st'.pool.blockSize = st.pool.blockSize) : CallsOpen limit history st' :=
  ⟨hpool.trans h.blockSize, hingest ▸ h.answers⟩

/-! ## The steps of a caller -/

/-- A thread that brings packets in goes on. -/
theorem CallsOpen.setIngest (h : CallsOpen limit history st) {x : Source} {p : Ingest}
    (hp : ∀ t, x = .caller t → p.Answers limit (openCall t history)) :
    CallsOpen limit history (st.setIngest x p) where
  blockSize := h.blockSize
  answers := fun t => by
    by_cases hx : x = .caller t
    · subst hx
      simpa [Sdk.setIngest] using hp t rfl
    · simpa [Sdk.setIngest, Function.update_of_ne (Ne.symm hx)] using h.answers t

/-- A thread that brings packets in is heard of, and needs its call no more. -/
theorem CallsOpen.emitIngest (h : CallsOpen limit history st) {x : Source} {p : Ingest}
    {e : SdkEvent} (he : ∀ t, e.caller? = some t → x = .caller t)
    (hp : ∀ call, p.Answers limit call) : CallsOpen limit (history ++ [e]) (st.setIngest x p) where
  blockSize := h.blockSize
  answers := fun t => by
    by_cases hx : x = .caller t
    · subst hx
      simpa [Sdk.setIngest] using hp _
    · rw [openCall_append_of_caller]
      · simpa [Sdk.setIngest, Function.update_of_ne (Ne.symm hx)] using h.answers t
      · intro e' he' hcaller
        obtain rfl := List.mem_singleton.mp he'
        exact hx (he t hcaller)

/-- A rejection or a return is about the thread it comes from, and is no push. -/
theorem ensures_giveUp (h : CallsOpen limit history st) {x : Source} {p : Ingest} {e : SdkEvent}
    (he : (∃ why, e = .rejected x why) ∨ e = .returned x) (hp : ∀ call, p.Answers limit call) :
    Ensures (Accepted limit) history (do emit e; return st.setIngest x p : SdkRun Sdk)
      (CallsOpen limit) := by
  have hcaller : ∀ t, e.caller? = some t → x = .caller t := by
    rcases he with ⟨why, rfl⟩ | rfl <;> cases x <;> simp [caller?]
  have haccepted : Accepted limit history e := by
    rcases he with ⟨why, rfl⟩ | rfl <;> nofun
  exact ensures_emit_bind haccepted (ensures_pure (h.emitIngest hcaller hp))

/-- The steps of `onRTPData` and of the receive handlers. -/
theorem stepIngest_accepted (h : CallsOpen limit history st) (hlimit : limit < 2 ^ 31) (x : Source)
    (fails : Bool) : Ensures (Accepted limit) history (st.stepIngest x fails) (CallsOpen limit) := by
  have hanswers : ∀ t, x = .caller t → (st.ingest x).Answers limit (openCall t history) := by
    rintro t rfl
    exact h.answers t
  have hlocked : ∀ holder k, CallsOpen limit history (st.setHolder holder k) := fun holder k => by
    cases k <;> exact ⟨h.blockSize, h.answers⟩
  have hafter : ∀ call, (afterScope x).Answers limit call := by
    cases x <;> exact fun _ => trivial
  refine (stepIngest_endsIn st x fails).ensures fun es st' hends => ?_
  generalize st.ingest x = pc at hends hanswers
  cases hends with
  | lockMap | lockPool | lockBuffer => exact ensures_pure ((hlocked _ _).setIngest hanswers)
  | notFound | overflow | receiveFailed => exact ensures_giveUp h (.inl ⟨_, rfl⟩) fun _ => trivial
  | found id bytes len s hs hfits =>
      rw [h.blockSize, overflows_eq_false_iff hlimit] at hfits
      refine ensures_pure (h.setIngest fun t hx => ?_)
      exact ⟨id, len, hanswers t hx, rfl, hfits⟩
  | outOfMemory => exact ensures_giveUp (hlocked none .pool) (.inl ⟨_, rfl⟩) hafter
  | get d b pool hget =>
      refine ensures_pure (CallsOpen.setIngest ?_ hanswers)
      exact (hlocked none .pool).congr rfl (MemoryPool.blockSize_of_get hget)
  | fill d b =>
      refine ensures_pure (CallsOpen.setIngest ?_ hanswers)
      exact h.congr rfl rfl
  | push d b =>
      refine ensures_emit_pure ?_ ?_
      · intro t s bytes len heq
        obtain ⟨hx, rfl, rfl, rfl⟩ := SdkEvent.pushed.inj heq
        exact hanswers t hx
      · refine CallsOpen.emitIngest ?_ ?_ fun _ => trivial
        · exact h.congr rfl rfl
        · cases x <;> simp [caller?]
  | unlockBuffer => exact ensures_pure ((hlocked _ _).setIngest fun _ _ => hafter _)
  | unlockMap => exact ensures_giveUp (hlocked none .map) (.inr rfl) fun _ => trivial

/-! ## The steps of the others -/

/-- **A computation that leaves the callers alone.** -/
structure Aside (st : Sdk) (x : SdkRun Sdk) : Prop where
  state : ∀ st', x.outcome = .ok st' →
    st'.ingest = st.ingest ∧ st'.pool.blockSize = st.pool.blockSize
  trace : ∀ e ∈ x.trace, e.caller? = none

/-- A stop has nothing to do with the calls. -/
theorem aside_fault (f : Stop) : Aside st (fault f) :=
  ⟨fun _ h => (by cases h), fun _ h => by cases h⟩

/-- A step that leaves the callers alone. -/
theorem aside_pure (hingest : st'.ingest = st.ingest)
    (hpool : st'.pool.blockSize = st.pool.blockSize) : Aside st (pure st') where
  state := fun _ h => by
    obtain rfl := Except.ok.inj h
    exact ⟨hingest, hpool⟩
  trace := fun _ h => by cases h

/-- The same with an event that is none of a caller. -/
theorem aside_emit {e : SdkEvent} (he : e.caller? = none) (hingest : st'.ingest = st.ingest)
    (hpool : st'.pool.blockSize = st.pool.blockSize) :
    Aside st (do emit e; return st' : SdkRun Sdk) where
  state := (aside_pure hingest hpool).state
  trace := fun e' h => by
    obtain rfl := List.mem_singleton.mp h
    exact he

/-- The steps of `CaptureCenter::run`. -/
theorem stepCapture_aside (st : Sdk) (r : FileResults) : Aside st (st.stepCapture r) := by
  refine stepCapture_elim st r (aside_fault _) (fun k s node events f _ => ?_) fun es st' hends => ?_
  · refine ⟨fun _ h => (by cases h), fun e he => ?_⟩
    obtain ⟨event, -, rfl⟩ := List.mem_map.mp he
    rfl
  · generalize st.capture = pc at hends
    cases hends with
    | enter => exact aside_emit rfl rfl rfl
    | handle | throws =>
        refine ⟨fun st' hst => ?_, fun e he => ?_⟩
        · obtain rfl := Except.ok.inj hst
          exact ⟨rfl, rfl⟩
        · rcases List.mem_append.mp he with hmem | hmem
          · obtain ⟨event, -, rfl⟩ := List.mem_map.mp hmem
            rfl
          · obtain rfl := List.mem_singleton.mp hmem
            rfl
    | _ => exact aside_pure rfl rfl

/-- The steps of `addCaptureRtpSession` and `delCaptureRtpSession`. -/
theorem stepControl_aside (st : Sdk) (fails : Bool) (u : Uninitialised) :
    Aside st (st.stepControl fails u) := by
  refine (stepControl_endsIn st fails u).elim aside_fault fun es st' hends => ?_
  generalize st.control = pc at hends
  cases hends with
  | addThrowMap | addThrowVector | addRemember | delForget => exact aside_emit rfl rfl rfl
  | _ => exact aside_pure rfl rfl

/-- **A step that leaves the callers alone** keeps their calls open. -/
theorem Aside.ensures {x : SdkRun Sdk} (hx : Aside st x) (h : CallsOpen limit history st) :
    Ensures (Accepted limit) history x (CallsOpen limit) := by
  constructor
  · apply always_of_forall
    rintro past e he t s bytes len rfl
    cases hx.trace _ he
  · intro st' hst
    obtain ⟨hingest, hpool⟩ := hx.state st' hst
    refine ⟨hpool.trans h.blockSize, fun t => ?_⟩
    rw [hingest, openCall_append_of_caller fun e he hcaller => by simp [hx.trace e he] at hcaller]
    exact h.answers t

/-- A thread that may not move changes nothing. -/
theorem ensures_guarded {th : Thread} {x : SdkRun Sdk}
    (h : Ensures (Accepted limit) history x (CallsOpen limit)) :
    Ensures (Accepted limit) history (st.guarded th x) (CallsOpen limit) := by
  unfold guarded
  split
  · exact ensures_fault _
  · split
    · exact ensures_fault _
    · exact h

/-! ## Every step, every run -/

/-- A thread calls `onRTPData`. -/
theorem callIngest_accepted (h : CallsOpen limit history st) (t : ℕ) (id : Word) (data : Memory)
    (len : Word) :
    Ensures (Accepted limit) history (st.callIngest t id data len) (CallsOpen limit) := by
  unfold callIngest
  split
  · refine ensures_emit_bind nofun (ensures_pure ⟨h.blockSize, fun t' => ?_⟩)
    rw [openCall_concat]
    by_cases ht : t = t'
    · simp [ht, openCallAfter, Sdk.setIngest, Ingest.Answers]
    · have hne : Source.caller t' ≠ .caller t := fun heq => ht (Source.caller.inj heq).symm
      simpa [ht, openCallAfter, Sdk.setIngest, hne] using h.answers t'
  · exact ensures_fault _

/-- **One step of the system.** -/
theorem step_accepted (h : CallsOpen limit history st) (hlimit : limit < 2 ^ 31) (a : Action) :
    Ensures (Accepted limit) history (st.step a) (CallsOpen limit) := by
  cases a with
  | onRTPData t id data len => exact callIngest_accepted h t id data len
  | readable s type available datagram =>
      show Ensures _ _ (st.dispatch s type available datagram) _
      unfold dispatch
      split
      · split
        · split
          · exact ensures_pure h
          · exact ensures_pure (h.setIngest nofun)
        · split
          · exact ensures_fault _
          · exact ensures_fault _
      · exact ensures_fault _
  | ingest x fails => exact ensures_guarded (stepIngest_accepted h hlimit x fails)
  | capture r => exact ensures_guarded ((stepCapture_aside st r).ensures h)
  | add fileName videoPort audioPort videoFrequency =>
      apply Aside.ensures _ h
      show Aside st (st.callAdd fileName videoPort audioPort videoFrequency)
      unfold callAdd
      split
      · exact aside_pure rfl rfl
      · exact aside_fault _
  | del id =>
      apply Aside.ensures _ h
      show Aside st (st.callDel id)
      unfold callDel
      split
      · split
        · exact aside_emit rfl rfl rfl
        · exact aside_pure rfl rfl
      · exact aside_fault _
  | control fails u => exact ensures_guarded ((stepControl_aside st fails u).ensures h)

/-- **In every run a caller pushes only the packet of the call it is in**, if its length is that of
a block at most and it was not rejected. -/
theorem run_accepted (memory : Block → Memory) (as : List Action) :
    Ensures (Accepted 1500) [] (run (construct memory) as) (CallsOpen 1500) := by
  have hinit : CallsOpen 1500 [] (construct memory) := ⟨rfl, fun _ => trivial⟩
  exact run_invariant (CallsOpen 1500) (fun _ _ a h => step_accepted h (by decide) a) hinit as

/-- The blocks of every reachable state have 1500 bytes. -/
theorem blockSize_of_reaches {memory : Block → Memory} (h : Reaches step (construct memory) st) :
    st.pool.blockSize = 1500 := by
  obtain ⟨as, has⟩ := h
  exact ((run_accepted memory as).2 st has).blockSize

/-! ## Calls that are turned away -/

/-- The lists of all sessions are the same. -/
def SameQueues (st st' : Sdk) : Prop :=
  ∀ s, (st'.sessions s).bufferList = (st.sessions s).bufferList

/-- **What the callers of `onRTPData` can do to the lists**: a call with an unknown id, with a
length that no block has, or that finds the pool exhausted is rejected and changes none; and no
other step of a caller changes one but a push. -/
structure TurnsAway (st : Sdk) : Prop where
  lookup : ∀ t id bytes len fails, st.ingest (.caller t) = .lookup id bytes len →
    st.receiverMap id = none ∨ ¬ (0 ≤ len.toInt ∧ len.toInt ≤ st.pool.blockSize) →
    ∃ why st', st.step (.ingest (.caller t) fails) = ⟨[.rejected (.caller t) why], .ok st'⟩ ∧
      st.SameQueues st'
  exhausted : ∀ t d fails, st.ingest (.caller t) = .get d → st.pool.get = none →
    ∃ st', st.step (.ingest (.caller t) fails) =
      ⟨[.rejected (.caller t) .outOfMemory], .ok st'⟩ ∧ st.SameQueues st'
  called : ∀ t id data len st', (st.step (.onRTPData t id data len)).outcome = .ok st' →
    st.SameQueues st'
  pushed : ∀ t fails st', (st.step (.ingest (.caller t) fails)).outcome = .ok st' →
    st.SameQueues st' ∨ ∃ s bytes len,
      (st.step (.ingest (.caller t) fails)).trace = [.pushed (.caller t) s bytes len]

/-- A mutex changes hands and a thread goes on, and no list changes. -/
theorem sameQueues_setHolder (st : Sdk) (t : Option Thread) (m : Mutex) (x : Source) (p : Ingest) :
    st.SameQueues ((st.setHolder t m).setIngest x p) := by
  intro s
  cases m with
  | map | vector | pool => rfl
  | buffer s' =>
      by_cases hs : s = s'
      · simp [setHolder, setSession, setIngest, hs]
      · simp [setHolder, setSession, setIngest, hs]

/-- A step of a thread that neither waits nor accesses a session. -/
theorem guarded_of_free {th : Thread} (x : SdkRun Sdk) (hwants : st.wants th = none)
    (htouches : st.touches th = none) : st.guarded th x = x := by
  simp [guarded, dangling, blocked, hwants, htouches]

/-- Only a push changes a list. -/
theorem stepIngest_queues {x : Source} {fails : Bool}
    (hstep : (st.stepIngest x fails).outcome = .ok st') :
    st.SameQueues st' ∨ ∃ d b, st.ingest x = .push d b := by
  obtain ⟨es, -, hends⟩ := (stepIngest_endsIn st x fails).exists_ok hstep
  generalize hpc : st.ingest x = pc at hends
  cases hends with
  | push d b => exact .inr ⟨d, b, rfl⟩
  | notFound | overflow | found | get | receiveFailed | fill => exact .inl fun _ => rfl
  | _ => exact .inl (sameQueues_setHolder st _ _ _ _)

/-- **Every state turns bad calls away.** -/
theorem turnsAway (st : Sdk) (hlimit : st.pool.blockSize < 2 ^ 31) : st.TurnsAway where
  -- an unknown id, or a length out of range
  lookup := fun t id bytes len fails hpc hbad => by
    have hfree : st.guarded (.source (.caller t)) (st.stepIngest (.caller t) fails) =
        st.stepIngest (.caller t) fails :=
      guarded_of_free _ (by rw [wants, hpc]; rfl) (by rw [touches, hpc]; rfl)
    rw [step, hfree, stepIngest, hpc]
    cases hs : st.receiverMap id with
    | none =>
        dsimp only
        rw [hs]
        exact ⟨.notFound, _, rfl, fun _ => rfl⟩
    | some s =>
        rw [hs, ← overflows_eq_false_iff hlimit] at hbad
        have hoverflow : overflows len st.pool.blockSize = true := by simpa using hbad
        dsimp only
        rw [hs]
        dsimp only
        rw [if_pos hoverflow]
        exact ⟨.overflow, _, rfl, fun _ => rfl⟩
  -- no block is left
  exhausted := fun t d fails hpc hget => by
    have hfree : st.guarded (.source (.caller t)) (st.stepIngest (.caller t) fails) =
        st.stepIngest (.caller t) fails :=
      guarded_of_free _ (by rw [wants, hpc]; rfl) (by rw [touches, hpc]; rfl)
    rw [step, hfree, stepIngest, hpc]
    dsimp only
    rw [hget]
    exact ⟨_, rfl, fun _ => rfl⟩
  called := fun t id data len st' hstep => by
    obtain ⟨-, rfl⟩ := onRTPData_ok hstep
    exact fun _ => rfl
  pushed := fun t fails st' hstep => by
    obtain ⟨heq, -, -⟩ := guarded_ok hstep
    rw [step, heq] at hstep ⊢
    refine (stepIngest_queues hstep).imp_right ?_
    rintro ⟨d, b, hpc⟩
    refine ⟨d.session, d.bytes, d.len, ?_⟩
    rw [stepIngest, hpc]
    rfl

end Sdk

end RtpCapture
