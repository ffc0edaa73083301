import RtpCapture.Sessions.CInterface

/-! # Before the first session

The C interface has no SDK before the first `addCaptureRtpSession`, the C++ one has an SDK without
sessions: its threads may work, but nothing can be seen of them.

* **`Unused`** — an SDK to which no session was added.
* **`Unused.run`** — a run before the first `addCaptureRtpSession` shows nothing.
* **`run_completes`** — calls that are made one after the other leave the SDK as it was
  constructed. -/

namespace RtpCapture

open Traced Sdk

variable {memory : Block → Memory}

/-! ## Before the SDK is constructed -/

/-- **Nothing to be seen**: no call of `addCaptureRtpSession` returns, and no recorder works. -/
structure Unseen (es : List SdkEvent) : Prop where
  returned : es.filterMap SdkEvent.returned? = []
  recorder : ∀ s, recorderEvents s es = []

/-- Of nothing there is nothing to see. -/
theorem unseen_nil : Unseen [] := ⟨rfl, fun _ => rfl⟩

/-- Two parts of which nothing can be seen. -/
theorem Unseen.append {es es' : List SdkEvent} (h : Unseen es) (h' : Unseen es') :
    Unseen (es ++ es') where
  returned := by rw [List.filterMap_append, h.returned, h'.returned]; rfl
  recorder := fun s => by rw [recorderEvents_append, h.recorder, h'.recorder]; rfl

/-- **An SDK to which no session was added**: callers look for sessions and find none, and
`CaptureCenter::run` goes through an empty vector. -/
structure Unused (memory : Block → Memory) (st : Sdk) : Prop where
  same : st = { construct memory with
    ingest := st.ingest, capture := st.capture, mapMutex := st.mapMutex,
    vectorMutex := st.vectorMutex }
  callers : ∀ t, (st.ingest (.caller t)).session? = none
  reactor : st.ingest .reactor = .idle
  mapMutex : (∀ t, st.ingest (.caller t) = .idle) → st.mapMutex = none
  capture : st.capture = .idle ∧ st.vectorMutex = none ∨
    st.capture = .session 0 ∧ st.vectorMutex = some .capture

/-- A fresh SDK was not used. -/
theorem unused_construct (memory : Block → Memory) : Unused memory (construct memory) where
  same := rfl
  callers := fun _ => rfl
  reactor := rfl
  mapMutex := fun _ => rfl
  capture := .inl ⟨rfl, rfl⟩

/-- A caller of such an SDK goes on. -/
theorem Unused.setIngest {st : Sdk} (h : Unused memory st) (t : ℕ) {p : Ingest}
    (hp : p.session? = none) {m : Option Thread} (hm : p = .idle → m = none) :
    Unused memory ({ st with mapMutex := m }.setIngest (.caller t) p) := by
  refine ⟨?_, fun t' => ?_, h.reactor, fun hidle => hm ?_, h.capture⟩
  · rw [h.same]
    rfl
  · by_cases ht : t' = t
    · subst ht
      simpa [Sdk.setIngest] using hp
    · simpa [Sdk.setIngest, ht] using h.callers t'
  · simpa [Sdk.setIngest] using hidle t

namespace Unused

variable {st : Sdk}

/-- A thread that accesses no session goes on, or has to wait. -/
theorem guarded {th : Thread} (htouches : st.touches th = none) {x : SdkRun Sdk}
    {P : SdkRun Sdk → Prop} (hwaits : P (fault .notEnabled)) (hx : P x) : P (st.guarded th x) := by
  have hdangling : ¬ st.dangling th = true := by
    unfold dangling
    rw [htouches]
    exact Bool.false_ne_true
  unfold Sdk.guarded
  rw [if_neg hdangling]
  split
  · exact hwaits
  · exact hx

/-- A call of `onRTPData` and the steps of its thread. -/
theorem ingest_step (h : Unused memory st) (t : ℕ) :
    (st.step (.ingest (.caller t) false)).outcome = .error .notEnabled ∨
      ∃ es st', st.step (.ingest (.caller t) false) = ⟨es, .ok st'⟩ ∧ Unseen es ∧
        Unused memory st' := by
  have hsession := h.callers t
  have hreceiver : st.receiverMap = fun _ => none := by
    rw [h.same]
    rfl
  have htouches : st.touches (.source (.caller t)) = none := by
    show (st.ingest (.caller t)).touches = none
    cases hpc : st.ingest (.caller t) <;> rw [hpc] at hsession <;> first | rfl | cases hsession
  refine guarded htouches (P := fun x => x.outcome = .error .notEnabled ∨
    ∃ es st', x = ⟨es, .ok st'⟩ ∧ Unseen es ∧ Unused memory st') (.inl rfl) ?_
  unfold stepIngest
  rw [hreceiver]
  cases hpc : st.ingest (.caller t) <;> rw [hpc] at hsession
  case idle => exact .inl rfl
  case lockMap id bytes len =>
    exact .inr ⟨_, _, rfl, unseen_nil, h.setIngest t (p := .lookup id bytes len) rfl nofun⟩
  case lookup id bytes len =>
    refine .inr ⟨_, _, rfl, ⟨rfl, fun _ => rfl⟩, ?_⟩
    exact h.setIngest t (p := .unlockMap) rfl nofun
  case unlockMap =>
    exact .inr ⟨_, _, rfl, ⟨rfl, fun _ => rfl⟩, h.setIngest t (p := .idle) rfl fun _ => rfl⟩
  all_goals cases hsession

/-- `CaptureCenter::run` with an empty vector. -/
theorem capture_step (h : Unused memory st) (r : FileResults) :
    (st.step (.capture r)).outcome = .error .notEnabled ∨
      ∃ es st', st.step (.capture r) = ⟨es, .ok st'⟩ ∧ Unseen es ∧ Unused memory st' := by
  have hvector : st.sessionVector = [] := by
    rw [h.same]
    rfl
  have htouches : st.touches .capture = none := by
    show st.capture.touches st.sessionVector = none
    rcases h.capture with ⟨hpc, -⟩ | ⟨hpc, -⟩ <;> rw [hpc]
    · rfl
    · rw [hvector]
      rfl
  refine guarded htouches (P := fun x => x.outcome = .error .notEnabled ∨
    ∃ es st', x = ⟨es, .ok st'⟩ ∧ Unseen es ∧ Unused memory st') (.inl rfl) ?_
  unfold stepCapture
  rw [hvector]
  rcases h.capture with ⟨hpc, -⟩ | ⟨hpc, -⟩ <;> rw [hpc]
  · refine .inr ⟨_, _, rfl, unseen_nil, ?_, h.callers, h.reactor, h.mapMutex, .inr ⟨rfl, rfl⟩⟩
    rw [h.same]
    rfl
  · refine .inr ⟨_, _, rfl, unseen_nil, ?_, h.callers, h.reactor, h.mapMutex, .inl ⟨rfl, rfl⟩⟩
    rw [h.same]
    rfl

/-- **A step before the first `addCaptureRtpSession`** is not possible, or it shows nothing. -/
theorem step (h : Unused memory st) {i : Turn} (hi : i.isAdd = false) :
    (st.step i.action).outcome = .error .notEnabled ∨
      ∃ es st', st.step i.action = ⟨es, .ok st'⟩ ∧ Unseen es ∧ Unused memory st' := by
  have hcontrol : st.control = .idle := by
    rw [h.same]
    rfl
  have hsdk : st.sdkMap = fun _ => none := by
    rw [h.same]
    rfl
  cases i with
  | call c =>
      cases c with
      | onRTPData t session data len =>
          show (st.callIngest t session data len).outcome = _ ∨
            ∃ es st', st.callIngest t session data len = _ ∧ _
          unfold callIngest
          split
          · exact .inr ⟨_, _, rfl, ⟨rfl, fun _ => rfl⟩, h.setIngest t rfl nofun⟩
          · exact .inl rfl
      | addCaptureRtpSession fileName videoFrequency => cases hi
      | delCaptureRtpSession session =>
          show (st.callDel session).outcome = _ ∨ ∃ es st', st.callDel session = _ ∧ _
          unfold callDel
          rw [hcontrol, hsdk]
          exact .inr ⟨_, _, rfl, ⟨rfl, fun _ => rfl⟩, h⟩
  | ingest t => exact h.ingest_step t
  | capture r => exact h.capture_step r
  | control fails u =>
      left
      have htouches : st.touches .control = none := by
        show st.control.touches = none
        rw [hcontrol]
        rfl
      refine guarded htouches (P := fun x => x.outcome = .error .notEnabled) rfl ?_
      unfold stepControl
      rw [hcontrol]
      rfl

/-- **A run before the first `addCaptureRtpSession`.** -/
theorem run (h : Unused memory st) {before : List Turn}
    (hbefore : ∀ i ∈ before, i.isAdd = false) :
    (Traced.run (cppInterface memory).turn st before).outcome = .error .notEnabled ∨
      ∃ es st', Traced.run (cppInterface memory).turn st before = ⟨es, .ok st'⟩ ∧ Unseen es ∧
        Unused memory st' := by
  induction before generalizing st with
  | nil => exact .inr ⟨[], st, rfl, unseen_nil, h⟩
  | cons i before ih =>
      obtain ⟨hi, hrest⟩ := List.forall_mem_cons.mp hbefore
      rw [run_cons]
      rcases h.step hi with herror | ⟨es, st₁, heq, hes, h₁⟩
      · left
        rw [bind_of_error (f := .notEnabled) herror]
      · have hstep : (cppInterface memory).turn st i = ⟨es, .ok st₁⟩ := heq
        rw [hstep]
        rcases ih h₁ hrest with herror | ⟨es', st', heq', hes', h'⟩
        · exact .inl herror
        · refine .inr ⟨es ++ es', st', ?_, hes.append hes', h'⟩
          rw [bind_of_ok rfl, heq']

end Unused

/-! ## The same calls of both interfaces -/

/-- The first `addCaptureRtpSession` of a run. -/
theorem exists_first_add (turns : List Turn) :
    (∀ i ∈ turns, i.isAdd = false) ∨ ∃ before fileName videoFrequency after,
      turns = before ++ .call (.addCaptureRtpSession fileName videoFrequency) :: after ∧
      (∀ i ∈ before, i.isAdd = false) := by
  induction turns with
  | nil => exact .inl (List.forall_mem_nil _)
  | cons i turns ih =>
      cases hi : i.isAdd with
      | true =>
          obtain ⟨fileName, videoFrequency, rfl⟩ : ∃ fileName videoFrequency,
              i = .call (.addCaptureRtpSession fileName videoFrequency) := by
            cases i with
            | call c => cases c <;> first | exact ⟨_, _, rfl⟩ | cases hi
            | ingest | capture | control => cases hi
          exact .inr ⟨[], fileName, videoFrequency, turns, rfl, List.forall_mem_nil _⟩
      | false =>
          rcases ih with hnone | ⟨before, fileName, videoFrequency, after, rfl, hbefore⟩
          · exact .inl (List.forall_mem_cons.mpr ⟨hi, hnone⟩)
          · exact .inr ⟨i :: before, fileName, videoFrequency, after, rfl,
              List.forall_mem_cons.mpr ⟨hi, hbefore⟩⟩

/-- The turns before it. -/
theorem takeWhile_append_add {before after : List Turn} {fileName : String} {videoFrequency : Word}
    (hbefore : ∀ i ∈ before, i.isAdd = false) :
    (before ++ .call (.addCaptureRtpSession fileName videoFrequency) :: after).takeWhile
      (fun i => !i.isAdd) = before := by
  rw [List.takeWhile_append_of_pos fun i hi => by simp [hbefore i hi]]
  simp [Turn.isAdd]

/-- **Without an SDK** a call does nothing. -/
theorem turn_null {c : InterfaceCall} (hc : (Turn.call c).isAdd = false) :
    RTPCapture.turn memory none (.call c) = pure none := by
  cases c with
  | addCaptureRtpSession => cases hc
  | onRTPData | delCaptureRtpSession => rfl

/-- Nor do calls one after the other. -/
theorem run_calls {calls : List InterfaceCall}
    (hcalls : ∀ c ∈ calls, (Turn.call c).isAdd = false) :
    Traced.run (RTPCapture.turn memory) none (calls.map .call) = pure none := by
  induction calls with
  | nil => rfl
  | cons c calls ih =>
      obtain ⟨hc, hrest⟩ := List.forall_mem_cons.mp hcalls
      rw [List.map_cons, run_cons, turn_null hc, Traced.pure_bind, ih hrest]

/-- There is nothing but calls before the first `addCaptureRtpSession`. -/
theorem eq_map_call {before : List Turn} (hbefore : ∀ i ∈ before, i.isAdd = false)
    (h : (Traced.run (RTPCapture.turn memory) none before).outcome ≠ .error .notEnabled) :
    before = (before.filterMap Turn.call?).map .call := by
  induction before with
  | nil => rfl
  | cons i before ih =>
      obtain ⟨hi, hrest⟩ := List.forall_mem_cons.mp hbefore
      cases i with
      | call c =>
          rw [run_cons, turn_null hi, Traced.pure_bind] at h
          exact congrArg (Turn.call c :: ·) (ih hrest h)
      | ingest | capture | control => exact absurd rfl h

/-- A call and the steps of its thread until it returns. -/
def InterfaceCall.complete : InterfaceCall → List Turn
  | .onRTPData t session data len =>
      [.call (.onRTPData t session data len), .ingest t, .ingest t, .ingest t]
  | c => [.call c]

/-- An SDK without sessions, with one caller in it. -/
def withCaller (memory : Block → Memory) (t : ℕ) (p : Ingest) (mapMutex : Option Thread) : Sdk :=
  { construct memory with mapMutex := mapMutex }.setIngest (.caller t) p

section Caller

variable (memory : Block → Memory) (t : ℕ) (p q : Ingest) (m : Option Thread)

/-- The caller is where it was put. -/
@[simp] theorem ingest_withCaller : (withCaller memory t p m).ingest (.caller t) = p :=
  Function.update_self ..

/-- The caller moves on. -/
@[simp] theorem setIngest_withCaller (m' : Option Thread) :
    { withCaller memory t p m with mapMutex := m' }.setIngest (.caller t) q =
      withCaller memory t q m' := by
  unfold withCaller Sdk.setIngest
  rw [Function.update_idem]

/-- The caller has returned. -/
theorem withCaller_idle : withCaller memory t .idle none = construct memory := by
  have hidle : Function.update (fun _ : Source => Ingest.idle) (.caller t) .idle =
      fun _ => .idle := Function.update_eq_self ..
  show { construct memory with
    ingest := Function.update (fun _ : Source => Ingest.idle) (.caller t) .idle } = _
  rw [hidle]
  rfl

/-- The caller goes on when the map is not locked. -/
theorem step_withCaller (htouches : p.touches = none)
    (hwants : p.wants = none ∨ p.wants = some .map ∧ m = none) :
    (withCaller memory t p m).step (.ingest (.caller t) false) =
      (withCaller memory t p m).stepIngest (.caller t) false := by
  have hdangling : ¬ (withCaller memory t p m).dangling (.source (.caller t)) = true := by
    simp [dangling, touches, htouches]
  have hblocked : ¬ (withCaller memory t p m).blocked (.source (.caller t)) = true := by
    rcases hwants with hnone | ⟨hmap, rfl⟩
    · simp [blocked, wants, hnone]
    · simp [blocked, wants, hmap, holder, withCaller, Sdk.setIngest]
  show Sdk.guarded _ _ _ = _
  unfold Sdk.guarded
  rw [if_neg hdangling, if_neg hblocked]

/-- **The caller locks the map, finds no session and returns.** -/
theorem run_withCaller (session : Word) (bytes : List Byte) (len : Word) :
    (withCaller memory t (.lockMap session bytes len) none).run
        (List.replicate 3 (.ingest (.caller t) false)) =
      ⟨[.rejected (.caller t) .notFound, .returned (.caller t)], .ok (construct memory)⟩ := by
  have hlock : (withCaller memory t (.lockMap session bytes len) none).step
      (.ingest (.caller t) false) =
        pure (withCaller memory t (.lookup session bytes len) (some (.source (.caller t)))) := by
    rw [step_withCaller _ _ _ _ rfl (.inr ⟨rfl, rfl⟩)]
    simp [stepIngest, setHolder]
  have hlookup : ∀ m, (withCaller memory t (.lookup session bytes len) m).step
      (.ingest (.caller t) false) =
        ⟨[.rejected (.caller t) .notFound], .ok (withCaller memory t .unlockMap m)⟩ := by
    intro m
    have hreceiver : (withCaller memory t (.lookup session bytes len) m).receiverMap =
        fun _ => none := rfl
    rw [step_withCaller _ _ _ _ rfl (.inl rfl)]
    unfold stepIngest
    rw [ingest_withCaller, hreceiver]
    exact congrArg (fun st => (⟨[.rejected (.caller t) .notFound], .ok st⟩ : SdkRun Sdk))
      (setIngest_withCaller memory t (.lookup session bytes len) .unlockMap m m)
  have hunlock : ∀ m, (withCaller memory t .unlockMap m).step (.ingest (.caller t) false) =
      ⟨[.returned (.caller t)], .ok (construct memory)⟩ := by
    intro m
    rw [step_withCaller _ _ _ _ rfl (.inl rfl)]
    unfold stepIngest
    rw [ingest_withCaller]
    exact congrArg (fun st => (⟨[.returned (.caller t)], .ok st⟩ : SdkRun Sdk))
      ((setIngest_withCaller memory t .unlockMap .idle m none).trans (withCaller_idle memory t))
  show Traced.run Sdk.step _ [_, _, _] = _
  rw [run_cons, hlock, Traced.pure_bind, run_cons, hlookup, bind_of_ok rfl, run_singleton, hunlock]
  rfl

end Caller

/-- **A complete call** before the first `addCaptureRtpSession` leaves the SDK as it was. -/
theorem run_complete (memory : Block → Memory) {c : InterfaceCall}
    (hc : (Turn.call c).isAdd = false) :
    ∃ es, (cppInterface memory).run c.complete = ⟨es, .ok (construct memory)⟩ ∧ Unseen es := by
  cases c with
  | addCaptureRtpSession => cases hc
  | delCaptureRtpSession session =>
      exact ⟨[.delNotFound session], rfl, rfl, fun _ => rfl⟩
  | onRTPData t session data len =>
      let bytes := data.read 0 len.toInt.toNat
      have hrun := run_withCaller memory t session bytes len
      have hturns : Traced.run (cppInterface memory).turn
          (withCaller memory t (.lockMap session bytes len) none) (List.replicate 3 (.ingest t)) =
            _ := (run_map Sdk.step Turn.action _ _).symm.trans hrun
      have hcall : (cppInterface memory).turn (cppInterface memory).start
          (.call (.onRTPData t session data len)) = ⟨[.called t session bytes len],
            .ok (withCaller memory t (.lockMap session bytes len) none)⟩ := rfl
      refine ⟨[.called t session bytes len, .rejected (.caller t) .notFound, .returned (.caller t)],
        ?_, rfl, fun _ => rfl⟩
      show Traced.run _ _ (_ :: List.replicate 3 _) = _
      rw [run_cons, hcall, bind_of_ok rfl, hturns]
      rfl

/-- Calls before the first `addCaptureRtpSession`, one after the other. -/
theorem run_completes (memory : Block → Memory) {calls : List InterfaceCall}
    (hcalls : ∀ c ∈ calls, (Turn.call c).isAdd = false) :
    ∃ es, (cppInterface memory).run (calls.flatMap InterfaceCall.complete) =
      ⟨es, .ok (construct memory)⟩ ∧ Unseen es := by
  induction calls with
  | nil => exact ⟨[], rfl, unseen_nil⟩
  | cons c calls ih =>
      obtain ⟨hc, hrest⟩ := List.forall_mem_cons.mp hcalls
      obtain ⟨es, hrun, hes⟩ := run_complete memory hc
      obtain ⟨es', hrun', hes'⟩ := ih hrest
      refine ⟨es ++ es', ?_, hes.append hes'⟩
      rw [List.flatMap_cons, Interface.run_append hrun]
      show (⟨es ++ ((cppInterface memory).run _).trace, ((cppInterface memory).run _).outcome⟩ :
        SdkRun Sdk) = _
      rw [hrun']

/-- The calls of a schedule in which each returns before the next. -/
theorem filterMap_complete (calls : List InterfaceCall) :
    (calls.flatMap InterfaceCall.complete).filterMap Turn.call? = calls := by
  induction calls with
  | nil => rfl
  | cons c calls ih =>
      have hc : c.complete.filterMap Turn.call? = [c] := by cases c <;> rfl
      rw [List.flatMap_cons, List.filterMap_append, hc, ih]
      rfl

end RtpCapture
