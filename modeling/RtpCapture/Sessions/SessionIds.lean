import RtpCapture.Sessions.Registry

/-! # The ids of the sessions

`SessionCounter` gives the `n`-th session object the id `n + 1` modulo `2 ^ 31`, whatever became of
the sessions before it. So an id comes again after `2 ^ 31` calls of `addCaptureRtpSession`, and
nothing looks whether the session that had it first is still there.

* **`Sdk.live`** — the sessions that were added and not deleted, with the ids that were returned.
* **`Sdk.run_identifies`** — as long as no session is added a multiple of `2 ^ 31` calls after one
  that is live, the returned ids are those of no other live session, no entry of a live session is
  replaced, and a deletion finds the session its id was returned for.
* **`Sdk.run_id_returns`** — otherwise the id of a live session is returned again. -/

namespace RtpCapture

open Traced

/-! ## The counter -/

/-- The id of the `n`-th session object. -/
def idOf (n : SessionRef) : Word := .ofNat 32 ((n + 1) % 2 ^ 31)

/-- The ids repeat after 2^31 sessions. -/
theorem idOf_eq_iff {m n : ℕ} : idOf m = idOf n ↔ m % 2 ^ 31 = n % 2 ^ 31 := by
  unfold idOf
  constructor
  · intro h
    have htoNat := congrArg BitVec.toNat h
    rw [BitVec.toNat_ofNat, BitVec.toNat_ofNat] at htoNat
    omega
  · intro h
    congr 1
    omega

/-- Two objects have the same id when a multiple of `2 ^ 31` lies between them. -/
theorem idOf_eq_iff_dvd {m n : ℕ} (h : m ≤ n) : idOf n = idOf m ↔ 2 ^ 31 ∣ n - m := by
  rw [idOf_eq_iff, eq_comm]
  exact Nat.modEq_iff_dvd' h

/-- **The counter restarts at `0`** when it would become negative. -/
theorem nextSessionID_ofNat (n : ℕ) : nextSessionID (.ofNat 32 (n % 2 ^ 31)) = idOf n := by
  have hsum : (BitVec.ofNat 32 (n % 2 ^ 31) + 1 : Word).toNat = n % 2 ^ 31 + 1 := by
    rw [BitVec.toNat_add, BitVec.toNat_ofNat]
    show (n % 2 ^ 31 % 2 ^ 32 + 1) % 2 ^ 32 = _
    omega
  have hneg : (BitVec.ofNat 32 (n % 2 ^ 31) + 1 : Word).toInt < 0 ↔ n % 2 ^ 31 + 1 = 2 ^ 31 := by
    rw [BitVec.toInt_eq_toNat_cond, hsum]
    split <;> omega
  unfold nextSessionID idOf
  apply BitVec.eq_of_toNat_eq
  by_cases hwrap : n % 2 ^ 31 + 1 = 2 ^ 31
  · rw [if_pos (hneg.mpr hwrap), BitVec.toNat_ofNat]
    show 0 = _
    omega
  · rw [if_neg fun h => hwrap (hneg.mp h), hsum, BitVec.toNat_ofNat]
    omega

/-! ## The sessions that are live -/

/-- What an event makes of the live sessions. -/
def liveAfter (live : List (Word × SessionRef)) : SdkEvent → List (Word × SessionRef)
  | .added id s => (id, s) :: live
  | .deleted _ s => live.filter fun entry => entry.2 ≠ s
  | _ => live

/-- **The live sessions**, each with the id that `addCaptureRtpSession` returned for it: added and not
deleted since. -/
def live (history : List SdkEvent) : List (Word × SessionRef) := history.foldl liveAfter []

/-- The live sessions after one more event. -/
theorem live_concat (history : List SdkEvent) (e : SdkEvent) :
    live (history ++ [e]) = liveAfter (live history) e := by
  simp [live]

/-- An event of the control thread at the end of a call. -/
def SdkEvent.endsCall : SdkEvent → Bool
  | .added _ _ => true
  | .deleted _ _ => true
  | .delNotFound _ => true
  | _ => false

/-- They change only when a call ends. -/
theorem live_append_of_quiet {history trace : List SdkEvent}
    (h : ∀ e ∈ trace, e.endsCall = false) : live (history ++ trace) = live history := by
  induction trace generalizing history with
  | nil => rw [List.append_nil]
  | cons e trace ih =>
      obtain ⟨he, htrace⟩ := List.forall_mem_cons.mp h
      have hafter : liveAfter (live history) e = live history := by
        cases e <;> first | rfl | cases he
      rw [List.append_cons, ih htrace, live_concat, hafter]

/-- **The ids identify the sessions**: the id that is returned is that of no live session; the session
that is deleted is the one the id was returned for; and an id that is not found was returned for no
live session. -/
def SdkEvent.Identified (history : List SdkEvent) : SdkEvent → Prop
  | .added id _ => ∀ s, (id, s) ∉ live history
  | .deleted id s => (id, s) ∈ live history
  | .delNotFound id => ∀ s, (id, s) ∉ live history
  | _ => True

/-- An event that ends no call identifies nothing. -/
theorem SdkEvent.identified_of_quiet {history : List SdkEvent} {e : SdkEvent}
    (h : e.endsCall = false) : e.Identified history := by
  cases e <;> trivial

/-! ## The steps of the other threads -/

namespace Sdk

variable {st st' : Sdk} {history : List SdkEvent}

/-- **A computation that leaves the registries and the counter alone**, and ends no call. -/
structure Apart (st : Sdk) (x : SdkRun Sdk) : Prop where
  state : ∀ st', x.outcome = .ok st' → st.SameRegistries st' ∧
    st'.sessionCounter = st.sessionCounter ∧ st'.next = st.next
  trace : ∀ e ∈ x.trace, e.endsCall = false

/-- A stop has nothing to do with the ids. -/
theorem apart_fault (f : Stop) : Apart st (fault f) :=
  ⟨fun _ h => (by cases h), fun _ h => by cases h⟩

/-- Neither has a delivery. -/
theorem stepIngest_apart (st : Sdk) (x : Source) (fails : Bool) :
    Apart st (st.stepIngest x fails) := by
  refine ⟨fun st' hst => ?_, fun e he => ?_⟩
  · have hsame := stepIngest_sameControlData hst
    exact ⟨hsame.toSameRegistries, hsame.sessionCounter, hsame.next⟩
  · revert he
    refine (stepIngest_endsIn st x fails).elim (motive := fun x => e ∈ x.trace → e.endsCall = false)
      (fun _ he => by cases he) fun es st' hends he => ?_
    generalize st.ingest x = pc at hends
    cases hends with
    | notFound | overflow | outOfMemory | receiveFailed | push | unlockMap =>
        obtain rfl := List.mem_singleton.mp he
        rfl
    | _ => cases he

/-- Nor `CaptureCenter::run`. -/
theorem stepCapture_apart (st : Sdk) (r : FileResults) : Apart st (st.stepCapture r) := by
  refine ⟨fun st' hst => ?_, fun e he => ?_⟩
  · have hsame := stepCapture_sameControlData hst
    exact ⟨hsame.toSameRegistries, hsame.sessionCounter, hsame.next⟩
  · revert he
    refine stepCapture_elim (motive := fun x => e ∈ x.trace → e.endsCall = false) st r
      (fun he => by cases he) (fun k s node events f _ he => ?_) fun es st' hends he => ?_
    · obtain ⟨event, -, rfl⟩ := List.mem_map.mp he
      rfl
    · generalize st.capture = pc at hends
      cases hends with
      | enter =>
          obtain rfl := List.mem_singleton.mp he
          rfl
      | handle | throws =>
          rcases List.mem_append.mp he with hmem | hmem
          · obtain ⟨event, -, rfl⟩ := List.mem_map.mp hmem
            rfl
          · obtain rfl := List.mem_singleton.mp hmem
            rfl
      | _ => cases he

/-! ## Adding and deleting -/

end Sdk

/-- The session of a call of `addCaptureRtpSession` that has not returned yet. -/
def Control.creating (pc : Control) : Option SessionRef := pc.adding <|> pc.pushed

namespace Sdk

/-- **No id comes again too early**: no live session was added a multiple of `2 ^ 31` calls before the
new one. -/
def FreshIds (st : Sdk) : Action → Prop
  | .add _ _ _ _ => ∀ s ∈ st.sessionVector, ¬ 2 ^ 31 ∣ st.next - s
  | _ => True

/-- **Every map keeps a session under its own id**, the map of the SDK has just the live sessions, and
the session that is being added has an id of its own. -/
structure Identifies (history : List SdkEvent) (st : Sdk) : Prop where
  counter : st.sessionCounter = .ofNat 32 (st.next % 2 ^ 31)
  sessionID : ∀ s < st.next, (st.sessions s).sessionID = idOf s
  live_iff : ∀ id s, (id, s) ∈ live history ↔ st.sdkMap id = some s
  sdk : ∀ id s, st.sdkMap id = some s →
    idOf s = id ∧ (s ∈ st.sessionVector ∨ ∃ c, st.control.deleting = some c ∧ c.session = s)
  receiver : ∀ id s, st.receiverMap id = some s → idOf s = id
  creating : ∀ s, st.control.creating = some s →
    (∀ id, st.sdkMap id ≠ some s) ∧ ∀ s' ∈ st.sessionVector, s' ≠ s → idOf s' ≠ idOf s
  pushed : ∀ s, st.control.pushed = some s → s ∈ st.sessionVector
  deleting : ∀ c, st.control.deleting = some c → st.sdkMap c.id = some c.session

/-- A fresh SDK has no session to identify. -/
theorem identifies_construct (memory : Block → Memory) : Identifies [] (construct memory) where
  counter := rfl
  sessionID := fun _ h => absurd h (Nat.not_lt_zero _)
  live_iff := fun _ _ => ⟨nofun, nofun⟩
  sdk := fun _ _ h => by cases h
  receiver := fun _ _ h => by cases h
  creating := fun _ h => by cases h
  pushed := fun _ h => by cases h
  deleting := fun _ h => by cases h

/-- Only the control thread ends calls and changes the registries. -/
theorem Identifies.congr (h : Identifies history st) (hsame : st.SameRegistries st')
    (hcounter : st'.sessionCounter = st.sessionCounter) (hnext : st'.next = st.next)
    {trace : List SdkEvent} (htrace : ∀ e ∈ trace, e.endsCall = false) :
    Identifies (history ++ trace) st' where
  counter := by rw [hcounter, hnext, h.counter]
  sessionID := fun s hs => by
    rw [hsame.sessionID]
    exact h.sessionID s (hnext ▸ hs)
  live_iff := fun id s => by
    rw [live_append_of_quiet htrace, hsame.sdk]
    exact h.live_iff id s
  sdk := by
    rw [hsame.sdk, hsame.vector, hsame.control]
    exact h.sdk
  receiver := by
    rw [hsame.receiver]
    exact h.receiver
  creating := by
    rw [hsame.sdk, hsame.vector, hsame.control]
    exact h.creating
  pushed := by
    rw [hsame.vector, hsame.control]
    exact h.pushed
  deleting := by
    rw [hsame.sdk, hsame.control]
    exact h.deleting

/-- An event that ends no call that did something. -/
theorem Identifies.emit (h : Identifies history st) {e : SdkEvent} (he : e.endsCall = false) :
    Identifies (history ++ [e]) st :=
  h.congr ⟨rfl, rfl, rfl, rfl, fun _ => rfl, fun _ => rfl⟩ rfl rfl
    (List.forall_mem_singleton.mpr he)

/-- A step of another thread. -/
theorem Apart.ensures {x : SdkRun Sdk} (hx : Apart st x) (h : Identifies history st) :
    Ensures SdkEvent.Identified history x Identifies := by
  refine ⟨always_of_forall fun _ e he => SdkEvent.identified_of_quiet (hx.trace e he), ?_⟩
  intro st' hst
  obtain ⟨hsame, hcounter, hnext⟩ := hx.state st' hst
  exact h.congr hsame hcounter hnext hx.trace

/-- **The control thread goes on** inside a call. -/
theorem Identifies.setControl (h : Identifies history st) {p : Control}
    (hcreating : ∀ s, p.creating = some s → st.control.creating = some s)
    (hpushed : ∀ s, p.pushed = some s → st.control.pushed = some s)
    (hdeleting : p.deleting = st.control.deleting) :
    Identifies history ({ st with control := p } : Sdk) :=
  { h with
    sdk := fun id s hs => by
      obtain ⟨hid, hmem⟩ := h.sdk id s hs
      refine ⟨hid, ?_⟩
      show _ ∨ ∃ c, p.deleting = some c ∧ _
      rwa [hdeleting]
    creating := fun s hs => h.creating s (hcreating s hs)
    pushed := fun s hs => h.pushed s (hpushed s hs)
    deleting := fun c hc => h.deleting c (hdeleting ▸ hc) }

/-- A step of the control thread that locks, unlocks or writes another field of a session. -/
theorem Identifies.move (h : Identifies history st) {st₁ : Sdk} {p : Control}
    (hsame : st.SameRegistries st₁) (hcounter : st₁.sessionCounter = st.sessionCounter)
    (hnext : st₁.next = st.next)
    (hcreating : ∀ s, p.creating = some s → st.control.creating = some s)
    (hpushed : ∀ s, p.pushed = some s → st.control.pushed = some s)
    (hdeleting : p.deleting = st.control.deleting) :
    Identifies history ({ st₁ with control := p } : Sdk) := by
  have h₁ := h.congr hsame hcounter hnext (List.forall_mem_nil fun e : SdkEvent => e.endsCall = false)
  rw [List.append_nil] at h₁
  apply h₁.setControl
  · rwa [hsame.control]
  · rwa [hsame.control]
  · rwa [hsame.control]

/-- **The receiver enters the session** under the id the session has. -/
theorem Identifies.publish {s : SessionRef} (h : Identifies history st)
    (hpc : st.control = .addPublish s) (hs : s < st.next) :
    Identifies history { st with
      receiverMap := insert st.receiverMap (st.sessions s).sessionID s
      control := .addUnlockMap s } := by
  have hmoved : Identifies history ({ st with control := .addUnlockMap s } : Sdk) := by
    apply h.move ⟨rfl, rfl, rfl, rfl, fun _ => rfl, fun _ => rfl⟩ rfl rfl
    all_goals rw [hpc]
    · exact fun _ => id
    · exact fun _ => id
    · rfl
  refine { hmoved with receiver := fun id s' hs' => ?_ }
  simp only [insert] at hs'
  by_cases heq : id = (st.sessions s).sessionID
  · subst heq
    rw [Function.update_self] at hs'
    obtain rfl := Option.some.inj hs'
    exact (h.sessionID s hs).symm
  · rw [Function.update_of_ne heq] at hs'
    exact h.receiver id s' hs'

/-- **The session joins the vector**: its id is apart from those of the others. -/
theorem Identifies.push {s : SessionRef} (h : Identifies history st)
    (hpc : st.control = .addPush s) :
    Identifies history { st with
      sessionVector := st.sessionVector ++ [s], control := .addUnlockVector s } := by
  obtain ⟨hnew, hids⟩ := h.creating s (congrArg Control.creating hpc)
  refine { h with sdk := fun id s' hs' => ?_, creating := ?_, pushed := ?_, deleting := nofun }
  · obtain ⟨hid, hmem⟩ := h.sdk id s' hs'
    rw [hpc] at hmem
    exact ⟨hid, hmem.imp_left (List.mem_append_left [s])⟩
  · rintro s' ⟨⟩
    refine ⟨hnew, fun s' hs' hne => ?_⟩
    rcases List.mem_append.mp hs' with hs' | hs'
    · exact hids s' hs' hne
    · exact absurd (List.mem_singleton.mp hs') hne
  · rintro s' ⟨⟩
    exact List.mem_append_right _ (List.mem_singleton_self s)

/-- **The call returns the id**: no entry of the map is replaced. -/
theorem Identifies.remember {s : SessionRef} (h : Identifies history st)
    (hpc : st.control = .addRemember s) (hs : s < st.next) :
    (SdkEvent.added (st.sessions s).sessionID s).Identified history ∧
      Identifies (history ++ [.added (st.sessions s).sessionID s]) { st with
        sdkMap := insert st.sdkMap (st.sessions s).sessionID s, control := .idle } := by
  obtain ⟨hnew, hids⟩ := h.creating s (congrArg Control.creating hpc)
  have hmem : s ∈ st.sessionVector := h.pushed s (congrArg Control.pushed hpc)
  have hlisted : ∀ {id s'}, st.sdkMap id = some s' → idOf s' = id ∧ s' ∈ st.sessionVector := by
    intro id s' hs'
    obtain ⟨hid, hmem | ⟨c, hc, -⟩⟩ := h.sdk id s' hs'
    · exact ⟨hid, hmem⟩
    · rw [hpc] at hc
      cases hc
  -- another live session is in the vector, with another id
  have hfree : st.sdkMap (idOf s) = none := by
    rw [Option.eq_none_iff_forall_ne_some]
    intro s' hs'
    obtain ⟨hid', hmem'⟩ := hlisted hs'
    refine hids s' hmem' ?_ hid'
    rintro rfl
    exact hnew _ hs'
  rw [h.sessionID s hs]
  refine ⟨fun s' hs' => ?_, { h with
    live_iff := fun id s' => ?_, sdk := fun id s' hs' => ?_, creating := nofun, pushed := nofun,
    deleting := nofun }⟩
  · rw [h.live_iff, hfree] at hs'
    cases hs'
  · rw [live_concat, liveAfter, List.mem_cons, Prod.mk.injEq, h.live_iff, insert]
    dsimp only
    by_cases heq : id = idOf s
    · subst heq
      rw [Function.update_self, hfree]
      simp [eq_comm]
    · simp [heq]
  · simp only [insert] at hs'
    by_cases heq : id = idOf s
    · subst heq
      rw [Function.update_self] at hs'
      obtain rfl := Option.some.inj hs'
      exact ⟨rfl, .inl hmem⟩
    · rw [Function.update_of_ne heq] at hs'
      exact (hlisted hs').imp_right .inl

/-- The session leaves the vector while its entry waits for the call to return. -/
theorem Identifies.close {c : DelCall} (h : Identifies history st)
    (hpc : st.control = .delDump c) {st₁ : Sdk} (hsame : st.SameRegistries st₁)
    (hcounter : st₁.sessionCounter = st.sessionCounter) (hnext : st₁.next = st.next) :
    Identifies history { st₁ with
      sessionVector := st.sessionVector.erase c.session, control := .delUnlockBuffer c } := by
  have hmoved : Identifies history ({ st₁ with control := .delUnlockBuffer c } : Sdk) := by
    apply h.move hsame hcounter hnext
    · nofun
    · nofun
    · rw [hpc]
      rfl
  refine { hmoved with sdk := fun id s hs => ?_, creating := nofun, pushed := nofun }
  obtain ⟨hid, hmem⟩ := h.sdk id s (hsame.sdk ▸ hs)
  refine ⟨hid, ?_⟩
  by_cases heq : s = c.session
  · exact .inr ⟨c, rfl, heq.symm⟩
  · rcases hmem with hmem | ⟨c', hc', rfl⟩
    · exact .inl ((List.mem_erase_of_ne heq).mpr hmem)
    · rw [hpc] at hc'
      obtain rfl := Option.some.inj hc'
      exact absurd rfl heq

/-- **The entry that goes** is the only one of its session. -/
theorem Identifies.forget {c : DelCall} (h : Identifies history st)
    (hpc : st.control = .delForget c) :
    (SdkEvent.deleted c.id c.session).Identified history ∧
      Identifies (history ++ [.deleted c.id c.session]) { st with
        sdkMap := erase st.sdkMap c.id, control := .idle } := by
  have hentry := h.deleting c (congrArg Control.deleting hpc)
  refine ⟨(h.live_iff _ _).mpr hentry, { h with
    live_iff := fun id s => ?_, sdk := fun id s hs => ?_, creating := nofun, pushed := nofun,
    deleting := nofun }⟩
  · rw [live_concat, liveAfter, List.mem_filter, h.live_iff, erase]
    dsimp only
    by_cases heq : id = c.id
    · subst heq
      rw [Function.update_self, hentry]
      constructor
      · rintro ⟨hs, hne⟩
        exact absurd (Option.some.inj hs).symm (of_decide_eq_true hne)
      · rintro ⟨⟩
    · rw [Function.update_of_ne heq]
      refine ⟨And.left, fun hs => ⟨hs, ?_⟩⟩
      refine decide_eq_true fun hsession => heq ?_
      rw [← (h.sdk id s hs).1, ← (h.sdk c.id c.session hentry).1]
      exact congrArg idOf hsession
  · simp only [erase] at hs
    by_cases heq : id = c.id
    · subst heq
      rw [Function.update_self] at hs
      cases hs
    · rw [Function.update_of_ne heq] at hs
      obtain ⟨hid, hmem | ⟨c', hc', rfl⟩⟩ := h.sdk id s hs
      · exact ⟨hid, .inl hmem⟩
      · rw [hpc] at hc'
        obtain rfl := Option.some.inj hc'
        exact absurd (hid.symm.trans (h.sdk _ _ hentry).1) heq

/-- The steps of `addCaptureRtpSession` and `delCaptureRtpSession`. -/
theorem stepControl_identifies (hknown : st.Known) (h : Identifies history st) (fails : Bool)
    (u : Uninitialised) :
    Ensures SdkEvent.Identified history (st.stepControl fails u) Identifies := by
  have hlt := hknown.control
  -- most steps move the thread and leave the registries as they are
  have hmove := @Identifies.move history st h
  have hself : st.SameRegistries st := ⟨rfl, rfl, rfl, rfl, fun _ => rfl, fun _ => rfl⟩
  refine (stepControl_endsIn st fails u).ensures fun es st' hends => ?_
  generalize hpc : st.control = pc at hends hlt hmove
  cases hends with
  | addLockMap s =>
      exact ensures_pure (hmove (p := .addBind s) (sameRegistries_setHolder _ .map) rfl rfl
        (fun _ => id) (fun _ => id) rfl)
  | addBindThrows s =>
      exact ensures_pure (hmove (p := .addThrowMap s) (sameRegistries_setSession (by rfl) (by rfl))
        rfl rfl (fun _ => id) (fun _ => id) rfl)
  | addBind s =>
      exact ensures_pure (hmove (p := .addRegisterAudio s)
        (sameRegistries_setSession (by rfl) (by rfl)) rfl rfl (fun _ => id) (fun _ => id) rfl)
  | addNoPorts s =>
      exact ensures_pure (hmove (p := .addPublish s) (sameRegistries_setSession (by rfl) (by rfl))
        rfl rfl (fun _ => id) (fun _ => id) rfl)
  | addRegisterAudioThrows s =>
      exact ensures_pure (hmove (p := .addThrowMap s) hself rfl rfl (fun _ => id) (fun _ => id) rfl)
  -- the handlers of the reactor are no registry of ids
  | addRegisterAudio s =>
      have hhandlers : st.SameRegistries
          { st with handlers := st.handlers ++ [⟨s, .audio, true⟩] } := { hself with }
      exact ensures_pure (hmove (p := .addRegisterVideo s) hhandlers rfl rfl (fun _ => id)
        (fun _ => id) rfl)
  | addRegisterVideoThrows s =>
      have hhandlers : st.SameRegistries { st with handlers := orphan st.handlers s } :=
        { hself with }
      exact ensures_pure (hmove (p := .addThrowMap s) hhandlers rfl rfl (fun _ => id)
        (fun _ => id) rfl)
  | addRegisterVideo s =>
      have hsession : st.SameRegistries
          (st.setSession s { st.sessions s with rtpHandler := true }) :=
        sameRegistries_setSession rfl rfl
      have hhandlers : st.SameRegistries
          { st.setSession s { st.sessions s with rtpHandler := true } with
            handlers := st.handlers ++ [⟨s, .video, true⟩] } := { hsession with }
      exact ensures_pure (hmove (p := .addPublish s) hhandlers rfl rfl (fun _ => id)
        (fun _ => id) rfl)
  -- the entry in the map of the receiver
  | addPublish s => exact ensures_pure (h.publish hpc (hlt s rfl))
  | addUnlockMap s =>
      exact ensures_pure (hmove (p := .addLockVector s) (sameRegistries_setHolder _ .map) rfl rfl
        (fun _ => id) (fun _ => id) rfl)
  | addThrowMap s =>
      exact ensures_emit_pure trivial
        ((hmove (p := .idle) (sameRegistries_setHolder none .map) rfl rfl nofun nofun rfl).emit rfl)
  | addLockVector s =>
      exact ensures_pure (hmove (p := .addDump s) (sameRegistries_setHolder _ .vector) rfl rfl
        (fun _ => id) (fun _ => id) rfl)
  | addDumpThrows s =>
      exact ensures_pure (hmove (p := .addThrowVector s) hself rfl rfl (fun _ => id) (fun _ => id)
        rfl)
  | addDump s =>
      exact ensures_pure (hmove (p := .addPush s) (sameRegistries_setSession (by rfl) (by rfl))
        rfl rfl (fun _ => id) (fun _ => id) rfl)
  -- the place in the vector
  | addPush s => exact ensures_pure (h.push hpc)
  | addUnlockVector s =>
      exact ensures_pure (hmove (p := .addRemember s) (sameRegistries_setHolder _ .vector) rfl rfl
        (fun _ => id) (fun _ => id) rfl)
  | addThrowVector s =>
      exact ensures_emit_pure trivial
        ((hmove (p := .idle) (sameRegistries_setHolder none .vector) rfl rfl nofun nofun rfl).emit
          rfl)
  -- the entry in the map of the SDK, and the id that is returned
  | addRemember s =>
      obtain ⟨hevent, hnew⟩ := h.remember hpc (hlt s rfl)
      exact ensures_emit_pure hevent hnew
  | delLockVector c =>
      exact ensures_pure (hmove (p := .delFind c) (sameRegistries_setHolder _ .vector) rfl rfl
        nofun nofun rfl)
  | delFind c => exact ensures_pure (hmove (p := .delLockBuffer c) hself rfl rfl nofun nofun rfl)
  | delNotFound c =>
      exact ensures_pure (hmove (p := .delUnlockVector c) hself rfl rfl nofun nofun rfl)
  | delLockBuffer c =>
      exact ensures_pure (hmove (p := .delDrain c) (sameRegistries_setHolder _ (.buffer c.session))
        rfl rfl nofun nofun rfl)
  | delDrained c => exact ensures_pure (hmove (p := .delDump c) hself rfl rfl nofun nofun rfl)
  | delHead c node => exact ensures_pure (hmove (p := .delErase c node) hself rfl rfl nofun nofun rfl)
  | delErase c node =>
      exact ensures_pure (hmove (p := .delLockPool c node.buffer)
        (sameRegistries_setSession (by rfl) (by rfl)) rfl rfl nofun nofun rfl)
  | delLockPool c b =>
      exact ensures_pure (hmove (p := .delRelease c b) (sameRegistries_setHolder _ .pool) rfl rfl
        nofun nofun rfl)
  | delRelease c b =>
      have hpool : st.SameRegistries { st.setHolder none .pool with pool := st.pool.release b } :=
        { hself with }
      exact ensures_pure (hmove (p := .delDrain c) hpool rfl rfl nofun nofun rfl)
  -- the place in the vector is given up
  | delDump c =>
      exact ensures_pure (h.close hpc (sameRegistries_setSession (by rfl) (by rfl)) rfl rfl)
  | delUnlockBuffer c =>
      exact ensures_pure (hmove (p := .delUnlockVector c)
        (sameRegistries_setHolder _ (.buffer c.session)) rfl rfl nofun nofun rfl)
  | delUnlockVector c =>
      exact ensures_pure (hmove (p := .delFree c) (sameRegistries_setHolder _ .vector) rfl rfl
        nofun nofun rfl)
  -- the object is deleted, and its id is still in the map of the SDK
  | delFree c =>
      refine ensures_pure { hmove (p := .delForget c) hself rfl rfl nofun nofun rfl with
        sessionID := fun s hs => ?_, creating := nofun, pushed := nofun }
      rw [← h.sessionID s hs]
      by_cases heq : s = c.session
      · simp [setSession, heq]
      · simp [setSession, heq]
  -- that entry is erased, and the call returns
  | delForget c =>
      obtain ⟨hevent, hnew⟩ := h.forget hpc
      exact ensures_emit_pure hevent hnew

/-- **A session is constructed** with an id that no live session has. -/
theorem callAdd_identifies (hknown : st.Known) (h : Identifies history st) (fileName : String)
    (videoPort audioPort videoFrequency : Word)
    (hfresh : st.FreshIds (.add fileName videoPort audioPort videoFrequency)) :
    Ensures SdkEvent.Identified history
      (st.callAdd fileName videoPort audioPort videoFrequency) Identifies := by
  have hnext : nextSessionID st.sessionCounter = idOf st.next := by
    rw [h.counter]
    exact nextSessionID_ofNat st.next
  unfold callAdd
  split
  swap
  · exact ensures_fault _
  · next hidle =>
      refine ensures_pure { h with
        counter := hnext
        sessionID := fun s hs => ?_
        sdk := fun id s hs => ?_
        creating := ?_
        pushed := nofun
        deleting := nofun }
      · simp only [setSession]
        by_cases heq : s = st.next
        · subst heq
          rw [Function.update_self]
          exact hnext
        · rw [Function.update_of_ne heq]
          exact h.sessionID s (Nat.lt_of_le_of_ne (Nat.le_of_lt_succ hs) heq)
      · obtain ⟨hid, hmem | ⟨c, hc, -⟩⟩ := h.sdk id s hs
        · exact ⟨hid, .inl hmem⟩
        · rw [hidle] at hc
          cases hc
      · rintro s ⟨⟩
        refine ⟨fun id hs => Nat.lt_irrefl _ (hknown.sdk id _ hs), fun s' hs' _ heq => ?_⟩
        exact hfresh s' hs' ((idOf_eq_iff_dvd (hknown.vector s' hs').le).mp heq.symm)

/-- The call of `delCaptureRtpSession`: an id that is not found is that of no live session. -/
theorem callDel_identifies (h : Identifies history st) (id : Word) :
    Ensures SdkEvent.Identified history (st.callDel id) Identifies := by
  unfold callDel
  split
  swap
  · exact ensures_fault _
  · next hidle =>
      split
      · next hnone =>
          refine ensures_emit_bind (fun s hs => ?_) (ensures_pure ?_)
          · rw [h.live_iff, hnone] at hs
            cases hs
          · have hlive : live (history ++ [.delNotFound id]) = live history := live_concat ..
            exact { h with live_iff := fun id s => by rw [hlive]; exact h.live_iff id s }
      · next s hs =>
          refine ensures_pure { h with
            sdk := fun id' s' hs' => ?_, creating := nofun, pushed := nofun, deleting := ?_ }
          · obtain ⟨hid, hmem | ⟨c, hc, -⟩⟩ := h.sdk id' s' hs'
            · exact ⟨hid, .inl hmem⟩
            · rw [hidle] at hc
              cases hc
          · rintro c ⟨⟩
            exact hs

/-- A thread that may not move has nothing to do with them. -/
theorem Apart.guarded {th : Thread} {x : SdkRun Sdk} (h : Apart st x) :
    Apart st (st.guarded th x) := by
  unfold Sdk.guarded
  split
  · exact apart_fault _
  · split
    · exact apart_fault _
    · exact h

/-- **One step of the system.** -/
theorem step_identifies (hknown : st.Known) (h : Identifies history st) {a : Action}
    (hfresh : st.FreshIds a) : Ensures SdkEvent.Identified history (st.step a) Identifies := by
  -- a thread that brings packets in changes no registry
  have hself : ∀ {st' : Sdk}, st'.sdkMap = st.sdkMap → st'.receiverMap = st.receiverMap →
      st'.sessionVector = st.sessionVector → st'.control = st.control →
      st'.sessions = st.sessions → st.SameRegistries st' :=
    fun h₁ h₂ h₃ h₄ h₅ => ⟨h₁, h₂, h₃, h₄, fun _ => by rw [h₅], fun _ => by rw [h₅]⟩
  cases a with
  | onRTPData t id data len =>
      refine Apart.ensures ⟨fun st' hst => ?_, fun e he => ?_⟩ h
      · obtain ⟨-, rfl⟩ := onRTPData_ok hst
        exact ⟨hself rfl rfl rfl rfl rfl, rfl, rfl⟩
      · simp only [step, callIngest] at he
        split at he
        · obtain rfl := List.mem_singleton.mp he
          rfl
        · cases he
  | readable s type available datagram =>
      refine Apart.ensures ⟨fun st' hst => ?_, fun e he => ?_⟩ h
      · obtain ⟨-, -, ⟨-, rfl⟩ | ⟨-, rfl⟩⟩ := readable_ok hst
        · exact ⟨hself rfl rfl rfl rfl rfl, rfl, rfl⟩
        · exact ⟨hself rfl rfl rfl rfl rfl, rfl, rfl⟩
      · simp only [step, dispatch] at he
        split at he
        · split at he
          · split at he <;> cases he
          · split at he <;> cases he
        · cases he
  | ingest x fails => exact (stepIngest_apart st x fails).guarded.ensures h
  | capture r => exact (stepCapture_apart st r).guarded.ensures h
  | add fileName videoPort audioPort videoFrequency =>
      exact callAdd_identifies hknown h _ _ _ _ hfresh
  | del id => exact callDel_identifies h id
  | control fails u =>
      simp only [step, guarded]
      split
      · exact ensures_fault _
      · split
        · exact ensures_fault _
        · exact stepControl_identifies hknown h fails u

/-! ## Every run -/

/-- **The entries of the live sessions stay**: the map of the SDK has just these; what the receiver
and the SDK are about to enter replaces none of theirs. -/
structure KeepsEntries (live : List (Word × SessionRef)) (st : Sdk) : Prop where
  sdk_iff : ∀ id s, (id, s) ∈ live ↔ st.sdkMap id = some s
  publish : ∀ s, st.control = .addPublish s → ∀ id s', (id, s') ∈ live →
    st.receiverMap (st.sessions s).sessionID ≠ some s'
  remember : ∀ s, st.control = .addRemember s → ∀ id s', (id, s') ∈ live →
    st.sdkMap (st.sessions s).sessionID ≠ some s'

/-- The entries of live sessions are kept. -/
theorem Identifies.keepsEntries (hknown : st.Known) (h : Identifies history st) :
    st.KeepsEntries (live history) := by
  -- while a session is added, the live sessions are in the vector, under other ids
  have hother : ∀ s, st.control.creating = some s → st.control.deleting = none →
      s < st.next → ∀ id s', (id, s') ∈ live history → idOf s' ≠ (st.sessions s).sessionID := by
    intro s hs hdeleting hlt id s' hs'
    rw [h.live_iff] at hs'
    obtain ⟨hnew, hids⟩ := h.creating s hs
    obtain ⟨-, hmem | ⟨c, hc, -⟩⟩ := h.sdk id s' hs'
    · rw [h.sessionID s hlt]
      refine hids s' hmem ?_
      rintro rfl
      exact hnew id hs'
    · rw [hdeleting] at hc
      cases hc
  refine ⟨h.live_iff, fun s hpc id s' hs' hentry => ?_, fun s hpc id s' hs' hentry => ?_⟩
  · refine hother s (by rw [hpc]; rfl) (by rw [hpc]; rfl) (hknown.control s (by rw [hpc]; rfl))
      id s' hs' (h.receiver _ s' hentry)
  · exact hother s (by rw [hpc]; rfl) (by rw [hpc]; rfl) (hknown.control s (by rw [hpc]; rfl))
      id s' hs' (h.sdk _ s' hentry).1

/-- **Session ids identify sessions**, in every run in which no session is added a multiple of
`2 ^ 31` calls after one that is live. -/
theorem run_identifies (memory : Block → Memory) {as : List Action}
    (hfresh : StepsMeet step FreshIds (construct memory) as) :
    Always SdkEvent.Identified (run (construct memory) as).trace ∧
      ∀ st, (run (construct memory) as).outcome = .ok st →
        st.KeepsEntries (live (run (construct memory) as).trace) := by
  have hrun : Ensures SdkEvent.Identified [] (run (construct memory) as)
      fun history st => st.Coherent ∧ Identifies history st := by
    refine hfresh.ensures (fun history st => st.Coherent ∧ Identifies history st) ?_
      ⟨coherent_construct memory, identifies_construct memory⟩
    rintro history st a ⟨hcoherent, h⟩ hcond
    obtain ⟨hevents, hpost⟩ := step_identifies hcoherent.known h hcond
    exact ⟨hevents, fun st' hst' => ⟨step_coherent hcoherent hst', hpost st' hst'⟩⟩
  refine ⟨by simpa using hrun.1, fun st hst => ?_⟩
  obtain ⟨hcoherent, h⟩ := hrun.2 st hst
  exact h.keepsEntries hcoherent.known

/-- A session is added, with two ports of its own. -/
def addition (fileName : String) (videoPort audioPort : Word) : List Action :=
  .add fileName videoPort audioPort 90000 :: List.replicate 11 (.control false .zero)

/-- Two sessions are added, the first one is deleted, and once more, and a third one is added. -/
def sampleSessions : List Action :=
  sampleAdd ++ addition "front.flv" 5004 5006 ++ sampleDelete ++ [.del 1] ++
    addition "rear.flv" 5008 5010

/-- The ids of these sessions are fresh. -/
theorem freshIds_sampleSessions :
    StepsMeet step FreshIds (construct fun _ _ => 0) sampleSessions := by
  have hcontrol : ∀ (n : ℕ) (st : Sdk),
      StepsMeet step FreshIds st (List.replicate n (.control false .zero)) := by
    intro n
    induction n with
    | zero => exact fun _ => trivial
    | succ n ih => exact fun _ => ⟨trivial, fun st' _ => ih st'⟩
  have hfirst : ∃ st, (run (construct fun _ _ => 0) sampleAdd).outcome = .ok st ∧
      ∀ s ∈ st.sessionVector, ¬ 2 ^ 31 ∣ st.next - s := by decide +kernel
  have hsecond : ∃ st, (run (construct fun _ _ => 0)
      (sampleAdd ++ addition "front.flv" 5004 5006)).outcome = .ok st ∧ True := by decide +kernel
  have hdeleted : ∃ st, (run (construct fun _ _ => 0)
      (sampleAdd ++ addition "front.flv" 5004 5006 ++ sampleDelete)).outcome = .ok st ∧ True := by
    decide +kernel
  have hthird : ∃ st, (run (construct fun _ _ => 0)
      (sampleAdd ++ addition "front.flv" 5004 5006 ++ sampleDelete ++ [.del 1])).outcome = .ok st ∧
        ∀ s ∈ st.sessionVector, ¬ 2 ^ 31 ∣ st.next - s := by decide +kernel
  obtain ⟨st₁, hst₁, hfresh₁⟩ := hfirst
  obtain ⟨st₂, hst₂, -⟩ := hsecond
  obtain ⟨st₃, hst₃, -⟩ := hdeleted
  obtain ⟨st₄, hst₄, hfresh₄⟩ := hthird
  refine (stepsMeet_append hst₄ _).mpr ⟨?_, hfresh₄, fun st' _ => hcontrol 11 st'⟩
  refine (stepsMeet_append hst₃ _).mpr ⟨?_, trivial, fun _ _ => trivial⟩
  refine (stepsMeet_append hst₂ _).mpr ⟨?_, trivial, fun st' _ => hcontrol 9 st'⟩
  refine (stepsMeet_append hst₁ _).mpr ⟨?_, hfresh₁, fun st' _ => hcontrol 11 st'⟩
  exact ⟨nofun, fun st' _ => hcontrol 11 st'⟩

/-- The ids `1`, `2` and `3` are returned; the first session is deleted and not found again. -/
theorem run_identifies_sampleSessions :
    let history := (run (construct fun _ _ => 0) sampleSessions).trace
    history.filter SdkEvent.endsCall =
        [.added 1 0, .added 2 1, .deleted 1 0, .delNotFound 1, .added 3 2] ∧
      Always SdkEvent.Identified history ∧
      ∀ st, (run (construct fun _ _ => 0) sampleSessions).outcome = .ok st →
        st.KeepsEntries [(3, 2), (2, 1)] := by
  intro history
  have hlive : live history = [(3, 2), (2, 1)] := by decide +kernel
  obtain ⟨hevents, hentries⟩ := run_identifies (fun _ _ => 0) freshIds_sampleSessions
  refine ⟨by decide +kernel, hevents, fun st hst => ?_⟩
  rw [← hlive]
  exact hentries st hst

/-! ## An id that comes again -/

/-- An addition that fails: the video port is in use. -/
def failedAdd : List Action :=
  .add "camera.flv" 5000 5002 90000 ::
    [.control false .zero, .control true .zero, .control false .zero]

/-- No call is going on after `n` additions, and the first session is live. -/
structure FirstIsLive (n : SessionRef) (st : Sdk) : Prop where
  control : st.control = .idle
  mapMutex : st.mapMutex = none
  vectorMutex : st.vectorMutex = none
  next : st.next = n
  counter : st.sessionCounter = .ofNat 32 (n % 2 ^ 31)
  entry : st.sdkMap 1 = some 0
  vector : 0 ∈ st.sessionVector
  alive : (st.sessions 0).deleted = false

/-- A call that fails draws an id, and the first session stays. -/
theorem firstIsLive_failedAdd {n : SessionRef} (h : FirstIsLive n st) (hn : 0 < n) :
    ∃ st', (run st failedAdd).outcome = .ok st' ∧ FirstIsLive (n + 1) st' := by
  have hrun : ∃ session, (run st failedAdd).outcome = .ok { st with
      sessions := Function.update st.sessions n session
      next := n + 1
      sessionCounter := nextSessionID st.sessionCounter } := by
    obtain ⟨hidle, hmap, -, hnext, -, -, -, -⟩ := h
    obtain ⟨c, ss, m, sm, rm, hs, v, pool, mem, mm, vm, pm, ing, cap, ctl⟩ := st
    dsimp only at hidle hmap hnext
    subst hidle hmap hnext
    simp [run, Traced.run, failedAdd, step, callAdd, guarded, dangling, blocked, touches, wants,
      Control.touches, Control.wants, holder, stepControl, setSession, setHolder]
  obtain ⟨session, hrun⟩ := hrun
  have hcounter : nextSessionID st.sessionCounter = .ofNat 32 ((n + 1) % 2 ^ 31) := by
    rw [h.counter]
    exact nextSessionID_ofNat n
  refine ⟨_, hrun, { h with next := rfl, counter := hcounter, alive := ?_ }⟩
  dsimp only
  rw [Function.update_of_ne hn.ne]
  exact h.alive

/-- The first session is live through any number of such additions. -/
theorem firstIsLive_failedAdds {n : SessionRef} (h : FirstIsLive n st) (hn : 0 < n) (k : ℕ) :
    ∃ as st', (run st as).outcome = .ok st' ∧ FirstIsLive (n + k) st' := by
  induction k with
  | zero => exact ⟨[], st, rfl, h⟩
  | succ k ih =>
      obtain ⟨as, st₁, has, h₁⟩ := ih
      obtain ⟨st₂, hst₂, h₂⟩ := firstIsLive_failedAdd h₁ (Nat.add_pos_left hn k)
      refine ⟨as ++ failedAdd, st₂, ?_, h₂⟩
      rw [run, run_append_of_ok has]
      exact hst₂

/-- **The id of a live session is returned again**, and its entry is replaced: after the first session
come `2 ^ 31 - 1` additions that fail, and the next one gets the id `1`. -/
theorem run_id_returns :
    ∃ as st st', (run (construct fun _ _ => 0) as).outcome = .ok st ∧ st.sdkMap 1 = some 0 ∧
      0 ∈ st.sessionVector ∧ (st.sessions 0).deleted = false ∧
      (run st sampleAdd).outcome = .ok st' ∧
      (run st sampleAdd).trace = [.added 1 (2 ^ 31)] ∧ st'.sdkMap 1 = some (2 ^ 31) ∧
      0 ∈ st'.sessionVector ∧ (st'.sessions 0).deleted = false := by
  obtain ⟨st₁, hst₁, h₁⟩ : ∃ st, (run (construct fun _ _ => 0) sampleAdd).outcome = .ok st ∧
      FirstIsLive 1 st :=
    ⟨_, rfl, rfl, rfl, rfl, rfl, rfl, rfl, List.mem_singleton_self 0, rfl⟩
  obtain ⟨as, st, hst, h⟩ := firstIsLive_failedAdds h₁ Nat.one_pos (2 ^ 31 - 1)
  have hfrom : (run (construct fun _ _ => 0) (sampleAdd ++ as)).outcome = .ok st := by
    rw [run, run_append_of_ok hst₁]
    exact hst
  obtain ⟨hidle, hmap, hvector, hnext, hcounter, hentry, hmem, halive⟩ := h
  have hlast : ∃ st', (run st sampleAdd).outcome = .ok st' ∧
      (run st sampleAdd).trace = [.added 1 (2 ^ 31)] ∧ st'.sdkMap 1 = some (2 ^ 31) ∧
      st'.sessionVector = st.sessionVector ++ [2 ^ 31] ∧ st'.sessions 0 = st.sessions 0 := by
    clear hst hfrom hmem halive hentry
    obtain ⟨c, ss, m, sm, rm, hs, v, pool, mem, mm, vm, pm, ing, cap, ctl⟩ := st
    dsimp only at hidle hmap hvector hnext hcounter
    have hzero : c = 0 := hcounter
    have hnumber : m = 2 ^ 31 := hnext
    subst hidle hmap hvector hnumber hzero
    exact ⟨_, rfl, rfl, rfl, rfl, rfl⟩
  obtain ⟨st', hst', htrace, hentry', hvector', hsession⟩ := hlast
  refine ⟨_, st, st', hfrom, hentry, hmem, halive, hst', htrace, hentry', ?_, ?_⟩
  · rw [hvector']
    exact List.mem_append_left _ hmem
  · rw [hsession]
    exact halive

end Sdk

end RtpCapture
