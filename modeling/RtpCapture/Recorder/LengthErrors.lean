import RtpCapture.Recorder.Depacketizer

/-! # The exception that leaves `rtpHandler`

The sizes of the parameter sets are not initialised, and two parameter sets of one kind are counted
like one of each. The strings of the sequence header are then built from the size of a set that was
never stored; when it happens to be negative, `std::length_error` leaves `rtpHandler`.

* **`RTPDump.ThrowsLength`** — the packets on which this happens.
* **`step_lengthError`** — the exception is thrown on no other packet.
* **`RTPDump.ThrowsLength.not_ok`** — on these `rtpHandler` does not return. -/

namespace RtpCapture

open Traced

/-- **The header lacks a size**: a NAL unit of this type is the second parameter set counted, and
the size of the set of the other kind is negative. -/
def RTPDump.LacksSize (d : RTPDump) (type : Byte) : Prop :=
  d.isSpsPpsOk = 1 ∧ (type = 7 ∧ d.ppsSize < 0 ∨ type = 8 ∧ d.spsSize < 0)

/-- **The packets that throw**: they complete a NAL unit for which the header lacks a size. -/
def RTPDump.ThrowsLength (d : RTPDump) (a : Arrival) : Prop :=
  ∃ c, (Depacketizer.ofRecorder d).call a = some c ∧ d.LacksSize c.type

/-- `std::length_error` only when `Q` holds. -/
def ThrowsOnlyIf (Q : Prop) (_ : List Event) (f : Fault) : Prop := f = .lengthError → Q

section Throws

variable {d : RTPDump} {r : FileResults} (history : List Event) {Q : Prop}

/-- Any other fault. -/
theorem throwsOnlyIf_of_ne {f : Fault} (h : f ≠ .lengthError) : ThrowsOnlyIf Q history f :=
  fun hf => absurd hf h

/-- A tag write does not throw. -/
theorem srsFlvWriteTag_throws (flv : Bool) (type : TagType) (timestamp : Word) (data : List Byte)
    (written : Bool) :
    StopsWith (ThrowsOnlyIf Q) history (srsFlvWriteTag flv type timestamp data written) := by
  refine stopsWith_emit_bind ?_
  cases flv with
  | false => exact stopsWith_fault (throwsOnlyIf_of_ne _ fun h => by cases h)
  | true => cases written <;> exact stopsWith_of_ok rfl

/-- **The sequence header** throws when both sets are counted and a size is negative. -/
theorem writeSequenceHeader_throws (timestamp : Word) :
    StopsWith (ThrowsOnlyIf (d.isSpsPpsOk = 2 ∧ (d.spsSize < 0 ∨ d.ppsSize < 0))) history
      (writeSequenceHeader r d timestamp) := by
  unfold writeSequenceHeader
  split
  swap
  · exact stopsWith_of_ok rfl
  rename_i hsets
  refine StopsWith.bind (stopsWith_emit_bind ?_) fun _ _ => stopsWith_of_ok rfl
  split
  · exact stopsWith_fault (throwsOnlyIf_of_ne _ fun h => by cases h)
  split
  · rename_i hsize
    exact stopsWith_fault fun _ => ⟨hsets, hsize⟩
  refine StopsWith.bind ?_ fun sh _ => ?_
  · unfold muxSequenceHeader
    split
    · exact stopsWith_fault (throwsOnlyIf_of_ne _ fun h => by cases h)
    split
    · exact stopsWith_fault (throwsOnlyIf_of_ne _ fun h => by cases h)
    · exact stopsWith_of_ok rfl
  · split
    · exact stopsWith_fault (throwsOnlyIf_of_ne _ fun h => by cases h)
    cases r.written <;> exact stopsWith_of_ok rfl

/-- It does not return then. -/
theorem writeSequenceHeader_not_ok (hsets : d.isSpsPpsOk = 2)
    (hsize : d.spsSize < 0 ∨ d.ppsSize < 0) (timestamp : Word) (d' : RTPDump) :
    (writeSequenceHeader r d timestamp).outcome ≠ .ok d' := by
  intro hok
  rw [writeSequenceHeader, if_pos hsets] at hok
  obtain ⟨_, hheader, -⟩ := bind_eq_ok hok
  unfold srsFlvWriteSpsPpsTag at hheader
  obtain ⟨_, -, hheader, -⟩ := bind_eq_ok hheader
  cases hflv : d.flv with
  | false =>
      rw [hflv] at hheader
      cases hheader
  | true =>
      rw [hflv, if_neg (by decide), if_pos hsize] at hheader
      cases hheader

/-- Audio does not throw. -/
theorem audioHandler_throws (payload : List Byte) (time : Word) (type : AudioType) :
    StopsWith (ThrowsOnlyIf Q) history (audioHandler r d payload time type) := by
  refine stopsWith_emit_bind ?_
  split
  · exact stopsWith_fault (throwsOnlyIf_of_ne _ fun h => by cases h)
  refine stopsWith_emit_bind ?_
  split
  · exact (srsFlvWriteTag_throws ..).bind fun _ _ => stopsWith_of_ok rfl
  · exact stopsWith_of_ok rfl

/-- A NAL unit has one type. -/
theorem type_ne_of_eq {t : Byte} (h : t = 7) : t ≠ 8 := by
  rw [h]
  decide

/-- **The parameter sets.** -/
theorem parameterSetPhase_throws (hsets : d.isSpsPpsOk ≠ 2) (buf : Memory) (len : ℕ)
    (timestamp : Word) :
    StopsWith (ThrowsOnlyIf (d.LacksSize (nalType (buf 0)))) history
      (parameterSetPhase r d buf len timestamp) := by
  unfold parameterSetPhase storeSps storePps
  by_cases hsps : nalType (buf 0) = 7
  · -- the SPS is stored, so only the size of the PPS can be negative
    simp only [if_pos hsps, if_neg (type_ne_of_eq hsps)]
    refine StopsWith.bind (stopsWith_emit_bind ?_) fun d₁ hd₁ => ?_
    · split
      · exact stopsWith_fault (throwsOnlyIf_of_ne _ fun h => by cases h)
      · exact stopsWith_of_ok rfl
    · rw [pure_bind]
      obtain ⟨_, -, hd₁, -⟩ := bind_eq_ok hd₁
      split at hd₁
      · cases hd₁
      obtain rfl := Except.ok.inj hd₁
      refine ⟨fun f hf hthrow => ?_⟩
      obtain ⟨hcount, hsize⟩ := (writeSequenceHeader_throws history timestamp).stops f hf hthrow
      have hpps := hsize.resolve_left (not_lt.mpr (Int.natCast_nonneg len))
      exact ⟨Nat.succ.inj hcount, .inl ⟨hsps, hpps⟩⟩
  by_cases hpps : nalType (buf 0) = 8
  · simp only [if_neg hsps, if_pos hpps]
    rw [pure_bind]
    refine StopsWith.bind (stopsWith_emit_bind (stopsWith_of_ok rfl)) fun d₁ hd₁ => ?_
    obtain rfl := Except.ok.inj hd₁
    refine ⟨fun f hf hthrow => ?_⟩
    obtain ⟨hcount, hsize⟩ := (writeSequenceHeader_throws history timestamp).stops f hf hthrow
    have hsps := hsize.resolve_right (not_lt.mpr (Int.natCast_nonneg (ppsKept len)))
    exact ⟨Nat.succ.inj hcount, .inr ⟨hpps, hsps⟩⟩
  · simp only [if_neg hsps, if_neg hpps]
    rw [pure_bind, pure_bind]
    refine ⟨fun f hf hthrow => ?_⟩
    exact absurd ((writeSequenceHeader_throws history timestamp).stops f hf hthrow).1
      hsets

/-- They do not return when the header lacks a size. -/
theorem parameterSetPhase_not_ok {buf : Memory} (h : d.LacksSize (nalType (buf 0))) (len : ℕ)
    (timestamp : Word) (d' : RTPDump) :
    (parameterSetPhase r d buf len timestamp).outcome ≠ .ok d' := by
  obtain ⟨hcount, hkind⟩ := h
  intro hok
  unfold parameterSetPhase storeSps storePps at hok
  rcases hkind with ⟨hsps, hsize⟩ | ⟨hpps, hsize⟩
  · simp only [if_pos hsps, if_neg (type_ne_of_eq hsps)] at hok
    obtain ⟨d₁, hd₁, hok, -⟩ := bind_eq_ok hok
    obtain ⟨_, -, hd₁, -⟩ := bind_eq_ok hd₁
    split at hd₁
    · cases hd₁
    obtain rfl := Except.ok.inj hd₁
    rw [pure_bind] at hok
    refine writeSequenceHeader_not_ok ?_ ?_ timestamp d' hok
    · exact congrArg Nat.succ hcount
    · exact .inr hsize
  · have hne : nalType (buf 0) ≠ 7 := fun hsps => type_ne_of_eq hsps hpps
    simp only [if_neg hne, if_pos hpps] at hok
    rw [Traced.pure_bind] at hok
    obtain ⟨d₁, hd₁, hok, -⟩ := bind_eq_ok hok
    obtain rfl := Except.ok.inj hd₁
    refine writeSequenceHeader_not_ok ?_ ?_ timestamp d' hok
    · exact congrArg Nat.succ hcount
    · exact .inl hsize

/-- A slice does not throw. -/
theorem slicePhase_throws (buf : Memory) (len : ℕ) (timestamp : Word) (marker : Bool) :
    StopsWith (ThrowsOnlyIf Q) history (slicePhase r d buf len timestamp marker) := by
  unfold slicePhase
  split
  swap
  · exact stopsWith_of_ok rfl
  refine stopsWith_emit_bind ?_
  split
  · exact stopsWith_fault (throwsOnlyIf_of_ne _ fun h => by cases h)
  split
  · exact (srsFlvWriteTag_throws ..).bind fun _ _ => stopsWith_of_ok rfl
  · exact stopsWith_of_ok rfl

/-- **A call of `videoHandler`.** -/
theorem videoHandler_throws (buf : Memory) (len : ℕ) (time : Word) (marker : Bool) :
    StopsWith (ThrowsOnlyIf (d.LacksSize (nalType (buf 0)))) history
      (videoHandler r d buf len time marker) := by
  refine stopsWith_emit_bind ?_
  split
  · exact stopsWith_fault (throwsOnlyIf_of_ne _ fun h => by cases h)
  refine stopsWith_emit_bind (StopsWith.bind ?_ fun _ _ => stopsWith_of_ok rfl)
  unfold nalPhase
  split
  · rename_i hsets
    exact parameterSetPhase_throws _ hsets ..
  · exact slicePhase_throws ..

/-- It does not return when the header lacks a size. -/
theorem videoHandler_not_ok {buf : Memory} (h : d.LacksSize (nalType (buf 0))) (len : ℕ)
    (time : Word) (marker : Bool) (d' : RTPDump) :
    (videoHandler r d buf len time marker).outcome ≠ .ok d' := by
  intro hok
  obtain ⟨_, -, hok, -⟩ := bind_eq_ok hok
  split at hok
  · cases hok
  obtain ⟨_, -, hok, -⟩ := bind_eq_ok hok
  obtain ⟨d₁, hd₁, -⟩ := bind_eq_ok hok
  have hsets : d.isSpsPpsOk ≠ 2 := by
    rw [h.1]
    decide
  rw [nalPhase, if_pos hsets] at hd₁
  refine parameterSetPhase_not_ok ?_ len _ d₁ hd₁
  exact h

/-- What an end fragment hands to `videoHandler`. -/
theorem completed_of_isEnd {p : Packet} (hfua : p.isFuA = true) (hend : p.isEnd = true) :
    (Depacketizer.ofRecorder d).completed p = some ⟨nalType ((d.gathered p).nalData 0),
      (d.gathered p).nalData.read 0 (d.gathered p).nalLength, p.time, p.marker⟩ := by
  have hfragment := (Depacketizer.matches_ofRecorder d).of_fragment p
  rw [Depacketizer.completed, if_pos hfua, if_pos hend, hfragment.data, hfragment.head]

/-- The fragments gathered are no parameter sets yet. -/
theorem lacksSize_gathered (d : RTPDump) (p : Packet) (type : Byte) :
    (d.gathered p).LacksSize type ↔ d.LacksSize type := by
  obtain ⟨nalData, nalLength, hgathered⟩ := d.gathered_eq p
  rw [hgathered]
  rfl

/-- **The H.264 part.** -/
theorem nalHandler_throws (p : Packet) :
    StopsWith (ThrowsOnlyIf (∃ c, (Depacketizer.ofRecorder d).completed p = some c ∧
      d.LacksSize c.type)) history (nalHandler r d p) := by
  by_cases hfua : nalType (p.h264Buf 0) = 28
  swap
  · rw [nalHandler, if_neg hfua]
    refine ⟨fun f hf hthrow => ⟨_, if_neg (mt Packet.isFuA_iff.mp hfua), ?_⟩⟩
    exact (videoHandler_throws history ..).stops f hf hthrow
  rw [nalHandler_of_fragment hfua]
  refine stopsWith_emit_bind ?_
  split
  · exact stopsWith_fault (throwsOnlyIf_of_ne _ fun h => by cases h)
  split
  swap
  · exact stopsWith_of_ok rfl
  rename_i hend
  refine ⟨fun f hf hthrow => ?_⟩
  refine ⟨_, completed_of_isEnd (Packet.isFuA_iff.mpr hfua) (Packet.isEnd_iff.mpr hend), ?_⟩
  exact (lacksSize_gathered d p _).mp
    ((videoHandler_throws history ..).stops f hf hthrow)

/-- It does not return when the header lacks a size. -/
theorem nalHandler_not_ok {p : Packet} {c : Call}
    (hc : (Depacketizer.ofRecorder d).completed p = some c) (h : d.LacksSize c.type)
    (d' : RTPDump) : (nalHandler r d p).outcome ≠ .ok d' := by
  by_cases hfua : p.isFuA = true
  swap
  · rw [Depacketizer.completed, if_neg hfua] at hc
    obtain rfl := Option.some.inj hc
    rw [nalHandler, if_neg (mt Packet.isFuA_iff.mpr hfua)]
    exact videoHandler_not_ok h _ _ _ d'
  rw [nalHandler_of_fragment (Packet.isFuA_iff.mp hfua)]
  intro hok
  obtain ⟨_, -, hok, -⟩ := bind_eq_ok hok
  split at hok
  · cases hok
  split at hok
  · rename_i hend
    rw [completed_of_isEnd hfua (Packet.isEnd_iff.mpr hend)] at hc
    obtain rfl := Option.some.inj hc
    exact videoHandler_not_ok ((lacksSize_gathered d p _).mpr h) _ _ _ d' hok
  · rename_i hend
    rw [Depacketizer.completed, if_pos hfua, if_neg (mt Packet.isEnd_iff.mp hend)] at hc
    cases hc

/-- **`std::length_error` leaves `rtpHandler`** only on such a packet. -/
theorem step_lengthError {a : Arrival} (h : (d.step a).outcome = .error .lengthError) :
    d.ThrowsLength a := by
  rcases step_cases d a with ⟨-, -, hstep⟩ | ⟨pre, d', hprelude, -, hstep⟩
  · rw [hstep] at h
    exact ((audioHandler_throws (Q := False) [] ..).stops _ h rfl).elim
  · obtain ⟨psOutfile, rfl⟩ := hprelude.state
    rw [hstep] at h
    by_cases hreaches : d.route.reaches a = true
    · rw [if_pos hreaches] at h
      obtain ⟨c, hc, hlacks⟩ := (nalHandler_throws [] _).stops _ h rfl
      exact ⟨c, (if_pos hreaches).trans hc, hlacks⟩
    · rw [if_neg hreaches] at h
      cases h

/-- **On such a packet `rtpHandler` does not return.** -/
theorem RTPDump.ThrowsLength.not_ok {a : Arrival} (h : d.ThrowsLength a) (d' : RTPDump) :
    (d.step a).outcome ≠ .ok d' := by
  obtain ⟨c, hc, hlacks⟩ := h
  unfold Depacketizer.call at hc
  split at hc
  swap
  · cases hc
  rename_i hreaches
  have hroute : d.route.reaches a = true := hreaches
  rcases step_cases d a with ⟨haudio, -, -⟩ | ⟨pre, d₁, hprelude, -, hstep⟩
  · rw [(d.route.next_of_isAudio haudio).2] at hroute
    cases hroute
  · obtain ⟨psOutfile, rfl⟩ := hprelude.state
    rw [hstep, if_pos hroute]
    refine nalHandler_not_ok (c := c) ?_ ?_ d'
    · exact hc
    · exact hlacks

end Throws

end RtpCapture
