import RtpCapture.Recorder.AccessUnitBuffer

/-! # The parameter sets of the sequence header

The sequence header is written when `is_sps_pps_ok` reaches two, and it is incremented by SPS and
PPS alike.

* **`lastNal`** — the NAL unit of a type that was passed to `videoHandler` last.
* **`assemble_sets_eq_min`** — the counter counts the parameter sets of either kind, up to two.
* **`DifferentKinds`** — the first two parameter sets are an SPS and a PPS, in either order.
* **`record_sequenceHeader`** — then the sequence header is made of the SPS and the PPS received
  last. -/

namespace RtpCapture

open Traced

/-! ## What the assembly has stored -/

/-- A parameter set: a NAL unit of type 7 or 8. -/
def Call.isParameterSet (c : Call) : Bool := c.type = 7 ∨ c.type = 8

/-- **The NAL unit of type `type` received last.** -/
def lastNal (type : Byte) (cs : List Call) : Option (List Byte) :=
  (cs.filter fun c => c.type = type).getLast?.map Call.nal

/-- The last NAL unit of a type, with one more call. -/
theorem lastNal_concat (type : Byte) (cs : List Call) (c : Call) :
    lastNal type (cs ++ [c]) = if c.type = type then some c.nal else lastNal type cs := by
  by_cases h : c.type = type <;> simp [lastNal, h]

/-- It was one of the calls. -/
theorem exists_of_lastNal {type : Byte} {cs : List Call} {nal : List Byte}
    (h : lastNal type cs = some nal) : ∃ c ∈ cs, c.type = type ∧ c.nal = nal := by
  obtain ⟨c, hlast, rfl⟩ := Option.map_eq_some_iff.mp h
  obtain ⟨hmem, htype⟩ := List.mem_filter.mp (List.mem_of_getLast? hlast)
  exact ⟨c, hmem, of_decide_eq_true htype, rfl⟩

/-- One call before the sequence header. -/
theorem Assembly.feed_before {m : Assembly} (hsets : m.sets ≠ 2) (c : Call) :
    (m.feed c).sps = (if c.type = 7 then some c.nal else m.sps) ∧
      (m.feed c).pps = (if c.type = 8 then some (keptPps c.nal) else m.pps) ∧
      (m.feed c).sets = m.sets + if c.isParameterSet then 1 else 0 := by
  rw [feed, if_pos hsets, storePps, storeSps]
  by_cases h7 : c.type = 7
  · have h8 : c.type ≠ 8 := by
      rw [h7]
      decide
    have hset : c.isParameterSet = true := decide_eq_true (.inl h7)
    rw [if_pos h7, if_neg h8, if_neg h8, if_pos h7, if_pos hset]
    exact ⟨rfl, rfl, rfl⟩
  · by_cases h8 : c.type = 8
    · have hset : c.isParameterSet = true := decide_eq_true (.inr h8)
      rw [if_neg h7, if_pos h8, if_pos h8, if_neg h7, if_pos hset]
      exact ⟨rfl, rfl, rfl⟩
    · have hset : ¬ c.isParameterSet = true := fun h => (of_decide_eq_true h).elim h7 h8
      rw [if_neg h7, if_neg h8, if_neg h8, if_neg h7, if_neg hset]
      exact ⟨rfl, rfl, rfl⟩

/-- **Before the sequence header** the assembly stores the parameter sets received last. -/
theorem assemble_stored {cs : List Call} (hsets : (assemble cs).sets ≠ 2) :
    (assemble cs).sps = lastNal 7 cs ∧ (assemble cs).pps = (lastNal 8 cs).map keptPps := by
  induction cs using List.reverseRecOn with
  | nil => exact ⟨rfl, rfl⟩
  | append_singleton cs c ih =>
      -- the sets are never taken back
      have hbefore : (assemble cs).sets ≠ 2 := by
        intro htwo
        have hmono := assemble_sets_mono cs [c]
        have hle := assemble_sets_le (cs ++ [c])
        omega
      obtain ⟨hsps, hpps⟩ := ih hbefore
      obtain ⟨hsps', hpps', -⟩ := Assembly.feed_before hbefore c
      rw [assemble_concat, hsps', hpps', lastNal_concat, lastNal_concat, hsps, hpps]
      refine ⟨rfl, ?_⟩
      split <;> rfl

/-- **The call that completes the count** leaves the parameter sets received last. -/
theorem assemble_stored_concat {cs : List Call} (hsets : (assemble cs).sets ≠ 2) (c : Call) :
    (assemble (cs ++ [c])).sps = lastNal 7 (cs ++ [c]) ∧
      (assemble (cs ++ [c])).pps = (lastNal 8 (cs ++ [c])).map keptPps := by
  obtain ⟨hsps, hpps⟩ := assemble_stored hsets
  obtain ⟨hsps', hpps', -⟩ := Assembly.feed_before hsets c
  rw [assemble_concat, hsps', hpps', lastNal_concat, lastNal_concat, hsps, hpps]
  refine ⟨rfl, ?_⟩
  split <;> rfl

/-- **The counter** counts parameter sets of either kind, up to two. -/
theorem assemble_sets_eq_min (cs : List Call) :
    (assemble cs).sets = min 2 (cs.filter Call.isParameterSet).length := by
  induction cs using List.reverseRecOn with
  | nil => rfl
  | append_singleton cs c ih =>
      rw [assemble_concat, List.filter_append, List.length_append]
      -- a third parameter set is ignored
      by_cases hsets : (assemble cs).sets = 2
      · rw [Assembly.feed, if_neg (not_not.mpr hsets), Assembly.storeSlice_sets]
        omega
      · rw [(Assembly.feed_before hsets c).2.2]
        have hlast : ([c].filter Call.isParameterSet).length =
            if c.isParameterSet then 1 else 0 := by
          cases hset : c.isParameterSet <;> simp [hset]
        rw [hlast]
        split <;> omega

/-! ## The sequence header -/

/-- **The first two parameter sets are of different kinds.** -/
def DifferentKinds (cs : List Call) : Prop :=
  ∀ c c' rest, cs.filter Call.isParameterSet = c :: c' :: rest → c.type ≠ c'.type

/-- Two parameter sets of different kinds are an SPS and a PPS. -/
theorem lastNal_isSome {cs : List Call} {c c' : Call}
    (hsets : cs.filter Call.isParameterSet = [c, c']) (hkinds : c.type ≠ c'.type) :
    (∃ nal, lastNal 7 cs = some nal) ∧ ∃ nal, lastNal 8 cs = some nal := by
  have hmem : ∀ x ∈ [c, c'], x ∈ cs ∧ (x.type = 7 ∨ x.type = 8) := by
    intro x hx
    rw [← hsets, List.mem_filter] at hx
    exact ⟨hx.1, of_decide_eq_true hx.2⟩
  have hsome : ∀ type, (∃ x ∈ cs, x.type = type) → ∃ nal, lastNal type cs = some nal := by
    rintro type ⟨x, hx, htype⟩
    have hne : cs.filter (fun c => c.type = type) ≠ [] := by
      intro hnil
      have hx' : x ∈ cs.filter (fun c => c.type = type) :=
        List.mem_filter.mpr ⟨hx, decide_eq_true htype⟩
      rw [hnil] at hx'
      cases hx'
    exact ⟨_, by rw [lastNal, List.getLast?_eq_getLast_of_ne_nil hne]; rfl⟩
  obtain ⟨hc, htype⟩ := hmem c (by simp)
  obtain ⟨hc', htype'⟩ := hmem c' (by simp)
  rcases htype with h | h <;> rcases htype' with h' | h'
  · exact (hkinds (h.trans h'.symm)).elim
  · exact ⟨hsome 7 ⟨c, hc, h⟩, hsome 8 ⟨c', hc', h'⟩⟩
  · exact ⟨hsome 7 ⟨c', hc', h'⟩, hsome 8 ⟨c, hc, h⟩⟩
  · exact (hkinds (h.trans h'.symm)).elim

/-- A sequence header that is written is made of the SPS and the PPS received last. -/
def HeaderOfReceived (history : List Event) (e : Event) : Prop :=
  ∀ flv timestamp sps pps, e = .flvWriteSpsPpsTag flv timestamp sps pps →
    lastNal 7 (calls history) = some sps ∧
      ∃ nal, lastNal 8 (calls history) = some nal ∧ pps = keptPps nal

/-- **Behind exactly two parameter sets** a sequence header is written; if they are of different kinds,
of the SPS and the PPS received last. -/
theorem sequenceHeader_of_trace {fileName : String} {videoFrequency : Word} {u : Uninitialised}
    {as : List Arrival} {history rest : List Event} {flv : Bool} {timestamp : Word}
    {sps pps : List Byte}
    (htrace : ((RTPDump.construct fileName videoFrequency u).record as).trace =
      history ++ .flvWriteSpsPpsTag flv timestamp sps pps :: rest) :
    ∃ c c', (calls history).filter Call.isParameterSet = [c, c'] ∧
      (c.type ≠ c'.type → lastNal 7 (calls history) = some sps ∧
        ∃ nal, lastNal 8 (calls history) = some nal ∧ pps = keptPps nal) := by
  obtain ⟨-, -, -, past, c, hcalls, hbefore, hafter, hsps, hpps⟩ := allowed_of_trace htrace
  obtain ⟨hstoredSps, hstoredPps⟩ := assemble_stored_concat hbefore c
  rw [assemble_sets_eq_min] at hbefore hafter
  rw [← hcalls] at hafter hsps hpps hstoredSps hstoredPps
  -- exactly two parameter sets have been counted
  obtain ⟨c₁, c₂, htwo⟩ : ∃ c₁ c₂, (calls history).filter Call.isParameterSet = [c₁, c₂] := by
    apply List.length_eq_two.mp
    rw [hcalls, List.filter_append, List.length_append] at hafter ⊢
    have hone : ([c].filter Call.isParameterSet).length ≤ 1 := List.length_filter_le _ _
    omega
  refine ⟨c₁, c₂, htwo, fun hdiffer => ?_⟩
  obtain ⟨⟨nal, hnal⟩, nal', hnal'⟩ := lastNal_isSome htwo hdiffer
  rw [hnal] at hstoredSps
  rw [hnal'] at hstoredPps
  exact ⟨by rw [hnal, hsps nal hstoredSps], nal', hnal', hpps _ hstoredPps⟩

/-- **The sequence header carries the SPS and the PPS received last**, when the first two parameter
sets are of different kinds. -/
theorem record_sequenceHeader (fileName : String) (videoFrequency : Word) (u : Uninitialised)
    (as : List Arrival)
    (hkinds : DifferentKinds ((Depacketizer.start (u.nalData 0)).handed as)) :
    Always HeaderOfReceived ((RTPDump.construct fileName videoFrequency u).record as).trace := by
  rintro history _ rest htrace flv timestamp sps pps rfl
  obtain ⟨c, c', htwo, hheader⟩ := sequenceHeader_of_trace htrace
  obtain ⟨later, hlater⟩ := calls_history htrace
  refine hheader (hkinds c c' (later.filter Call.isParameterSet) ?_)
  rw [← hlater, List.filter_append, htwo]
  rfl

/-- One SPS and one PPS. -/
theorem record_sequenceHeader_sample :
    Always HeaderOfReceived
      ((RTPDump.construct "camera.flv" 90000 .zero).record [sampleSps, samplePps]).trace := by
  refine record_sequenceHeader "camera.flv" 90000 .zero [sampleSps, samplePps] ?_
  have hhanded : ((Depacketizer.start (Uninitialised.zero.nalData 0)).handed
      [sampleSps, samplePps]).filter Call.isParameterSet =
        [⟨7, [0x67, 0x42, 0x00, 0x1e], 0, false⟩, ⟨8, [0x68, 0xce], 0, false⟩] := by decide
  intro c c' rest hsets
  rw [hhanded] at hsets
  obtain ⟨rfl, rfl, -⟩ : _ = c ∧ _ = c' ∧ _ := by simpa using hsets
  decide

/-- **A repeated SPS completes the count**: after two SPS the sequence header is written, and
reaches the file, with a PPS that was never received. -/
theorem record_sequenceHeader_without_pps :
    lastNal 8 (calls ((RTPDump.construct "camera.flv" 90000 { Uninitialised.zero with
        ppsSize := 4 }).record [sampleSps, sampleSps]).trace) = none ∧
      .flvWriteSpsPpsTag true 0 [0x67, 0x42, 0x00, 0x1e] [0, 0, 0, 0] ∈
        ((RTPDump.construct "camera.flv" 90000 { Uninitialised.zero with
          ppsSize := 4 }).record [sampleSps, sampleSps]).trace := by
  constructor <;> decide +kernel

end RtpCapture
