import RtpCapture.Recorder.Depacketizer

/-! # The reassembly buffer

`m_nal_length` is reset by a start fragment only and never compared with the size of `m_nal_data`.

* **`FragmentsFit`** — the bytes that the FU-A packets carry since the last start fragment, counted
  from the packets alone, never exceed the size of the buffer.
* **`record_nalDataCopy_fits`** — then every copy stays inside `m_nal_data`.
* **`record_overrun`** — fragments without an end bit that carry more do overrun it. -/

namespace RtpCapture

open Traced

/-! ## What the fragments carry -/

/-- The bytes carried since the last start fragment, after one more: one for the rebuilt header and
what lies behind the two bytes of the fragment's own header. -/
def carriedBytes (n : ℕ) (p : Packet) : ℕ := (if p.isStart then 1 else n) + (p.len - 14).toNat

/-- **The fragments fit**: at each of them the bytes carried since the last start fragment are at
most the size of `m_nal_data`. -/
def FragmentsFit (n : ℕ) : List Packet → Prop
  | [] => True
  | p :: ps => carriedBytes n p ≤ nalDataSize ∧ FragmentsFit (carriedBytes n p) ps

instance FragmentsFit.decidable : (n : ℕ) → (ps : List Packet) → Decidable (FragmentsFit n ps)
  | _, [] => instDecidableTrue
  | n, p :: ps => @instDecidableAnd _ _ _ (decidable (carriedBytes n p) ps)

/-- The sizes of the packets the network hands over. -/
def PacketSizes (as : List Arrival) : Prop := ∀ a ∈ as, 14 ≤ a.packet.len ∧ a.packet.len ≤ 1500

instance (as : List Arrival) : Decidable (PacketSizes as) :=
  inferInstanceAs (Decidable (∀ a ∈ as, 14 ≤ a.packet.len ∧ a.packet.len ≤ 1500))

/-- A packet of at least 14 bytes carries what lies behind the FU header; nothing wraps. -/
theorem Packet.length_fuPayload {p : Packet} (hmin : 14 ≤ p.len) (hmax : p.len ≤ 1500) :
    p.fuPayload.length = (p.len - 14).toNat := by
  rw [Packet.fuPayload, Memory.length_read, fuPayloadLen, Packet.h264Len]
  omega

/-- The length of the NAL unit under reassembly is the count of the bytes carried. -/
theorem Depacketizer.length_fragment (s : Depacketizer) {p : Packet} (hmin : 14 ≤ p.len)
    (hmax : p.len ≤ 1500) : (s.fragment p).length = carriedBytes s.nal.length p := by
  rw [fragment, List.length_append, Packet.length_fuPayload hmin hmax, carriedBytes]
  split <;> rfl

/-! ## Recordings that fit -/

/-- An event that is not a copy past the end of `m_nal_data`. -/
def Event.NalDataFits : Event → Prop
  | .nalDataCopy offset length => offset + length ≤ nalDataSize
  | _ => True

/-- Only a copy into `m_nal_data` can miss it. -/
theorem Event.nalDataFits_of_other {e : Event} (h : ¬ e.IsReassembly) : e.NalDataFits := by
  cases e <;> first | trivial | exact (h trivial).elim

/-- The entry of `videoHandler` copies nothing. -/
theorem Call.nalDataFits (c : Call) : c.event.NalDataFits := trivial

/-- A step on a packet that fits. -/
theorem step_nalDataCopy_fits {s : Depacketizer} {d : RTPDump} (h : s.Matches d) {a : Arrival}
    {as : List Arrival} {history : List Event}
    (hsize : 14 ≤ a.packet.len ∧ a.packet.len ≤ 1500)
    (hfit : FragmentsFit s.nal.length (fragments s.route (a :: as))) :
    Ensures (fun _ e => e.NalDataFits) history (d.step a) fun _ d' =>
      (s.next a).Matches d' ∧
        FragmentsFit (s.next a).nal.length (fragments (s.next a).route as) := by
  refine (Depacketizer.step_handed h a (fun _ e => Event.nalDataFits_of_other) ?_
    (fun c _ _ _ => c.nalDataFits)).imp ?_
  · -- the copy of this fragment ends where the NAL unit gathered ends
    intro hreaches hfua grown off n hlen
    rw [fragments, if_pos ⟨hreaches, hfua⟩] at hfit
    rw [s.length_fragment hsize.1 hsize.2] at hlen
    exact hlen.le.trans hfit.1
  · rintro grown d' ⟨hmatches, -⟩
    refine ⟨hmatches, ?_⟩
    rw [fragments] at hfit
    by_cases hfragment : s.route.reaches a = true ∧ a.packet.isFuA = true
    · rw [if_pos hfragment] at hfit
      have hnal : (s.next a).nal = s.fragment a.packet := by
        simp [Depacketizer.next, Depacketizer.reassembled, hfragment]
      rw [hnal, s.length_fragment hsize.1 hsize.2]
      exact hfit.2
    · rw [if_neg hfragment] at hfit
      have hnal : (s.next a).nal = s.nal := by
        simp only [Depacketizer.next, Depacketizer.reassembled]
        split_ifs with hreaches hfua
        · exact (hfragment ⟨hreaches, hfua⟩).elim
        · rfl
        · rfl
      rw [hnal]
      exact hfit

/-- A recording on packets that fit, from any state the depacketizer matches. -/
theorem run_nalDataCopy_fits {s : Depacketizer} {d : RTPDump} (h : s.Matches d)
    {as : List Arrival} (history : List Event) (hsizes : PacketSizes as)
    (hfit : FragmentsFit s.nal.length (fragments s.route as)) :
    Ensures (fun _ e => e.NalDataFits) history (d.record as) fun _ _ => True := by
  induction as generalizing s d history with
  | nil => exact ensures_pure trivial
  | cons a as ih =>
      have hsize := hsizes a List.mem_cons_self
      have hrest : PacketSizes as := fun b hb => hsizes b (List.mem_cons_of_mem a hb)
      exact (step_nalDataCopy_fits h hsize hfit).bind
        fun grown d' hstep => ih hstep.1 grown hrest hstep.2

/-- **The copies into `m_nal_data` stay inside it** in every recording whose fragments fit. -/
theorem record_nalDataCopy_fits (fileName : String) (videoFrequency : Word) (u : Uninitialised)
    (as : List Arrival) (hsizes : PacketSizes as)
    (hfit : FragmentsFit 0 (fragments ⟨.default, false⟩ as)) :
    ∀ e ∈ ((RTPDump.construct fileName videoFrequency u).record as).trace, e.NalDataFits :=
  (run_nalDataCopy_fits (RTPDump.matches_construct fileName videoFrequency u) [] hsizes
    hfit).1.forall_mem

/-- A start and an end fragment of twenty bytes. -/
def twoFragments : List Arrival :=
  [⟨.ofBytes [0x80, 0x62, 0, 1, 0, 0, 0, 0, 0, 0, 0, 0, 0x7c, 0x85] 20, .allGood⟩,
    ⟨.ofBytes [0x80, 0xe2, 0, 2, 0, 0, 0, 0, 0, 0, 0, 0, 0x7c, 0x45] 20, .allGood⟩]

/-- They fit. -/
theorem record_nalDataCopy_fits_two_fragments :
    FragmentsFit 0 (fragments ⟨.default, false⟩ twoFragments) ∧
      ∀ e ∈ ((RTPDump.construct "camera.flv" 90000 .zero).record twoFragments).trace,
        e.NalDataFits :=
  ⟨by decide, record_nalDataCopy_fits "camera.flv" 90000 .zero _ (by decide) (by decide)⟩

/-! ## Recordings that do not -/

/-- A fragment without an end bit, of a recorder that is on the FLV path. -/
structure IsMiddle (a : Arrival) : Prop where
  reaches : ∀ ro : Route, ro.reaches a = true
  isFuA : a.packet.isFuA = true
  isEnd : a.packet.isEnd = false

/-- **What a fragment without an end bit does**: it is copied, and the recording goes on when it
fits. -/
theorem step_of_isMiddle {s : Depacketizer} {d : RTPDump} (h : s.Matches d) {a : Arrival}
    (ha : IsMiddle a) :
    (∃ off n, Event.nalDataCopy off n ∈ (d.step a).trace ∧
        off + n = (s.fragment a.packet).length) ∧
      ((s.fragment a.packet).length ≤ nalDataSize →
        ∃ d', (d.step a).outcome = .ok d' ∧ (s.next a).Matches d') := by
  rcases step_cases d a with ⟨haudio, -, -⟩ | ⟨pre, d', hprelude, -, hstep⟩
  · have hnot := (d.route.next_of_isAudio haudio).2
    rw [ha.reaches] at hnot
    cases hnot
  rw [if_pos (ha.reaches _)] at hstep
  have hfragment := (h.of_prelude hprelude).of_fragment a.packet
  -- no end bit: the fragment is copied, and nothing else happens
  have hnal : nalHandler a.results d' a.packet = ⟨[d'.fragmentCopy a.packet],
      if nalDataSize < (d'.gathered a.packet).nalLength then .error .nalDataOverrun
      else .ok (d'.gathered a.packet)⟩ := by
    have hend : ¬ a.packet.h264Buf 1 &&& 0x40 ≠ 0 := by
      rw [← Packet.isEnd_iff, ha.isEnd]
      exact Bool.false_ne_true
    rw [nalHandler_of_fragment (Packet.isFuA_iff.mp ha.isFuA), if_neg hend]
    split <;> rfl
  rw [hfragment.length] at hnal
  rw [hstep, hnal]
  refine ⟨⟨_, _, List.mem_append_right _ (List.mem_singleton_self _), hfragment.length⟩,
    fun hfits => ⟨_, if_neg (Nat.not_lt.mpr hfits), ?_⟩⟩
  have hnext : s.next a = { s with route := s.route.next a, nal := s.fragment a.packet } := by
    rw [Depacketizer.next, Depacketizer.reassembled, if_pos (ha.reaches _), if_pos ha.isFuA]
  rw [hnext]
  exact hfragment

/-- **Fragments without an end bit that carry too much overrun `m_nal_data`.** -/
theorem record_overrun {s : Depacketizer} {d : RTPDump} (h : s.Matches d) {as : List Arrival}
    (has : ∀ a ∈ as, IsMiddle a) (hbefore : s.nal.length ≤ nalDataSize)
    (hafter : nalDataSize < (s.after as).nal.length) :
    ∃ e ∈ (d.record as).trace, ¬ e.NalDataFits := by
  induction as generalizing s d with
  | nil => exact (Nat.not_lt.mpr hbefore hafter).elim
  | cons a as ih =>
      have ha := has a List.mem_cons_self
      obtain ⟨⟨off, n, hmem, hlength⟩, hok⟩ := step_of_isMiddle h ha
      have hnal : (s.next a).nal = s.fragment a.packet := by
        simp [Depacketizer.next, Depacketizer.reassembled, ha.reaches, ha.isFuA]
      -- the first fragment that does not fit overruns, whether or not the copy is caught
      by_cases hfits : (s.fragment a.packet).length ≤ nalDataSize
      · obtain ⟨d', hout, hmatches⟩ := hok hfits
        obtain ⟨e, he, hover⟩ := ih hmatches (fun b hb => has b (List.mem_cons_of_mem a hb))
          (hnal ▸ hfits) hafter
        refine ⟨e, ?_, hover⟩
        rw [RTPDump.record, run_cons_of_ok hout]
        exact List.mem_append_right _ he
      · refine ⟨.nalDataCopy off n, ?_, fun hc => hfits (hlength ▸ hc)⟩
        rw [RTPDump.record, run_cons]
        exact mem_trace_bind_left hmem

/-- A middle fragment of 1500 bytes and payload type 98. -/
def middleFragment : Arrival :=
  ⟨.ofBytes [0x80, 0x62, 0, 1, 0, 0, 0, 0, 0, 0, 0, 0, 0x7c, 0x05] 1500, .allGood⟩

/-- It is neither a start nor an end fragment. -/
theorem middleFragment_isMiddle : IsMiddle middleFragment where
  reaches _ := Route.reaches_of_98 (by decide) (by decide) rfl
  isFuA := by decide
  isEnd := by decide

/-- Each such fragment adds 1486 bytes. -/
theorem length_after_middleFragment (s : Depacketizer) (k : ℕ) :
    (s.after (List.replicate k middleFragment)).nal.length = s.nal.length + 1486 * k := by
  induction k generalizing s with
  | zero => rfl
  | succ k ih =>
      have hnal : (s.next middleFragment).nal = s.fragment middleFragment.packet := by
        simp [Depacketizer.next, Depacketizer.reassembled, middleFragment_isMiddle.reaches,
          middleFragment_isMiddle.isFuA]
      have hlength : (s.next middleFragment).nal.length = s.nal.length + 1486 := by
        rw [hnal, s.length_fragment (by decide) (by decide), carriedBytes,
          if_neg (by decide : ¬ middleFragment.packet.isStart = true)]
        rfl
      rw [List.replicate_succ, Depacketizer.after, List.foldl_cons, ← Depacketizer.after, ih,
        hlength]
      ring

/-- **The reassembly buffer can be overrun**: 177 middle fragments in a row write behind
`m_nal_data`. -/
theorem record_nalDataCopy_overruns :
    PacketSizes (List.replicate 177 middleFragment) ∧
      ∃ e ∈ ((RTPDump.construct "camera.flv" 90000 .zero).record
        (List.replicate 177 middleFragment)).trace, ¬ e.NalDataFits := by
  constructor
  · intro a ha
    rw [List.eq_of_mem_replicate ha]
    decide
  · refine record_overrun (RTPDump.matches_construct "camera.flv" 90000 .zero) ?_ (by decide) ?_
    · intro a ha
      rw [List.eq_of_mem_replicate ha]
      exact middleFragment_isMiddle
    · rw [length_after_middleFragment]
      decide

end RtpCapture
