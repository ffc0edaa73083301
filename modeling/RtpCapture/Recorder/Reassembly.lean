import RtpCapture.Recorder.Sender

/-! # Reassembly on a lossy network

The receiver never looks at sequence numbers: between a start and an end fragment it appends
whatever FU-A packets arrive. So what an end fragment hands to `videoHandler` depends on the
fragments that arrived since the start, in the order of their arrival.

* **`IsRun`** — FU-A packets that begin with the only start fragment and end with the only end
  fragment among them; `runNal` is the byte string they make.
* **`nal_after`** — the NAL unit under reassembly is a fold over the fragments that arrived, and on
  a run it is `runNal` whatever came before (`assembleFragments_run`).
* **`step_hands_sent_or_run`** — on packets of a sender, lost, repeated or reordered: a single-NAL
  packet hands on the unit it carries, an end fragment that closes a run hands on `runNal`, which
  is a unit that was sent when the run is complete. -/

namespace RtpCapture

open Traced

/-! ## Runs of fragments as they arrive -/

/-- The NAL unit under reassembly after more fragments. -/
def assembleFragments (nal : List Byte) (ps : List Packet) : List Byte :=
  ps.foldl (fun nal p => (if p.isStart then [p.fuNalHeader] else nal) ++ p.fuPayload) nal

/-- **A run**: one start fragment, at the front, and one end fragment, at the back. -/
structure IsRun (run : List Packet) : Prop where
  front : ∃ p rest, run = p :: rest ∧ p.isStart = true ∧ ∀ q ∈ rest, q.isStart = false
  back : ∃ earlier q, run = earlier ++ [q] ∧ q.isEnd = true ∧ ∀ p ∈ earlier, p.isEnd = false

/-- **The byte string of a run**: the header rebuilt from the start fragment, then what the
fragments carry. -/
def runNal : List Packet → List Byte
  | [] => []
  | p :: rest => p.fuNalHeader :: (p :: rest).flatMap Packet.fuPayload

/-- A run that consists of exactly the fragments of one of the units sent, in their order. -/
def CompleteRun (nals : List (List Byte)) (run : List Packet) : Prop :=
  ∃ header body, header :: body ∈ nals ∧ FragmentRun header true body run

/-- Without fragments the NAL unit stays as it is. -/
@[simp] theorem assembleFragments_nil (nal : List Byte) : assembleFragments nal [] = nal := rfl

/-- A start fragment begins anew, any other is appended. -/
theorem assembleFragments_cons (nal : List Byte) (p : Packet) (ps : List Packet) :
    assembleFragments nal (p :: ps) =
      assembleFragments ((if p.isStart then [p.fuNalHeader] else nal) ++ p.fuPayload) ps := rfl

/-- Some fragments and then others. -/
theorem assembleFragments_append (nal : List Byte) (ps qs : List Packet) :
    assembleFragments nal (ps ++ qs) = assembleFragments (assembleFragments nal ps) qs :=
  List.foldl_append

/-- A run is its rebuilt header and the payloads. -/
theorem runNal_cons (p : Packet) (rest : List Packet) :
    runNal (p :: rest) = p.fuNalHeader :: (p.fuPayload ++ rest.flatMap Packet.fuPayload) := rfl

/-- Fragments without a start bit are appended. -/
theorem assembleFragments_of_not_start {ps : List Packet} (h : ∀ p ∈ ps, p.isStart = false)
    (nal : List Byte) : assembleFragments nal ps = nal ++ ps.flatMap Packet.fuPayload := by
  induction ps generalizing nal with
  | nil => simp
  | cons p ps ih =>
      have hp : ¬ p.isStart = true := Bool.eq_false_iff.mp (h p List.mem_cons_self)
      have hps : ∀ q ∈ ps, q.isStart = false := fun q hq => h q (List.mem_cons_of_mem p hq)
      rw [assembleFragments_cons, if_neg hp, ih hps, List.flatMap_cons, List.append_assoc]

/-- **A run forgets what came before its start fragment.** -/
theorem assembleFragments_run {run : List Packet} (h : IsRun run) (nal : List Byte)
    (older : List Packet) : assembleFragments nal (older ++ run) = runNal run := by
  obtain ⟨p, rest, rfl, hstart, hrest⟩ := h.front
  rw [assembleFragments_append, assembleFragments_cons, if_pos hstart,
    assembleFragments_of_not_start hrest, runNal_cons, List.append_assoc, List.singleton_append]

/-- The start fragment of a run of fragments carries the header. -/
theorem FragmentRun.header_eq {header : Byte} {body : List Byte} {run : List Packet}
    (h : FragmentRun header true body run) :
    ∃ p rest, run = p :: rest ∧ p.fuNalHeader = header := by
  cases h with
  | last h => exact ⟨_, _, rfl, h.fragment.2.2.2.1⟩
  | more h hrest => exact ⟨_, _, rfl, h.fragment.2.2.2.1⟩

/-- **A complete run makes the unit that was sent.** -/
theorem runNal_of_fragmentRun {header : Byte} {body : List Byte} {run : List Packet}
    (h : FragmentRun header true body run) : runNal run = header :: body := by
  obtain ⟨p, rest, rfl, hheader⟩ := h.header_eq
  rw [runNal_cons, hheader, ← h.rebuild, List.flatMap_cons]

/-! ## The depacketizer on fragments -/

/-- **The NAL unit under reassembly is a fold over the fragments that arrived.** -/
theorem Depacketizer.nal_after (s : Depacketizer) (as : List Arrival) :
    (s.after as).nal = assembleFragments s.nal (fragments s.route as) := by
  induction as generalizing s with
  | nil => rfl
  | cons a as ih =>
      rw [after, List.foldl_cons, ← after, ih, fragments]
      -- only a fragment that reaches the H.264 part changes what is gathered
      by_cases hfragment : s.route.reaches a = true ∧ a.packet.isFuA = true
      · simp [next, reassembled, hfragment, assembleFragments, fragment]
      · rw [if_neg hfragment]
        have hnal : (s.next a).nal = s.nal := by
          simp only [next, reassembled]
          split_ifs with hreaches hfua
          · exact (hfragment ⟨hreaches, hfua⟩).elim
          · rfl
          · rfl
        rw [hnal]
        rfl

/-- The fragments up to an FU-A packet that reaches the H.264 part end with it. -/
theorem Depacketizer.fragment_eq (s : Depacketizer) (past : List Arrival) {a : Arrival}
    (hreaches : (s.after past).route.reaches a = true) (hfua : a.packet.isFuA = true) :
    (s.after past).fragment a.packet =
      assembleFragments s.nal (fragments s.route (past ++ [a])) := by
  rw [← nal_after, after_append, after_singleton, next]
  simp [hreaches, hfua, reassembled]

/-- **What a lossy network can do to a NAL unit.** Whatever packets of a sender arrive, in whatever
order and however often: a packet that is not a fragment hands on the unit that was sent in it; an
end fragment that closes a run hands on the byte string of that run, which is a unit that was sent
when the run is complete. -/
theorem step_hands_sent_or_run (fileName : String) (videoFrequency : Word) (u : Uninitialised)
    (nals : List (List Byte)) (sent : List Packet) (hsends : Sends nals sent)
    (past : List Arrival) (a : Arrival) (hsent : ∀ b ∈ past ++ [a], b.packet ∈ sent)
    (d : RTPDump)
    (hpast : ((RTPDump.construct fileName videoFrequency u).record past).outcome = .ok d) :
    ∀ c ∈ calls (d.step a).trace,
      (a.packet.isFuA = false → c.nal = a.packet.payload ∧ c.nal ∈ nals) ∧
      ∀ older run, fragments ⟨.default, false⟩ (past ++ [a]) = older ++ run → IsRun run →
        a.packet.isFuA = true →
          c.nal = runNal run ∧ (CompleteRun nals run → c.nal ∈ nals) := by
  intro c hc
  have hstart := RTPDump.matches_construct fileName videoFrequency u
  have hmatches := ((record_calls hstart past).2 d hpast).2
  set s := Depacketizer.start (u.nalData 0) with hs
  have hcall := step_calls hmatches a c hc
  unfold Depacketizer.call at hcall
  split at hcall
  swap
  · cases hcall
  rename_i hreaches
  unfold Depacketizer.completed at hcall
  -- a whole NAL unit is handed on as it was sent; a fragment with what was gathered before it
  constructor
  · intro hfua
    rw [if_neg (Bool.eq_false_iff.mp hfua)] at hcall
    obtain rfl := Option.some.inj hcall
    exact ⟨rfl, hsends.payload_mem (hsent a (by simp)) hfua⟩
  · intro older run hfragments hrun hfua
    rw [if_pos hfua] at hcall
    split at hcall
    swap
    · cases hcall
    have hnal : c.nal = runNal run := by
      obtain rfl := Option.some.inj hcall
      have hfragment := s.fragment_eq past hreaches hfua
      rw [hs, Depacketizer.start] at hfragment
      rw [hs, Depacketizer.start, hfragment, hfragments, assembleFragments_run hrun]
    refine ⟨hnal, ?_⟩
    rintro ⟨header, body, hmem, hcomplete⟩
    rw [hnal, runNal_of_fragmentRun hcomplete]
    exact hmem

/-! ## A lost fragment -/

/-- A fragment of the unit `65 01 02 03`, with its sequence number and its FU header. -/
def sampleFragment (sequenceNumber fuHeader byte : Byte) : Packet :=
  .ofBytes [0x80, 0x62, 0, sequenceNumber, 0, 0, 0, 0, 0, 0, 0, 0, 0x7c, fuHeader, byte] 15

/-- The three fragments of that unit. -/
def sampleSent : List Packet :=
  [sampleFragment 1 0x85 1, sampleFragment 2 0x05 2, sampleFragment 3 0x45 3]

/-- The three packets are the fragments of one NAL unit. -/
theorem fragmentRun_sampleSent : FragmentRun 0x65 true [1, 2, 3] sampleSent := by
  have hlast : FragmentRun 0x65 false [3] [sampleFragment 3 0x45 3] :=
    .last ⟨by decide, by decide, rfl⟩
  have hmiddle : FragmentRun 0x65 false ([2] ++ [3]) (sampleFragment 2 0x05 2 :: _) :=
    .more ⟨by decide, by decide, rfl⟩ hlast
  have hfirst : FragmentRun 0x65 true ([1] ++ ([2] ++ [3])) (sampleFragment 1 0x85 1 :: _) :=
    .more ⟨by decide, by decide, rfl⟩ hmiddle
  exact hfirst

/-- They are what a sender sends of it. -/
theorem sends_sampleSent : Sends [[0x65, 1, 2, 3]] sampleSent where
  nalUnits nal hnal := by
    obtain rfl := List.mem_singleton.mp hnal
    exact ⟨0x65, [1, 2, 3], rfl, by decide, by decide⟩
  runs := by
    refine ⟨[([0x65, 1, 2, 3], sampleSent)], rfl, rfl, ?_⟩
    intro u hu
    obtain rfl := List.mem_singleton.mp hu
    exact .fragmented rfl fragmentRun_sampleSent
  consecutive := by decide

/-- The first fragment, then the last one. -/
def withoutMiddle : List Arrival :=
  [⟨sampleFragment 1 0x85 1, .allGood⟩, ⟨sampleFragment 3 0x45 3, .allGood⟩]

/-- All that arrives was sent. -/
theorem withoutMiddle_sent : ∀ b ∈ withoutMiddle, b.packet ∈ sampleSent := by
  simp [withoutMiddle, sampleSent]

/-- The unit `41 09` in a packet of its own. -/
def sampleOther : Packet := .ofBytes [0x80, 0x62, 0, 4, 0, 0, 0, 0, 0, 0, 0, 0, 0x41, 9] 14

/-- A sender of both units. -/
theorem sends_sampleOther : Sends [[0x65, 1, 2, 3], [0x41, 9]] (sampleSent ++ [sampleOther]) where
  nalUnits nal hnal := by
    rcases List.mem_cons.mp hnal with rfl | hnal
    · exact sends_sampleSent.nalUnits _ (List.mem_singleton_self _)
    · obtain rfl := List.mem_singleton.mp hnal
      exact ⟨0x41, [9], rfl, by decide, by decide⟩
  runs := by
    obtain ⟨units, hnals, hpackets, hunits⟩ := sends_sampleSent.runs
    refine ⟨units ++ [([0x41, 9], [sampleOther])], ?_, ?_, fun u hu => ?_⟩
    · rw [List.map_append, hnals]
      rfl
    · rw [List.flatMap_append, hpackets]
      rfl
    · rcases List.mem_append.mp hu with hu | hu
      · exact hunits u hu
      · have hcarries : Carries sampleOther [0x41, 9] := ⟨by decide, by decide, rfl⟩
        obtain rfl := List.mem_singleton.mp hu
        exact .single hcarries
  consecutive := by decide

/-- The fragments of the first unit are a complete run. -/
theorem completeRun_sampleSent :
    IsRun sampleSent ∧ CompleteRun [[0x65, 1, 2, 3], [0x41, 9]] sampleSent :=
  ⟨⟨⟨_, _, rfl, by decide, by decide⟩, ⟨[_, _], _, rfl, by decide, by decide⟩⟩,
    0x65, [1, 2, 3], List.mem_cons_self, fragmentRun_sampleSent⟩

/-- The first fragment arrives twice, with the packet of the other unit in between. -/
def sampleArrivals : List Arrival :=
  [sampleFragment 1 0x85 1, sampleOther, sampleFragment 1 0x85 1, sampleFragment 2 0x05 2].map
    fun p => ⟨p, .allGood⟩

/-- The last fragment hands on the first unit, the other packet the second one. -/
theorem step_hands_sent_or_run_sampleSent :
    (∃ d, ((RTPDump.construct "camera.flv" 90000 .zero).record sampleArrivals).outcome = .ok d ∧
      ∃ c ∈ calls (d.step ⟨sampleFragment 3 0x45 3, .allGood⟩).trace,
        c.nal = runNal sampleSent ∧ c.nal ∈ [[0x65, 1, 2, 3], [0x41, 9]]) ∧
    ∃ d, ((RTPDump.construct "camera.flv" 90000 .zero).record (sampleArrivals.take 1)).outcome =
        .ok d ∧ ∃ c ∈ calls (d.step ⟨sampleOther, .allGood⟩).trace,
      c.nal = sampleOther.payload ∧ c.nal ∈ [[0x65, 1, 2, 3], [0x41, 9]] := by
  have hfirst : ∃ d, ((RTPDump.construct "camera.flv" 90000 .zero).record sampleArrivals).outcome =
      .ok d ∧ calls (d.step ⟨sampleFragment 3 0x45 3, .allGood⟩).trace =
        [⟨5, [0x65, 1, 2, 3], 0, false⟩] := by decide +kernel
  have hsecond : ∃ d, ((RTPDump.construct "camera.flv" 90000 .zero).record
      (sampleArrivals.take 1)).outcome = .ok d ∧
        calls (d.step ⟨sampleOther, .allGood⟩).trace = [⟨1, [0x41, 9], 0, false⟩] := by
    decide +kernel
  obtain ⟨d₁, hd₁, hcalls₁⟩ := hfirst
  obtain ⟨d₂, hd₂, hcalls₂⟩ := hsecond
  have hc₁ : ⟨5, [0x65, 1, 2, 3], 0, false⟩ ∈
      calls (d₁.step ⟨sampleFragment 3 0x45 3, .allGood⟩).trace := by
    rw [hcalls₁]
    exact List.mem_singleton_self _
  have hc₂ : ⟨1, [0x41, 9], 0, false⟩ ∈ calls (d₂.step ⟨sampleOther, .allGood⟩).trace := by
    rw [hcalls₂]
    exact List.mem_singleton_self _
  constructor
  · refine ⟨d₁, hd₁, _, hc₁, ?_⟩
    obtain ⟨hnal, hmem⟩ := (step_hands_sent_or_run "camera.flv" 90000 .zero _ _ sends_sampleOther
      sampleArrivals ⟨sampleFragment 3 0x45 3, .allGood⟩ (by simp [sampleArrivals, sampleSent]) d₁
      hd₁ _ hc₁).2 [sampleFragment 1 0x85 1] sampleSent rfl completeRun_sampleSent.1 (by decide)
    exact ⟨hnal, hmem completeRun_sampleSent.2⟩
  · refine ⟨d₂, hd₂, _, hc₂, ?_⟩
    exact (step_hands_sent_or_run "camera.flv" 90000 .zero _ _ sends_sampleOther
      (sampleArrivals.take 1) ⟨sampleOther, .allGood⟩ (by simp [sampleArrivals, sampleSent]) d₂
      hd₂ _ hc₂).1 (by decide)

/-- **A lost fragment goes unnoticed**: without the middle fragment `videoHandler` is given
`65 01 03`, which was never sent. -/
theorem calls_without_middle_fragment :
    Sends [[0x65, 1, 2, 3]] sampleSent ∧
      (∀ b ∈ withoutMiddle, b.packet ∈ sampleSent) ∧
      ∃ c ∈ calls ((RTPDump.construct "camera.flv" 90000 .zero).record withoutMiddle).trace,
        c.nal ∉ [[0x65, 1, 2, 3]] := by
  refine ⟨sends_sampleSent, withoutMiddle_sent, ⟨5, [0x65, 1, 3], 0, false⟩, ?_, by decide⟩
  decide +kernel

end RtpCapture
