import RtpCapture.Recorder.AccessUnits
import RtpCapture.Recorder.Outputs
import RtpCapture.Recorder.Stream

/-! # The round trip of a stream without losses

A sender's stream is an SPS, a PPS and access units, each NAL unit sent in one packet or in
fragments and the marker on the last packet of each access unit.

* **`AccessUnit`**, **`Stream`** — such streams; the structures carry the proofs of what makes them
  well formed.
* **`AccessUnit.assembled`** — the assembly makes exactly one tag of an access unit.
* **`record_round_trip`** — recording the stream gives the sequence header and one tag for each
  access unit. -/

namespace RtpCapture

open Traced

/-! ## Access units -/

/-- A slice: a NAL unit of type 5 or 1. -/
def SentUnit.isSlice (u : SentUnit) : Bool := u.type = 5 ∨ u.type = 1

/-- **An access unit**: NAL units that end with a slice, with slices of one type only, the marker
exactly on the last packet, and slices that fit the buffer together. -/
structure AccessUnit where
  units : List SentUnit
  endsWithSlice : ∃ earlier last, units = earlier ++ [last] ∧ last.isSlice = true
  sameType : ∀ u ∈ units, ∀ u' ∈ units, u.isSlice = true → u'.isSlice = true → u.type = u'.type
  marked : ∃ earlier p, packetsOf units = earlier ++ [p] ∧ p.marker = true ∧
    ∀ q ∈ earlier, q.marker = false
  fits : ((units.filter SentUnit.isSlice).map fun u => 4 + u.nal.length).sum ≤ 524283

namespace AccessUnit

/-- The slices of an access unit. -/
def slices (a : AccessUnit) : List SentUnit := a.units.filter SentUnit.isSlice

/-- **What an access unit becomes in the file**: `0x17` for slices of type 5, `0x27` for slices of
type 1, four more bytes, and the slices with their lengths. -/
def payload (a : AccessUnit) : List Byte :=
  (if a.slices.all fun u => u.type = 5 then 0x17 else 0x27) :: [0x01, 0x00, 0x00, 0x00] ++
    a.slices.flatMap fun u => bigEndian32 u.nal.length ++ u.nal

end AccessUnit

/-- A NAL unit takes at least one packet. -/
theorem SentAs.ne_nil {nal : List Byte} {ps : List Packet} (h : SentAs nal ps) : ps ≠ [] := by
  cases h with
  | single h => simp
  | fragmented hnal h => exact h.ne_nil

/-- The last packet of a unit. -/
theorem SentUnit.packets_eq_concat (u : SentUnit) : ∃ earlier p, u.packets = earlier ++ [p] :=
  (List.eq_nil_or_concat' u.packets).resolve_left u.sentAs.ne_nil

/-- The marker of the last packet is the marker of the call. -/
theorem SentUnit.marker_of_getLast? {u : SentUnit} {earlier : List Packet} {p : Packet}
    (h : u.packets = earlier ++ [p]) : u.call.marker = p.marker := by
  show lastMarker u.packets = p.marker
  rw [h, lastMarker, List.getLast?_concat]
  rfl

/-- Units in unmarked packets make calls without a marker. -/
theorem SentUnit.marker_of_unmarked {u : SentUnit} (h : ∀ q ∈ u.packets, q.marker = false) :
    u.call.marker = false := by
  obtain ⟨earlier, p, hp⟩ := u.packets_eq_concat
  rw [marker_of_getLast? hp]
  exact h p (by simp [hp])

/-- **The calls of an access unit**: the last is a slice with the marker, the others carry none. -/
theorem AccessUnit.calls (a : AccessUnit) :
    ∃ earlier c, a.units.map SentUnit.call = earlier ++ [c] ∧ c.isSlice = true ∧
      c.marker = true ∧ ∀ c' ∈ earlier, c'.marker = false := by
  obtain ⟨earlier, last, hunits, hslice⟩ := a.endsWithSlice
  obtain ⟨unmarked, p, hpackets, hp, hunmarked⟩ := a.marked
  obtain ⟨front, p', hfront⟩ := last.packets_eq_concat
  -- the last packet of the access unit is the last packet of its last unit
  have hsplit : packetsOf earlier ++ front ++ [p'] = unmarked ++ [p] := by
    rw [← hpackets, hunits, packetsOf, packetsOf, List.flatMap_append, List.flatMap_singleton,
      hfront, List.append_assoc]
  obtain ⟨hunmarked', hlast⟩ := List.append_inj' hsplit rfl
  obtain rfl := List.singleton_inj.mp hlast
  refine ⟨earlier.map SentUnit.call, last.call, by simp [hunits], hslice, ?_, ?_⟩
  · rw [SentUnit.marker_of_getLast? hfront, hp]
  · intro c hc
    obtain ⟨u, hu, rfl⟩ := List.mem_map.mp hc
    refine SentUnit.marker_of_unmarked fun q hq => hunmarked q ?_
    rw [← hunmarked']
    exact List.mem_append_left _ (List.mem_flatMap.mpr ⟨u, hu, hq⟩)

/-! ## One access unit in the assembly -/

/-- Calls without a marker add their slices to the pending ones. -/
theorem Assembly.foldl_feed_unmarked {m : Assembly} (hsets : m.sets = 2) {cs : List Call}
    (hunmarked : ∀ c ∈ cs, c.marker = false) :
    cs.foldl Assembly.feed m = { m with pending := m.pending ++ cs.filter Call.isSlice } := by
  induction cs generalizing m with
  | nil => simp
  | cons c cs ih =>
      have hrest : ∀ c' ∈ cs, c'.marker = false := fun c' hc' =>
        hunmarked c' (List.mem_cons_of_mem c hc')
      have hmarker : ¬ c.marker = true := by
        rw [hunmarked c List.mem_cons_self]
        exact Bool.false_ne_true
      rw [List.foldl_cons]
      by_cases hslice : c.isSlice = true
      · rw [feed_of_slice hsets hslice, if_neg hmarker,
          ih (m := { m with pending := m.pending ++ [c] }) hsets hrest,
          List.filter_cons_of_pos hslice, List.append_assoc]
        rfl
      · rw [feed, if_neg (not_not.mpr hsets), storeSlice, if_neg hslice, ih hsets hrest,
          List.filter_cons_of_neg hslice]

/-- A slice fits when the pending slices and it do. -/
theorem Assembly.Fits.of_sets {m : Assembly} (hsets : m.sets = 2) {c : Call}
    (h : c.isSlice = true → 5 + (pack (m.pending ++ [c])).length ≤ videoDataSize) : m.Fits c :=
  ⟨fun hne => (hne hsets).elim, fun hne => (hne hsets).elim, fun _ => h⟩

/-- The length of packed slices. -/
theorem length_pack (cs : List Call) :
    (pack cs).length = (cs.map fun c => 4 + c.nal.length).sum := by
  induction cs using List.reverseRecOn with
  | nil => rfl
  | append_singleton cs c ih => simp [length_pack_concat, ih]

/-- Fewer slices take less room. -/
theorem length_pack_le {cs cs' : List Call} (h : cs <+: cs') :
    (pack cs).length ≤ (pack cs').length := by
  obtain ⟨rest, rfl⟩ := h
  simp [length_pack]

/-- **Calls that end with the marker**: one tag is made of their slices, and they fit when their
slices do. -/
theorem Assembly.foldl_feed_marked {m : Assembly} (hsets : m.sets = 2) (hpending : m.pending = [])
    {earlier : List Call} {c : Call} (hslice : c.isSlice = true) (hmarker : c.marker = true)
    (hunmarked : ∀ c' ∈ earlier, c'.marker = false) :
    (earlier ++ [c]).foldl Assembly.feed m =
        { m with flushed := m.flushed ++ [(earlier ++ [c]).filter Call.isSlice] } ∧
      (5 + (pack ((earlier ++ [c]).filter Call.isSlice)).length ≤ videoDataSize →
        Always (fun past c => (past.foldl Assembly.feed m).Fits c) (earlier ++ [c])) := by
  constructor
  · rw [List.foldl_append, foldl_feed_unmarked hsets hunmarked, List.foldl_cons, List.foldl_nil,
      feed_of_slice (m := { m with pending := m.pending ++ earlier.filter Call.isSlice }) hsets
        hslice, if_pos hmarker, List.filter_append, List.filter_cons_of_pos hslice, hpending]
    rfl
  · intro hfits past c' rest hcalls
    -- the last of the calls is the only one with a marker
    have hpast : ∀ c'' ∈ past, c''.marker = false := by
      intro c'' hc''
      refine hunmarked c'' ?_
      have hdropped := congrArg List.dropLast hcalls
      rw [List.dropLast_concat, List.dropLast_append_of_ne_nil (List.cons_ne_nil c' rest)]
        at hdropped
      rw [hdropped]
      exact List.mem_append_left _ hc''
    rw [foldl_feed_unmarked hsets hpast]
    refine Fits.of_sets (m := { m with pending := m.pending ++ past.filter Call.isSlice }) hsets
      fun hslice' => le_trans ?_ hfits
    refine Nat.add_le_add_left (length_pack_le ?_) 5
    rw [hcalls, hpending, List.filter_append, List.filter_cons_of_pos hslice']
    exact ⟨rest.filter Call.isSlice, by simp⟩

namespace AccessUnit

/-- The slices among the calls are the calls of the slices. -/
theorem filter_calls (a : AccessUnit) :
    (a.units.map SentUnit.call).filter Call.isSlice = a.slices.map SentUnit.call :=
  List.filter_map

/-- **One access unit, one tag**, and nothing is left over. -/
theorem assembled (a : AccessUnit) {m : Assembly} (hsets : m.sets = 2) (hpending : m.pending = []) :
    (a.units.map SentUnit.call).foldl Assembly.feed m =
        { m with flushed := m.flushed ++ [a.slices.map SentUnit.call] } ∧
      Always (fun past c => (past.foldl Assembly.feed m).Fits c) (a.units.map SentUnit.call) := by
  obtain ⟨earlier, c, hcalls, hslice, hmarker, hunmarked⟩ := a.calls
  obtain ⟨hfold, hfits⟩ := Assembly.foldl_feed_marked hsets hpending hslice hmarker hunmarked
  rw [← a.filter_calls, hcalls]
  refine ⟨hfold, hfits ?_⟩
  have hsum := a.fits
  rw [← hcalls, a.filter_calls, length_pack, List.map_map]
  have hvideo : videoDataSize = 524288 := rfl
  rw [hvideo]
  exact Nat.add_le_of_le_sub' (by decide) hsum

/-- The data of that tag. -/
theorem tagData_slices (a : AccessUnit) : tagData (a.slices.map SentUnit.call) = a.payload := by
  obtain ⟨earlier, last, hunits, hslice⟩ := a.endsWithSlice
  have hslices : a.slices = earlier.filter SentUnit.isSlice ++ [last] := by
    rw [slices, hunits, List.filter_append, List.filter_cons_of_pos hslice]
    rfl
  -- the header looks at the last slice, the payload at all of them
  have hall : (a.slices.all fun u => u.type = 5) = true ↔ last.type = 5 := by
    rw [List.all_eq_true]
    constructor
    · intro h
      exact of_decide_eq_true (h last (by simp [hslices]))
    · intro h5 u hu
      obtain ⟨hmem, huslice⟩ := List.mem_filter.mp hu
      have hlast : last ∈ a.units := by simp [hunits]
      exact decide_eq_true ((a.sameType u hmem last hlast huslice hslice).trans h5)
  have hpack : pack (a.slices.map SentUnit.call) =
      a.slices.flatMap fun u => bigEndian32 u.nal.length ++ u.nal := List.flatMap_map ..
  have hheader : avcVideoPacket last.type =
      (if a.slices.all fun u => u.type = 5 then 0x17 else 0x27) :: [0x01, 0x00, 0x00, 0x00] := by
    unfold avcVideoPacket
    by_cases h5 : last.type = 5
    · rw [if_pos h5, if_pos (hall.mpr h5)]
    · rw [if_neg h5, if_neg fun h => h5 (hall.mp h)]
  have htag : tagData (a.slices.map SentUnit.call) =
      avcVideoPacket last.type ++ pack (a.slices.map SentUnit.call) := by
    rw [hslices, List.map_append, List.map_singleton, tagData_concat]
    rfl
  rw [htag, hpack, hheader, payload]

end AccessUnit

/-- **Access units one after the other.** -/
theorem accessUnits_assembled (accessUnits : List AccessUnit) {m : Assembly} (hsets : m.sets = 2)
    (hpending : m.pending = []) :
    ((accessUnits.flatMap AccessUnit.units).map SentUnit.call).foldl Assembly.feed m =
        { m with
          flushed := m.flushed ++ accessUnits.map fun a => a.slices.map SentUnit.call } ∧
      Always (fun past c => (past.foldl Assembly.feed m).Fits c)
        ((accessUnits.flatMap AccessUnit.units).map SentUnit.call) := by
  -- an access unit leaves nothing pending, so the next one starts afresh
  induction accessUnits generalizing m with
  | nil => simp
  | cons a accessUnits ih =>
      obtain ⟨hfold, hfits⟩ := a.assembled hsets hpending
      rw [List.flatMap_cons, List.map_append, List.foldl_append, hfold]
      obtain ⟨hfoldRest, hfitsRest⟩ := ih (m := { m with
        flushed := m.flushed ++ [a.slices.map SentUnit.call] }) hsets hpending
      refine ⟨?_, always_append.mpr ⟨hfits, ?_⟩⟩
      · rw [hfoldRest, List.map_cons, List.append_assoc]
        rfl
      · simpa only [List.foldl_append, hfold] using hfitsRest

/-! ## Streams -/

/-- **A sender's stream**: one SPS and one PPS of sizes that fit, in either order, then access
units. -/
structure SentStream where
  sps : SentUnit
  pps : SentUnit
  spsFirst : Bool
  accessUnits : List AccessUnit
  sps_type : sps.type = 7
  pps_type : pps.type = 8
  sps_size : 4 ≤ sps.nal.length ∧ sps.nal.length ≤ 128
  pps_size : 1 ≤ pps.nal.length ∧ pps.nal.length ≤ 50

namespace SentStream

variable (st : SentStream)

/-- The parameter sets in the order they are sent in. -/
def parameterSets : List SentUnit := if st.spsFirst then [st.sps, st.pps] else [st.pps, st.sps]

/-- The units of a stream. -/
def units : List SentUnit := st.parameterSets ++ st.accessUnits.flatMap AccessUnit.units

/-- The packets of a stream. -/
def packets : List Packet := packetsOf st.units

/-- **What a stream becomes in the file**: the sequence header, then the access units. -/
def tags : List (List Byte) :=
  ([0x17, 0x00, 0x00, 0x00, 0x00] ++ avcDecoderConfiguration st.sps.nal st.pps.nal) ::
    st.accessUnits.map AccessUnit.payload

/-- The assembly once both parameter sets are stored. -/
def header : Assembly := ⟨2, some st.sps.nal, some st.pps.nal, [], []⟩

/-- The SPS is stored and counted. -/
theorem feed_sps {m : Assembly} (hsets : m.sets ≠ 2) :
    m.feed st.sps.call = { m with sets := m.sets + 1, sps := some st.sps.nal } := by
  have htype : st.sps.call.type = 7 := st.sps_type
  rw [Assembly.feed, if_pos hsets, Assembly.storeSps, if_pos htype, Assembly.storePps, if_neg]
  · rfl
  · rw [htype]
    decide

/-- The PPS is stored whole and counted. -/
theorem feed_pps {m : Assembly} (hsets : m.sets ≠ 2) :
    m.feed st.pps.call = { m with sets := m.sets + 1, pps := some st.pps.nal } := by
  have htype : st.pps.call.type = 8 := st.pps_type
  have hkept : keptPps st.pps.call.nal = st.pps.nal := by
    show st.pps.nal.take (ppsKept st.pps.nal.length) = st.pps.nal
    rw [ppsKept, if_neg (Nat.not_lt.mpr st.pps_size.2), List.take_length]
  have hnot : ¬ st.pps.call.type = 7 := by
    rw [htype]
    decide
  rw [Assembly.feed, if_pos hsets, Assembly.storeSps, if_neg hnot, Assembly.storePps,
    if_pos htype, hkept]

/-- The sequence header of the stream can be built. -/
theorem headerFits : st.header.HeaderFits := by
  refine ⟨st.sps.nal, st.pps.nal, rfl, rfl, st.sps_size.1, st.pps_size.1, ?_⟩
  rw [length_avcDecoderConfiguration]
  have hsps := st.sps_size.2
  have hpps := st.pps_size.2
  have hsize : spsPpsTagDataSize = 256 := rfl
  omega

/-- A parameter set of the stream fits. -/
theorem fits_parameterSet {m : Assembly} (hsets : m.sets ≠ 2) {u : SentUnit}
    (hu : u = st.sps ∨ u = st.pps)
    (hheader : (m.feed u.call).sets = 2 → m.feed u.call = st.header) : m.Fits u.call := by
  refine ⟨fun _ htype => ?_, fun _ h2 => ?_, fun h2 => (hsets h2).elim⟩
  · rcases hu with rfl | rfl
    · exact st.sps_size.2
    · exact absurd (htype.symm.trans st.pps_type) (by decide)
  · rw [hheader h2]
    exact st.headerFits

/-- **The parameter sets are stored**, whichever comes first. -/
theorem parameterSets_assembled :
    (st.parameterSets.map SentUnit.call).foldl Assembly.feed .empty = st.header ∧
      Always (fun past c => (past.foldl Assembly.feed .empty).Fits c)
        (st.parameterSets.map SentUnit.call) := by
  have hzero : Assembly.empty.sets ≠ 2 := by decide
  unfold parameterSets
  cases st.spsFirst with
  | true =>
      have hsps := st.feed_sps hzero
      have hone : (Assembly.empty.feed st.sps.call).sets ≠ 2 := by
        rw [hsps]
        exact Nat.succ_succ_ne_one 0 |>.symm
      have hpps := st.feed_pps hone
      have hboth : (Assembly.empty.feed st.sps.call).feed st.pps.call = st.header := by
        rw [hpps, hsps]
        rfl
      exact ⟨hboth, always_cons.mpr ⟨st.fits_parameterSet hzero (.inl rfl) fun h => (hone h).elim,
        always_singleton.mpr (st.fits_parameterSet hone (.inr rfl) fun _ => hboth)⟩⟩
  | false =>
      have hpps := st.feed_pps hzero
      have hone : (Assembly.empty.feed st.pps.call).sets ≠ 2 := by
        rw [hpps]
        exact Nat.succ_succ_ne_one 0 |>.symm
      have hsps := st.feed_sps hone
      have hboth : (Assembly.empty.feed st.pps.call).feed st.sps.call = st.header := by
        rw [hsps, hpps]
        rfl
      exact ⟨hboth, always_cons.mpr ⟨st.fits_parameterSet hzero (.inr rfl) fun h => (hone h).elim,
        always_singleton.mpr (st.fits_parameterSet hone (.inl rfl) fun _ => hboth)⟩⟩

/-- **The whole stream in the assembly.** -/
theorem assembled :
    assemble (st.units.map SentUnit.call) = { st.header with
        flushed := st.accessUnits.map fun a => a.slices.map SentUnit.call } ∧
      Always (fun past c => (past.foldl Assembly.feed .empty).Fits c)
        (st.units.map SentUnit.call) := by
  obtain ⟨hsets, hfits⟩ := st.parameterSets_assembled
  obtain ⟨hunits, hfitsUnits⟩ := accessUnits_assembled st.accessUnits (m := st.header) rfl rfl
  rw [units, List.map_append, assemble, List.foldl_append, hsets, hunits]
  refine ⟨rfl, always_append.mpr ⟨hfits, ?_⟩⟩
  simpa only [List.foldl_append, hsets] using hfitsUnits

end SentStream

/-- **The round trip.** A fresh recorder is fed the packets of a stream, with any other packets in
between; every packet of the stream is taken for H.264, the file opens and every write succeeds. Then
the recording goes through, and the video tags of the file are the sequence header and one tag for
each access unit, in order. -/
theorem record_round_trip (fileName : String) (videoFrequency : Word) (u : Uninitialised)
    (hfrequency : 1000 ≤ videoFrequency.toInt) (st : SentStream)
    (hflv : OnFlvPath ⟨.default, false⟩ st.packets) (as : List Arrival)
    (hvideo : videoArrivals as = st.packets.map Packet.arrive)
    (hwritten : ∀ a ∈ as, a.results.written = true) :
    ∃ d, ((RTPDump.construct fileName videoFrequency u).record as).outcome = .ok d ∧
      videoTags ((RTPDump.construct fileName videoFrequency u).record as).trace = st.tags := by
  obtain ⟨hassembled, hfits⟩ := st.assembled
  obtain ⟨hhanded, hpackets⟩ := units_handed st.units (s := Depacketizer.start (u.nalData 0))
    (m := .empty) hflv
  have hhanded' : (Depacketizer.start (u.nalData 0)).handed as = st.units.map SentUnit.call := by
    rw [← Depacketizer.handed_videoArrivals, hvideo]
    exact hhanded
  -- nothing is too large, so the recording goes through
  obtain ⟨d, hd⟩ := record_returns fileName videoFrequency u (sdiv_thousand_pos hfrequency)
    (Depacketizer.fits_of_videoArrivals (by rw [hvideo]; exact hpackets hfits))
  refine ⟨d, hd, ?_⟩
  -- its video writes are those of the assembly, and all of them reached the file
  have hcalls := ((record_calls (RTPDump.matches_construct fileName videoFrequency u) as).2 d hd).1
  have hwrote := ((record_simulates fileName videoFrequency u as).2 d hd).writes
  rw [List.nil_append, hcalls, hhanded', hassembled] at hwrote
  obtain ⟨sps, pps, ⟨hsps, hpps⟩, hwrites⟩ := hwrote.after rfl
  rw [(record_delivers hwritten _).reached d hd, hwrites, hsps _ rfl, hpps _ rfl,
    SentStream.tags, List.map_cons, List.map_map, List.map_map]
  refine congrArg₂ List.cons rfl (List.map_congr_left fun a _ => ?_)
  exact a.tagData_slices

/-- The first of two fragments of an IDR slice. -/
def sampleFirst : Packet :=
  .ofBytes [0x80, 0x62, 0, 3, 0, 0, 0, 0, 0, 0, 0, 0, 0x7c, 0x85, 1] 15

/-- The second fragment, with the marker. -/
def sampleLast : Packet :=
  .ofBytes [0x80, 0xe2, 0, 4, 0, 0, 0, 0, 0, 0, 0, 0, 0x7c, 0x45, 2] 15

/-- They are the fragments of one NAL unit. -/
theorem sampleFragments : FragmentRun 0x65 true ([1] ++ [2]) [sampleFirst, sampleLast] :=
  .more ⟨by decide, by decide, rfl⟩ (.last ⟨by decide, by decide, rfl⟩)

/-- A stream with one access unit. -/
def sampleStream : SentStream where
  sps := ⟨[0x67, 0x42, 0x00, 0x1e], [sampleSps.packet], ⟨_, _, rfl, by decide, by decide⟩,
    by decide, .single ⟨by decide, by decide, rfl⟩⟩
  pps := ⟨[0x68, 0xce], [samplePps.packet], ⟨_, _, rfl, by decide, by decide⟩, by decide,
    .single ⟨by decide, by decide, rfl⟩⟩
  spsFirst := true
  accessUnits := [{
    units := [⟨[0x65, 1, 2], [sampleFirst, sampleLast], ⟨_, _, rfl, by decide, by decide⟩,
      by decide, .fragmented rfl sampleFragments⟩]
    endsWithSlice := ⟨[], _, rfl, by decide⟩
    sameType := by
      intro u hu u' hu' _ _
      rw [List.mem_singleton.mp hu, List.mem_singleton.mp hu']
    marked := ⟨[_], _, rfl, by decide, by decide⟩
    fits := by decide }]
  sps_type := by decide
  pps_type := by decide
  sps_size := by decide
  pps_size := by decide

/-- That stream, recorded. -/
theorem record_round_trip_sampleStream :
    ∃ d, ((RTPDump.construct "camera.flv" 90000 .zero).record
        (sampleStream.packets.map Packet.arrive)).outcome = .ok d ∧
      videoTags ((RTPDump.construct "camera.flv" 90000 .zero).record
        (sampleStream.packets.map Packet.arrive)).trace = sampleStream.tags :=
  record_round_trip "camera.flv" 90000 .zero (by decide) sampleStream (by decide)
    (sampleStream.packets.map Packet.arrive) rfl (by
      intro a ha
      obtain ⟨p, -, rfl⟩ := List.mem_map.mp ha
      rfl)

end RtpCapture
