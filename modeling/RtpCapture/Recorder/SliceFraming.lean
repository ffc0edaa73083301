import RtpCapture.Foundations.Framing
import RtpCapture.Recorder.AccessUnits
import RtpCapture.Recorder.Outputs
import Mathlib.Data.List.DropRight

/-! # The slices in the buffer and in the tags

`video_data` and the tags hold NAL units with their lengths in front, so they can be taken apart
again: nothing is lost on the way from the calls of `videoHandler` to the tags.

* **`sinceTag`** — the slices since the last tag.
* **`record_framed`** — in a recording that returns, no slice is too long for its length field.
* **`SlicesKept`** — what the buffer and the tags hold, and that the NAL units parsed from them are
  the slices after the sequence header, each once and in order.
* **`record_slicesKept`** — so it is in every state reached, whatever the packets are. -/

namespace RtpCapture

open Traced

/-! ## Slices and tags -/

/-- The tags are never taken back. -/
theorem assemble_flushed_mono (cs cs' : List Call) :
    (assemble cs).flushed <+: (assemble (cs ++ cs')).flushed := by
  induction cs' using List.reverseRecOn with
  | nil => rw [List.append_nil]
  | append_singleton cs' c ih =>
      rw [← List.append_assoc, assemble_concat]
      by_cases h : (assemble (cs ++ cs')).sets = 2 ∧ c.isSlice = true
      · rw [Assembly.feed_of_slice h.1 h.2]
        split
        · exact ih.trans (List.prefix_append _ _)
        · exact ih
      · rw [(Assembly.feed_of_not_slice h).2]
        exact ih

/-! ## Taking tags apart -/

/-- The data of a video tag of NAL units. -/
def VideoWrite.nalus? : VideoWrite → Option (List Byte)
  | .nalus data => some data
  | .sequenceHeader _ _ => none

/-- **The tags of NAL units** that were written, by their data. -/
def naluWrites (history : List Event) : List (List Byte) :=
  (videoWrites history).filterMap VideoWrite.nalus?

/-- The tags of NAL units of two parts of a trace. -/
theorem naluWrites_append (h₁ h₂ : List Event) :
    naluWrites (h₁ ++ h₂) = naluWrites h₁ ++ naluWrites h₂ := by
  simp [naluWrites]

/-- The tags written are the tags of the assembly. -/
theorem Assembly.Wrote.naluWrites {m : Assembly} {history : List Event}
    (h : m.Wrote (videoWrites history)) : naluWrites history = m.flushed.map tagData := by
  unfold RtpCapture.naluWrites
  by_cases hsets : m.sets = 2
  · obtain ⟨sps, pps, -, hws⟩ := h.after hsets
    have htags : (m.flushed.map fun cs => VideoWrite.nalus (tagData cs)).filterMap
        VideoWrite.nalus? = m.flushed.map tagData := by
      rw [List.filterMap_map]
      exact congrFun List.filterMap_eq_map m.flushed
    rw [hws, ← htags]
    rfl
  · obtain ⟨hws, hflushed⟩ := h.before hsets
    rw [hws, hflushed]
    rfl

/-- Packed slices are frames. -/
theorem pack_eq_frames (cs : List Call) : pack cs = Framing.frames (cs.map Call.nal) := by
  rw [Framing.frames, List.flatMap_map]
  rfl

/-- The five bytes in front of the frames. -/
theorem drop_tagData (cs : List Call) : (tagData cs).drop 5 = pack cs :=
  List.drop_left' (length_avcVideoPacket _)

/-- A slice that has a length field. -/
def Call.IsFramed (c : Call) : Prop := c.nal.length < 2 ^ 32

/-- **Packed slices are parsed.** -/
theorem parse_pack {cs : List Call} (h : ∀ c ∈ cs, c.IsFramed) :
    Framing.parse (pack cs) = some (cs.map Call.nal) := by
  rw [pack_eq_frames]
  refine Framing.parse_frames fun l hl => ?_
  obtain ⟨c, hc, rfl⟩ := List.mem_map.mp hl
  exact h c hc

/-- **The tags and the buffer are parsed**, and hold the slices of the assembly. -/
theorem Assembly.parsed {m : Assembly} {writes : List (List Byte)} {region : List Byte}
    (hwrites : writes = m.flushed.map tagData) (hregion : region = pack m.pending)
    (hframed : ∀ c ∈ m.flushed.flatten ++ m.pending, c.IsFramed) :
    ∃ (tagged : List (List (List Byte))) (pending : List (List Byte)),
      writes.map (fun data => Framing.parse (data.drop 5)) = tagged.map some ∧
        Framing.parse region = some pending ∧
        tagged.flatten ++ pending = (m.flushed.flatten ++ m.pending).map Call.nal := by
  refine ⟨m.flushed.map (List.map Call.nal), m.pending.map Call.nal, ?_, ?_, ?_⟩
  · rw [hwrites, List.map_map, List.map_map]
    refine List.map_congr_left fun tag htag => ?_
    rw [Function.comp_apply, drop_tagData]
    exact parse_pack fun c hc =>
      hframed c (List.mem_append_left _ (List.mem_flatten_of_mem htag hc))
  · rw [hregion]
    exact parse_pack fun c hc => hframed c (List.mem_append_right _ hc)
  · rw [List.map_append, List.map_flatten]

/-! ## The lengths of the slices -/

section Lengths

variable {r : FileResults} {d d' : RTPDump} {buf : Memory} {len : ℕ}

/-- A slice that is stored fits the buffer. -/
theorem slicePhase_length {timestamp : Word} {marker : Bool}
    (h : (slicePhase r d buf len timestamp marker).outcome = .ok d')
    (hslice : nalType (buf 0) = 5 ∨ nalType (buf 0) = 1) : len ≤ videoDataSize := by
  unfold slicePhase at h
  rw [if_pos hslice, emit_bind] at h
  split at h
  · cases h
  · omega

/-- A call of `videoHandler` that returns with a slice. -/
theorem videoHandler_length {time : Word} {marker : Bool}
    (h : (videoHandler r d buf len time marker).outcome = .ok d') (hsets : d.isSpsPpsOk = 2)
    (hslice : nalType (buf 0) = 5 ∨ nalType (buf 0) = 1) : len ≤ videoDataSize := by
  unfold videoHandler at h
  obtain ⟨-, -, h, -⟩ := bind_eq_ok h
  split at h
  · cases h
  obtain ⟨-, -, h, -⟩ := bind_eq_ok h
  obtain ⟨d₁, h, -⟩ := bind_eq_ok h
  unfold nalPhase at h
  rw [if_neg (not_not.mpr hsets)] at h
  exact slicePhase_length h hslice

/-- The H.264 part. -/
theorem nalHandler_length {s : Depacketizer} (hs : s.Matches d) {p : Packet}
    (h : (nalHandler r d p).outcome = .ok d') (hsets : d.isSpsPpsOk = 2) {c : Call}
    (hc : s.completed p = some c) (hslice : c.isSlice = true) :
    c.nal.length ≤ videoDataSize := by
  by_cases hfua : p.isFuA = true
  · have hfragment := hs.of_fragment p
    rw [Depacketizer.completed, if_pos hfua] at hc
    rw [nalHandler_of_fragment (Packet.isFuA_iff.mp hfua)] at h
    obtain ⟨-, -, h, -⟩ := bind_eq_ok h
    split at h
    · cases h
    split at hc
    case isFalse => cases hc
    case isTrue hend =>
      obtain rfl := Option.some.inj hc
      rw [if_pos (Packet.isEnd_iff.mp hend)] at h
      rw [← hfragment.length]
      refine videoHandler_length h ?_ ?_
      · obtain ⟨nalData, nalLength, hgathered⟩ := d.gathered_eq p
        rw [hgathered]
        exact hsets
      · rw [hfragment.head]
        exact of_decide_eq_true hslice
  · rw [Depacketizer.completed, if_neg hfua] at hc
    rw [nalHandler, if_neg fun hc => hfua (Packet.isFuA_iff.mpr hc)] at h
    obtain rfl := Option.some.inj hc
    rw [Packet.length_payload]
    exact videoHandler_length h hsets (of_decide_eq_true hslice)

/-- **A packet that leads to a slice.** -/
theorem step_length {a : Arrival} (h : (d.step a).outcome = .ok d') (hsets : d.isSpsPpsOk = 2)
    {c : Call} (hc : (Depacketizer.ofRecorder d).call a = some c) (hslice : c.isSlice = true) :
    c.nal.length ≤ videoDataSize := by
  have hreaches : d.route.reaches a = true := by
    by_contra hno
    have hno' : ¬ (Depacketizer.ofRecorder d).route.reaches a = true := hno
    rw [Depacketizer.call, if_neg hno'] at hc
    cases hc
  rcases step_cases d a with ⟨haudio, -⟩ | ⟨pre, d₁, hprelude, -, hstep⟩
  · rw [(d.route.next_of_isAudio haudio).2] at hreaches
    cases hreaches
  · have hreaches' : (Depacketizer.ofRecorder d).route.reaches a = true := hreaches
    rw [hstep, if_pos hreaches] at h
    rw [Depacketizer.call, if_pos hreaches'] at hc
    obtain ⟨psOutfile, hd₁⟩ := hprelude.state
    exact nalHandler_length ((Depacketizer.matches_ofRecorder d).of_prelude hprelude) h
      (by rw [hd₁]; exact hsets) hc hslice

end Lengths

/-- **Slices with a length field**, beside the tie to the assembly. -/
structure Framed (history : List Event) (d : RTPDump) : Prop where
  simulates : Simulates history d
  framed : ∀ c ∈ slices (calls history), c.IsFramed

/-- One packet adds at most one slice. -/
theorem step_framed {history : List Event} {d : RTPDump} (h : Framed history d) (a : Arrival) :
    Ensures (fun _ _ => True) history (d.step a) Framed := by
  refine ⟨fun _ _ _ _ => trivial, fun d' hd' =>
    ⟨(step_simulates h.simulates a).2 d' hd', fun c hc => ?_⟩⟩
  have hstep : Ensures (fun _ _ => True) history (d.step a) _ :=
    Depacketizer.step_handed (Depacketizer.matches_ofRecorder d) a
      (fun _ _ _ => trivial) (fun _ _ _ _ _ _ => trivial) fun _ _ _ _ => trivial
  rw [(hstep.2 d' hd').2] at hc
  cases hcall : (Depacketizer.ofRecorder d).call a with
  | none =>
      rw [hcall, Option.toList_none, List.append_nil] at hc
      exact h.framed c hc
  | some c' =>
      rw [hcall, Option.toList_some, slices_concat] at hc
      rcases List.mem_append.mp hc with hc | hc
      · exact h.framed c hc
      · split at hc
        case isFalse => cases hc
        case isTrue hslice =>
          obtain rfl := List.mem_singleton.mp hc
          have hsets : d.isSpsPpsOk = 2 := h.simulates.arrays.sets.trans hslice.1
          have hlength := step_length hd' hsets hcall hslice.2
          exact lt_of_le_of_lt hlength (by decide)

/-- **Every state reached.** -/
theorem record_framed {fileName : String} {videoFrequency : Word} {u : Uninitialised}
    {as : List Arrival} {d : RTPDump}
    (h : ((RTPDump.construct fileName videoFrequency u).record as).outcome = .ok d) :
    Framed ((RTPDump.construct fileName videoFrequency u).record as).trace d := by
  have hinit : Framed [] (RTPDump.construct fileName videoFrequency u) := by
    refine ⟨(record_simulates fileName videoFrequency u []).2 _ rfl, fun c hc => ?_⟩
    cases hc
  have hrun := (run_invariant Framed (fun _ _ a h => step_framed h a) hinit as).2 d h
  rwa [List.nil_append] at hrun

/-! ## The slices since the last tag -/

/-- A write of NAL units. -/
def Event.isNaluWrite : Event → Bool
  | .flvWriteTag _ .video _ _ => true
  | _ => false

/-- **The slices since the last tag** of NAL units. -/
def sinceTag (history : List Event) : List Call :=
  (slices (calls history)).drop
    (slices (calls (history.rdropWhile fun e => !e.isNaluWrite))).length

/-- Without such a write there is no tag. -/
theorem naluWrites_eq_nil {history : List Event} (h : ∀ e ∈ history, e.isNaluWrite = false) :
    naluWrites history = [] := by
  refine List.filterMap_eq_nil_iff.mpr fun w hw => ?_
  obtain ⟨e, he, hew⟩ := List.mem_filterMap.mp hw
  have hno := h e he
  cases e with
  | flvWriteTag flv type timestamp data =>
      cases type with
      | audio => cases hew
      | video => cases hno
  | flvWriteSpsPpsTag flv timestamp sps pps =>
      obtain rfl := Option.some.inj hew
      rfl
  | _ => cases hew

/-- **A history ends with its last tag and what came since.** -/
theorem upToTag_cases (history : List Event) :
    ∃ since, history.rdropWhile (fun e => !e.isNaluWrite) ++ since = history ∧
      naluWrites since = [] ∧ (history.rdropWhile (fun e => !e.isNaluWrite) = [] ∨
        ∃ earlier flv timestamp data, history.rdropWhile (fun e => !e.isNaluWrite) =
          earlier ++ [.flvWriteTag flv .video timestamp data]) := by
  refine ⟨_, List.rdropWhile_append_rtakeWhile, naluWrites_eq_nil fun e he => ?_, ?_⟩
  · simpa using List.mem_rtakeWhile_imp he
  by_cases hnil : history.rdropWhile (fun e => !e.isNaluWrite) = []
  · exact .inl hnil
  · have hlast := List.rdropWhile_last_not (fun e : Event => !e.isNaluWrite) history hnil
    have hconcat := List.dropLast_append_getLast hnil
    cases htag : (history.rdropWhile fun e => !e.isNaluWrite).getLast hnil with
    | flvWriteTag flv type timestamp data =>
        cases type with
        | audio => exact absurd (by rw [htag]; rfl) hlast
        | video => exact .inr ⟨_, flv, timestamp, data, by rw [← htag, hconcat]⟩
    | _ => exact absurd (by rw [htag]; rfl) hlast

section LastTag

variable {fileName : String} {videoFrequency : Word} {u : Uninitialised} {as : List Arrival}

/-- **After a tag nothing is pending**, and the tags are the tags of the assembly. -/
theorem assemble_at_tag {history rest : List Event} {flv : Bool} {timestamp : Word}
    {data : List Byte} (h : ((RTPDump.construct fileName videoFrequency u).record as).trace =
      history ++ .flvWriteTag flv .video timestamp data :: rest) :
    (assemble (calls (history ++ [.flvWriteTag flv .video timestamp data]))).pending = [] ∧
      (assemble (calls (history ++ [.flvWriteTag flv .video timestamp data]))).flushed.length =
        (naluWrites (history ++ [.flvWriteTag flv .video timestamp data])).length := by
  obtain ⟨-, -, past, c, hcalls, hsets, hwrote, hslice, hmarker, -⟩ := allowed_of_trace h
  have hfeed : assemble (calls (history ++ [.flvWriteTag flv .video timestamp data])) =
      { assemble past with
        pending := [], flushed := (assemble past).flushed ++ [(assemble past).pending ++ [c]] } := by
    have hquiet : calls [Event.flvWriteTag flv .video timestamp data] = [] := rfl
    rw [calls_append, hquiet, List.append_nil, hcalls, assemble_concat,
      Assembly.feed_of_slice hsets hslice, if_pos hmarker]
  have hone : naluWrites [.flvWriteTag flv .video timestamp data] = [data] := rfl
  rw [hfeed, naluWrites_append, hwrote.naluWrites, hone]
  refine ⟨rfl, ?_⟩
  simp

/-- **The slices that no tag accounts for** are the slices since the last tag. -/
theorem sinceTag_eq {history later : List Event} {tags : List (List Call)} {pending : List Call}
    (h : ((RTPDump.construct fileName videoFrequency u).record as).trace = history ++ later)
    (htags : tags <+: (assemble (calls history)).flushed)
    (hlength : tags.length = (naluWrites history).length)
    (hslices : slices (calls history) = tags.flatten ++ pending) :
    sinceTag history = pending := by
  obtain ⟨since, hsince, hquiet, hupto⟩ := upToTag_cases history
  have hwrites : naluWrites history =
      naluWrites (history.rdropWhile fun e => !e.isNaluWrite) := by
    rw [← congrArg naluWrites hsince, naluWrites_append, hquiet, List.append_nil]
  -- the tags up to the last one are all the tags
  have hslices' : slices (calls (history.rdropWhile fun e => !e.isNaluWrite)) = tags.flatten := by
    rcases hupto with hnil | ⟨earlier, flv, timestamp, data, htag⟩
    · rw [hwrites, hnil] at hlength
      rw [hnil, List.length_eq_zero_iff.mp hlength]
      rfl
    · have hmono := assemble_flushed_mono
        (calls (history.rdropWhile fun e => !e.isNaluWrite)) (calls since)
      rw [← calls_append, hsince] at hmono
      rw [htag, List.append_assoc, List.singleton_append] at hsince
      rw [← hsince, List.append_assoc, List.cons_append] at h
      obtain ⟨hpending, hflushed⟩ := assemble_at_tag h
      rw [← htag, ← hwrites, ← hlength] at hflushed
      rw [slices_eq, htag, hpending, ← htag, List.append_nil,
        (List.prefix_of_prefix_length_le hmono htags hflushed.le).eq_of_length hflushed]
  rw [sinceTag, hslices', hslices, List.drop_left]

end LastTag

/-! ## Nothing is lost -/

/-- **The buffer and the tags hold the slices**, each once and in order. -/
structure SlicesKept (as : List Arrival) (trace : List Event) (d : RTPDump) : Prop where
  /-- The slices are counted from `is_sps_pps_ok = 2` on. -/
  counted : d.isSpsPpsOk = (assemble (calls trace)).sets
  region : d.videoData.read 5 d.length = pack (sinceTag trace)
  /-- A tag is written for a slice with the marker, with the region as it then stands. -/
  tags : ∀ history flv timestamp data rest,
    trace = history ++ .flvWriteTag flv .video timestamp data :: rest →
    ∃ c, (calls history).getLast? = some c ∧ c.isSlice = true ∧ c.marker = true ∧
      data = avcVideoPacket c.type ++ pack (sinceTag history)
  parsed : ∃ (tagged : List (List (List Byte))) (pending : List (List Byte)),
    (naluWrites trace).map (fun data => Framing.parse (data.drop 5)) = tagged.map some ∧
      Framing.parse (d.videoData.read 5 d.length) = some pending ∧
      tagged.flatten ++ pending = (slices (calls trace)).map Call.nal
  /-- When the writes succeed, these are the tags of the file behind the sequence header. -/
  delivered : (∀ a ∈ as, a.results.written = true) →
    videoTags trace = [] ∧ naluWrites trace = [] ∨
      ∃ sps pps, videoTags trace =
        (VideoWrite.sequenceHeader sps pps).data :: naluWrites trace

section Recordings

variable {fileName : String} {videoFrequency : Word} {u : Uninitialised} {as : List Arrival}
  {d : RTPDump}

/-- The pending slices are the slices since the last tag. -/
theorem record_pending
    (h : ((RTPDump.construct fileName videoFrequency u).record as).outcome = .ok d) :
    (assemble (calls ((RTPDump.construct fileName videoFrequency u).record as).trace)).pending =
      sinceTag ((RTPDump.construct fileName videoFrequency u).record as).trace := by
  have hwrites := (record_framed h).simulates.writes.naluWrites
  refine (sinceTag_eq (List.append_nil _).symm List.prefix_rfl ?_ (slices_eq _)).symm
  rw [hwrites, List.length_map]

/-- **The tag at its write.** -/
theorem record_tag {history rest : List Event} {flv : Bool} {timestamp : Word} {data : List Byte}
    (h : ((RTPDump.construct fileName videoFrequency u).record as).trace =
      history ++ .flvWriteTag flv .video timestamp data :: rest) :
    ∃ c, (calls history).getLast? = some c ∧ c.isSlice = true ∧ c.marker = true ∧
      data = avcVideoPacket c.type ++ pack (sinceTag history) := by
  obtain ⟨-, -, past, c, hcalls, hsets, hwrote, hslice, hmarker, hdata⟩ := allowed_of_trace h
  have hsince : sinceTag history = (assemble past).pending ++ [c] := by
    refine sinceTag_eq h (hcalls ▸ assemble_flushed_mono past [c]) ?_ ?_
    · rw [hwrote.naluWrites, List.length_map]
    · rw [hcalls, slices_concat, if_pos ⟨hsets, hslice⟩, slices_eq, List.append_assoc]
  refine ⟨c, by rw [hcalls, List.getLast?_concat], hslice, hmarker, ?_⟩
  rw [hsince, hdata, tagData_concat]

/-- The slices of the tags and of the buffer. -/
theorem record_parsed
    (h : ((RTPDump.construct fileName videoFrequency u).record as).outcome = .ok d) :
    ∃ (tagged : List (List (List Byte))) (pending : List (List Byte)),
      (naluWrites ((RTPDump.construct fileName videoFrequency u).record as).trace).map
          (fun data => Framing.parse (data.drop 5)) = tagged.map some ∧
        Framing.parse (d.videoData.read 5 d.length) = some pending ∧
        tagged.flatten ++ pending =
          (slices (calls ((RTPDump.construct fileName videoFrequency u).record as).trace)).map
            Call.nal := by
  obtain ⟨hsim, hframed⟩ := record_framed h
  rw [slices_eq] at hframed ⊢
  exact Assembly.parsed hsim.writes.naluWrites hsim.arrays.data hframed

/-- The tags in the file. -/
theorem record_delivered
    (h : ((RTPDump.construct fileName videoFrequency u).record as).outcome = .ok d)
    (hwritten : ∀ a ∈ as, a.results.written = true) :
    videoTags ((RTPDump.construct fileName videoFrequency u).record as).trace = [] ∧
        naluWrites ((RTPDump.construct fileName videoFrequency u).record as).trace = [] ∨
      ∃ sps pps, videoTags ((RTPDump.construct fileName videoFrequency u).record as).trace =
        (VideoWrite.sequenceHeader sps pps).data ::
          naluWrites ((RTPDump.construct fileName videoFrequency u).record as).trace := by
  have hwrote := (record_framed h).simulates.writes
  have hreached := (record_delivers hwritten _).reached d h
  rw [Reached] at hreached
  rw [hreached, hwrote.naluWrites]
  by_cases hsets : (assemble
      (calls ((RTPDump.construct fileName videoFrequency u).record as).trace)).sets = 2
  · obtain ⟨sps, pps, -, hws⟩ := hwrote.after hsets
    refine .inr ⟨sps, pps, ?_⟩
    rw [hws, List.map_cons, List.map_map]
    rfl
  · obtain ⟨hws, hflushed⟩ := hwrote.before hsets
    rw [hws, hflushed]
    exact .inl ⟨rfl, rfl⟩

/-- **No slice is lost or repeated** in any recording that stays within the arrays: this is its
state after the last packet, and after every packet before it. -/
theorem record_slicesKept
    (h : ((RTPDump.construct fileName videoFrequency u).record as).outcome = .ok d) :
    SlicesKept as ((RTPDump.construct fileName videoFrequency u).record as).trace d where
  counted := (record_framed h).simulates.arrays.sets
  region := by rw [(record_framed h).simulates.arrays.data, record_pending h]
  tags := fun _ _ _ _ _ htrace => record_tag htrace
  parsed := record_parsed h
  delivered := record_delivered h

end Recordings

/-- Two parameter sets, two slices and a tag of both. -/
theorem record_slicesKept_sample :
    ∃ d, ((RTPDump.construct "camera.flv" 90000 .zero).record twoPictures).outcome = .ok d ∧
      SlicesKept twoPictures
        ((RTPDump.construct "camera.flv" 90000 .zero).record twoPictures).trace d := by
  have hok : (match ((RTPDump.construct "camera.flv" 90000 .zero).record twoPictures).outcome with
      | .ok _ => true
      | .error _ => false) = true := by decide +kernel
  cases h : ((RTPDump.construct "camera.flv" 90000 .zero).record twoPictures).outcome with
  | ok d => exact ⟨d, rfl, record_slicesKept h⟩
  | error f =>
      rw [h] at hok
      cases hok

end RtpCapture
