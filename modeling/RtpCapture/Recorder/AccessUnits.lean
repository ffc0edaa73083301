import RtpCapture.Recorder.AccessUnitBuffer

/-! # The slices of a tag

`videoHandler` writes a tag when a slice carries the marker; the tag holds whatever slices have been
collected by then, and takes its timestamp and its key-frame byte from the last of them. Whether it
is one access unit is up to the markers.

* **`slices`** — the slices that come after the sequence header; `slices_eq` says that the tags and
  the pending slices are these slices, each once and in order.
* **`PicturesMarked`** — a slice that is followed by one of another timestamp or type carries the
  marker.
* **`record_tag_slices`** — a tag holds exactly the slices since the last marker, and is one access
  unit when pictures are marked. -/

namespace RtpCapture

open Traced

/-! ## The slices after the sequence header -/

/-- The slices among some calls that come after the sequence header. -/
def slicesFrom (m : Assembly) : List Call → List Call
  | [] => []
  | c :: cs =>
      if m.sets = 2 ∧ c.isSlice = true then c :: slicesFrom (m.feed c) cs
      else slicesFrom (m.feed c) cs

/-- **The slices that come after the sequence header.** -/
def slices (cs : List Call) : List Call := slicesFrom .empty cs

/-- The slices of some calls and then of others. -/
theorem slicesFrom_append (m : Assembly) (cs cs' : List Call) :
    slicesFrom m (cs ++ cs') = slicesFrom m cs ++ slicesFrom (cs.foldl Assembly.feed m) cs' := by
  induction cs generalizing m with
  | nil => rfl
  | cons c cs ih =>
      rw [List.cons_append, slicesFrom, slicesFrom, ih, List.foldl_cons]
      split <;> rfl

/-- One more call is one more slice if it comes after the sequence header and is one. -/
theorem slices_concat (cs : List Call) (c : Call) :
    slices (cs ++ [c]) =
      slices cs ++ if (assemble cs).sets = 2 ∧ c.isSlice = true then [c] else [] := by
  rw [slices, slicesFrom_append, ← slices, ← assemble]
  rfl

/-- A call that is not a slice after the sequence header adds nothing to the tags. -/
theorem Assembly.feed_of_not_slice {m : Assembly} {c : Call}
    (h : ¬ (m.sets = 2 ∧ c.isSlice = true)) :
    (m.feed c).pending = m.pending ∧ (m.feed c).flushed = m.flushed := by
  unfold feed
  split
  · exact m.storeSets_slices c
  · rename_i hsets
    rw [storeSlice, if_neg fun hslice => h ⟨not_not.mp hsets, hslice⟩]
    exact ⟨rfl, rfl⟩

/-- A slice after the sequence header. -/
theorem Assembly.feed_of_slice {m : Assembly} {c : Call} (hsets : m.sets = 2)
    (hslice : c.isSlice = true) :
    m.feed c = if c.marker then { m with pending := [], flushed := m.flushed ++ [m.pending ++ [c]] }
      else { m with pending := m.pending ++ [c] } := by
  rw [feed, if_neg (not_not.mpr hsets), storeSlice, if_pos hslice]

/-- **No slice is lost or repeated**: the tags and the pending slices are the slices. -/
theorem slices_eq (cs : List Call) :
    slices cs = (assemble cs).flushed.flatten ++ (assemble cs).pending := by
  induction cs using List.reverseRecOn with
  | nil => rfl
  | append_singleton cs c ih =>
      rw [slices_concat, assemble_concat, ih]
      by_cases h : (assemble cs).sets = 2 ∧ c.isSlice = true
      · rw [if_pos h, Assembly.feed_of_slice h.1 h.2]
        split <;> simp
      · obtain ⟨hpending, hflushed⟩ := Assembly.feed_of_not_slice h
        rw [if_neg h, hpending, hflushed, List.append_nil]

/-- **Pending slices carry no marker**, and every tag ends with the only marked slice in it. -/
theorem assemble_marked (cs : List Call) :
    (∀ c ∈ (assemble cs).pending, c.marker = false) ∧
      ∀ tag ∈ (assemble cs).flushed, ∃ earlier c, tag = earlier ++ [c] ∧ c.marker = true ∧
        ∀ c' ∈ earlier, c'.marker = false := by
  -- induction from the end: a slice with a marker ends the access unit that was pending
  induction cs using List.reverseRecOn with
  | nil => simp [Assembly.empty]
  | append_singleton cs c ih =>
      rw [assemble_concat]
      by_cases h : (assemble cs).sets = 2 ∧ c.isSlice = true
      · rw [Assembly.feed_of_slice h.1 h.2]
        by_cases hmarker : c.marker = true
        · rw [if_pos hmarker]
          refine ⟨by simp, fun tag htag => ?_⟩
          rcases List.mem_append.mp htag with htag | htag
          · exact ih.2 tag htag
          · rw [List.mem_singleton.mp htag]
            exact ⟨_, c, rfl, hmarker, ih.1⟩
        · rw [if_neg hmarker]
          refine ⟨fun c' hc' => ?_, ih.2⟩
          rcases List.mem_append.mp hc' with hc' | hc'
          · exact ih.1 c' hc'
          · rw [List.mem_singleton.mp hc']
            exact Bool.eq_false_iff.mpr hmarker
      · obtain ⟨hpending, hflushed⟩ := Assembly.feed_of_not_slice h
        rw [hpending, hflushed]
        exact ih

/-! ## Marked pictures -/

/-- **Pictures are marked**: of two slices in a row the first carries the marker unless they have
the same timestamp and the same type. -/
def PicturesMarked (cs : List Call) : Prop :=
  (slices cs).IsChain fun c c' => c.marker = true ∨ c.time = c'.time ∧ c.type = c'.type

/-- Slices without a marker in front of `c` have its timestamp and type. -/
theorem same_picture {cs : List Call} {c : Call}
    (hchain : (cs ++ [c]).IsChain fun c c' =>
      c.marker = true ∨ c.time = c'.time ∧ c.type = c'.type)
    (hunmarked : ∀ c' ∈ cs, c'.marker = false) :
    ∀ c' ∈ cs ++ [c], c'.time = c.time ∧ c'.type = c.type := by
  induction cs with
  | nil => simp
  | cons c₁ cs ih =>
      have hrest := ih hchain.of_cons fun c' hc' => hunmarked c' (List.mem_cons_of_mem c₁ hc')
      -- without a marker the next slice is of the same picture
      have hfirst : ∃ c₂ ∈ cs ++ [c], c₁.time = c₂.time ∧ c₁.type = c₂.type := by
        obtain ⟨c₂, rest, hsplit⟩ : ∃ c₂ rest, cs ++ [c] = c₂ :: rest := by
          cases cs with
          | nil => exact ⟨c, [], rfl⟩
          | cons c₂ cs => exact ⟨c₂, cs ++ [c], rfl⟩
        rw [List.cons_append, hsplit] at hchain
        have hmark := hunmarked c₁ List.mem_cons_self
        refine ⟨c₂, hsplit ▸ List.mem_cons_self, hchain.rel.resolve_left ?_⟩
        rw [hmark]
        exact Bool.false_ne_true
      intro c' hc'
      rcases List.mem_cons.mp hc' with rfl | hc'
      · obtain ⟨c₂, hc₂, htime, htype⟩ := hfirst
        exact ⟨htime.trans (hrest c₂ hc₂).1, htype.trans (hrest c₂ hc₂).2⟩
      · exact hrest c' hc'

/-- The key-frame byte says whether the last slice is an IDR slice. -/
theorem head_avcVideoPacket (type : Byte) (data : List Byte) :
    (avcVideoPacket type ++ data).head? = some 0x17 ↔ type = 5 := by
  unfold avcVideoPacket
  split
  · simp [*]
  · simp only [List.cons_append, List.head?_cons, Option.some.injEq]
    constructor
    · intro h
      exact absurd h (by decide)
    · intro h
      contradiction

/-- The slices of all tags end with a marked one. -/
theorem flushed_marked (cs : List Call) :
    ∀ c ∈ (assemble cs).flushed.flatten.getLast?, c.marker = true := by
  intro c hc
  rcases List.eq_nil_or_concat (assemble cs).flushed with hnil | ⟨tags, tag, htags⟩
  · rw [hnil] at hc
    cases hc
  · obtain ⟨earlier, c', rfl, hmarker, -⟩ := (assemble_marked cs).2 tag (by rw [htags]; simp)
    rw [htags, List.concat_eq_append, List.flatten_append, List.flatten_singleton,
      ← List.append_assoc, List.getLast?_concat] at hc
    obtain rfl := Option.some.inj hc
    exact hmarker

/-- The slices of some calls are the first slices of more calls. -/
theorem slices_prefix {cs cs' : List Call} (h : cs <+: cs') : slices cs <+: slices cs' := by
  obtain ⟨rest, rfl⟩ := h
  rw [slices, slices, slicesFrom_append]
  exact List.prefix_append _ _

/-- **A tag holds the slices since the last marker.** Its frame byte is chosen by the last of them.
When pictures are marked, all of them have one timestamp, and the frame byte is `0x17` exactly when
there is an IDR slice among them. -/
theorem record_tag_slices (fileName : String) (videoFrequency : Word) (u : Uninitialised)
    (as : List Arrival) :
    Always (fun history e => ∀ flv timestamp data, e = .flvWriteTag flv .video timestamp data →
        ∃ earlier cs c, slices (calls history) = earlier ++ (cs ++ [c]) ∧
          (∀ c' ∈ earlier.getLast?, c'.marker = true) ∧ (∀ c' ∈ cs, c'.marker = false) ∧
          c.marker = true ∧ data = avcVideoPacket c.type ++ pack (cs ++ [c]) ∧
          (PicturesMarked ((Depacketizer.start (u.nalData 0)).handed as) →
            (∀ c' ∈ cs ++ [c], c'.time = c.time) ∧
              (data.head? = some 0x17 ↔ ∃ c' ∈ cs ++ [c], c'.type = 5)))
      ((RTPDump.construct fileName videoFrequency u).record as).trace := by
  rintro history _ rest htrace flv timestamp data rfl
  obtain ⟨-, -, past, c, hcalls, hsets, -, hslice, hmarker, hdata⟩ := allowed_of_trace htrace
  obtain ⟨hunmarked, -⟩ := assemble_marked past
  have hslices : slices (calls history) =
      (assemble past).flushed.flatten ++ ((assemble past).pending ++ [c]) := by
    rw [hcalls, slices_concat, if_pos ⟨hsets, hslice⟩, slices_eq, List.append_assoc]
  rw [tagData_concat] at hdata
  refine ⟨_, _, c, hslices, flushed_marked past, hunmarked, hmarker, hdata, fun hpictures => ?_⟩
  -- the slices of the tag are neighbours among all slices
  have hchain : ((assemble past).pending ++ [c]).IsChain fun c c' =>
      c.marker = true ∨ c.time = c'.time ∧ c.type = c'.type := by
    obtain ⟨later, hlater⟩ := slices_prefix (calls_history htrace)
    rw [hslices] at hlater
    rw [PicturesMarked, ← hlater] at hpictures
    exact hpictures.left_of_append.right_of_append
  have hsame := same_picture hchain hunmarked
  refine ⟨fun c' hc' => (hsame c' hc').1, ?_⟩
  rw [hdata, head_avcVideoPacket]
  constructor
  · intro h5
    exact ⟨c, by simp, h5⟩
  · rintro ⟨c', hc', h5⟩
    rw [← (hsame c' hc').2, h5]

/-- Whether pictures are marked is found by going through the slices. -/
instance (cs : List Call) : Decidable (PicturesMarked cs) :=
  inferInstanceAs (Decidable (List.IsChain _ _))

/-- The tag of a picture of two slices: both have its timestamp, and the frame byte is that of an
IDR picture. -/
theorem record_tag_slices_sampleUnits :
    ∃ history rest, ((RTPDump.construct "camera.flv" 90000 .zero).record sampleUnits).trace =
        history ++ .flvWriteTag true .video 0
          [0x17, 1, 0, 0, 0, 0, 0, 0, 2, 0x65, 1, 0, 0, 0, 2, 0x65, 2] :: rest ∧
      ∃ earlier cs c, slices (calls history) = earlier ++ (cs ++ [c]) ∧
        [0x17, 1, 0, 0, 0, 0, 0, 0, 2, 0x65, 1, 0, 0, 0, 2, 0x65, 2] =
          avcVideoPacket c.type ++ pack (cs ++ [c]) ∧
        (∀ c' ∈ cs ++ [c], c'.time = c.time) ∧ ∃ c' ∈ cs ++ [c], c'.type = 5 := by
  have hmem : .flvWriteTag true .video 0
      [0x17, 1, 0, 0, 0, 0, 0, 0, 2, 0x65, 1, 0, 0, 0, 2, 0x65, 2] ∈
        ((RTPDump.construct "camera.flv" 90000 .zero).record sampleUnits).trace := by decide +kernel
  obtain ⟨history, rest, htrace⟩ := List.append_of_mem hmem
  obtain ⟨earlier, cs, c, hslices, -, -, -, hdata, hpicture⟩ :=
    record_tag_slices "camera.flv" 90000 .zero sampleUnits history _ rest htrace _ _ _ rfl
  obtain ⟨htime, hkey⟩ := hpicture (by decide +kernel)
  exact ⟨history, rest, htrace, earlier, cs, c, hslices, hdata, htime, hkey.mp rfl⟩

/-! ## A lost marker -/

/-- An IDR slice without a marker, then a slice of the next picture with one. -/
def twoPictures : List Arrival :=
  [sampleSps, samplePps,
    ⟨.ofBytes [0x80, 0x62, 0, 3, 0, 0, 0, 0, 0, 0, 0, 0, 0x65, 1] 14, .allGood⟩,
    ⟨.ofBytes [0x80, 0xe2, 0, 5, 0, 0, 0x0e, 0x10, 0, 0, 0, 0, 0x61, 2] 14, .allGood⟩]

/-- **A tag can hold two pictures**: both slices go into one tag though their timestamps differ,
and its frame byte is `0x27` though it contains an IDR slice. -/
theorem record_tag_of_two_pictures :
    ∃ c c', c ∈ calls ((RTPDump.construct "camera.flv" 90000 .zero).record twoPictures).trace ∧
      c' ∈ calls ((RTPDump.construct "camera.flv" 90000 .zero).record twoPictures).trace ∧
      c.time ≠ c'.time ∧ c.type = 5 ∧
      ∃ timestamp data, .flvWriteTag true .video timestamp data ∈
          ((RTPDump.construct "camera.flv" 90000 .zero).record twoPictures).trace ∧
        data = avcVideoPacket c'.type ++ pack [c, c'] ∧ data.head? = some 0x27 := by
  refine ⟨⟨5, [0x65, 1], 0, false⟩, ⟨1, [0x61, 2], 3600, true⟩, ?_⟩
  refine ⟨by decide +kernel, by decide +kernel, by decide, rfl, 0,
    [0x27, 1, 0, 0, 0, 0, 0, 0, 2, 0x65, 1, 0, 0, 0, 2, 0x61, 2], by decide +kernel, by decide,
    by decide⟩

end RtpCapture
