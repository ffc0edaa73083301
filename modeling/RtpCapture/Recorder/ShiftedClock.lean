import RtpCapture.Recorder.Interleaving

/-! # Shifted timestamps

A sender starts its timestamps anywhere. The clock works with differences, which do not depend on
where that is; but it marks a base that has not been set by one timestamp, zero.

* **`Packet.addTime`** — a packet with another timestamp.
* **`Clock.tick_shift`** — the shifted clock gives the same tag timestamp as long as the mark is read
  in both or in neither.
* **`MarkReadAlike`** — that is so at every timestamp that finds a base.
* **`record_shifted`** — then the two recordings agree on everything but the timestamps the handlers
  are entered with, and in particular have the same tags.
* **`record_shift_differs`** — a recording that starts at timestamp zero, and the same one tick later. -/

namespace RtpCapture

open Traced

/-! ## Packets -/

/-- The bytes of a timestamp in network order. -/
def networkBytes (t : Word) : List Byte :=
  [t.extractLsb' 24 8, t.extractLsb' 16 8, t.extractLsb' 8 8, t.extractLsb' 0 8]

/-- **A packet with `offset` added to its RTP timestamp**, which is at bytes 4 to 7. -/
def Packet.addTime (offset : Word) (p : Packet) : Packet where
  buf := p.buf.write 4 (networkBytes (p.time + offset))
  len := p.len

/-- The same for an arrival. -/
def Arrival.addTime (offset : Word) (a : Arrival) : Arrival :=
  { a with packet := a.packet.addTime offset }

/-- The timestamp is the sum, modulo 2^32. -/
@[simp] theorem Packet.time_addTime (offset : Word) (p : Packet) :
    (p.addTime offset).time = p.time + offset := by
  generalize htime : p.time + offset = t
  have hbytes : rtpHeader (p.addTime offset).buf = { rtpHeader p.buf with
      ts := t.extractLsb' 0 8 ++ t.extractLsb' 8 8 ++ t.extractLsb' 16 8 ++ t.extractLsb' 24 8 } := by
    rw [← htime]
    rfl
  rw [time, hbytes]
  exact pocoNtoh32_bytes t

/-- Nothing else changes. -/
theorem Packet.retimed_addTime (offset : Word) (p : Packet) : Retimed p (p.addTime offset) where
  len := rfl
  version := rfl
  pt := rfl
  marker := rfl
  h264Buf := by
    funext i
    apply Memory.write_apply_of_ge
    show 4 + 4 ≤ 12 + i
    omega

/-! ## The clock -/

section

variable {frequency offset : Word}

/-- A clock on shifted timestamps. -/
def Clock.shift (offset : Word) (c : Clock) : Clock := ⟨c.lastTime + offset, c.baseTime + offset⟩

/-- Behind the mark the clock computes with differences only. -/
theorem Clock.tick_of_setBase {c c' : Clock} {time : Word}
    (h : c'.setBase (time + offset) = (c.setBase time).shift offset) :
    c'.tick frequency (time + offset) =
      (c.tick frequency time).map (Prod.map (Clock.shift offset) id) := by
  -- the clock uses differences of timestamps only, once the base is set
  have hdiff : ∀ last : Word, time + offset - (last + offset) = time - last := by
    intro last
    bv_omega
  have hskip : ((c.setBase time).shift offset).skipGap frequency (time + offset) =
      ((c.setBase time).skipGap frequency time).shift offset := by
    rw [skipGap, skipGap]
    show (if overOneSecond (time + offset - ((c.setBase time).lastTime + offset)) frequency then _
      else _) = _
    rw [hdiff]
    split
    · -- the base moves by the same difference
      rw [shift, shift]
      congr 1
      show (c.setBase time).baseTime + offset + (time + offset - ((c.setBase time).lastTime + offset))
        = _
      rw [hdiff]
      bv_omega
    · rfl
  rw [tick, tick, h, hskip, Option.map_map]
  generalize (c.setBase time).skipGap frequency time = c
  show (intDiv (time + offset - (c.baseTime + offset)) frequency).map _ = _
  rw [hdiff]
  rfl

/-- **The shifted clock** gives the same tag timestamp when it reads the mark alike. -/
theorem Clock.tick_shift {c : Clock} (hmark : c.baseTime = 0 ↔ c.baseTime + offset = 0)
    (time : Word) :
    (c.shift offset).tick frequency (time + offset) =
      (c.tick frequency time).map (Prod.map (Clock.shift offset) id) := by
  apply tick_of_setBase
  rw [setBase, setBase]
  by_cases hbase : c.baseTime = 0
  · rw [if_pos hbase, if_pos (show (c.shift offset).baseTime = 0 from hmark.mp hbase)]
    rfl
  · rw [if_neg hbase, if_neg (show ¬ (c.shift offset).baseTime = 0 from fun h => hbase (hmark.mpr h))]

/-- The first packet sets the base in both. -/
theorem Clock.tick_start_shift (time : Word) :
    Clock.start.tick frequency (time + offset) =
      (Clock.start.tick frequency time).map (Prod.map (Clock.shift offset) id) :=
  tick_of_setBase rfl

/-- The clock after one more packet. -/
theorem Clock.after_concat_eq_some {c c' : Clock} {times : List Word} {time : Word} :
    c.after frequency (times ++ [time]) = some c' ↔
      ∃ c₁ timestamp, c.after frequency times = some c₁ ∧
        c₁.tick frequency time = some (c', timestamp) := by
  induction times generalizing c with
  | nil =>
      rw [List.nil_append, after, after]
      cases htick : c.tick frequency time with
      | none =>
          simp [htick]
      | some result =>
          obtain ⟨c₁, timestamp⟩ := result
          simp [after, htick]
  | cons first times ih =>
      rw [List.cons_append, after, after]
      cases c.tick frequency first with
      | none => simp
      | some result => exact ih

/-- **The mark is read alike**: every timestamp but the first finds a base that means 'not set' if
and only if the base `offset` later does. -/
def MarkReadAlike (frequency offset : Word) (times : List Word) : Prop :=
  ∀ before time c, before ≠ [] → before ++ [time] <+: times →
    Clock.start.after frequency before = some c → (c.baseTime = 0 ↔ c.baseTime + offset = 0)

/-- The mark is read alike in a part of the timestamps if it is in all of them. -/
theorem MarkReadAlike.of_isPrefix {times times' : List Word}
    (h : MarkReadAlike frequency offset times') (hpre : times <+: times') :
    MarkReadAlike frequency offset times :=
  fun before time c hne hbefore => h before time c hne (hbefore.trans hpre)

/-- Without timestamps the mark is not read. -/
@[simp] theorem markReadAlike_nil : MarkReadAlike frequency offset [] := by
  intro before time c _ hpre
  simp at hpre

/-- **The next timestamp on both clocks**: each has its own clock, and the tag timestamps are the
same. -/
theorem MarkReadAlike.tick {times : List Word} {time : Word} {c c' : Clock}
    (h : MarkReadAlike frequency offset (times ++ [time]))
    (hc : Clock.start.after frequency times = some c)
    (hc' : Clock.start.after frequency (times.map (· + offset)) = some c') :
    c'.tick frequency (time + offset) =
      (c.tick frequency time).map (Prod.map (Clock.shift offset) id) := by
  induction times using List.reverseRecOn generalizing time c c' with
  | nil =>
      obtain rfl := Option.some.inj hc
      obtain rfl := Option.some.inj hc'
      exact Clock.tick_start_shift time
  | append_singleton times last ih =>
      rw [List.map_append, List.map_singleton] at hc'
      obtain ⟨c₁, timestamp, hc₁, htick⟩ := Clock.after_concat_eq_some.mp hc
      obtain ⟨c₁', timestamp', hc₁', htick'⟩ := Clock.after_concat_eq_some.mp hc'
      -- the clocks after the last packet are shifts of each other
      have hlast := ih (h.of_isPrefix (List.prefix_append _ _)) hc₁ hc₁'
      rw [htick, htick'] at hlast
      obtain ⟨rfl, -⟩ := Prod.mk.inj (Option.some.inj hlast)
      exact Clock.tick_shift (h (times ++ [last]) time c (by simp) (List.prefix_refl _) hc) time

end

/-! ## Recordings -/

/-- A tag of either type, as a call or in the file. -/
def Event.isAnyTag (e : Event) : Bool := e.isTag .audio || e.isTag .video

/-- **The tags of a trace**, in the order they are written, with their timestamps and data. -/
def allTags (trace : List Event) : List Event := trace.filter Event.isAnyTag

/-- The tags, as a filter on events. -/
theorem allTags_eq (trace : List Event) :
    allTags trace = trace.filterMap (Option.guard Event.isAnyTag) :=
  (congrFun (List.filterMap_eq_filter (p := Event.isAnyTag)) trace).symm

/-- Which events are tags does not depend on what the handlers are entered with. -/
theorem isAnyTag_ignoresTimes : IgnoresTimes (Option.guard Event.isAnyTag) where
  video := fun _ _ _ _ _ => rfl
  audio := fun _ _ _ _ => rfl

/-- That a handler is entered, without the timestamp. -/
def Event.entry? (type : TagType) (e : Event) : Option Unit := (e.entered? type).map fun _ => ()

/-- Neither does which events are entries. -/
theorem entry?_ignoresTimes (type : TagType) : IgnoresTimes (Event.entry? type) where
  video := fun _ _ _ _ _ => by cases type <;> rfl
  audio := fun _ _ _ _ => by cases type <;> rfl

/-- There is one timestamp for each entry. -/
theorem length_entries (type : TagType) (trace : List Event) :
    (trace.filterMap (Event.entry? type)).length = (entryTimes type trace).length := by
  have hentries : trace.filterMap (Event.entry? type) =
      (entryTimes type trace).map fun _ => () := by
    rw [entryTimes, List.map_filterMap]
    rfl
  rw [hentries, List.length_map]

/-- Any two clocks. -/
def AnyClocks (_ _ : Clock) : Prop := True

/-- **A step of both recordings**: the handlers are entered alike, `offset` later. -/
theorem entryTimes_addTime {offset : Word} {type : TagType} {d e : RTPDump} {a : Arrival}
    {R : RTPDump → RTPDump → Prop}
    (h : Agree (Event.entry? type) R (d.step a) (e.step (a.addTime offset))) :
    entryTimes type (e.step (a.addTime offset)).trace =
      (entryTimes type (d.step a).trace).map (· + offset) := by
  have hlength : (entryTimes type (d.step a).trace).length =
      (entryTimes type (e.step (a.addTime offset)).trace).length := by
    rw [← length_entries, ← length_entries, h.trace]
  rcases entryTimes_step type d a with hnone | ⟨htime, -⟩
  · rw [hnone] at hlength ⊢
    exact List.eq_nil_of_length_eq_zero hlength.symm
  · rcases entryTimes_step type e (a.addTime offset) with hnone' | ⟨htime', -⟩
    · rw [htime, hnone'] at hlength
      cases hlength
    · rw [htime, htime', List.map_singleton]
      exact congrArg (fun t => [t]) (a.packet.time_addTime offset)

/-- Two recorders after the same packets, those of the second with shifted timestamps. -/
structure Shifted (start : RTPDump) (offset : Word) (past : List Arrival) (d e : RTPDump) :
    Prop where
  rest : DiffersInClocks AnyClocks AnyClocks d e
  entries : ∀ type, entryTimes type (start.record (past.map (Arrival.addTime offset))).trace =
    (entryTimes type (start.record past).trace).map (· + offset)

/-- **A recorder and shifted timestamps.** In every recording from a fresh recorder: when each
handler reads the mark alike, the recording of the same packets with `offset` added to each timestamp
agrees with it on everything but the timestamps the handlers are entered with. -/
theorem record_shifted_agree {γ : Type} {seen : Event → Option γ} (hseen : IgnoresTimes seen)
    {start : RTPDump} (hstart : ∀ type, start.clock type = .start) {offset : Word}
    {as : List Arrival}
    (hmark : ∀ type,
      MarkReadAlike (start.ticks type) offset (entryTimes type (start.record as).trace)) :
    Agree seen (Shifted start offset as) (start.record as)
      (start.record (as.map (Arrival.addTime offset))) := by
  refine agree_of_prefixes ⟨⟨start.audioClock, start.videoClock, rfl, trivial, trivial⟩,
    fun type => rfl⟩ ?_
  intro past a d e hpre hd he hshifted
  obtain ⟨⟨audio, video, rfl, -, -⟩, hentries⟩ := hshifted
  -- a handler that is entered has read the mark alike so far
  have htick : ∀ type, entryTimes type (d.step a).trace ≠ [] →
      SameStamp AnyClocks ((d.clock type).tick (d.ticks type) a.packet.time)
        (((d.setClocks audio video).clock type).tick (d.ticks type)
          (a.addTime offset).packet.time) := by
    intro type hne
    obtain ⟨hclock, hticks⟩ := (record_keepsTime type start past).clock d hd
    obtain ⟨hclock', -⟩ := (record_keepsTime type start (past.map (Arrival.addTime offset))).clock _ he
    have htimes : entryTimes type (start.record past).trace ++ [a.packet.time] <+:
        entryTimes type (start.record as).trace := by
      have h := (record_trace_isPrefix start hpre).filterMap (Event.entered? type)
      rw [record_concat hd, List.filterMap_append] at h
      rwa [← (entryTimes_step type d a).resolve_left hne |>.1]
    rw [hstart] at hclock hclock'
    rw [hentries type] at hclock'
    have hshift := ((hmark type).of_isPrefix htimes).tick hclock hclock'
    rw [hticks]
    show SameStamp _ _ (Clock.tick _ _ (a.packet.addTime offset).time)
    rw [Packet.time_addTime, hshift]
    cases (d.clock type).tick (start.ticks type) a.packet.time with
    | none => exact .none
    | some result => exact .some ⟨trivial, rfl⟩
  have hstep : ∀ {δ : Type} {observed : Event → Option δ}, IgnoresTimes observed →
      Agree observed (DiffersInClocks AnyClocks AnyClocks) (d.step a)
        ((d.setClocks audio video).step (a.addTime offset)) := fun hobserved =>
    step_retimed hobserved rfl (a.packet.retimed_addTime offset) trivial trivial (htick .audio)
      (htick .video)
  refine (hstep hseen).imp fun d' e' _ hrest => ⟨hrest, fun type => ?_⟩
  rw [List.map_append, List.map_singleton, record_concat he, record_concat hd, entryTimes_append,
    entryTimes_append, List.map_append, hentries type,
    entryTimes_addTime (hstep (entry?_ignoresTimes type))]

/-- **The initial timestamp does not show in the tags.** In every recording from a fresh recorder:
when every timestamp but the first of its medium finds a base that means 'not set' if and only if the
base `offset` later does, the packets with `offset` added to each timestamp give the same tags with
the same timestamps. -/
theorem record_shifted (fileName : String) (videoFrequency : Word) (u : Uninitialised)
    (as : List Arrival) (offset : Word)
    (hmark : ∀ type, MarkReadAlike ((RTPDump.construct fileName videoFrequency u).ticks type) offset
      (entryTimes type ((RTPDump.construct fileName videoFrequency u).record as).trace)) :
    allTags ((RTPDump.construct fileName videoFrequency u).record
        (as.map (Arrival.addTime offset))).trace =
      allTags ((RTPDump.construct fileName videoFrequency u).record as).trace := by
  have hagree := record_shifted_agree isAnyTag_ignoresTimes (construct_clock fileName videoFrequency u)
    hmark
  rw [allTags_eq, allTags_eq, hagree.trace]

/-- Whether the mark is read alike is found by following the clock. -/
theorem markReadAlike_iff_take {frequency offset : Word} {times : List Word} :
    MarkReadAlike frequency offset times ↔ ∀ n < times.length, n ≠ 0 →
      ∀ c ∈ Clock.start.after frequency (times.take n),
        (c.baseTime = 0 ↔ c.baseTime + offset = 0) := by
  constructor
  · intro h n hn hne c hc
    refine h (times.take n) times[n] c ?_ ?_ hc
    · intro hnil
      have hlength := congrArg List.length hnil
      rw [List.length_take_of_le hn.le, List.length_nil] at hlength
      exact hne hlength
    · rw [List.take_append_getElem hn]
      exact List.take_prefix (n + 1) times
  · rintro h before time c hne ⟨rest, rfl⟩ hc
    have htake : ((before ++ [time]) ++ rest).take before.length = before := by simp
    refine h before.length (by simp) (List.length_pos_iff.mpr hne).ne' c ?_
    rw [htake]
    exact hc

instance (frequency offset : Word) (times : List Word) :
    Decidable (MarkReadAlike frequency offset times) :=
  decidable_of_iff _ markReadAlike_iff_take.symm

/-- Pictures and sound, and the same five ticks later: four tags, each a call and what reaches the
file. -/
theorem record_shifted_sampleMedia :
    allTags ((RTPDump.construct "camera.flv" 90000 .zero).record
        (sampleMedia.map (Arrival.addTime 5))).trace =
      allTags ((RTPDump.construct "camera.flv" 90000 .zero).record sampleMedia).trace ∧
    (allTags ((RTPDump.construct "camera.flv" 90000 .zero).record sampleMedia).trace).length = 8 := by
  refine ⟨record_shifted "camera.flv" 90000 .zero sampleMedia 5 fun type => ?_, by decide +kernel⟩
  cases type with
  | audio => decide +kernel
  | video => decide +kernel

/-! ## A recording that starts at timestamp zero -/

/-- An A-law packet with the timestamp `t` and one byte of sound. -/
def soundArrival (t : Word) : Arrival :=
  ⟨.ofBytes ([0x80, 0x08, 0, 7] ++ (networkBytes t ++ [0, 0, 0, 0, 0xd5])) 13, .allGood⟩

/-- It has the timestamp `t`. -/
theorem time_soundArrival (t : Word) : (soundArrival t).packet.time = t := pocoNtoh32_bytes t

/-- It is an audio packet. -/
theorem soundArrival_isAudio (t : Word) : (soundArrival t).packet.isAudio = true := by
  have hversion : BitVec.extractLsb' 6 2 ((0x08 : Byte) ++ (0x80 : Byte)) = 2 := by decide
  have hrtp : (soundArrival t).packet.isRtp = true :=
    Packet.isRtp_iff.mpr ⟨by show ¬ (13 : ℤ) < 12; decide, hversion⟩
  have hpt : (soundArrival t).packet.pt = 8 := by
    show BitVec.extractLsb' 8 7 ((0x08 : Byte) ++ (0x80 : Byte)) = 8
    decide
  exact decide_eq_true ⟨hrtp, .inr hpt⟩

/-- The sample of NAL type 6 is a video packet. -/
theorem sampleArrival_isVideo (t : Word) : (sampleArrival t).packet.isVideo = true :=
  decide_eq_true ⟨(sampleArrival_isWhole t).isRtp, .inr (sampleArrival_isWhole t).pt⟩

/-- A sample with another timestamp is a sample. -/
theorem sampleArrival_addTime (t offset : Word) :
    (sampleArrival t).addTime offset = sampleArrival (t + offset) := by
  have htime : (sampleArrival t).packet.time = t := time_samplePacket t
  unfold Arrival.addTime Packet.addTime
  rw [htime]
  exact congrArg (fun buf => (⟨⟨buf, 14⟩, .allGood⟩ : Arrival))
    (@Memory.write_ofList [0x80, 0x62, 0, 1] [0, 0, 0, 0, 0x06, 0] (networkBytes t) _ rfl)

/-- So is one of sound. -/
theorem soundArrival_addTime (t offset : Word) :
    (soundArrival t).addTime offset = soundArrival (t + offset) := by
  unfold Arrival.addTime Packet.addTime
  rw [time_soundArrival]
  exact congrArg (fun buf => (⟨⟨buf, 13⟩, .allGood⟩ : Arrival))
    (@Memory.write_ofList [0x80, 0x08, 0, 7] [0, 0, 0, 0, 0xd5] (networkBytes t) _ rfl)

/-- The tags of a type are among all tags. -/
theorem tags_allTags (type : TagType) (trace : List Event) :
    tags type (allTags trace) = tags type trace := by
  rw [tags, allTags, List.filterMap_filter]
  congr 1
  funext e
  unfold Event.tag? Event.isAnyTag
  cases type <;> grind

/-- A packet with a tag timestamp of at most one gets no tag. -/
theorem audioStep_silent {d : RTPDump} {a : Arrival} {clock : Clock} {timestamp : Word}
    (htick : d.audioClock.tick 8 a.packet.time = some (clock, timestamp))
    (hsilent : ¬ 1 < timestamp.toNat) :
    (audioStep d a).outcome = .ok { d with audioClock := clock } ∧
      tags .audio (audioStep d a).trace = [] := by
  unfold audioStep audioHandler
  rw [htick]
  dsimp only
  rw [if_neg hsilent]
  exact ⟨rfl, rfl⟩

/-- Any other gets one. -/
theorem audioStep_tagged {d : RTPDump} {a : Arrival} {clock : Clock} {timestamp : Word}
    (htick : d.audioClock.tick 8 a.packet.time = some (clock, timestamp))
    (htagged : 1 < timestamp.toNat) : tags .audio (audioStep d a).trace ≠ [] := by
  unfold audioStep audioHandler
  rw [htick]
  dsimp only
  rw [if_pos htagged]
  generalize (if a.packet.pt = 0 then AudioType.uLaw else .aLaw) = type
  have hcall : Event.flvWriteTag d.flv .audio timestamp (type.header :: a.packet.payload) ∈
      (srsFlvWriteTag d.flv .audio timestamp (type.header :: a.packet.payload)
        a.results.written).trace := List.mem_cons_self
  refine List.ne_nil_of_mem (a := .flvWriteTag d.flv .audio timestamp (type.header ::
    a.packet.payload)) (mem_tags.mpr ⟨?_, rfl⟩)
  exact List.mem_cons_of_mem _ (List.mem_cons_of_mem _ (mem_trace_bind_left hcall))

/-- The sound behind one NAL unit. -/
theorem tags_sound (t t₀ t₁ : Word) :
    tags .audio ((RTPDump.construct "camera.flv" 90000 .zero).record
        [sampleArrival t, soundArrival t₀, soundArrival t₁]).trace =
      tags .audio (Traced.run audioStep (RTPDump.construct "camera.flv" 90000 .zero).withFlv
        [soundArrival t₀, soundArrival t₁]).trace := by
  have hsim := (record_simulates "camera.flv" 90000 .zero []).2 _ rfl
  have hsound : ∀ t, (soundArrival t).packet.isVideo = false := by
    intro t
    by_contra hvideo
    rw [Bool.not_eq_false] at hvideo
    have haudio := Packet.not_isAudio_of_isVideo hvideo
    rw [soundArrival_isAudio] at haudio
    cases haudio
  have hvideo : videoArrivals [sampleArrival t, soundArrival t₀, soundArrival t₁] =
      [t].map sampleArrival := by
    simp [videoArrivals, sampleArrival_isVideo, hsound]
  obtain ⟨d, hd⟩ := samplePackets_returns [t]
  rw [← hvideo] at hd
  obtain ⟨d', hd'⟩ := record_returns_of_video hsim hd
  have hreached : calls ((RTPDump.construct "camera.flv" 90000 .zero).step
      (sampleArrival t)).trace ≠ [] := by
    intro hnil
    have hentry := entryTimes_samplePackets [t]
    rw [List.map_singleton, RTPDump.record, run_singleton, entryTimes_eq_calls, hnil] at hentry
    cases hentry
  rw [@record_audioTags _ _ (RTPDump.construct "camera.flv" 90000 .zero).withFlv _ _ hsim rfl rfl rfl
    hd', RTPDump.splitAtBegin, if_pos hreached]
  simp [audioArrivals, soundArrival_isAudio]

/-- **The initial timestamp shows in the tags**: the second packet of sound gets no tag when the
timestamps start at zero, and one when they start one tick later. -/
theorem record_shift_differs :
    allTags ((RTPDump.construct "camera.flv" 90000 .zero).record
        ([sampleArrival 1, soundArrival 0, soundArrival 8000].map (Arrival.addTime 1))).trace ≠
      allTags ((RTPDump.construct "camera.flv" 90000 .zero).record
        [sampleArrival 1, soundArrival 0, soundArrival 8000]).trace := by
  intro h
  have hfirst : ∀ t, Clock.start.tick 8 t = some (Clock.at t 0, 0) :=
    fun t => Clock.tick_start (by decide) t
  have hstarted : ∀ t, ((RTPDump.construct "camera.flv" 90000 .zero).withFlv.audioClock.tick 8
      (soundArrival t).packet.time) = some (Clock.at t 0, 0) := by
    intro t
    rw [time_soundArrival]
    exact hfirst t
  -- in the second run the clock has its base, and the second packet is one second later
  have hsecond : (Clock.at 1 0).tick 8 8001 = some (Clock.at 8001 8000, 1000) := by
    have hgap : ¬ overOneSecond (BitVec.ofNat 32 8000) 8 = true := by
      rw [overOneSecond_iff (by decide) (by decide)]
      decide
    have hnext : nextElapsed 8 1 0 8000 = 8000 := by
      rw [nextElapsed, if_neg (by decide), if_neg hgap]
    have htick := @Clock.tick_at 8 (by decide) 1 0 8000
    rw [hnext] at htick
    exact htick.trans (congrArg some (Prod.ext rfl (by decide)))
  have hshifted : [sampleArrival 1, soundArrival 0, soundArrival 8000].map (Arrival.addTime 1) =
      [sampleArrival 2, soundArrival 1, soundArrival 8001] := by
    simp only [List.map_cons, List.map_nil, sampleArrival_addTime, soundArrival_addTime]
    rfl
  have htags := congrArg (tags .audio) h
  rw [tags_allTags, tags_allTags, hshifted, tags_sound, tags_sound] at htags
  have hfirstStep := fun t => audioStep_silent (hstarted t) (by decide)
  rw [run_cons_of_ok (hfirstStep 1).1, run_cons_of_ok (hfirstStep 0).1, run_singleton, run_singleton,
    tags_append, tags_append, (hfirstStep 1).2, (hfirstStep 0).2, List.nil_append,
    List.nil_append] at htags
  -- in the first run the base is not set, and the second packet sets it once more
  have hagain : (Clock.at 0 0).tick 8 (soundArrival 8000).packet.time =
      some (Clock.at 8000 0, 0) := by
    rw [time_soundArrival]
    exact hfirst 8000
  have hlate : (Clock.at 1 0).tick 8 (soundArrival 8001).packet.time =
      some (Clock.at 8001 8000, 1000) := by
    rw [time_soundArrival]
    exact hsecond
  have htagged := @audioStep_tagged { (RTPDump.construct "camera.flv" 90000 .zero).withFlv with
    audioClock := Clock.at 1 0 } (soundArrival 8001) _ _ hlate (by decide)
  have hsilent := @audioStep_silent { (RTPDump.construct "camera.flv" 90000 .zero).withFlv with
    audioClock := Clock.at 0 0 } (soundArrival 8000) _ _ hagain (by decide)
  exact htagged (htags.trans hsilent.2)

end RtpCapture
