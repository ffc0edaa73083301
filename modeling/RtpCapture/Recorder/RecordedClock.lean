import Mathlib.Tactic.IntervalCases
import RtpCapture.Recorder.Progress
import RtpCapture.Recorder.SteadyClock

/-! # The recorded clock

What the clock of a recorder makes of the timestamps of the packets it is given.

* **`KeepsTime`** — the tag timestamps a computation emits are those of its clock run on the
  timestamps its handler was entered with.
* **`record_keepsTime`** — every recording keeps time, for audio and for video.
* **`record_stamps_nonDecreasing_iff`** — for a steady source the tag timestamps of a recording never
  fall exactly when the counts of elapsed ticks stay in range.
* **`record_stamps_fall`** — a steady source whose tag timestamps fall. -/

namespace RtpCapture

open Traced

/-! ## Timestamps in a trace -/

/-- The RTP timestamp the handler of a tag type is entered with. -/
def Event.entered? : TagType → Event → Option Word
  | .audio, .audioHandler _ _ time => some time
  | .video, .videoHandler _ _ time _ => some time
  | _, _ => none

/-- The tag timestamp the handler of a tag type computes. -/
def Event.stamped? : TagType → Event → Option Word
  | .audio, .audioTimestamp timestamp => some timestamp
  | .video, .videoTimestamp timestamp => some timestamp
  | _, _ => none

/-- **The RTP timestamps a handler was entered with**, in order. -/
def entryTimes (type : TagType) (trace : List Event) : List Word :=
  trace.filterMap (Event.entered? type)

/-- **The tag timestamps a handler computed**, in order. -/
def tagStamps (type : TagType) (trace : List Event) : List Word :=
  trace.filterMap (Event.stamped? type)

/-- Events of no clock. -/
def Event.IsUntimed (type : TagType) (e : Event) : Prop :=
  e.entered? type = none ∧ e.stamped? type = none

/-- Without events of the clock no handler is entered. -/
theorem entryTimes_eq_nil {type : TagType} {trace : List Event}
    (h : ∀ e ∈ trace, e.IsUntimed type) : entryTimes type trace = [] :=
  List.filterMap_eq_nil_iff.mpr fun e he => (h e he).1

/-- Without events of the clock no timestamp is computed. -/
theorem tagStamps_eq_nil {type : TagType} {trace : List Event}
    (h : ∀ e ∈ trace, e.IsUntimed type) : tagStamps type trace = [] :=
  List.filterMap_eq_nil_iff.mpr fun e he => (h e he).2

/-- The entries of two parts of a trace. -/
@[simp] theorem entryTimes_append (type : TagType) (t t' : List Event) :
    entryTimes type (t ++ t') = entryTimes type t ++ entryTimes type t' :=
  List.filterMap_append ..

/-- The computed timestamps of two parts of a trace. -/
@[simp] theorem tagStamps_append (type : TagType) (t t' : List Event) :
    tagStamps type (t ++ t') = tagStamps type t ++ tagStamps type t' :=
  List.filterMap_append ..

/-- The opening of files has nothing to do with a clock. -/
theorem Event.IsOpening.isUntimed {e : Event} (h : e.IsOpening) (type : TagType) :
    e.IsUntimed type := by
  unfold IsOpening at h
  cases type <;> split at h <;> first | exact ⟨rfl, rfl⟩ | exact h.elim

/-- The phases of `videoHandler` do not touch a clock. -/
theorem Event.IsNalWork.isUntimed {e : Event} (h : e.IsNalWork) (type : TagType) :
    e.IsUntimed type := by
  unfold IsNalWork at h
  cases type <;> split at h <;> first | exact ⟨rfl, rfl⟩ | exact h.elim

/-- `videoHandler` does not touch the audio clock. -/
theorem Event.IsVideoWork.isUntimed {e : Event} (h : e.IsVideoWork) : e.IsUntimed .audio := by
  unfold IsVideoWork at h
  split at h <;> first | exact ⟨rfl, rfl⟩ | exact h.elim

/-- `audioHandler` does not touch the video clock. -/
theorem Event.IsAudio.isUntimed {e : Event} {flv : Bool} (h : e.IsAudio flv) :
    e.IsUntimed .video := by
  unfold IsAudio at h
  split at h <;> first | exact ⟨rfl, rfl⟩ | exact h.elim

/-! ## Computations that keep time -/

/-- The clock of a tag type. -/
def RTPDump.clock (d : RTPDump) : TagType → Clock
  | .audio => d.audioClock
  | .video => d.videoClock

/-- Its ticks per millisecond. -/
def RTPDump.ticks (d : RTPDump) : TagType → Word
  | .audio => 8
  | .video => d.videoFrequency

/-- Two recorders with the same clock. -/
def SameClock (type : TagType) (d d' : RTPDump) : Prop :=
  d'.clock type = d.clock type ∧ d'.ticks type = d.ticks type

/-- **A computation that keeps time**: its tag timestamps are those of the clock it starts with, and
it returns with the clock after them. -/
structure KeepsTime (type : TagType) (d : RTPDump) (x : Recording RTPDump) : Prop where
  stamps : tagStamps type x.trace =
    (d.clock type).stamps (d.ticks type) (entryTimes type x.trace)
  clock : ∀ d', x.outcome = .ok d' →
    (d.clock type).after (d.ticks type) (entryTimes type x.trace) = some (d'.clock type) ∧
      d'.ticks type = d.ticks type

section KeepsTime

variable {type : TagType} {d d' : RTPDump} {x : Recording RTPDump}

/-- Computations that leave the clock alone. -/
theorem KeepsTime.of_untimed (hevents : ∀ e ∈ x.trace, e.IsUntimed type)
    (hclock : ∀ d', x.outcome = .ok d' → SameClock type d d') : KeepsTime type d x := by
  have htimes := entryTimes_eq_nil hevents
  refine ⟨?_, fun d' hd' => ?_⟩
  · rw [tagStamps_eq_nil hevents, htimes]
    rfl
  · rw [htimes, (hclock d' hd').1]
    exact ⟨rfl, (hclock d' hd').2⟩

/-- Events of no clock in front. -/
theorem KeepsTime.of_append {pre : List Event} (h : KeepsTime type d' x)
    (hevents : ∀ e ∈ pre, e.IsUntimed type) (hclock : SameClock type d d') :
    KeepsTime type d ⟨pre ++ x.trace, x.outcome⟩ := by
  have hpre : entryTimes type (pre ++ x.trace) = entryTimes type x.trace := by
    rw [entryTimes_append, entryTimes_eq_nil hevents, List.nil_append]
  have hpre' : tagStamps type (pre ++ x.trace) = tagStamps type x.trace := by
    rw [tagStamps_append, tagStamps_eq_nil hevents, List.nil_append]
  constructor
  · rw [hpre, hpre', ← hclock.1, ← hclock.2]
    exact h.stamps
  · intro d'' hd''
    rw [hpre, ← hclock.1, ← hclock.2]
    exact h.clock d'' hd''

/-- One after the other. -/
theorem KeepsTime.bind {k : RTPDump → Recording RTPDump} (hx : KeepsTime type d x)
    (hk : ∀ d', KeepsTime type d' (k d')) : KeepsTime type d (x >>= k) := by
  cases hout : x.outcome with
  | error f =>
      rw [bind_of_error hout]
      exact ⟨hx.stamps, fun d' hd' => by cases hd'⟩
  | ok d₁ =>
      obtain ⟨hafter, hticks⟩ := hx.clock d₁ hout
      obtain ⟨hstamps, hclock⟩ := hk d₁
      rw [hticks] at hstamps hclock
      rw [bind_of_ok hout]
      constructor
      · rw [tagStamps_append, entryTimes_append, Clock.stamps_append hafter, hx.stamps, hstamps]
      · intro d' hd'
        rw [entryTimes_append, Clock.after_append hafter]
        exact hclock d' hd'

/-- **One entry of a handler**: its timestamp, then the rest of the handler, which leaves the clock
alone. -/
theorem KeepsTime.of_tick {entry stamp : Event} {time timestamp : Word} {clock : Clock}
    {t : List Event} {o : Except Fault RTPDump}
    (hentry : entry.entered? type = some time ∧ entry.stamped? type = none)
    (hstamp : stamp.entered? type = none ∧ stamp.stamped? type = some timestamp)
    (htick : (d.clock type).tick (d.ticks type) time = some (clock, timestamp))
    (hrest : ∀ e ∈ t, e.IsUntimed type)
    (hclock : ∀ d', o = .ok d' → d'.clock type = clock ∧ d'.ticks type = d.ticks type) :
    KeepsTime type d ⟨entry :: stamp :: t, o⟩ := by
  have htimes : entryTimes type (entry :: stamp :: t) = [time] := by
    rw [entryTimes, List.filterMap_cons_some hentry.1, List.filterMap_cons_none hstamp.1,
      ← entryTimes, entryTimes_eq_nil hrest]
  have hstamps : tagStamps type (entry :: stamp :: t) = [timestamp] := by
    rw [tagStamps, List.filterMap_cons_none hentry.2, List.filterMap_cons_some hstamp.2,
      ← tagStamps, tagStamps_eq_nil hrest]
  constructor
  · rw [hstamps, htimes, Clock.stamps, htick]
    rfl
  · intro d' hd'
    rw [htimes, Clock.after, htick, (hclock d' hd').1]
    exact ⟨rfl, (hclock d' hd').2⟩

/-- An entry that traps has no timestamp. -/
theorem KeepsTime.of_trap {entry : Event} {time : Word} {f : Fault}
    (hentry : entry.entered? type = some time ∧ entry.stamped? type = none)
    (htick : (d.clock type).tick (d.ticks type) time = none) :
    KeepsTime type d ⟨[entry], .error f⟩ := by
  have htimes : entryTimes type [entry] = [time] := by
    rw [entryTimes, List.filterMap_cons_some hentry.1, List.filterMap_nil]
  have hstamps : tagStamps type [entry] = [] := by
    rw [tagStamps, List.filterMap_cons_none hentry.2, List.filterMap_nil]
  refine ⟨?_, fun d' hd' => by cases hd'⟩
  rw [hstamps, htimes, Clock.stamps, htick]

end KeepsTime

/-! ## The handlers -/

/-- **`audioHandler` keeps time.** -/
theorem audioHandler_keepsTime (type : TagType) (r : FileResults) (d : RTPDump)
    (payload : List Byte) (time : Word) (format : AudioType) :
    KeepsTime type d (audioHandler r d payload time format) := by
  cases type with
  | video =>
      obtain ⟨hevents, hpost⟩ := audioHandler_ensures r d payload time format
      refine .of_untimed (fun e he => (hevents.forall_mem e he).isUntimed) fun d' hd' => ?_
      obtain ⟨clock, rfl⟩ := hpost d' hd'
      exact ⟨rfl, rfl⟩
  | audio =>
      unfold audioHandler
      cases htick : d.audioClock.tick 8 time with
      | none => exact .of_trap ⟨rfl, rfl⟩ htick
      | some result =>
          obtain ⟨clock, timestamp⟩ := result
          -- the tag comes after the timestamp and does not touch the clock
          have hwrite : Ensures (fun _ e => e.IsUntimed .audio) []
              (if 1 < timestamp.toNat then
                srsFlvWriteTag d.flv .audio timestamp (format.header :: payload) r.written >>=
                  fun _ => pure { d with audioClock := clock }
              else pure { d with audioClock := clock })
              fun _ d' => d' = { d with audioClock := clock } := by
            split
            · exact (srsFlvWriteTag_ensures ⟨rfl, rfl⟩ fun _ _ => ⟨rfl, rfl⟩).bind
                fun _ _ _ => ensures_pure rfl
            · exact ensures_pure rfl
          refine .of_tick ⟨rfl, rfl⟩ ⟨rfl, rfl⟩ htick hwrite.1.forall_mem fun d' hd' => ?_
          obtain rfl := hwrite.2 d' hd'
          exact ⟨rfl, rfl⟩

/-- **`videoHandler` keeps time.** -/
theorem videoHandler_keepsTime (type : TagType) (r : FileResults) (d : RTPDump) (buf : Memory)
    (len : ℕ) (time : Word) (marker : Bool) :
    KeepsTime type d (videoHandler r d buf len time marker) := by
  cases type with
  | audio =>
      obtain ⟨x, heq, hx⟩ := videoHandler_frame r d buf len time marker
      obtain ⟨hevents, hpost⟩ := hx []
      rw [heq, emit_bind]
      refine .of_untimed (fun e he => ?_) fun d' hd' => ⟨(hpost d' hd').audioClock, rfl⟩
      rcases List.mem_cons.mp he with rfl | he
      · exact ⟨rfl, rfl⟩
      · exact (hevents.forall_mem e he).isUntimed
  | video =>
      unfold videoHandler
      cases htick : d.videoClock.tick d.videoFrequency time with
      | none => exact .of_trap ⟨rfl, rfl⟩ htick
      | some result =>
          obtain ⟨clock, timestamp⟩ := result
          have hphase : Ensures (fun _ e => e.IsNalWork) []
              (nalPhase r { d with videoClock := clock } buf len timestamp marker >>=
                fun d' => pure { d' with isVideoBegin := 1 })
              fun _ d' => d'.videoClock = clock ∧ d'.videoFrequency = d.videoFrequency :=
            (nalPhase_frame ..).bind fun _ _ h => ensures_pure ⟨h.videoClock, h.videoFrequency⟩
          exact .of_tick ⟨rfl, rfl⟩ ⟨rfl, rfl⟩ htick
            (fun e he => (hphase.1.forall_mem e he).isUntimed .video) hphase.2

/-- An entry, then events that are no entries of this handler. -/
theorem entryTimes_emit_bind {α : Type} {type : TagType} {entry : Event} {time : Word}
    {x : Recording α} (hentry : entry.entered? type = some time)
    (hx : Ensures (fun _ e => e.entered? type = none) [] x fun _ _ => True) :
    entryTimes type (emit entry >>= fun _ => x).trace = [time] := by
  rw [emit_bind, entryTimes, List.filterMap_cons_some hentry]
  exact congrArg (List.cons time) (List.filterMap_eq_nil_iff.mpr hx.1.forall_mem)

/-- `audioHandler` is entered once, with the timestamp of its packet. -/
theorem entryTimes_audioHandler (r : FileResults) (d : RTPDump) (payload : List Byte) (time : Word)
    (format : AudioType) :
    entryTimes .audio (audioHandler r d payload time format).trace = [time] := by
  unfold audioHandler
  refine entryTimes_emit_bind rfl ?_
  cases d.audioClock.tick 8 time with
  | none => exact ensures_fault _
  | some result =>
      obtain ⟨clock, timestamp⟩ := result
      refine ensures_emit_bind rfl ?_
      dsimp only
      split
      · have hwrite : Ensures (fun _ e => e.entered? .audio = none) [.audioTimestamp timestamp]
            (srsFlvWriteTag d.flv .audio timestamp (format.header :: payload) r.written)
            fun _ _ => True := by
          refine Ensures.imp (srsFlvWriteTag_ensures ?_ fun _ _ => ?_) fun _ _ _ => trivial
          · rfl
          · rfl
        exact hwrite.bind fun _ _ _ => ensures_pure trivial
      · exact ensures_pure trivial

/-- Behind its entry `videoHandler` enters no handler. -/
theorem Event.IsVideoWork.entered? {e : Event} (h : e.IsVideoWork) (type : TagType) :
    e.entered? type = none := by
  unfold IsVideoWork at h
  cases type <;> split at h <;> first | rfl | exact h.elim

/-- `videoHandler` is entered once, with the timestamp of its packet. -/
theorem entryTimes_videoHandler (r : FileResults) (d : RTPDump) (buf : Memory) (len : ℕ)
    (time : Word) (marker : Bool) :
    entryTimes .video (videoHandler r d buf len time marker).trace = [time] := by
  obtain ⟨x, heq, hx⟩ := videoHandler_frame r d buf len time marker
  obtain ⟨hevents, -⟩ := hx []
  rw [heq]
  exact entryTimes_emit_bind rfl ⟨hevents.imp fun _ _ he => he.entered? .video, fun _ _ => trivial⟩

/-- The H.264 part keeps time. -/
theorem nalHandler_keepsTime (type : TagType) (r : FileResults) (d : RTPDump) (p : Packet) :
    KeepsTime type d (nalHandler r d p) := by
  by_cases hfua : nalType (p.h264Buf 0) = 28
  swap
  · rw [nalHandler, if_neg hfua]
    exact videoHandler_keepsTime ..
  have hclock : SameClock type d (d.gathered p) := by
    obtain ⟨nalData, nalLength, hgathered⟩ := d.gathered_eq p
    rw [hgathered]
    cases type <;> exact ⟨rfl, rfl⟩
  have hcopy : ∀ e ∈ [d.fragmentCopy p], e.IsUntimed type := by
    intro e he
    obtain rfl := List.mem_singleton.mp he
    cases type <;> exact ⟨rfl, rfl⟩
  rw [nalHandler_of_fragment hfua, emit_bind]
  split
  · exact .of_untimed hcopy fun d' hd' => by cases hd'
  split
  · exact (videoHandler_keepsTime ..).of_append hcopy hclock
  · refine .of_untimed hcopy fun d' hd' => ?_
    obtain rfl := Except.ok.inj hd'
    exact hclock

/-! ## Recordings -/

/-- One packet keeps time. -/
theorem step_keepsTime (type : TagType) (d : RTPDump) (a : Arrival) :
    KeepsTime type d (d.step a) := by
  rcases step_cases d a with ⟨-, -, hstep⟩ | ⟨pre, d', hprelude, -, hstep⟩
  · rw [hstep]
    exact audioHandler_keepsTime ..
  · have hevents : ∀ e ∈ pre, e.IsUntimed type := fun e he => (hprelude.events e he).isUntimed type
    have hclock : SameClock type d d' := by
      obtain ⟨psOutfile, rfl⟩ := hprelude.state
      cases type <;> exact ⟨rfl, rfl⟩
    rw [hstep]
    split
    · exact (nalHandler_keepsTime ..).of_append hevents hclock
    · refine .of_untimed hevents fun d'' hd'' => ?_
      obtain rfl := Except.ok.inj hd''
      exact hclock

/-- **Every recording keeps time.** -/
theorem record_keepsTime (type : TagType) (d : RTPDump) (as : List Arrival) :
    KeepsTime type d (d.record as) := by
  induction as generalizing d with
  | nil =>
      refine .of_untimed (List.forall_mem_nil _) fun d' hd' => ?_
      obtain rfl := Except.ok.inj hd'
      exact ⟨rfl, rfl⟩
  | cons a as ih =>
      rw [RTPDump.record, run_cons]
      exact (step_keepsTime type d a).bind ih

/-- No clock of a fresh recorder has started. -/
theorem construct_clock (fileName : String) (videoFrequency : Word) (u : Uninitialised)
    (type : TagType) : (RTPDump.construct fileName videoFrequency u).clock type = .start := by
  cases type <;> rfl

/-- The ticks per millisecond of a recorder are positive and bounded. -/
theorem construct_ticks (fileName : String) {videoFrequency : Word} (u : Uninitialised)
    (hfrequency : 1000 ≤ videoFrequency.toInt) (type : TagType) :
    0 < ((RTPDump.construct fileName videoFrequency u).ticks type).toInt ∧
      ((RTPDump.construct fileName videoFrequency u).ticks type).toInt ≤ 2147483 := by
  cases type with
  | audio =>
      have height : (8 : Word).toInt = 8 := by decide
      show 0 < (8 : Word).toInt ∧ (8 : Word).toInt ≤ 2147483
      omega
  | video =>
      refine ⟨sdiv_thousand_pos hfrequency, ?_⟩
      show (videoFrequency.sdiv 1000).toInt ≤ 2147483
      have hthousand : (1000 : Word).toInt = 1000 := by decide
      have hlt := BitVec.toInt_lt (x := videoFrequency)
      rw [toInt_sdiv_of_pos (by omega) (by decide), hthousand]
      omega

/-- **The recorded clock of a steady source.** In every recording from a fresh recorder: if the
timestamps a handler is entered with are those of a steady source, then the tag timestamps it
computes never fall exactly when the counts of elapsed ticks stay in range. -/
theorem record_stamps_nonDecreasing_iff (fileName : String) (videoFrequency : Word)
    (u : Uninitialised) (hfrequency : 1000 ≤ videoFrequency.toInt) (as : List Arrival)
    (type : TagType)
    (hsteady : Steady ((RTPDump.construct fileName videoFrequency u).ticks type)
      (entryTimes type ((RTPDump.construct fileName videoFrequency u).record as).trace)) :
    NonDecreasing
        (tagStamps type ((RTPDump.construct fileName videoFrequency u).record as).trace) ↔
      CountsInRange ((RTPDump.construct fileName videoFrequency u).ticks type)
        (entryTimes type ((RTPDump.construct fileName videoFrequency u).record as).trace) := by
  obtain ⟨hpos, hmax⟩ := construct_ticks fileName u hfrequency type
  rw [(record_keepsTime type (RTPDump.construct fileName videoFrequency u) as).stamps,
    construct_clock]
  exact stamps_nonDecreasing_iff hpos hmax hsteady

/-! ## A clock that falls -/

/-- The bits of a timestamp that was split into bytes. -/
theorem getLsbD_bytes (t : Word) (i : ℕ) :
    BitVec.getLsbD (w := 32) (t.extractLsb' 0 8 ++ t.extractLsb' 8 8 ++ t.extractLsb' 16 8 ++
        t.extractLsb' 24 8) i =
      if i < 8 then t.getLsbD (24 + i) else if i < 16 then t.getLsbD (8 + i)
      else if i < 24 then t.getLsbD (i - 8) else decide (i < 32) && t.getLsbD (i - 24) := by
  refine BitVec.getLsbD_append.trans ?_
  simp only [BitVec.getLsbD_append, BitVec.getLsbD_extractLsb']
  by_cases hi : i < 32
  · interval_cases i <;> rfl
  · repeat rw [if_neg (by omega)]
    rw [decide_eq_false hi, decide_eq_false (by omega), Bool.false_and, Bool.false_and]

/-- `poco_ntoh_32` puts the bytes of a timestamp back into order. -/
theorem pocoNtoh32_bytes (t : Word) :
    pocoNtoh32 (t.extractLsb' 0 8 ++ t.extractLsb' 8 8 ++ t.extractLsb' 16 8 ++
      t.extractLsb' 24 8) = t := by
  unfold pocoNtoh32
  apply BitVec.eq_of_getLsbD_eq
  intro i hi
  simp only [BitVec.getLsbD_or, BitVec.getLsbD_and, BitVec.getLsbD_ushiftRight,
    BitVec.getLsbD_shiftLeft, getLsbD_bytes]
  interval_cases i <;> simp

/-- A packet of type 98 with the timestamp `t` and a NAL unit of type 6. -/
def samplePacket (t : Word) : Packet :=
  .ofBytes [0x80, 0x62, 0, 1, t.extractLsb' 24 8, t.extractLsb' 16 8, t.extractLsb' 8 8,
    t.extractLsb' 0 8, 0, 0, 0, 0, 0x06, 0] 14

/-- Its arrival, with a file system that never fails. -/
def sampleArrival (t : Word) : Arrival := ⟨samplePacket t, .allGood⟩

/-- It has the timestamp `t`. -/
theorem time_samplePacket (t : Word) : (samplePacket t).time = t := pocoNtoh32_bytes t

/-- Its NAL unit is neither a parameter set nor a slice. -/
theorem nalType_samplePacket (t : Word) : nalType ((samplePacket t).h264Buf 0) = 6 := by
  show nalType 0x06 = 6
  decide

/-- It carries a NAL unit of its own. -/
theorem sampleArrival_isWhole (t : Word) : IsWhole (sampleArrival t) where
  isRtp := by
    have hversion : BitVec.extractLsb' 6 2 ((0x62 : Byte) ++ (0x80 : Byte)) = 2 := by decide
    exact Packet.isRtp_iff.mpr ⟨by show ¬ (14 : ℤ) < 12; decide, hversion⟩
  pt := by
    show BitVec.extractLsb' 8 7 ((0x62 : Byte) ++ (0x80 : Byte)) = 98
    decide
  opened := rfl
  isFuA := by
    show (samplePacket t).isFuA = false
    rw [Packet.isFuA, nalType_samplePacket]
    decide

/-- Neither parameter set nor slice: the assembly stays empty. -/
theorem feed_samplePacket (t : Word) :
    Assembly.empty.feed (samplePacket t).wholeCall = .empty := by
  have hsets : Assembly.empty.sets ≠ 2 := by decide
  have htype : (samplePacket t).wholeCall.type = 6 := nalType_samplePacket t
  rw [Assembly.feed, if_pos hsets, Assembly.storeSps, if_neg (by rw [htype]; decide),
    Assembly.storePps, if_neg (by rw [htype]; decide)]

/-- Such packets leave the assembly empty. -/
theorem assemble_samplePackets (times : List Word) :
    assemble (times.map fun t => (samplePacket t).wholeCall) = .empty := by
  induction times using List.reverseRecOn with
  | nil => rfl
  | append_singleton times t ih =>
      rw [List.map_append, List.map_singleton, assemble_concat, ih, feed_samplePacket]

/-- A recording of such packets goes through, with any rate of at least 1000 Hz. -/
theorem samplePackets_returns_at {videoFrequency : Word} (hrate : 1000 ≤ videoFrequency.toInt)
    (times : List Word) : ∃ d, ((RTPDump.construct "camera.flv" videoFrequency .zero).record
      (times.map sampleArrival)).outcome = .ok d := by
  refine record_returns "camera.flv" videoFrequency .zero (sdiv_thousand_pos hrate)
    fun past a rest has => ?_
  obtain ⟨times₁, times₂, -, rfl, hrest⟩ := List.map_eq_append_iff.mp has
  obtain ⟨t, times₃, -, rfl, -⟩ := List.map_eq_cons_iff.mp hrest
  have hwhole : ∀ b ∈ times₁.map sampleArrival, IsWhole b := by
    intro b hb
    obtain ⟨t', -, rfl⟩ := List.mem_map.mp hb
    exact sampleArrival_isWhole t'
  have hempty : ((Depacketizer.start (Uninitialised.zero.nalData 0)).handed
      (times₁.map sampleArrival)).foldl Assembly.feed .empty = .empty := by
    rw [IsWhole.handed hwhole, List.map_map]
    exact assemble_samplePackets times₁
  have htype : (samplePacket t).wholeCall.type = 6 := nalType_samplePacket t
  have hfeed : ¬ (Assembly.empty.feed (samplePacket t).wholeCall).sets = 2 := by
    rw [feed_samplePacket]
    decide
  rw [hempty]
  refine (sampleArrival_isWhole t).fits _ ⟨fun _ h => ?_, fun _ h => (hfeed h).elim,
    fun h => absurd h (by decide)⟩
  exact absurd (htype.symm.trans h) (by decide)

/-- A recording of such packets returns. -/
theorem samplePackets_returns (times : List Word) :
    ∃ d, ((RTPDump.construct "camera.flv" 90000 .zero).record (times.map sampleArrival)).outcome =
      .ok d :=
  samplePackets_returns_at (by decide) times

/-- The entries of `videoHandler` are its calls. -/
theorem entryTimes_eq_calls (trace : List Event) :
    entryTimes .video trace = (calls trace).map Call.time := by
  rw [entryTimes, calls, List.map_filterMap]
  congr 1
  funext e
  cases e <;> rfl

/-- `videoHandler` is entered with the timestamps of the packets. -/
theorem entryTimes_samplePackets_at {videoFrequency : Word}
    (hrate : 1000 ≤ videoFrequency.toInt) (times : List Word) :
    entryTimes .video ((RTPDump.construct "camera.flv" videoFrequency .zero).record
      (times.map sampleArrival)).trace = times := by
  have hwhole : ∀ b ∈ times.map sampleArrival, IsWhole b := by
    intro b hb
    obtain ⟨t, -, rfl⟩ := List.mem_map.mp hb
    exact sampleArrival_isWhole t
  obtain ⟨d, hd⟩ := samplePackets_returns_at hrate times
  have hhanded := ((record_calls (RTPDump.matches_construct "camera.flv" videoFrequency .zero)
    (times.map sampleArrival)).2 d hd).1
  rw [entryTimes_eq_calls, hhanded, IsWhole.handed hwhole, List.map_map, List.map_map]
  exact (List.map_congr_left fun t _ => time_samplePacket t).trans (List.map_id' times)

/-- `videoHandler` is entered with their timestamps. -/
theorem entryTimes_samplePackets (times : List Word) :
    entryTimes .video ((RTPDump.construct "camera.flv" 90000 .zero).record
      (times.map sampleArrival)).trace = times :=
  entryTimes_samplePackets_at (by decide) times

/-- At 90 kHz a millisecond has 90 ticks. -/
theorem ticks_ninety : (RTPDump.construct "camera.flv" 90000 .zero).ticks .video = 90 := by
  show BitVec.sdiv 90000 1000 = 90
  decide

/-- One packet each second at 90 kHz, behind a packet with count `elapsed` and the timestamp
`1 + elapsed`. -/
def everySecond : ℕ → ℕ → List Word
  | _, 0 => []
  | elapsed, k + 1 =>
      BitVec.ofNat 32 (1 + (elapsed + 90000)) :: everySecond (elapsed + 90000) k

/-- One second is `90000` ticks ahead. -/
theorem oneSecond (elapsed : ℕ) :
    (BitVec.ofNat 32 (1 + (elapsed + 90000)) - BitVec.ofNat 32 (1 + elapsed)).toNat = 90000 := by
  rw [BitVec.toNat_sub, BitVec.toNat_ofNat, BitVec.toNat_ofNat]
  omega

/-- A packet every second comes from a steady source. -/
theorem steady_everySecond (elapsed k : ℕ) :
    Steady 90 (BitVec.ofNat 32 (1 + elapsed) :: everySecond elapsed k) := by
  induction k generalizing elapsed with
  | zero => exact List.isChain_singleton _
  | succ k ih =>
      rw [everySecond]
      refine List.isChain_cons_cons.mpr ⟨?_, ih (elapsed + 90000)⟩
      rw [oneSecond]
      decide

/-- The count of elapsed ticks grows by `90000` each second. -/
theorem nextElapsed_oneSecond (elapsed : ℕ) :
    nextElapsed 90 (BitVec.ofNat 32 (1 + elapsed)) elapsed 90000 = elapsed + 90000 := by
  have hunset : ¬ BitVec.ofNat 32 (1 + elapsed) = BitVec.ofNat 32 elapsed := by
    intro h
    have htoNat := congrArg BitVec.toNat h
    rw [BitVec.toNat_ofNat, BitVec.toNat_ofNat] at htoNat
    omega
  have hgap : ¬ overOneSecond (BitVec.ofNat 32 90000) 90 = true := by
    rw [overOneSecond_iff (by decide) (by decide)]
    decide
  rw [nextElapsed, if_neg hunset, if_neg hgap]

/-- After so many seconds so many ticks have elapsed. -/
theorem mem_elapsedFrom_everySecond (elapsed k : ℕ) :
    elapsed + 90000 * (k + 1) ∈
      elapsedFrom 90 (BitVec.ofNat 32 (1 + elapsed)) elapsed (everySecond elapsed (k + 1)) := by
  induction k generalizing elapsed with
  | zero =>
      rw [everySecond, elapsedFrom, oneSecond, nextElapsed_oneSecond]
      exact List.mem_cons_self
  | succ k ih =>
      have hlater := ih (elapsed + 90000)
      rw [everySecond, elapsedFrom, oneSecond, nextElapsed_oneSecond]
      refine List.mem_cons_of_mem _ ?_
      rw [show elapsed + 90000 * (k + 1 + 1) = elapsed + 90000 + 90000 * (k + 1) by ring]
      exact hlater

/-- Two packets, one second apart. -/
theorem record_stamps_nonDecreasing_iff_two_packets :
    NonDecreasing (tagStamps .video ((RTPDump.construct "camera.flv" 90000 .zero).record
        ([1, 90001].map sampleArrival)).trace) ↔
      CountsInRange ((RTPDump.construct "camera.flv" 90000 .zero).ticks .video)
        (entryTimes .video ((RTPDump.construct "camera.flv" 90000 .zero).record
          ([1, 90001].map sampleArrival)).trace) :=
  record_stamps_nonDecreasing_iff "camera.flv" 90000 .zero (by decide) _ .video (by
    rw [entryTimes_samplePackets]
    exact List.isChain_pair.mpr (by decide))

/-- A packet each second for 13 hours, 15 minutes and 22 seconds at 90 kHz. -/
def sampleTimes : List Word := 1 :: everySecond 0 47722

/-- **The recorded clock of a steady source falls**: the tag timestamps of this recording are those
of a source that advances by 1000 milliseconds from packet to packet, and they fall. -/
theorem record_stamps_fall :
    Steady 90 (entryTimes .video ((RTPDump.construct "camera.flv" 90000 .zero).record
        (sampleTimes.map sampleArrival)).trace) ∧
      ¬ NonDecreasing (tagStamps .video ((RTPDump.construct "camera.flv" 90000 .zero).record
        (sampleTimes.map sampleArrival)).trace) := by
  have hsteady : Steady 90 sampleTimes := steady_everySecond 0 47722
  have hstamps := (record_keepsTime .video (RTPDump.construct "camera.flv" 90000 .zero)
    (sampleTimes.map sampleArrival)).stamps
  rw [entryTimes_samplePackets, ticks_ninety] at hstamps
  rw [entryTimes_samplePackets, hstamps]
  refine ⟨hsteady, fun h => ?_⟩
  obtain ⟨hrange, -⟩ := (stamps_nonDecreasing_iff (by decide) (by decide) hsteady).mp h
  have hcount := hrange _ (List.mem_cons_of_mem _ (mem_elapsedFrom_everySecond 0 47721))
  exact absurd hcount (by decide)

end RtpCapture
