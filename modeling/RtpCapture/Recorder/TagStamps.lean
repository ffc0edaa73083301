import RtpCapture.Recorder.RecordedClock

/-! # The timestamps of the tags

The handlers compute a timestamp for every packet they are entered with; a tag bears the timestamp
that was computed for the packet it is written for.

* **`Stamped`** — a handler was entered once before the tag, and the tag bears what it computed.
* **`record_stamped`** — so does every tag of every recording, for one of the packets.
* **`record_tagStamp_quotient`** — the timestamp of a tag is a quotient of 32 bits by the ticks per
  millisecond. -/

namespace RtpCapture

open Traced

/-- The timestamp of a tag of a type: of the call that writes it, and of the tag in the file. -/
def Event.tagged? : TagType → Event → Option Word
  | .audio, .flvWriteTag _ .audio timestamp _ => some timestamp
  | .audio, .output (.flvTag .audio timestamp _) => some timestamp
  | .video, .flvWriteTag _ .video timestamp _ => some timestamp
  | .video, .flvWriteSpsPpsTag _ timestamp _ _ => some timestamp
  | .video, .output (.flvTag .video timestamp _) => some timestamp
  | _, _ => none

/-- **The tag of the packet**: among the events `past` of its step the handler was entered once, with
`time`, and the tag bears the timestamp that it computed. -/
def Stamped (type : TagType) (time : Word) (past : List Event) (e : Event) : Prop :=
  ∀ timestamp, e.tagged? type = some timestamp →
    entryTimes type past = [time] ∧ tagStamps type past = [timestamp]

/-- The event is no tag, or one with this timestamp. -/
def Event.Bears (timestamp : Word) : Event → Prop
  | .flvWriteTag _ _ timestamp' _ => timestamp' = timestamp
  | .flvWriteSpsPpsTag _ timestamp' _ _ => timestamp' = timestamp
  | .output (.flvTag _ timestamp' _) => timestamp' = timestamp
  | _ => True

/-- A tag that bears a timestamp has no other. -/
theorem Event.Bears.eq {type : TagType} {timestamp timestamp' : Word} {e : Event}
    (h : e.Bears timestamp) (htag : e.tagged? type = some timestamp') : timestamp' = timestamp := by
  unfold tagged? at htag
  split at htag
  all_goals first | exact (Option.some.inj htag).symm.trans h | cases htag

/-- The opening of files writes no tag. -/
theorem Event.IsOpening.tagged? {e : Event} (h : e.IsOpening) (type : TagType) :
    e.tagged? type = none := by
  unfold IsOpening at h
  cases type <;> split at h <;> first | rfl | exact h.elim

/-- `videoHandler` writes no audio tag. -/
theorem Event.IsVideoWork.tagged? {e : Event} (h : e.IsVideoWork) : e.tagged? .audio = none := by
  unfold IsVideoWork at h
  split at h <;> first | rfl | exact h.elim

/-- `audioHandler` writes no video tag. -/
theorem Event.IsAudio.tagged? {e : Event} {flv : Bool} (h : e.IsAudio flv) :
    e.tagged? .video = none := by
  unfold IsAudio at h
  split at h <;> first | rfl | exact h.elim

/-! ## The handlers -/

section Bears

variable {history : List Event} (r : FileResults) (d : RTPDump) (buf : Memory) (len : ℕ)
  (timestamp : Word)

/-- The parameter sets. -/
theorem parameterSetPhase_bears :
    Ensures (fun _ e => e.Bears timestamp) history (parameterSetPhase r d buf len timestamp)
      (fun _ _ => True) := by
  have hsps : Ensures (fun _ e => e.Bears timestamp) history (storeSps d buf len)
      fun _ _ => True := by
    unfold storeSps
    split
    · refine ensures_emit_bind trivial ?_
      split
      · exact ensures_fault _
      · exact ensures_pure trivial
    · exact ensures_pure trivial
  refine hsps.bind fun grown d₁ _ => ?_
  have hpps : Ensures (fun _ e => e.Bears timestamp) grown (storePps d₁ buf len)
      fun _ _ => True := by
    unfold storePps
    split
    · exact ensures_emit_bind trivial (ensures_pure trivial)
    · exact ensures_pure trivial
  refine hpps.bind fun _ d₂ _ => ?_
  unfold writeSequenceHeader
  split
  · exact (srsFlvWriteSpsPpsTag_ensures rfl fun _ _ => rfl).bind
      fun _ _ _ => ensures_pure trivial
  · exact ensures_pure trivial

/-- The slices. -/
theorem slicePhase_bears (marker : Bool) :
    Ensures (fun _ e => e.Bears timestamp) history (slicePhase r d buf len timestamp marker)
      (fun _ _ => True) := by
  unfold slicePhase
  split
  swap
  · exact ensures_pure trivial
  refine ensures_emit_bind trivial ?_
  split
  · exact ensures_fault _
  split
  · unfold flushSlices
    exact (srsFlvWriteTag_ensures rfl fun _ _ => by rfl).bind
      fun _ _ _ => ensures_pure trivial
  · exact ensures_pure trivial

/-- The phases of `videoHandler` write the timestamp they are given. -/
theorem nalPhase_bears (marker : Bool) :
    Ensures (fun _ e => e.Bears timestamp) history (nalPhase r d buf len timestamp marker)
      (fun _ _ => True) := by
  unfold nalPhase
  split
  · exact parameterSetPhase_bears ..
  · exact slicePhase_bears ..

end Bears

section Stamped

variable {type : TagType} {history : List Event} {time : Word}

/-- An event that is no tag. -/
theorem stamped_of_not_tagged {e : Event} (h : e.tagged? type = none) :
    Stamped type time history e := by
  intro timestamp htag
  rw [h] at htag
  cases htag

/-- The tags behind the computed timestamp, while no handler is entered. -/
theorem stamped_of_bears {timestamp : Word} {t : List Event}
    (htimes : entryTimes type history = [time]) (hstamps : tagStamps type history = [timestamp])
    (ht : ∀ e ∈ t, e.IsUntimed type ∧ e.Bears timestamp) :
    Always (fun past => Stamped type time (history ++ past)) t := by
  rintro past e rest rfl timestamp' htag
  obtain rfl := (ht e (by simp)).2.eq htag
  have hpast : ∀ e' ∈ past, e'.IsUntimed type := fun e' he' => (ht e' (by simp [he'])).1
  refine ⟨?_, ?_⟩
  · rw [entryTimes_append, htimes, entryTimes_eq_nil hpast, List.append_nil]
  · rw [tagStamps_append, hstamps, tagStamps_eq_nil hpast, List.append_nil]

/-- `videoHandler` writes tags with the timestamp it computed. -/
theorem videoHandler_stamped (hhistory : ∀ e ∈ history, e.IsUntimed type) (r : FileResults)
    (d : RTPDump) (buf : Memory) (len : ℕ) (marker : Bool) :
    Ensures (Stamped type time) history (videoHandler r d buf len time marker)
      (fun _ _ => True) := by
  cases type with
  | audio =>
      obtain ⟨x, heq, hx⟩ := videoHandler_frame r d buf len time marker
      rw [heq]
      refine ensures_emit_bind (stamped_of_not_tagged rfl) ⟨?_, fun _ _ => trivial⟩
      have hwork : ∀ e ∈ x.trace, e.IsVideoWork := (hx []).1.forall_mem
      exact always_of_forall fun past e he => stamped_of_not_tagged (hwork e he).tagged?
  | video =>
      unfold videoHandler
      refine ensures_emit_bind (stamped_of_not_tagged rfl) ?_
      cases d.videoClock.tick d.videoFrequency time with
      | none => exact ensures_fault _
      | some result =>
          obtain ⟨clock, timestamp⟩ := result
          refine ensures_emit_bind (stamped_of_not_tagged rfl) ?_
          have hwork := (@nalPhase_frame [] r { d with videoClock := clock } buf len timestamp
            marker).1.forall_mem
          have hbears := (@nalPhase_bears [] r { d with videoClock := clock } buf len timestamp
            marker).1.forall_mem
          refine Ensures.bind (Q := fun _ _ => True) ⟨stamped_of_bears ?_ ?_ fun e he =>
            ⟨(hwork e he).isUntimed .video, hbears e he⟩, fun _ _ => trivial⟩
            fun _ _ _ => ensures_pure trivial
          · rw [entryTimes_append, entryTimes_append, entryTimes_eq_nil hhistory]
            rfl
          · rw [tagStamps_append, tagStamps_append, tagStamps_eq_nil hhistory]
            rfl

/-- `audioHandler` does. -/
theorem audioHandler_stamped (r : FileResults) (d : RTPDump) (payload : List Byte)
    (format : AudioType) :
    Ensures (Stamped type time) [] (audioHandler r d payload time format) (fun _ _ => True) := by
  cases type with
  | video =>
      have haudio := (audioHandler_ensures r d payload time format).1.forall_mem
      exact ⟨always_of_forall fun past e he => stamped_of_not_tagged (haudio e he).tagged?,
        fun _ _ => trivial⟩
  | audio =>
      unfold audioHandler
      refine ensures_emit_bind (stamped_of_not_tagged rfl) ?_
      cases d.audioClock.tick 8 time with
      | none => exact ensures_fault _
      | some result =>
          obtain ⟨clock, timestamp⟩ := result
          refine ensures_emit_bind (stamped_of_not_tagged rfl) ?_
          dsimp only
          split
          · have htag : Ensures (fun _ e => e.IsUntimed .audio ∧ e.Bears timestamp) []
                (srsFlvWriteTag d.flv .audio timestamp (format.header :: payload) r.written)
                fun _ _ => True :=
              Ensures.imp (srsFlvWriteTag_ensures ⟨⟨rfl, rfl⟩, rfl⟩ fun _ _ => ⟨⟨rfl, rfl⟩, by rfl⟩)
                fun _ _ _ => trivial
            exact Ensures.bind (Q := fun _ _ => True) ⟨stamped_of_bears rfl rfl
              htag.1.forall_mem, fun _ _ => trivial⟩ fun _ _ _ => ensures_pure trivial
          · exact ensures_pure trivial

/-- The H.264 part does. -/
theorem nalHandler_stamped (hhistory : ∀ e ∈ history, e.IsUntimed type) (r : FileResults)
    (d : RTPDump) (p : Packet) :
    Ensures (Stamped type p.time) history (nalHandler r d p) (fun _ _ => True) := by
  refine nalHandler_ensures (fun _ => videoHandler_stamped hhistory ..)
    (fun _ => stamped_of_not_tagged ?_) (fun _ _ => videoHandler_stamped (fun e he => ?_) ..)
    fun _ _ => trivial
  · cases type <;> rfl
  · rcases List.mem_append.mp he with he | he
    · exact hhistory e he
    · obtain rfl := List.mem_singleton.mp he
      cases type <;> exact ⟨rfl, rfl⟩

/-- **One packet.** -/
theorem step_stamped (d : RTPDump) (a : Arrival) :
    Always (Stamped type a.packet.time) (d.step a).trace := by
  rcases step_cases d a with ⟨-, -, hstep⟩ | ⟨pre, d', hprelude, -, hstep⟩
  · rw [hstep]
    exact (audioHandler_stamped ..).1
  -- the opening of files writes no tag, and no handler is entered in it
  have hopening : Always (Stamped type a.packet.time) pre :=
    always_of_forall fun past e he => stamped_of_not_tagged ((hprelude.events e he).tagged? type)
  rw [hstep]
  split
  · exact always_append.mpr ⟨hopening, (nalHandler_stamped
      (fun e he => (hprelude.events e he).isUntimed type) ..).1⟩
  · exact hopening

end Stamped

/-! ## Recordings -/

/-- The first timestamp is the one of the first tick. -/
theorem Clock.tick_of_stamps {frequency time timestamp : Word} {times stamps : List Word} {c : Clock}
    (h : timestamp :: stamps = c.stamps frequency (time :: times)) :
    ∃ clock, c.tick frequency time = some (clock, timestamp) := by
  rw [Clock.stamps] at h
  cases htick : c.tick frequency time with
  | none =>
      rw [htick] at h
      cases h
  | some result =>
      rw [htick] at h
      obtain ⟨rfl, -⟩ := List.cons.inj h
      exact ⟨result.1, rfl⟩

/-- **The packet of a tag** that comes after `history`: the tag is written in the step of a packet `a`
with whose RTP timestamp its handler was entered, and `timestamp` is what the handler computed from
it. -/
def IsStampOf (type : TagType) (d₀ : RTPDump) (as : List Arrival) (history : List Event)
    (timestamp : Word) : Prop :=
  ∃ as₁ a d past clock, as₁ ++ [a] <+: as ∧ (d₀.record as₁).outcome = .ok d ∧
    history = (d₀.record as₁).trace ++ past ∧ entryTimes type past = [a.packet.time] ∧
    tagStamps type past = [timestamp] ∧
    (d.clock type).tick (d.ticks type) a.packet.time = some (clock, timestamp)

/-- More packets do not change it. -/
theorem IsStampOf.mono {type : TagType} {d₀ : RTPDump} {as as' : List Arrival}
    {history : List Event} {timestamp : Word} (h : IsStampOf type d₀ as history timestamp)
    (hpre : as <+: as') : IsStampOf type d₀ as' history timestamp := by
  obtain ⟨as₁, a, d, past, clock, hfirst, hrest⟩ := h
  exact ⟨as₁, a, d, past, clock, hfirst.trans hpre, hrest⟩

/-- **Every tag of every recording bears the timestamp of its packet.** -/
theorem record_stamped (type : TagType) (d₀ : RTPDump) (as : List Arrival) :
    Always (fun history e => ∀ timestamp, e.tagged? type = some timestamp →
      IsStampOf type d₀ as history timestamp) (d₀.record as).trace := by
  induction as using List.reverseRecOn with
  | nil => exact always_nil
  | append_singleton as a ih =>
      have hbefore := ih.imp fun _ _ h timestamp htag =>
        (h timestamp htag).mono (List.prefix_append as [a])
      cases hrun : (d₀.record as).outcome with
      | error f =>
          have hsame : d₀.record (as ++ [a]) = d₀.record as := run_append_of_error hrun _
          rw [hsame]
          exact hbefore
      | ok d =>
          rw [record_concat hrun]
          refine always_append.mpr ⟨hbefore, ?_⟩
          -- a tag of the last step
          rintro past e rest htrace timestamp htag
          obtain ⟨htimes, hstamps⟩ := step_stamped d a past e rest htrace timestamp htag
          have hclock := (step_keepsTime type d a).stamps
          rw [htrace, entryTimes_append, tagStamps_append, htimes, hstamps] at hclock
          obtain ⟨clock, htick⟩ := Clock.tick_of_stamps hclock
          exact ⟨as, a, d, past, clock, List.prefix_refl _, hrun, rfl, htimes, hstamps, htick⟩

/-- **The timestamp of a tag** is a quotient by the ticks per millisecond. -/
theorem record_tagStamp_quotient {type : TagType} {d₀ : RTPDump} {as : List Arrival}
    {timestamp : Word} {data : List Byte}
    (h : .output (.flvTag type timestamp data) ∈ (d₀.record as).trace) :
    ∃ ticks, intDiv ticks (d₀.ticks type) = some timestamp := by
  obtain ⟨history, rest, htrace⟩ := List.append_of_mem h
  obtain ⟨as₁, a, d, past, clock, -, hrun, -, -, -, htick⟩ :=
    record_stamped type d₀ as history _ rest htrace timestamp (by cases type <;> rfl)
  rw [((record_keepsTime type d₀ as₁).clock d hrun).2] at htick
  obtain ⟨_, hquotient, heq⟩ := Option.map_eq_some_iff.mp htick
  obtain rfl := congrArg Prod.snd heq
  exact ⟨_, hquotient⟩

end RtpCapture
