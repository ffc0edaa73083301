import RtpCapture.Recorder.Steps

/-! # The depacketizer

What `rtpHandler` does with the packets of a session before `videoHandler`, as a function of the
packets: which of them are taken for H.264, and which NAL units they hand on.

* **`Call`** — one call of `videoHandler`; `calls` reads the calls off a trace.
* **`Depacketizer`** — the abstract state: the route and the bytes in use of `m_nal_data`, as a
  list. `Depacketizer.next` and `Depacketizer.call` are its step, `Depacketizer.handed` the calls a
  list of packets amounts to.
* **`step_handed`** — the refinement, one packet at a time; `record_calls` — a recording calls
  `videoHandler` exactly as the depacketizer says, as far as it gets. -/

namespace RtpCapture

open Traced

/-! ## Calls of the video handler -/

/-- **A call of `videoHandler`**: the type of the NAL unit as the handler reads it, the NAL unit,
its timestamp and marker. -/
structure Call where
  type : Byte
  nal : List Byte
  time : Word
  marker : Bool
  deriving DecidableEq, Repr

/-- The event of a call. -/
def Call.event (c : Call) : Event := .videoHandler c.type c.nal c.time c.marker

/-- The call an event stands for. -/
def Event.call? : Event → Option Call
  | .videoHandler type nal time marker => some ⟨type, nal, time, marker⟩
  | _ => none

/-- **The calls of `videoHandler`** in a trace. -/
def calls (history : List Event) : List Call := history.filterMap Event.call?

/-- An empty trace has no calls. -/
@[simp] theorem calls_nil : calls [] = [] := rfl

/-- The calls of two parts of a trace. -/
@[simp] theorem calls_append (h₁ h₂ : List Event) : calls (h₁ ++ h₂) = calls h₁ ++ calls h₂ := by
  simp [calls]

/-- The entry of `videoHandler` is its call. -/
@[simp] theorem calls_cons_event (c : Call) (h : List Event) :
    calls (c.event :: h) = c :: calls h := rfl

/-- A part of a trace without entries of `videoHandler` has no calls. -/
theorem calls_eq_nil {history : List Event} (h : ∀ e ∈ history, e.call? = none) :
    calls history = [] := List.filterMap_eq_nil_iff.mpr h

/-- The events that concern the reassembly: the copies into `m_nal_data` and the calls. -/
def Event.IsReassembly : Event → Prop
  | .nalDataCopy _ _ => True
  | .videoHandler _ _ _ _ => True
  | _ => False

/-- The audio handler does not touch the reassembly. -/
theorem Event.IsAudio.not_isReassembly {flv : Bool} {e : Event} (h : e.IsAudio flv) :
    ¬ e.IsReassembly := by
  cases e <;> first | exact id | exact h.elim

/-- Neither does the opening of files. -/
theorem Event.IsOpening.not_isReassembly {e : Event} (h : e.IsOpening) : ¬ e.IsReassembly := by
  cases e <;> first | exact id | exact h.elim

/-- Nor the work of `videoHandler`. -/
theorem Event.IsVideoWork.not_isReassembly {e : Event} (h : e.IsVideoWork) :
    ¬ e.IsReassembly := by
  cases e <;> first | exact id | exact h.elim

/-- What does not touch the reassembly is no call. -/
theorem Event.call?_eq_none {e : Event} (h : ¬ e.IsReassembly) : e.call? = none := by
  cases e <;> first | rfl | exact (h trivial).elim

/-! ## Fragments -/

namespace Packet

/-- An FU-A packet. -/
def isFuA (p : Packet) : Bool := nalType (p.h264Buf 0) = 28

/-- The start bit of the FU header. -/
def isStart (p : Packet) : Bool := p.h264Buf 1 &&& 0x80 ≠ 0

/-- The end bit of the FU header. -/
def isEnd (p : Packet) : Bool := p.h264Buf 1 &&& 0x40 ≠ 0

/-- The type that the code compares with 28. -/
theorem isFuA_iff {p : Packet} : p.isFuA = true ↔ nalType (p.h264Buf 0) = 28 := decide_eq_true_iff

/-- The start bit of the FU header. -/
theorem isStart_iff {p : Packet} : p.isStart = true ↔ p.h264Buf 1 &&& 0x80 ≠ 0 :=
  decide_eq_true_iff

/-- The end bit of the FU header. -/
theorem isEnd_iff {p : Packet} : p.isEnd = true ↔ p.h264Buf 1 &&& 0x40 ≠ 0 := decide_eq_true_iff

/-- The NAL header rebuilt from the FU indicator and the FU header. -/
def fuNalHeader (p : Packet) : Byte := (p.h264Buf 0 &&& 0xe0) ||| (p.h264Buf 1 &&& 0x1f)

/-- The bytes an FU-A packet appends. -/
def fuPayload (p : Packet) : List Byte := p.h264Buf.read 2 (fuPayloadLen p.h264Len)

end Packet

/-- **The FU-A packets that reach the FU-A branch.** -/
def fragments (ro : Route) : List Arrival → List Packet
  | [] => []
  | a :: as =>
      if ro.reaches a ∧ a.packet.isFuA then a.packet :: fragments (ro.next a) as
      else fragments (ro.next a) as

/-! ## The abstract state -/

/-- **The depacketizer**: the route, the NAL unit under reassembly, and the byte that stands at the
front of `m_nal_data` as long as nothing has been put there. -/
structure Depacketizer where
  route : Route
  nal : List Byte
  stale : Byte

namespace Depacketizer

/-- The depacketizer of a fresh recorder. -/
def start (stale : Byte) : Depacketizer := ⟨⟨.default, false⟩, [], stale⟩

/-- The NAL unit under reassembly after a fragment: a start fragment begins a new one. -/
def fragment (s : Depacketizer) (p : Packet) : List Byte :=
  (if p.isStart then [p.fuNalHeader] else s.nal) ++ p.fuPayload

/-- The NAL unit under reassembly after an H.264 packet. -/
def reassembled (s : Depacketizer) (p : Packet) : List Byte :=
  if p.isFuA then s.fragment p else s.nal

/-- **The call an H.264 packet leads to**: none, the NAL unit completed by an end fragment, or a
whole NAL unit. -/
def completed (s : Depacketizer) (p : Packet) : Option Call :=
  if p.isFuA then
    if p.isEnd then
      some ⟨nalType ((s.fragment p).headD s.stale), s.fragment p, p.time, p.marker⟩
    else none
  else some ⟨nalType (p.h264Buf 0), p.payload, p.time, p.marker⟩

/-- The state after a packet. -/
def next (s : Depacketizer) (a : Arrival) : Depacketizer where
  route := s.route.next a
  nal := if s.route.reaches a then s.reassembled a.packet else s.nal
  stale := s.stale

/-- The call a packet leads to. -/
def call (s : Depacketizer) (a : Arrival) : Option Call :=
  if s.route.reaches a then s.completed a.packet else none

/-- The state after a list of packets. -/
def after (s : Depacketizer) (as : List Arrival) : Depacketizer := as.foldl next s

/-- **The calls a list of packets amounts to.** -/
def handed (s : Depacketizer) : List Arrival → List Call
  | [] => []
  | a :: as => (s.call a).toList ++ (s.next a).handed as

/-- No packets, no change. -/
@[simp] theorem after_nil (s : Depacketizer) : s.after [] = s := rfl

/-- Some packets and then others. -/
theorem after_append (s : Depacketizer) (as bs : List Arrival) :
    s.after (as ++ bs) = (s.after as).after bs := List.foldl_append

/-- One packet. -/
@[simp] theorem after_singleton (s : Depacketizer) (a : Arrival) : s.after [a] = s.next a := rfl

/-- The calls of a list of packets are those of its parts, one after the other. -/
theorem handed_append (s : Depacketizer) (as bs : List Arrival) :
    s.handed (as ++ bs) = s.handed as ++ (s.after as).handed bs := by
  induction as generalizing s with
  | nil => rfl
  | cons a as ih =>
      rw [List.cons_append, handed, handed, ih, List.append_assoc]
      rfl

/-- One packet amounts to at most one call. -/
@[simp] theorem handed_singleton (s : Depacketizer) (a : Arrival) :
    s.handed [a] = (s.call a).toList := by
  simp [handed]

/-- **The refinement relation**: the recorder's fields are the depacketizer's state. -/
structure Matches (s : Depacketizer) (d : RTPDump) : Prop where
  route : d.route = s.route
  length : d.nalLength = s.nal.length
  data : d.nalData.read 0 d.nalLength = s.nal
  stale : s.nal = [] → d.nalData 0 = s.stale

/-- The frame of `videoHandler` keeps the relation. -/
theorem Matches.of_frame {s : Depacketizer} {d d' : RTPDump} (h : s.Matches d)
    (hframe : VideoFrame d d') : s.Matches d' where
  route := hframe.route.trans h.route
  length := hframe.nalLength.trans h.length
  data := by rw [hframe.nalData, hframe.nalLength, h.data]
  stale := by
    rw [hframe.nalData]
    exact h.stale

/-- **The depacketizer of a recorder**, with the bytes in use of its buffer. -/
def ofRecorder (d : RTPDump) : Depacketizer := ⟨d.route, d.nalData.read 0 d.nalLength, d.nalData 0⟩

/-- What is read off a recorder matches it. -/
theorem matches_ofRecorder (d : RTPDump) : (ofRecorder d).Matches d :=
  ⟨rfl, (Memory.length_read ..).symm, rfl, fun _ => rfl⟩

/-- The byte at the front of `m_nal_data`. -/
theorem Matches.head {s : Depacketizer} {d : RTPDump} (h : s.Matches d) :
    d.nalData 0 = s.nal.headD s.stale := by
  cases hnal : s.nal with
  | nil => exact h.stale hnal
  | cons b l => exact Memory.head_of_read (h.data.trans hnal)

/-- A start fragment puts the rebuilt header at the front. -/
theorem Matches.of_startNal {s : Depacketizer} {d : RTPDump} (h : s.Matches d) (p : Packet) :
    Matches { s with nal := if p.isStart then [p.fuNalHeader] else s.nal }
      (startNal d p.h264Buf) := by
  unfold startNal
  by_cases hstart : p.isStart = true
  · rw [if_pos hstart, if_pos (Packet.isStart_iff.mp hstart)]
    exact ⟨h.route, rfl, Memory.read_write_self _ 0 [p.fuNalHeader], fun hnil => by cases hnil⟩
  · rw [if_neg hstart, if_neg fun hc => hstart (Packet.isStart_iff.mpr hc)]
    exact h

/-- A fragment goes behind the bytes in use. -/
theorem Matches.of_appendFragment {s : Depacketizer} {d : RTPDump} (h : s.Matches d) (buf : Memory)
    (n : ℕ) : Matches { s with nal := s.nal ++ buf.read 2 n } (appendFragment d buf n) where
  route := h.route
  length := by simp [appendFragment, h.length]
  data := by
    have happend := Memory.read_write_append d.nalData 0 d.nalLength (buf.read 2 n)
    rw [Nat.zero_add, Memory.length_read] at happend
    exact happend.trans (by rw [h.data])
  stale := by
    intro hnil
    obtain ⟨hnal, hread⟩ := List.append_eq_nil_iff.mp hnil
    simp [appendFragment, hread, Memory.write, h.stale hnal]

/-- Both together. -/
theorem Matches.of_fragment {s : Depacketizer} {d : RTPDump} (h : s.Matches d) (p : Packet) :
    Matches { s with nal := s.fragment p } (d.gathered p) :=
  (h.of_startNal p).of_appendFragment p.h264Buf (fuPayloadLen p.h264Len)

variable {P : List Event → Event → Prop} {history : List Event}

/-- A computation without events of the reassembly makes no call. -/
theorem ensures_of_other {α : Type} {x : Recording α} {p : Event → Prop} {q : α → Prop}
    (hx : Ensures (fun _ => p) [] x fun _ => q) (hp : ∀ e, p e → ¬ e.IsReassembly)
    (hother : ∀ grown e, ¬ e.IsReassembly → P grown e) :
    Ensures P history x fun grown a => q a ∧ calls grown = calls history := by
  have hevents : ∀ e ∈ x.trace, p e := hx.1.forall_mem
  refine ⟨always_of_forall fun grown e he => hother _ e (hp e (hevents e he)), fun a ha => ?_⟩
  refine ⟨hx.2 a ha, ?_⟩
  rw [calls_append, calls_eq_nil fun e he => Event.call?_eq_none (hp e (hevents e he)),
    List.append_nil]

/-- One call of `videoHandler`. -/
theorem videoHandler_handed {s : Depacketizer} {d : RTPDump} (h : s.Matches d) (r : FileResults)
    (buf : Memory) (len : ℕ) (time : Word) (marker : Bool)
    (hother : ∀ grown e, ¬ e.IsReassembly → P grown e)
    (hcall : P history (Call.event ⟨nalType (buf 0), buf.read 0 len, time, marker⟩)) :
    Ensures P history (videoHandler r d buf len time marker) fun grown d' =>
      s.Matches d' ∧
        calls grown = calls history ++ [⟨nalType (buf 0), buf.read 0 len, time, marker⟩] := by
  obtain ⟨x, heq, hx⟩ := videoHandler_frame r d buf len time marker
  rw [heq]
  refine ensures_emit_bind hcall ?_
  refine (ensures_of_other (hx []) (fun _ he => he.not_isReassembly) hother).imp ?_
  rintro grown d' ⟨hframe, hcalls⟩
  refine ⟨h.of_frame hframe, ?_⟩
  rw [hcalls, calls_append]
  rfl

/-- **The H.264 part of `rtpHandler`.** -/
theorem nalHandler_handed {s : Depacketizer} {d : RTPDump} (h : s.Matches d) (r : FileResults)
    (p : Packet) (hother : ∀ grown e, ¬ e.IsReassembly → P grown e)
    (hcopy : p.isFuA = true →
      ∀ off n, off + n = (s.fragment p).length → P history (.nalDataCopy off n))
    (hcall : ∀ c, s.completed p = some c →
      ∀ grown, calls grown = calls history → P grown c.event) :
    Ensures P history (nalHandler r d p) fun grown d' =>
      Matches { s with nal := s.reassembled p } d' ∧
        calls grown = calls history ++ (s.completed p).toList := by
  have hfragment := h.of_fragment p
  -- the copy of a fragment is no call
  have hcopied : calls (history ++ [d.fragmentCopy p]) = calls history := by
    simp [calls, Event.call?, RTPDump.fragmentCopy]
  refine nalHandler_ensures (fun hfua => ?_) (fun hfua => ?_) (fun hfua hend => ?_)
    fun hfua hend => ?_
  · -- a whole NAL unit is handed on, and nothing is gathered
    rw [← Packet.isFuA_iff] at hfua
    have hcompleted : s.completed p =
        some ⟨nalType (p.h264Buf 0), p.payload, p.time, p.marker⟩ := by
      rw [completed, if_neg hfua]
    rw [hcompleted, reassembled, if_neg hfua]
    exact videoHandler_handed h r _ _ _ _ hother (hcall _ hcompleted _ rfl)
  · exact hcopy (Packet.isFuA_iff.mpr hfua) _ _ hfragment.length
  · -- an end fragment completes the NAL unit
    rw [← Packet.isFuA_iff] at hfua
    have hcompleted : s.completed p = some ⟨nalType ((d.gathered p).nalData 0),
        (d.gathered p).nalData.read 0 (d.gathered p).nalLength, p.time, p.marker⟩ := by
      rw [completed, if_pos hfua, if_pos (Packet.isEnd_iff.mpr hend), hfragment.data,
        hfragment.head]
    have hhanded := videoHandler_handed hfragment r _ _ _ _ hother
      (hcall _ hcompleted _ hcopied)
    rw [hcopied] at hhanded
    rw [hcompleted, reassembled, if_pos hfua]
    exact hhanded
  · -- any other fragment is only gathered
    rw [← Packet.isFuA_iff] at hfua
    have hcompleted : s.completed p = none := by
      rw [completed, if_pos hfua, if_neg fun hc => hend (Packet.isEnd_iff.mp hc)]
    rw [hcompleted, reassembled, if_pos hfua, hcopied]
    exact ⟨hfragment, (List.append_nil _).symm⟩

/-- The prelude moves the route on. -/
theorem Matches.of_prelude {s : Depacketizer} {d d' : RTPDump} {a : Arrival} {pre : List Event}
    (h : s.Matches d) (hprelude : Prelude d a pre d') :
    Matches { s with route := s.route.next a } d' := by
  obtain ⟨psOutfile, rfl⟩ := hprelude.state
  refine ⟨?_, h.length, h.data, h.stale⟩
  rw [← h.route]
  rfl

/-- **The refinement, one packet at a time**: a step of the recorder is a step of the depacketizer
and makes the call it says. -/
theorem step_handed {s : Depacketizer} {d : RTPDump} (h : s.Matches d) (a : Arrival)
    (hother : ∀ grown e, ¬ e.IsReassembly → P grown e)
    (hcopy : s.route.reaches a = true → a.packet.isFuA = true →
      ∀ grown off n, off + n = (s.fragment a.packet).length → P grown (.nalDataCopy off n))
    (hcall : ∀ c, s.call a = some c →
      ∀ grown, calls grown = calls history → P grown c.event) :
    Ensures P history (d.step a) fun grown d' =>
      (s.next a).Matches d' ∧ calls grown = calls history ++ (s.call a).toList := by
  -- the prelude opens files and hands on nothing
  have hcalls : ∀ pre d', Prelude d a pre d' → calls (history ++ pre) = calls history := by
    intro pre d' hprelude
    rw [calls_append, calls_eq_nil fun e he =>
      Event.call?_eq_none (hprelude.events e he).not_isReassembly, List.append_nil]
  refine step_preserves (fun haudio _ _ _ _ => ?_)
    (fun past e he => hother past e he.not_isReassembly) (fun pre d' hprelude hskip => ?_)
    fun pre d' hprelude hreaches _ => ?_
  · obtain ⟨hroute, hreaches⟩ := s.route.next_of_isAudio haudio
    have hnext : s.next a = s := by simp [next, hroute, hreaches]
    rw [hnext, call, hreaches]
    refine (ensures_of_other (audioHandler_ensures ..) (fun _ he => he.not_isReassembly)
      hother).imp ?_
    rintro grown d' ⟨⟨clock, rfl⟩, hcalls⟩
    exact ⟨⟨h.route, h.length, h.data, h.stale⟩, by simpa using hcalls⟩
  · rw [h.route] at hskip
    rw [next, if_neg hskip, call, if_neg hskip, hcalls pre d' hprelude]
    exact ⟨h.of_prelude hprelude, (List.append_nil _).symm⟩
  · rw [h.route] at hreaches
    have hnal := nalHandler_handed (P := P) (h.of_prelude hprelude) a.results
      a.packet hother (fun hfua off n hlen => hcopy hreaches hfua _ off n hlen)
      (fun c hc grown hgrown =>
        hcall c (by rw [call, if_pos hreaches]; exact hc) grown
          (hgrown.trans (hcalls pre d' hprelude)))
    rw [hcalls pre d' hprelude] at hnal
    rw [next, if_pos hreaches, call, if_pos hreaches]
    exact hnal

end Depacketizer

/-- The calls made in a step. -/
theorem step_calls {s : Depacketizer} {d : RTPDump} (h : s.Matches d) (a : Arrival) :
    ∀ c ∈ calls (d.step a).trace, s.call a = some c := by
  have hstep : Ensures (fun _ e => ∀ c, e.call? = some c → s.call a = some c) [] (d.step a)
      (fun _ _ => True) := by
    refine (Depacketizer.step_handed h a ?_ ?_ ?_).imp fun _ _ _ => trivial
    · intro grown e he c hc
      rw [Event.call?_eq_none he] at hc
      cases hc
    · intro _ _ grown off n _ c hc
      cases hc
    · intro c hc grown _ c' hc'
      obtain rfl : c = c' := by simpa [Call.event, Event.call?] using hc'
      exact hc
  intro c hc
  obtain ⟨e, he, hcall⟩ := List.mem_filterMap.mp hc
  exact hstep.1.forall_mem e he c hcall

/-! ## A whole recording -/

/-- A fresh recorder is matched by the starting depacketizer. -/
theorem RTPDump.matches_construct (fileName : String) (videoFrequency : Word) (u : Uninitialised) :
    (Depacketizer.start (u.nalData 0)).Matches (RTPDump.construct fileName videoFrequency u) :=
  ⟨rfl, rfl, rfl, fun _ => rfl⟩

/-- The calls in a trace, when each call extends the earlier ones to a part of `all`. -/
theorem calls_prefix_of_always {all : List Call} {trace : List Event}
    (h : Always (fun history e =>
      ∀ c, e.call? = some c → calls history ++ [c] <+: all) trace) :
    calls trace <+: all := by
  induction trace using List.reverseRecOn with
  | nil => exact List.nil_prefix
  | append_singleton trace e ih =>
      rw [always_append, always_singleton] at h
      rw [calls_append]
      cases hcall : e.call? with
      | none => simpa [calls, hcall] using ih h.1
      | some c => simpa [calls, hcall] using h.2 c hcall

variable {s : Depacketizer} {d : RTPDump}

/-- **A recording makes the calls of the depacketizer**, in order; when it ends without a fault it
makes them all, and its reassembly fields are the depacketizer's. -/
theorem record_calls (h : s.Matches d) (as : List Arrival) :
    calls (d.record as).trace <+: s.handed as ∧
      ∀ d', (d.record as).outcome = .ok d' →
        calls (d.record as).trace = s.handed as ∧ (s.after as).Matches d' := by
  have hrun : Ensures (fun history e =>
        ∀ c, e.call? = some c → calls history ++ [c] <+: s.handed as) [] (d.record as)
      (fun history d' => calls history = s.handed as ∧ (s.after as).Matches d') := by
    refine run_always
      (fun past history d => calls history = s.handed past ∧ (s.after past).Matches d)
      (fun past a => past ++ [a] <+: as) ?_ ⟨rfl, h⟩ ?_
    · -- the calls so far are those the depacketizer hands on for the packets so far
      rintro past history d a ⟨hcalls, hmatches⟩ ⟨rest, rfl⟩
      refine (Depacketizer.step_handed hmatches a ?_ ?_ ?_).imp ?_
      · intro grown e he c hc
        rw [Event.call?_eq_none he] at hc
        cases hc
      · intro _ _ grown off n _ c hc
        cases hc
      · intro c hc grown hgrown c' hc'
        obtain rfl : c = c' := by simpa [Call.event, Event.call?] using hc'
        rw [hgrown, hcalls, Depacketizer.handed_append, Depacketizer.handed_append,
          Depacketizer.handed_singleton, hc]
        exact List.prefix_append _ _
      · rintro grown d' ⟨hmatches', hcalls'⟩
        refine ⟨?_, ?_⟩
        · rw [hcalls', hcalls, Depacketizer.handed_append, Depacketizer.handed_singleton]
        · rw [Depacketizer.after_append, Depacketizer.after_singleton]
          exact hmatches'
    · intro past a rest has
      exact ⟨rest, by simp [has]⟩
  refine ⟨calls_prefix_of_always ?_, fun d' hd' => ?_⟩
  · simpa using hrun.1
  · simpa using hrun.2 d' hd'

end RtpCapture
