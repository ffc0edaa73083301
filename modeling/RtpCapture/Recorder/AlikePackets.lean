import Mathlib.Data.List.Forall2
import RtpCapture.Recorder.RoundTrip
import RtpCapture.Recorder.RtpFormat

/-! # Packets in other blocks

A packet arrives in a block of the pool, with other bytes behind it than in the sender's buffer, and the
file system answers as it does. The recording of a sender's stream is the same.

* **`Alike`** — two packets with the same header and payload, wherever they are.
* **`units_alike`** — packets that are like the sent ones are the packets of like units.
* **`record_opens`** — a recording in which no opening failed is one in which none can fail.
* **`Undisturbed`** — a trace without failures, and `step_undisturbed` for the packets it comes from.
* **`record_transports`** — the tags of a stream are the first ones of the recording, whatever comes
  behind it. -/

namespace RtpCapture

open Traced

/-! ## Two packets with the same contents -/

/-- **A packet with the contents of another one.** -/
structure Alike (p q : Packet) : Prop where
  isRtp : q.isRtp = true → p.isRtp = true
  size : p.len < 2 ^ 31
  payload : p.payload = q.payload
  time : p.time = q.time
  marker : p.marker = q.marker

/-- Two blocks that hold one RTP packet. -/
theorem Packet.Holds.alike {p q : Packet} {rtp : RtpPacket} (hp : p.Holds rtp) (hq : q.Holds rtp) :
    Alike p q where
  isRtp := fun _ => hp.isRtp
  size := hp.size
  payload := hp.payload.trans hq.payload.symm
  time := hp.time.trans hq.time.symm
  marker := hp.marker.trans hq.marker.symm

/-- Alike packets carry the same payload. -/
theorem Carries.alike {p q : Packet} {payload : List Byte} (h : Carries q payload)
    (halike : Alike p q) : Carries p payload :=
  ⟨halike.isRtp h.isRtp, halike.size, halike.payload.trans h.payload⟩

/-- The fragments of a NAL unit. -/
theorem FragmentRun.alike {header : Byte} {first : Bool} {body : List Byte} {ps qs : List Packet}
    (h : FragmentRun header first body qs) (halike : List.Forall₂ Alike ps qs) :
    FragmentRun header first body ps := by
  induction h generalizing ps with
  | last h =>
      obtain ⟨p, ps, hp, hps, rfl⟩ := List.forall₂_cons_right_iff.mp halike
      obtain rfl := List.forall₂_nil_right_iff.mp hps
      exact .last (h.alike hp)
  | more h hrest ih =>
      obtain ⟨p, ps, hp, hps, rfl⟩ := List.forall₂_cons_right_iff.mp halike
      exact .more (h.alike hp) (ih hps)

/-- A NAL unit, however it was sent. -/
theorem SentAs.alike {nal : List Byte} {ps qs : List Packet} (h : SentAs nal qs)
    (halike : List.Forall₂ Alike ps qs) : SentAs nal ps := by
  cases h with
  | single h =>
      obtain ⟨p, ps, hp, hps, rfl⟩ := List.forall₂_cons_right_iff.mp halike
      obtain rfl := List.forall₂_nil_right_iff.mp hps
      exact .single (h.alike hp)
  | fragmented hnal h => exact .fragmented hnal (h.alike halike)

/-- The last packet decides the timestamp and the marker of the call. -/
theorem last_alike {ps qs : List Packet} (h : List.Forall₂ Alike ps qs) :
    lastTime ps = lastTime qs ∧ lastMarker ps = lastMarker qs := by
  induction h with
  | nil => exact ⟨rfl, rfl⟩
  | cons hpq hrest ih =>
      cases hrest with
      | nil => exact ⟨hpq.time, hpq.marker⟩
      | cons hpq' hrest' =>
          unfold lastTime lastMarker at ih ⊢
          rw [List.getLast?_cons_cons, List.getLast?_cons_cons]
          exact ih

/-- **The units of packets that are like the sent ones.** -/
theorem units_alike (us : List SentUnit) {ps : List Packet}
    (h : List.Forall₂ Alike ps (packetsOf us)) :
    ∃ us', packetsOf us' = ps ∧ us'.map SentUnit.call = us.map SentUnit.call := by
  induction us generalizing ps with
  | nil => exact ⟨[], (List.forall₂_nil_right_iff.mp h).symm, rfl⟩
  | cons u us ih =>
      rw [packetsOf, List.flatMap_cons, ← packetsOf] at h
      have hfirst := List.forall₂_take_append _ _ _ h
      obtain ⟨us', hpackets, hcalls⟩ := ih (List.forall₂_drop_append _ _ _ h)
      let u' : SentUnit := ⟨u.nal, ps.take u.packets.length, u.isNalUnit, u.size, u.sentAs.alike hfirst⟩
      have hcall : u'.call = u.call := by
        obtain ⟨htime, hmarker⟩ := last_alike hfirst
        show (⟨u.type, u.nal, lastTime _, lastMarker _⟩ : Call) = _
        rw [htime, hmarker]
        rfl
      refine ⟨u' :: us', ?_, by rw [List.map_cons, List.map_cons, hcall, hcalls]⟩
      rw [packetsOf, List.flatMap_cons, ← packetsOf, hpackets]
      exact List.take_append_drop _ _

/-! ## The answers of the file system -/

/-- The file could be opened. -/
def Arrival.open (a : Arrival) : Arrival := ⟨a.packet, { a.results with opened := true }⟩

/-- The end of `rtpHandler` tries to open the file unless it is open. -/
theorem h264Handler_open (r : FileResults) (d : RTPDump) (p : Packet)
    (h : ∀ fileName, .flvOpenWrite fileName false ∉ (h264Handler r d p).trace) :
    h264Handler r d p = h264Handler { r with opened := true } d p := by
  obtain ⟨opened, headerWritten, psOpened, written⟩ := r
  cases opened with
  | true => rfl
  | false =>
      cases hflv : d.flv with
      | true =>
          unfold h264Handler
          rw [hflv]
          rfl
      | false =>
          refine absurd ?_ (h d.outputFileName)
          simp [h264Handler, hflv, initFLVHeader, srsFlvOpenWrite]

/-- An opening that did not fail has succeeded. -/
theorem step_open (d : RTPDump) (a : Arrival)
    (h : ∀ fileName, .flvOpenWrite fileName false ∉ (d.step a).trace) : d.step a = d.step a.open := by
  obtain ⟨p, r⟩ := a
  show rtpHandler r d p = rtpHandler { r with opened := true } d p
  replace h : ∀ fileName, .flvOpenWrite fileName false ∉ (rtpHandler r d p).trace := h
  by_cases hrtp : p.isRtp = true
  swap
  · rw [rtpHandler_of_not_isRtp _ _ hrtp, rtpHandler_of_not_isRtp _ _ hrtp]
  rw [rtpHandler_of_isRtp _ _ hrtp] at h ⊢
  rw [rtpHandler_of_isRtp _ _ hrtp]
  split at h
  case isTrue haudio =>
    rw [if_pos haudio, if_pos haudio]
    rfl
  case isFalse haudio =>
    rw [if_neg haudio, if_neg haudio]
    split at h
    -- the detection is the same, so the H.264 part opens the file in the same state
    case isTrue h96 =>
      rw [if_pos h96, if_pos h96]
      obtain ⟨pre, psOutfile, -, hdetect⟩ := detectCamera_eq r d hrtp h96
      have hsame : detectCamera { r with opened := true } d p = detectCamera r d p := rfl
      rw [hdetect, ok_bind] at h
      rw [hsame, hdetect, ok_bind, ok_bind]
      dsimp only at h ⊢
      split at h
      case isTrue hps =>
        rw [if_pos hps, if_pos hps]
        rfl
      case isFalse hps =>
        rw [if_neg hps, if_neg hps, h264Handler_open r _ p fun fileName hmem =>
          h fileName (List.mem_append_right _ hmem)]
    case isFalse h96 =>
      rw [if_neg h96, if_neg h96]
      split at h
      case isTrue h98 =>
        rw [if_pos h98, if_pos h98]
        exact h264Handler_open r d p h
      case isFalse h98 => rw [if_neg h98, if_neg h98]

/-- **A recording in which no opening failed** is one in which none can fail. -/
theorem record_opens (d : RTPDump) (as : List Arrival)
    (h : ∀ fileName, .flvOpenWrite fileName false ∉ (d.record as).trace) :
    d.record as = d.record (as.map Arrival.open) := by
  induction as generalizing d with
  | nil => rfl
  | cons a as ih =>
      rw [RTPDump.record, run_cons] at h
      rw [RTPDump.record, RTPDump.record, List.map_cons, run_cons, run_cons]
      have hstep : d.step a = d.step a.open := by
        refine step_open d a fun fileName hmem => h fileName ?_
        cases hout : (d.step a).outcome with
        | ok d' =>
            rw [bind_of_ok hout]
            exact List.mem_append_left _ hmem
        | error f =>
            rw [bind_of_error hout]
            exact hmem
      rw [← hstep]
      cases hout : (d.step a).outcome with
      | ok d' =>
          rw [bind_of_ok hout] at h
          have hrest := ih d' fun fileName hmem => h fileName (List.mem_append_right _ hmem)
          rw [bind_of_ok hout, bind_of_ok hout]
          rw [RTPDump.record, RTPDump.record] at hrest
          rw [hrest]
      | error f => rw [bind_of_error hout, bind_of_error hout]

/-- **Only the opening matters to the depacketizer.** -/
theorem Depacketizer.next_of_opened (s : Depacketizer) {a : Arrival} (h : a.results.opened = true) :
    s.next a.packet.arrive = s.next a ∧ s.call a.packet.arrive = s.call a ∧
      s.route.reaches a.packet.arrive = s.route.reaches a := by
  have hroute : s.route.next a.packet.arrive = s.route.next a := by
    simp [Route.next, Packet.arrive, FileResults.allGood, h]
  have hreaches : s.route.reaches a.packet.arrive = s.route.reaches a := by
    rw [Route.reaches, Route.reaches, hroute]
    rfl
  refine ⟨?_, ?_, hreaches⟩
  · rw [next, next, hroute, hreaches]
    rfl
  · rw [call, call, hreaches]
    rfl

/-- What is handed on, and whether it fits, when the file opens. -/
theorem Depacketizer.handed_of_opened {as : List Arrival}
    (h : ∀ a ∈ as, a.results.opened = true) (s : Depacketizer) :
    s.handed as = s.handed ((as.map Arrival.packet).map Packet.arrive) ∧
      ∀ m, s.Fits m ((as.map Arrival.packet).map Packet.arrive) → s.Fits m as := by
  induction as generalizing s with
  | nil => exact ⟨rfl, fun m hfits => hfits⟩
  | cons a as ih =>
      obtain ⟨hnext, hcall, hreaches⟩ := s.next_of_opened (h a List.mem_cons_self)
      obtain ⟨hhanded, hfits⟩ := ih (fun b hb => h b (List.mem_cons_of_mem a hb)) (s.next a)
      rw [List.map_cons, List.map_cons]
      refine ⟨by rw [handed, handed, hnext, hcall, hhanded], fun m hm => ?_⟩
      rw [← List.singleton_append, fits_append, fits_singleton, after_singleton, handed_singleton,
        hnext, hcall] at hm
      rw [← List.singleton_append, fits_append, fits_singleton, after_singleton, handed_singleton]
      refine ⟨⟨fun hr => ?_, fun c hc => hm.1.call c (hcall.trans hc)⟩, hfits _ hm.2⟩
      exact hm.1.fragment (hreaches.trans hr)

/-! ## When nothing fails -/

/-- **No operation of the file system failed**, as far as the events of a recorder tell. -/
structure Undisturbed (trace : List Event) : Prop where
  opened : ∀ fileName, .flvOpenWrite fileName false ∉ trace
  header : ∀ header, .flvWriteHeader true header ∈ trace →
    .output (.flvHeader flvHeaderBytes) ∈ trace
  reached : Reached trace

/-- Nothing disturbs an empty trace. -/
theorem undisturbed_nil : Undisturbed [] :=
  ⟨fun _ h => (by cases h), fun _ h => (by cases h), reached_nil⟩

/-- Two undisturbed parts. -/
theorem Undisturbed.append {t t' : List Event} (h : Undisturbed t) (h' : Undisturbed t') :
    Undisturbed (t ++ t') := by
  refine ⟨fun fileName hmem => ?_, fun header hmem => ?_, h.reached.append h'.reached⟩
  · exact (List.mem_append.mp hmem).elim (h.opened fileName) (h'.opened fileName)
  · rcases List.mem_append.mp hmem with hmem | hmem
    · exact List.mem_append_left _ (h.header header hmem)
    · exact List.mem_append_right _ (h'.header header hmem)

/-- An event that is no call of `initFLVHeader`. -/
def Event.IsLater : Event → Prop
  | .flvOpenWrite _ _ => False
  | .flvWriteHeader _ _ => False
  | _ => True

/-- **A computation that opens the file without a failure**, if it does. -/
structure OpensWell {α : Type} (x : Recording α) : Prop where
  opened : ∀ fileName, .flvOpenWrite fileName false ∉ x.trace
  header : ∀ header, .flvWriteHeader true header ∈ x.trace →
    .output (.flvHeader flvHeaderBytes) ∈ x.trace

section OpensWell

variable {α β : Type} {r : FileResults}

/-- What opens nothing opens well. -/
theorem opensWell_of_isLater {x : Recording α} (h : ∀ e ∈ x.trace, e.IsLater) : OpensWell x :=
  ⟨fun _ hmem => h _ hmem, fun _ hmem => (h _ hmem).elim⟩

/-- Returning opens nothing. -/
theorem opensWell_pure (a : α) : OpensWell (pure a) := opensWell_of_isLater fun _ h => by cases h

/-- Two parts that open well. -/
theorem OpensWell.bind {x : Recording α} {k : α → Recording β} (hx : OpensWell x)
    (hk : ∀ a, OpensWell (k a)) : OpensWell (x >>= k) := by
  cases hout : x.outcome with
  | error f =>
      rw [bind_of_error hout]
      exact ⟨hx.opened, hx.header⟩
  | ok a =>
      rw [bind_of_ok hout]
      refine ⟨fun fileName hmem => ?_, fun header hmem => ?_⟩
      · exact (List.mem_append.mp hmem).elim (hx.opened fileName) ((hk a).opened fileName)
      · rcases List.mem_append.mp hmem with hmem | hmem
        · exact List.mem_append_left _ (hx.header header hmem)
        · exact List.mem_append_right _ ((hk a).header header hmem)

/-- **Opening the file** when the opening and the write of the header succeed. -/
theorem initFLVHeader_opensWell (hopened : r.opened = true) (hheader : r.headerWritten = true)
    (d : RTPDump) : OpensWell (initFLVHeader r d) := by
  have htrace : (initFLVHeader r d).trace = [.flvOpenWrite d.outputFileName true,
      .flvWriteHeader true flvHeaderBytes, .output (.flvHeader flvHeaderBytes)] := by
    simp [initFLVHeader, srsFlvOpenWrite, srsFlvWriteHeader, hopened, hheader]
  constructor <;> simp [htrace]

/-- The end of `rtpHandler` opens well when the file does. -/
theorem h264Handler_opensWell (hopened : r.opened = true) (hheader : r.headerWritten = true)
    (d : RTPDump) (p : Packet) : OpensWell (h264Handler r d p) := by
  have hnal : ∀ d' : RTPDump, OpensWell (if d'.flv then nalHandler r d' p else pure d') := by
    intro d'
    split
    · refine opensWell_of_isLater fun e he => ?_
      have hwork := (nalHandler_frame r d' p []).1.forall_mem e he
      cases e <;> trivial
    · exact opensWell_pure d'
  unfold h264Handler
  dsimp only
  split
  · exact (opensWell_pure d).bind hnal
  · exact (initFLVHeader_opensWell hopened hheader d).bind hnal

/-- **One packet.** -/
theorem step_opensWell {a : Arrival} (hopened : a.results.opened = true)
    (hheader : a.results.headerWritten = true) (d : RTPDump) : OpensWell (d.step a) := by
  -- neither the detection nor the raw stream opens `m_flv`
  have hdetect : OpensWell (detectCamera a.results d a.packet) := by
    refine opensWell_of_isLater fun e he => ?_
    unfold detectCamera at he
    split at he
    · split at he
      · obtain rfl := List.mem_singleton.mp he
        trivial
      · cases he
    · cases he
  have hwrite : ∀ d, OpensWell (psWrite a.results d a.packet) := by
    refine fun d => opensWell_of_isLater fun e he => ?_
    unfold psWrite at he
    split at he
    · split at he
      · obtain rfl := List.mem_singleton.mp he
        trivial
      · cases he
    · cases he
  show OpensWell (rtpHandler a.results d a.packet)
  by_cases hrtp : a.packet.isRtp = true
  swap
  · rw [rtpHandler_of_not_isRtp _ _ hrtp]
    exact opensWell_pure d
  rw [rtpHandler_of_isRtp _ _ hrtp]
  split
  · split
    · refine opensWell_of_isLater fun e he => ?_
      have haudio := (audioHandler_ensures ..).1.forall_mem e he
      cases e <;> trivial
    · exact opensWell_pure d
  split
  · refine hdetect.bind fun d' => ?_
    split
    · exact hwrite d'
    · exact h264Handler_opensWell hopened hheader d' _
  split
  · exact h264Handler_opensWell hopened hheader d _
  · exact opensWell_pure d

end OpensWell

/-- **A step in which nothing fails** leaves no trace of a failure. -/
theorem step_undisturbed {a : Arrival} (hopened : a.results.opened = true)
    (hheader : a.results.headerWritten = true) (hwritten : a.results.written = true)
    {d d' : RTPDump} (h : (d.step a).outcome = .ok d') : Undisturbed (d.step a).trace where
  opened := (step_opensWell hopened hheader d).opened
  header := (step_opensWell hopened hheader d).header
  reached := (step_delivers hwritten d).reached d' h

/-! ## The recording of a stream -/

/-- **A stream is transported.** A recorder is fed packets that are like the sent ones, with any other
packets in between and anything behind them, and no operation of the file system fails. Then the video
tags of the file begin with those of the stream, even when the recording stops later. -/
theorem record_transports (fileName : String) (videoFrequency : Word) (u : Uninitialised)
    (hfrequency : 1000 ≤ videoFrequency.toInt) (st : SentStream) {as more : List Arrival}
    (halike : List.Forall₂ Alike ((videoArrivals as).map Arrival.packet) st.packets)
    (hflv : OnFlvPath ⟨.default, false⟩ ((videoArrivals as).map Arrival.packet))
    (hundisturbed : Undisturbed
      ((RTPDump.construct fileName videoFrequency u).record (as ++ more)).trace) :
    st.tags <+: videoTags
      ((RTPDump.construct fileName videoFrequency u).record (as ++ more)).trace := by
  obtain ⟨hassembled, hfits⟩ := st.assembled
  obtain ⟨us, hpackets, hcalls⟩ := units_alike st.units halike
  rw [← hpackets] at hflv
  obtain ⟨hunits, hunitsFit⟩ := units_handed us (s := Depacketizer.start (u.nalData 0))
    (m := .empty) hflv
  -- the file could always be opened
  have hopened := record_opens _ _ hundisturbed.opened
  rw [List.map_append] at hopened
  have hvideo : (videoArrivals (as.map Arrival.open)).map Arrival.packet = packetsOf us := by
    rw [hpackets, videoArrivals, List.filter_map, List.map_map]
    rfl
  have hresults : ∀ a ∈ videoArrivals (as.map Arrival.open), a.results.opened = true := by
    intro a ha
    obtain ⟨b, -, rfl⟩ := List.mem_map.mp (List.mem_of_mem_filter ha)
    rfl
  obtain ⟨hhanded, hall⟩ := Depacketizer.handed_of_opened hresults (Depacketizer.start (u.nalData 0))
  rw [hvideo, Depacketizer.handed_videoArrivals, hunits, hcalls] at hhanded
  rw [hvideo] at hall
  rw [← hcalls] at hfits
  -- so the stream is recorded, and its video writes are those of the assembly
  obtain ⟨d, hd⟩ := record_returns fileName videoFrequency u (sdiv_thousand_pos hfrequency)
    (Depacketizer.fits_of_videoArrivals (hall _ (hunitsFit hfits)))
  have hcalls' := ((record_calls (RTPDump.matches_construct fileName videoFrequency u)
    (as.map Arrival.open)).2 d hd).1
  have hwrote := ((record_simulates fileName videoFrequency u (as.map Arrival.open)).2 d hd).writes
  rw [List.nil_append, hcalls', hhanded, hassembled] at hwrote
  obtain ⟨sps, pps, ⟨hsps, hpps⟩, hwrites⟩ := hwrote.after rfl
  have htags : (videoWrites ((RTPDump.construct fileName videoFrequency u).record
      (as.map Arrival.open)).trace).map VideoWrite.data = st.tags := by
    rw [hwrites, hsps _ rfl, hpps _ rfl, SentStream.tags, List.map_cons, List.map_map, List.map_map]
    refine congrArg₂ List.cons rfl (List.map_congr_left fun a _ => ?_)
    exact a.tagData_slices
  rw [hundisturbed.reached, ← htags, hopened]
  refine List.IsPrefix.map _ (List.IsPrefix.filterMap _ ?_)
  exact record_trace_isPrefix _ (List.prefix_append _ _)

end RtpCapture
