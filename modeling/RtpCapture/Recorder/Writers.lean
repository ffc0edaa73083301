import RtpCapture.Recorder.Steps

/-! # The writers of the output file

`m_flv` and `m_psOutfile` are opened on the same `m_outputFileName`, and each opening truncates. The
first packet of type 96 decides between them; a packet of type 98 goes past that decision.

* **`opensRaw`**, **`opensFlv`** — what the packets and the answers of the file system open: the raw
  stream by the first packet of type 96, `m_flv` by a packet of type 98.
* **`step_writes`** — what one packet opens, and that the bytes that reach the file come from a writer
  that is open.
* **`OneWriter`** — never both are open, all bytes come from one writer, and none is truncated.
* **`record_writers_iff`** — this is so exactly when the packets do not open both.
* **`record_two_writers`** — a program stream with one packet of type 98. -/

namespace RtpCapture

open Traced

/-! ## What the packets open -/

/-- `m_psOutfile.is_open()`. -/
def OutStream.isOpen : OutStream → Bool
  | .good => true
  | .bad => true
  | _ => false

/-- A version 2 packet of type 96. -/
def Packet.isType96 (p : Packet) : Bool := p.isRtp ∧ p.pt = 96

/-- A version 2 packet of type 98. -/
def Packet.isType98 (p : Packet) : Bool := p.isRtp ∧ p.pt = 98

/-- The packet that decides the camera type. -/
def firstCamera (as : List Arrival) : Option Arrival := as.find? fun a => a.packet.isType96

/-- The packet is taken for a program stream, and the raw stream opens. -/
def Arrival.opensRaw (a : Arrival) : Bool :=
  classify a.packet.h264Buf = .psCamera ∧ a.results.psOpened = true

/-- The first packet of type 96 opens the raw stream. -/
def opensRaw (as : List Arrival) : Bool := (firstCamera as).any Arrival.opensRaw

/-- A packet of type 98 at which `m_flv` opens, unless it is open. -/
def Arrival.opensFlv (a : Arrival) : Bool := a.packet.isType98 ∧ a.results.opened = true

/-- A packet of type 98 opens `m_flv`. -/
def opensFlv (as : List Arrival) : Bool := as.any Arrival.opensFlv

/-- The decision is for one of the two cameras. -/
theorem classify_ne_default (h264Buf : Memory) : classify h264Buf ≠ .default := by
  unfold classify
  split
  · nofun
  · split <;> nofun

/-- One more packet decides if none did. -/
theorem firstCamera_concat (as : List Arrival) (a : Arrival) :
    firstCamera (as ++ [a]) =
      (firstCamera as).or (if a.packet.isType96 then some a else none) := by
  simp [firstCamera, List.find?_append, List.find?_cons]
  split <;> simp_all

/-- What the first packets open, more packets do not close. -/
theorem opensRaw_mono {as as' : List Arrival} (h : as <+: as') (hraw : opensRaw as = true) :
    opensRaw as' = true := by
  obtain ⟨rest, rfl⟩ := h
  unfold opensRaw firstCamera at hraw ⊢
  rw [List.find?_append]
  cases hfirst : as.find? fun a => a.packet.isType96 with
  | none =>
      rw [hfirst] at hraw
      cases hraw
  | some a =>
      rw [hfirst] at hraw
      exact hraw

/-- Nor do they close `m_flv`. -/
theorem opensFlv_mono {as as' : List Arrival} (h : as <+: as') (hflv : opensFlv as = true) :
    opensFlv as' = true := by
  obtain ⟨rest, rfl⟩ := h
  rw [opensFlv, List.any_append, Bool.or_eq_true]
  exact .inl hflv

/-! ## One packet -/

/-- Bytes of the raw stream. -/
def Output.isRaw : Output → Bool
  | .raw _ => true
  | _ => false

/-- **Bytes come from a writer that is open.** -/
def Event.WrittenBy (flv raw : Bool) : Event → Prop
  | .output o => if o.isRaw then raw = true else flv = true
  | _ => True

variable {flv raw : Bool}

/-- What is open stays open. -/
theorem Event.WrittenBy.mono {flv' raw' : Bool} {e : Event} (h : e.WrittenBy flv raw)
    (hflv : flv = true → flv' = true) (hraw : raw = true → raw' = true) : e.WrittenBy flv' raw' := by
  cases e with
  | output o =>
      unfold WrittenBy at h ⊢
      dsimp only at h ⊢
      split at h
      · next ho =>
          rw [if_pos ho]
          exact hraw h
      · next ho =>
          rw [if_neg ho]
          exact hflv h
  | _ => trivial

/-- The work of `videoHandler` goes through `m_flv`. -/
theorem Event.IsVideoWork.writtenBy {e : Event} (h : e.IsVideoWork) : e.WrittenBy true raw := by
  cases e with
  | output o =>
      cases o with
      | raw => exact h.elim
      | flvHeader | flvTag => rfl
  | _ => trivial

/-- The audio handler writes through `m_flv`. -/
theorem Event.IsAudio.writtenBy {e : Event} (h : e.IsAudio flv) : e.WrittenBy flv raw := by
  cases e with
  | output o =>
      cases o with
      | raw => exact h.elim
      | flvHeader => exact h.elim
      | flvTag type timestamp data =>
          cases type with
          | audio => exact h
          | video => exact h.elim
  | _ => trivial

/-- The fields that say where a packet is written. -/
structure SameWriters (d d' : RTPDump) : Prop where
  cameraType : d'.cameraType = d.cameraType
  flv : d'.flv = d.flv
  psOutfile : d'.psOutfile = d.psOutfile

/-- The H.264 part opens nothing, and writes through `m_flv`. -/
theorem nalHandler_writes (r : FileResults) (d : RTPDump) (p : Packet) (history : List Event) :
    Ensures (fun _ e => e.WrittenBy true raw) history (nalHandler r d p)
      (fun _ d' => SameWriters d d') := by
  obtain ⟨hevents, hframe⟩ := nalHandler_frame r d p history
  refine ⟨hevents.imp fun _ e he => ?_, fun d' hd' => ?_⟩
  · -- `videoHandler` writes through `m_flv`, and the copy of a fragment writes nothing
    cases e with
    | nalDataCopy | videoHandler => trivial
    | _ => exact Event.IsVideoWork.writtenBy he
  · have hkept := hframe d' hd'
    exact ⟨congrArg Route.cameraType hkept.route, congrArg Route.flv hkept.route, hkept.psOutfile⟩

/-- Opening `m_flv` writes its header. -/
theorem initFLVHeader_writes (r : FileResults) (d : RTPDump) (history : List Event) :
    Ensures (fun _ e => e.WrittenBy r.opened raw) history (initFLVHeader r d)
      (fun _ d' => d' = { d with flv := r.opened }) := by
  have hopen : Ensures (fun _ e => e.WrittenBy r.opened raw) history
      (srsFlvOpenWrite d.outputFileName r.opened) (fun _ flv => flv = r.opened) :=
    ensures_emit_bind trivial (ensures_pure rfl)
  have hheader : ∀ grown, r.opened = true → Ensures (fun _ e => e.WrittenBy r.opened raw) grown
      (srsFlvWriteHeader r.opened flvHeaderBytes r.headerWritten) (fun _ _ => True) := by
    intro grown hopened
    unfold srsFlvWriteHeader
    refine ensures_emit_bind trivial ?_
    rw [hopened]
    cases r.headerWritten with
    | false => exact ensures_pure trivial
    | true => exact ensures_emit rfl trivial
  unfold initFLVHeader
  refine hopen.bind ?_
  rintro grown flv rfl
  split
  · next hopened => exact (hheader grown hopened).bind fun _ _ _ => ensures_pure rfl
  · exact ensures_pure rfl

/-- **The end of `rtpHandler`** opens `m_flv` if the file system lets it, and writes through it. -/
theorem h264Handler_writes (r : FileResults) (d : RTPDump) (p : Packet) (history : List Event) :
    Ensures (fun _ e => e.WrittenBy (d.flv || r.opened) raw) history (h264Handler r d p)
      (fun _ d' => SameWriters { d with flv := d.flv || r.opened } d') := by
  have hgoOn : ∀ grown,
      Ensures (fun _ e => e.WrittenBy (d.flv || r.opened) raw) grown
        (if (d.flv || r.opened) = true then nalHandler r { d with flv := d.flv || r.opened } p
          else pure { d with flv := d.flv || r.opened })
        (fun _ d' => SameWriters { d with flv := d.flv || r.opened } d') := by
    intro grown
    cases d.flv || r.opened with
    | true => exact nalHandler_writes r _ p grown
    | false => exact ensures_pure ⟨rfl, rfl, rfl⟩
  unfold h264Handler
  cases hflv : d.flv with
  | true =>
      have hsame : d = { d with flv := true } := by rw [← hflv]
      rw [hflv] at hgoOn
      rw [hsame]
      exact hgoOn history
  | false =>
      rw [hflv] at hgoOn
      refine (initFLVHeader_writes r d history).bind ?_
      rintro grown d' rfl
      exact hgoOn grown

/-- Writing to the raw stream keeps it open or closed. -/
theorem psWrite_writes (r : FileResults) (d : RTPDump) (p : Packet) (history : List Event) :
    Ensures (fun _ e => e.WrittenBy flv d.psOutfile.isOpen) history (psWrite r d p)
      (fun _ d' => d'.cameraType = d.cameraType ∧ d'.flv = d.flv ∧
        d'.psOutfile.isOpen = d.psOutfile.isOpen) := by
  unfold psWrite
  split
  · next hgood =>
      split
      · refine ensures_emit_bind ?_ (ensures_pure ⟨rfl, rfl, rfl⟩)
        rw [hgood]
        rfl
      · refine ensures_pure ⟨rfl, rfl, ?_⟩
        rw [hgood]
        rfl
  · exact ensures_pure ⟨rfl, rfl, rfl⟩

/-- Whether the raw stream is open after a packet. -/
def RTPDump.rawAfter (d : RTPDump) (a : Arrival) : Bool :=
  d.psOutfile.isOpen || (a.packet.isType96 && d.cameraType = .default && a.opensRaw)

/-- The detection of the camera opens the raw stream for a program stream. -/
theorem detectCamera_writes {d : RTPDump} {a : Arrival} (h96 : a.packet.isType96 = true)
    (hclosed : d.cameraType = .default → d.psOutfile.isOpen = false) (history : List Event) :
    Ensures (fun _ e => e.WrittenBy flv raw) history (detectCamera a.results d a.packet)
      (fun _ d' => d'.cameraType = d.route.detect a.packet ∧ d'.flv = d.flv ∧
        d'.psOutfile.isOpen = d.rawAfter a) := by
  obtain ⟨hrtp, hpt⟩ := of_decide_eq_true h96
  have hdetect : d.route.detect a.packet =
      if d.cameraType = .default then classify a.packet.h264Buf else d.cameraType := by
    simp [Route.detect, hrtp, hpt, RTPDump.route]
  unfold detectCamera
  rw [hdetect]
  by_cases hdefault : d.cameraType = .default
  · rw [if_pos hdefault, if_pos hdefault]
    have hraw : d.rawAfter a = a.opensRaw := by
      simp [RTPDump.rawAfter, hclosed hdefault, h96, hdefault]
    rw [hraw]
    split
    · next hps =>
        refine ensures_emit_bind trivial (ensures_pure ⟨hps.symm, rfl, ?_⟩)
        cases hopened : a.results.psOpened <;> simp [Arrival.opensRaw, hps, hopened, OutStream.isOpen]
    · next hps =>
        refine ensures_pure ⟨?_, rfl, ?_⟩
        · unfold classify at hps ⊢
          grind
        · simp [Arrival.opensRaw, hps, hclosed hdefault]
  · rw [if_neg hdefault, if_neg hdefault]
    exact ensures_pure ⟨rfl, rfl, by simp [RTPDump.rawAfter, hdefault]⟩

/-- **What a packet leaves open**, and the camera it is taken for. -/
structure LeavesOpen (d : RTPDump) (a : Arrival) (d' : RTPDump) : Prop where
  camera : d'.cameraType = d.route.detect a.packet
  flv : d'.flv = (d.route.next a).flv
  raw : d'.psOutfile.isOpen = d.rawAfter a

/-- A packet that is neither of type 96 nor of type 98 opens nothing. -/
theorem leavesOpen_of_ignored {d : RTPDump} {a : Arrival}
    (h : ¬ (a.packet.isRtp = true ∧ (a.packet.pt = 96 ∨ a.packet.pt = 98))) : LeavesOpen d a d := by
  have h96 : a.packet.isType96 = false := by
    rw [Packet.isType96, decide_eq_false_iff_not]
    exact fun hp => h ⟨hp.1, .inl hp.2⟩
  refine ⟨?_, ?_, ?_⟩
  · have hdetect : d.route.detect a.packet = d.cameraType :=
      Route.detect_of_not_rtp fun hp => h ⟨hp.1, .inl hp.2⟩
    exact hdetect.symm
  · rw [(Route.next_of_ignored h).1]
    rfl
  · simp [RTPDump.rawAfter, h96]

/-- **A packet of type 96** opens the raw stream, or is taken for H.264. -/
theorem type96_writes {d : RTPDump} {a : Arrival} (h96 : a.packet.isType96 = true)
    (hclosed : d.cameraType = .default → d.psOutfile.isOpen = false) (history : List Event) :
    Ensures (fun _ e => e.WrittenBy (d.route.next a).flv (d.rawAfter a)) history
      (detectCamera a.results d a.packet >>= fun d =>
        if d.cameraType = .psCamera then psWrite a.results d a.packet
        else h264Handler a.results d a.packet)
      (fun _ d' => LeavesOpen d a d') := by
  obtain ⟨hrtp, hpt⟩ := of_decide_eq_true h96
  refine (detectCamera_writes h96 hclosed history).bind ?_
  rintro grown d₁ ⟨hcamera, hflv, hraw⟩
  rw [hcamera]
  split
  · next hps =>
      have hh264 : d.route.isH264 a.packet = false := by
        rw [Route.isH264, decide_eq_false_iff_not]
        rintro ⟨-, ⟨-, hne⟩ | h98⟩
        · exact hne hps
        · rw [hpt] at h98
          revert h98
          decide
      have hnext : (d.route.next a).flv = d.flv := by simp [Route.next, hh264]
      rw [hnext, ← hraw]
      refine (psWrite_writes a.results d₁ a.packet grown).imp ?_
      rintro _ d' ⟨hcamera', hflv', hraw'⟩
      exact ⟨hcamera'.trans hcamera, (hflv'.trans hflv).trans hnext.symm, hraw'.trans hraw⟩
  · next hps =>
      have hh264 : d.route.isH264 a.packet = true := decide_eq_true ⟨hrtp, .inl ⟨hpt, hps⟩⟩
      have hnext : (d.route.next a).flv = (d₁.flv || a.results.opened) := by
        simp [Route.next, hh264, hflv]
      rw [hnext, ← hraw]
      refine (h264Handler_writes a.results d₁ a.packet grown).imp ?_
      rintro _ d' ⟨hcamera', hflv', hps'⟩
      exact ⟨hcamera'.trans hcamera, hflv'.trans hnext.symm,
        (congrArg OutStream.isOpen hps').trans hraw⟩

/-- **A packet of type 98** is taken for H.264, whatever the camera. -/
theorem type98_writes {d : RTPDump} {a : Arrival} (hrtp : a.packet.isRtp = true)
    (h98 : a.packet.pt = 98) (history : List Event) :
    Ensures (fun _ e => e.WrittenBy (d.route.next a).flv (d.rawAfter a)) history
      (h264Handler a.results d a.packet) (fun _ d' => LeavesOpen d a d') := by
  have h96 : a.packet.pt ≠ 96 := by
    rw [h98]
    decide
  have hh264 : d.route.isH264 a.packet = true := decide_eq_true ⟨hrtp, .inr h98⟩
  have hdetect : d.route.detect a.packet = d.cameraType :=
    Route.detect_of_not_rtp fun h => h96 h.2
  have htype : a.packet.isType96 = false := decide_eq_false fun h => h96 h.2
  have hnext : (d.route.next a).flv = (d.flv || a.results.opened) := by
    simp [Route.next, hh264]
  have hraw : d.rawAfter a = d.psOutfile.isOpen := by simp [RTPDump.rawAfter, htype]
  rw [hnext, hraw]
  refine (h264Handler_writes a.results d a.packet history).imp ?_
  rintro _ d' ⟨hcamera', hflv', hps'⟩
  exact ⟨hcamera'.trans hdetect.symm, hflv'.trans hnext.symm,
    (congrArg OutStream.isOpen hps').trans hraw.symm⟩

/-- **What one packet opens, and where it is written.** -/
theorem step_writes {d : RTPDump} (a : Arrival)
    (hclosed : d.cameraType = .default → d.psOutfile.isOpen = false) (history : List Event) :
    Ensures (fun _ e => e.WrittenBy (d.route.next a).flv (d.rawAfter a)) history (d.step a)
      (fun _ d' => LeavesOpen d a d') := by
  unfold RTPDump.step
  by_cases hrtp : a.packet.isRtp = true
  swap
  · rw [rtpHandler_of_not_isRtp _ _ hrtp]
    exact ensures_pure (leavesOpen_of_ignored fun h => hrtp h.1)
  rw [rtpHandler_of_isRtp a.results d hrtp]
  split
  · next haudio =>
      have hignored := Packet.isAudio_ne (p := a.packet) (decide_eq_true ⟨hrtp, haudio⟩)
      have hleaves := leavesOpen_of_ignored (d := d) hignored
      split
      · obtain ⟨hevents, hclock⟩ := audioHandler_ensures a.results d a.packet.payload a.packet.time
          (if a.packet.pt = 0 then .uLaw else .aLaw)
        rw [← hleaves.flv]
        refine ⟨always_of_forall fun _ e he => (hevents.forall_mem e he).writtenBy, ?_⟩
        intro d' hd'
        obtain ⟨clock, rfl⟩ := hclock d' hd'
        exact ⟨hleaves.camera, hleaves.flv, hleaves.raw⟩
      · exact ensures_pure hleaves
  split
  · next h96 => exact type96_writes (decide_eq_true ⟨hrtp, h96⟩) hclosed history
  split
  · next h98 => exact type98_writes hrtp h98 history
  · next h96 h98 => exact ensures_pure (leavesOpen_of_ignored fun h => h.2.elim h96 h98)

/-! ## Every recording -/

/-- **What is open after some packets**, and where the bytes came from. -/
structure Opened (as : List Arrival) (history : List Event) (d : RTPDump) : Prop where
  camera : d.cameraType = (firstCamera as).elim .default fun a => classify a.packet.h264Buf
  raw : d.psOutfile.isOpen = opensRaw as
  flv : d.flv = true → opensFlv as = true ∨ d.cameraType = .rtspCamera
  bypass : opensFlv as = true → d.flv = true
  written : ∀ e ∈ history, e.WrittenBy d.flv d.psOutfile.isOpen

/-- A fresh recorder has nothing open. -/
theorem opened_construct (fileName : String) (videoFrequency : Word) (u : Uninitialised) :
    Opened [] [] (.construct fileName videoFrequency u) where
  camera := rfl
  raw := rfl
  flv := nofun
  bypass := nofun
  written := nofun

/-- Both are open when the packets open both, and only then. -/
theorem Opened.both_iff {as : List Arrival} {history : List Event} {d : RTPDump}
    (h : Opened as history d) :
    d.flv = true ∧ d.psOutfile.isOpen = true ↔ opensRaw as = true ∧ opensFlv as = true := by
  rw [h.raw]
  constructor
  · rintro ⟨hflv, hraw⟩
    refine ⟨hraw, (h.flv hflv).resolve_right fun hcamera => ?_⟩
    -- the packet that opened the raw stream decided against H.264
    rw [h.camera] at hcamera
    unfold opensRaw at hraw
    cases hfirst : firstCamera as with
    | none =>
        rw [hfirst] at hraw
        cases hraw
    | some a =>
        rw [hfirst] at hraw hcamera
        have hps := (of_decide_eq_true hraw).1
        rw [Option.elim_some, hps] at hcamera
        cases hcamera
  · rintro ⟨hraw, hflv⟩
    exact ⟨h.bypass hflv, hraw⟩

/-- The camera is undecided until the first packet of type 96. -/
theorem Opened.default_iff {as : List Arrival} {history : List Event} {d : RTPDump}
    (h : Opened as history d) : d.cameraType = .default ↔ firstCamera as = none := by
  rw [h.camera]
  cases firstCamera as with
  | none => exact iff_of_true rfl rfl
  | some b => exact iff_of_false (classify_ne_default _) nofun

/-- The detection of one more packet. -/
theorem RTPDump.detect_eq (d : RTPDump) (p : Packet) :
    d.route.detect p =
      if p.isType96 = true ∧ d.cameraType = .default then classify p.h264Buf
      else d.cameraType := by
  unfold Route.detect
  apply if_congr _ rfl rfl
  simp [Packet.isType96, RTPDump.route, and_assoc]

section Next

variable {as : List Arrival} {history : List Event} {d d' : RTPDump} {a : Arrival}

/-- The first packet of type 96 decides the camera. -/
theorem Opened.camera_next (h : Opened as history d) (hleaves : LeavesOpen d a d') :
    d'.cameraType = (firstCamera (as ++ [a])).elim .default fun a => classify a.packet.h264Buf := by
  rw [hleaves.camera, firstCamera_concat as a, d.detect_eq]
  cases hf : firstCamera as with
  | none =>
      rw [h.default_iff.mpr hf]
      by_cases h96 : a.packet.isType96 = true
      · simp [h96]
      · simp [h96]
  | some b =>
      rw [if_neg (fun hc => by rw [h.default_iff, hf] at hc; cases hc.2), h.camera, hf]
      rfl

/-- It opens the raw stream for a program stream, and no other packet does. -/
theorem Opened.raw_next (h : Opened as history d) (hleaves : LeavesOpen d a d') :
    d'.psOutfile.isOpen = opensRaw (as ++ [a]) := by
  rw [hleaves.raw, RTPDump.rawAfter, h.raw, opensRaw, opensRaw, firstCamera_concat as a]
  cases hf : firstCamera as with
  | none =>
      by_cases h96 : a.packet.isType96 = true
      · simp [h96, h.default_iff.mpr hf]
      · simp [h96]
  | some b =>
      have hne : d.cameraType ≠ .default := fun hc => by
        rw [h.default_iff, hf] at hc
        cases hc
      simp [hne]

/-- `m_flv` is opened by a packet of type 98, or by one of type 96 of a camera that sends H.264. -/
theorem Opened.flv_next (h : Opened as history d) (hleaves : LeavesOpen d a d')
    (hopen : d'.flv = true) : opensFlv (as ++ [a]) = true ∨ d'.cameraType = .rtspCamera := by
  rw [hleaves.flv, Route.next, Bool.or_eq_true, Bool.and_eq_true] at hopen
  rw [opensFlv, List.any_append, Bool.or_eq_true]
  rcases hopen with hopen | ⟨hh264, hopened⟩
  · rcases h.flv hopen with h98 | hrtsp
    · exact .inl (.inl h98)
    · right
      rw [hleaves.camera, d.detect_eq, if_neg (fun hc => by rw [hrtsp] at hc; cases hc.2), hrtsp]
  · obtain ⟨hrtp, ⟨h96, hne⟩ | h98⟩ := of_decide_eq_true hh264
    · right
      rw [hleaves.camera]
      -- a packet of type 96 decides, and not for a program stream
      cases hd : d.route.detect a.packet with
      | psCamera => exact absurd hd hne
      | rtspCamera => rfl
      | default =>
          rw [d.detect_eq] at hd
          split at hd
          · exact absurd hd (classify_ne_default _)
          · next hnot => exact absurd ⟨decide_eq_true ⟨hrtp, h96⟩, hd⟩ hnot
    · refine .inl (.inr ?_)
      simp [Arrival.opensFlv, Packet.isType98, hrtp, h98, hopened]

/-- A packet of type 98 opens `m_flv` past the detection. -/
theorem Opened.bypass_next (h : Opened as history d) (hleaves : LeavesOpen d a d')
    (hopens : opensFlv (as ++ [a]) = true) : d'.flv = true := by
  rw [opensFlv, List.any_append, Bool.or_eq_true] at hopens
  rw [hleaves.flv, Route.next, Bool.or_eq_true, Bool.and_eq_true]
  rcases hopens with hbefore | hnow
  · exact .inl (h.bypass hbefore)
  · right
    rw [List.any_cons, List.any_nil, Bool.or_false] at hnow
    obtain ⟨h98, hopened⟩ := of_decide_eq_true hnow
    obtain ⟨hrtp, hpt⟩ := of_decide_eq_true h98
    exact ⟨decide_eq_true ⟨hrtp, .inr hpt⟩, hopened⟩

end Next

/-- Until the camera is decided, the raw stream is closed. -/
theorem Opened.closed {as : List Arrival} {history : List Event} {d : RTPDump}
    (h : Opened as history d) : d.cameraType = .default → d.psOutfile.isOpen = false := by
  intro hcamera
  rw [h.raw, opensRaw, h.default_iff.mp hcamera]
  rfl

/-- **One more packet.** -/
theorem step_opened {as : List Arrival} {history : List Event} {d : RTPDump}
    (h : Opened as history d) (a : Arrival) :
    Ensures (fun _ _ => True) history (d.step a) (Opened (as ++ [a])) := by
  obtain ⟨hevents, hstate⟩ := step_writes a h.closed history
  refine ⟨fun _ _ _ _ => trivial, fun d' hd' => ?_⟩
  have hleaves := hstate d' hd'
  refine ⟨h.camera_next hleaves, h.raw_next hleaves, h.flv_next hleaves, h.bypass_next hleaves, ?_⟩
  intro e he
  rcases List.mem_append.mp he with hold | hnew
  · refine (h.written e hold).mono ?_ ?_
    · intro hopen
      simp [hleaves.flv, Route.next, hopen]
    · intro hopen
      simp [hleaves.raw, RTPDump.rawAfter, hopen]
  · rw [hleaves.flv, hleaves.raw]
    exact hevents.forall_mem e hnew

/-- What every recording opens, and where its bytes come from. -/
theorem record_opened (fileName : String) (videoFrequency : Word) (u : Uninitialised)
    {as : List Arrival} {d : RTPDump}
    (hrun : ((RTPDump.construct fileName videoFrequency u).record as).outcome = .ok d) :
    Opened as ((RTPDump.construct fileName videoFrequency u).record as).trace d :=
  (run_always Opened (fun _ _ => True) (fun _ _ _ a hopened _ => step_opened hopened a)
    (opened_construct fileName videoFrequency u) fun _ _ _ _ => trivial).2 d hrun

/-- A packet opens one of the writers, and truncates the file. -/
def OpensWriter (d d' : RTPDump) : Prop :=
  d.flv = false ∧ d'.flv = true ∨ d.psOutfile.isOpen = false ∧ d'.psOutfile.isOpen = true

/-- **The file has one writer** while the packets `as` are recorded: never both are open; all bytes
that reach the file come from one of them; and nothing is written before one of them is opened. -/
structure OneWriter (d₀ : RTPDump) (as : List Arrival) : Prop where
  exclusive : ∀ as₁ d, as₁ <+: as → (d₀.record as₁).outcome = .ok d →
    ¬ (d.flv = true ∧ d.psOutfile.isOpen = true)
  bytes : (∀ o, .output o ∈ (d₀.record as).trace → o.isRaw = true) ∨
    ∀ o, .output o ∈ (d₀.record as).trace → o.isRaw = false
  untruncated : ∀ as₁ a d d', as₁ ++ [a] <+: as → (d₀.record as₁).outcome = .ok d →
    (d.step a).outcome = .ok d' → OpensWriter d d' → ∀ o, .output o ∉ (d₀.record as₁).trace

/-- When not both are open, all bytes come from one writer. -/
theorem isRaw_or_of_writtenBy {events : List Event} (h : ∀ e ∈ events, e.WrittenBy flv raw)
    (hnot : ¬ (flv = true ∧ raw = true)) :
    (∀ o, .output o ∈ events → o.isRaw = true) ∨ ∀ o, .output o ∈ events → o.isRaw = false := by
  cases flv with
  | false =>
      left
      intro o ho
      by_contra hraw
      have hwriter := h _ ho
      rw [Event.WrittenBy, if_neg hraw] at hwriter
      cases hwriter
  | true =>
      right
      intro o ho
      rw [← Bool.not_eq_true]
      intro hraw
      have hwriter := h _ ho
      rw [Event.WrittenBy, if_pos hraw] at hwriter
      exact hnot ⟨rfl, hwriter⟩

/-- When a writer is opened and the other is not open, nothing was written: the bytes would have come
from the other. -/
theorem OpensWriter.unwritten {d d' : RTPDump} (h : OpensWriter d d')
    (hnot : ¬ (d'.flv = true ∧ d'.psOutfile.isOpen = true)) {o : Output}
    (hbefore : (Event.output o).WrittenBy d.flv d.psOutfile.isOpen) :
    ¬ (Event.output o).WrittenBy d'.flv d'.psOutfile.isOpen := by
  intro hafter
  unfold Event.WrittenBy at hafter hbefore
  dsimp only at hafter hbefore
  rcases h with ⟨hclosed, hopen⟩ | ⟨hclosed, hopen⟩
  · split at hafter
    · exact hnot ⟨hopen, hafter⟩
    · next hraw =>
        rw [if_neg hraw, hclosed] at hbefore
        cases hbefore
  · split at hafter
    · next hraw =>
        rw [if_pos hraw, hclosed] at hbefore
        cases hbefore
    · exact hnot ⟨hafter, hopen⟩

/-- **The file has one writer exactly when the packets do not open both**: the first packet of type 96
the raw stream, and a packet of type 98 `m_flv`. -/
theorem record_writers_iff (fileName : String) (videoFrequency : Word) (u : Uninitialised)
    {as : List Arrival} {d : RTPDump}
    (hrun : ((RTPDump.construct fileName videoFrequency u).record as).outcome = .ok d) :
    OneWriter (.construct fileName videoFrequency u) as ↔
      ¬ (opensRaw as = true ∧ opensFlv as = true) := by
  have hopened := record_opened fileName videoFrequency u hrun
  constructor
  · intro hone hboth
    exact hone.exclusive as d (List.prefix_refl as) hrun (hopened.both_iff.mpr hboth)
  · intro hnot
    have hexclusive : ∀ as₁ d₁, as₁ <+: as →
        ((RTPDump.construct fileName videoFrequency u).record as₁).outcome = .ok d₁ →
        ¬ (d₁.flv = true ∧ d₁.psOutfile.isOpen = true) := by
      intro as₁ d₁ hpre hrun₁ hboth
      obtain ⟨hraw, hflv⟩ :=
        (record_opened fileName videoFrequency u hrun₁).both_iff.mp hboth
      exact hnot ⟨opensRaw_mono hpre hraw, opensFlv_mono hpre hflv⟩
    refine ⟨hexclusive, ?_, ?_⟩
    · exact isRaw_or_of_writtenBy hopened.written (hexclusive as d (List.prefix_refl as) hrun)
    · intro as₁ a d₁ d₂ hpre hrun₁ hstep hopens o ho
      have hrun₂ : ((RTPDump.construct fileName videoFrequency u).record (as₁ ++ [a])).outcome =
          .ok d₂ := by
        rw [record_concat hrun₁]
        exact hstep
      -- what was written before the packet is in the trace after it
      have hlater := (record_trace_isPrefix (RTPDump.construct fileName videoFrequency u)
        (List.prefix_append as₁ [a])).subset ho
      apply hopens.unwritten (hexclusive _ d₂ hpre hrun₂) (o := o)
      · exact (record_opened fileName videoFrequency u hrun₁).written _ ho
      · exact (record_opened fileName videoFrequency u hrun₂).written _ hlater

/-! ## A program stream -/

/-- A packet of a program stream. -/
def samplePsPacket : Arrival :=
  ⟨.ofBytes [0x80, 0x60, 0, 1, 0, 0, 0, 1, 0, 0, 0, 0, 0x00, 0x00, 0x01, 0xba] 16, .allGood⟩

/-- A fragment of type 98. -/
def sampleType98 : Arrival :=
  ⟨.ofBytes [0x80, 0x62, 0, 2, 0, 0, 0, 2, 0, 0, 0, 0, 0x7c, 0x85, 0x11] 15, .allGood⟩

/-- A program stream alone has one writer. -/
theorem record_writers_iff_samplePs :
    OneWriter (.construct "camera.ps" 90000 .zero) [samplePsPacket, samplePsPacket] :=
  (record_writers_iff "camera.ps" 90000 .zero (d := _) rfl).mpr (by decide)

/-- **Two writers**: a packet of type 98 opens `m_flv` on the file that the raw stream has open, and
truncates what was written. -/
theorem record_two_writers :
    ∃ d, ((RTPDump.construct "camera.ps" 90000 .zero).record [samplePsPacket, sampleType98]).outcome =
        .ok d ∧ d.flv = true ∧ d.psOutfile = .good ∧
      ((RTPDump.construct "camera.ps" 90000 .zero).record [samplePsPacket, sampleType98]).trace.take 4 =
        [.psOpen "camera.ps", .output (.raw [0x00, 0x00, 0x01, 0xba]),
          .flvOpenWrite "camera.ps" true, .flvWriteHeader true flvHeaderBytes] := by
  refine ⟨_, rfl, ?_, ?_, ?_⟩
  · rfl
  · rfl
  · decide

end RtpCapture
