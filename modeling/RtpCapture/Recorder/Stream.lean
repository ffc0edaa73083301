import RtpCapture.Recorder.Progress
import RtpCapture.Recorder.Reassembly

/-! # A sender's stream without losses

The packets of a stream that arrives complete and in order, with the file opened and every write
successful, and what the depacketizer makes of them.

* **`OnFlvPath`** — every packet of a list is taken for H.264.
* **`videoArrivals`** — the video packets among others, which the depacketizer does not notice.
* **`SentUnit`** — a NAL unit with the packets it was sent in; its structure carries the proof that
  these packets are a packetisation of it.
* **`units_handed`** — the depacketizer hands on exactly the units, one call for each, and the
  packets fit when the calls do. -/

namespace RtpCapture

open Traced

/-! ## Packets on the FLV path -/

/-- A packet that arrives while the file system is in order. -/
def Packet.arrive (p : Packet) : Arrival := ⟨p, .allGood⟩

/-- **Packets on the FLV path**: each has payload type 98, or 96 in a session that is not a program
stream. -/
def OnFlvPath : Route → List Packet → Prop
  | _, [] => True
  | ro, p :: ps => ro.isH264 p = true ∧ OnFlvPath (ro.next p.arrive) ps

instance OnFlvPath.decidable : (ro : Route) → (ps : List Packet) → Decidable (OnFlvPath ro ps)
  | _, [] => instDecidableTrue
  | ro, p :: ps => @instDecidableAnd _ _ _ (decidable (ro.next p.arrive) ps)

/-- A packet taken for H.264 reaches the H.264 part when nothing fails. -/
theorem Route.reaches_arrive {ro : Route} {p : Packet} (h : ro.isH264 p = true) :
    ro.reaches p.arrive = true := by
  simp [reaches, next, Packet.arrive, h, FileResults.allGood]

/-- The route after some packets. -/
theorem onFlvPath_append {s : Depacketizer} {ps qs : List Packet} :
    OnFlvPath s.route (ps ++ qs) ↔
      OnFlvPath s.route ps ∧ OnFlvPath (s.after (ps.map Packet.arrive)).route qs := by
  induction ps generalizing s with
  | nil => simp [OnFlvPath]
  | cons p ps ih =>
      rw [List.cons_append, OnFlvPath, OnFlvPath, and_assoc]
      exact and_congr_right fun _ => ih (s := s.next p.arrive)

/-! ## Other packets in between -/

/-- A version 2 packet of type 96 or 98; every other packet goes past the H.264 part. -/
def Packet.isVideo (p : Packet) : Bool := p.isRtp ∧ (p.pt = 96 ∨ p.pt = 98)

/-- Only the video packets of a list of arrivals. -/
def videoArrivals (as : List Arrival) : List Arrival := as.filter fun a => a.packet.isVideo

/-- The first packet is kept if it is video. -/
theorem videoArrivals_cons (a : Arrival) (as : List Arrival) :
    videoArrivals (a :: as) =
      if a.packet.isVideo = true then a :: videoArrivals as else videoArrivals as := by
  simp only [videoArrivals, List.filter_cons]

/-- A packet that is no video packet leaves the depacketizer alone. -/
theorem Depacketizer.next_of_not_isVideo {a : Arrival} (s : Depacketizer)
    (h : ¬ a.packet.isVideo = true) :
    s.next a = s ∧ s.call a = none ∧ s.route.reaches a = false := by
  rw [Packet.isVideo, decide_eq_true_eq] at h
  obtain ⟨hnext, hreaches⟩ := @Route.next_of_ignored s.route a h
  simp [next, call, hnext, hreaches]

/-- The other packets amount to no call. -/
theorem Depacketizer.handed_videoArrivals (s : Depacketizer) (as : List Arrival) :
    s.handed (videoArrivals as) = s.handed as := by
  induction as generalizing s with
  | nil => rfl
  | cons a as ih =>
      rw [videoArrivals_cons]
      by_cases hvideo : a.packet.isVideo = true
      · rw [if_pos hvideo, handed, handed, ih]
      · obtain ⟨hnext, hcall, -⟩ := s.next_of_not_isVideo hvideo
        rw [if_neg hvideo, handed, hnext, hcall, ih]
        rfl

/-- They exceed no limit either. -/
theorem Depacketizer.fits_of_videoArrivals {s : Depacketizer} {m : Assembly} {as : List Arrival}
    (h : s.Fits m (videoArrivals as)) : s.Fits m as := by
  induction as generalizing s m with
  | nil => exact always_nil
  | cons a as ih =>
      rw [← List.singleton_append, fits_append, fits_singleton, after_singleton, handed_singleton]
      rw [videoArrivals_cons] at h
      by_cases hvideo : a.packet.isVideo = true
      · rw [if_pos hvideo, ← List.singleton_append, fits_append, fits_singleton, after_singleton,
          handed_singleton] at h
        exact ⟨h.1, ih h.2⟩
      · obtain ⟨hnext, hcall, hreaches⟩ := s.next_of_not_isVideo hvideo
        rw [if_neg hvideo] at h
        rw [hnext, hcall]
        refine ⟨⟨fun hr _ => ?_, fun c hc => ?_⟩, ih h⟩
        · rw [hreaches] at hr
          cases hr
        · rw [hcall] at hc
          cases hc

/-! ## Runs of fragments -/

/-- Timestamp and marker of the last of some packets. -/
def lastTime (ps : List Packet) : Word := (ps.getLast?.map Packet.time).getD 0

/-- The marker of the last packet. -/
def lastMarker (ps : List Packet) : Bool := (ps.getLast?.map Packet.marker).getD false

/-- A run of fragments has a packet. -/
theorem FragmentRun.ne_nil {header : Byte} {first : Bool} {body : List Byte} {ps : List Packet}
    (h : FragmentRun header first body ps) : ps ≠ [] := by
  cases h <;> simp

/-- The last packet of more than one is not the first. -/
theorem getLast?_cons_of_ne_nil {p : Packet} {ps : List Packet} (h : ps ≠ []) :
    (p :: ps).getLast? = ps.getLast? := by
  obtain ⟨q, qs, rfl⟩ := List.exists_cons_of_ne_nil h
  exact List.getLast?_cons_cons

/-- **A run of fragments hands on one NAL unit**: what was there, or the header for the first
fragment, and the body. -/
theorem FragmentRun.handed {header : Byte} {first : Bool} {body : List Byte} {ps : List Packet}
    (h : FragmentRun header first body ps) {s : Depacketizer} {m : Assembly}
    {before : List Byte} (hbefore : before = if first then [header] else s.nal)
    (hflv : OnFlvPath s.route ps) (hsize : (before ++ body).length ≤ nalDataSize) :
    s.handed (ps.map Packet.arrive) =
        [⟨nalType ((before ++ body).headD s.stale), before ++ body, lastTime ps, lastMarker ps⟩] ∧
      (m.Fits ⟨nalType ((before ++ body).headD s.stale), before ++ body, lastTime ps,
        lastMarker ps⟩ → s.Fits m (ps.map Packet.arrive)) := by
  induction h generalizing s before with
  | @last first p piece h =>
      obtain ⟨hfua, hstart, hend, hheader, hpayload⟩ := h.fragment
      have hfragment : s.fragment p = before ++ piece := by
        rw [Depacketizer.fragment, hstart, hheader, hpayload, hbefore]
      have hcall : s.call p.arrive = some ⟨nalType ((before ++ piece).headD s.stale),
          before ++ piece, p.time, p.marker⟩ := by
        rw [Depacketizer.call, if_pos (Route.reaches_arrive hflv.1), ← hfragment]
        exact (if_pos hfua).trans (if_pos hend)
      rw [List.map_singleton, Depacketizer.handed_singleton, hcall]
      refine ⟨rfl, fun hfits => Depacketizer.fits_singleton.mpr ⟨fun _ _ => ?_, fun c hc => ?_⟩⟩
      · show (s.fragment p).length ≤ nalDataSize
        rw [hfragment]
        exact hsize
      · obtain rfl := Option.some.inj (hcall.symm.trans hc)
        exact hfits
  | @more first p piece body ps h hrest ih =>
      obtain ⟨hfua, hstart, hend, hheader, hpayload⟩ := h.fragment
      have hfragment : s.fragment p = before ++ piece := by
        rw [Depacketizer.fragment, hstart, hheader, hpayload, hbefore]
      have hreaches := Route.reaches_arrive hflv.1
      have hcall : s.call p.arrive = none := by
        rw [Depacketizer.call, if_pos hreaches]
        refine (if_pos hfua).trans (if_neg ?_)
        rw [show p.arrive.packet = p from rfl, hend]
        exact Bool.false_ne_true
      -- the rest of the run starts from what this fragment left
      have hnal : (s.next p.arrive).nal = before ++ piece := by
        rw [← hfragment]
        exact (if_pos hreaches).trans (if_pos hfua)
      have hlast : lastTime (p :: ps) = lastTime ps ∧ lastMarker (p :: ps) = lastMarker ps := by
        rw [lastTime, lastMarker, getLast?_cons_of_ne_nil hrest.ne_nil]
        exact ⟨rfl, rfl⟩
      obtain ⟨hhanded, hfits⟩ := ih (s := s.next p.arrive) hnal.symm hflv.2
        (by rwa [List.append_assoc])
      rw [List.append_assoc] at hhanded hfits
      rw [List.map_cons, ← List.singleton_append, Depacketizer.handed_append,
        Depacketizer.handed_singleton, hcall, Depacketizer.after_singleton, hhanded, hlast.1,
        hlast.2]
      refine ⟨rfl, fun hm => Depacketizer.fits_append.mpr ⟨?_, ?_⟩⟩
      · refine Depacketizer.fits_singleton.mpr ⟨fun _ _ => ?_, fun c hc => ?_⟩
        · show (s.fragment p).length ≤ nalDataSize
          rw [hfragment]
          simp only [List.length_append] at hsize ⊢
          omega
        · rw [hcall] at hc
          cases hc
      · rw [Depacketizer.handed_singleton, hcall]
        exact hfits hm

/-! ## NAL units and the packets they were sent in -/

/-- **One unit, one call**, however it was sent. -/
theorem SentAs.handed {nal : List Byte} {ps : List Packet} (h : SentAs nal ps)
    (hnal : IsNalUnit nal) (hsize : nal.length ≤ nalDataSize) {s : Depacketizer} {m : Assembly}
    (hflv : OnFlvPath s.route ps) :
    s.handed (ps.map Packet.arrive) =
        [⟨nalType (nal.headD 0), nal, lastTime ps, lastMarker ps⟩] ∧
      (m.Fits ⟨nalType (nal.headD 0), nal, lastTime ps, lastMarker ps⟩ →
        s.Fits m (ps.map Packet.arrive)) := by
  cases h with
  | @single p h =>
      have hfua := h.isFuA_of_isNalUnit hnal
      have hcall : s.call p.arrive = some ⟨nalType (nal.headD 0), nal, p.time, p.marker⟩ := by
        obtain ⟨header, body, rfl, -, -⟩ := hnal
        rw [Depacketizer.call, if_pos (Route.reaches_arrive hflv.1)]
        refine (if_neg (Bool.eq_false_iff.mp hfua)).trans ?_
        rw [show p.arrive.packet = p from rfl, h.h264Buf (i := 0) rfl, h.payload]
        rfl
      rw [List.map_singleton, Depacketizer.handed_singleton, hcall]
      refine ⟨rfl, fun hfits => Depacketizer.fits_singleton.mpr ⟨fun _ hc => ?_, fun c hc => ?_⟩⟩
      · rw [show p.arrive.packet = p from rfl, hfua] at hc
        cases hc
      · obtain rfl := Option.some.inj (hcall.symm.trans hc)
        exact hfits
  | @fragmented header body _ hnal' h =>
      subst hnal'
      have hbefore : [header] = if true then [header] else s.nal := rfl
      exact h.handed hbefore hflv hsize

/-- **A NAL unit with the packets it was sent in.** -/
structure SentUnit where
  nal : List Byte
  packets : List Packet
  isNalUnit : IsNalUnit nal
  size : nal.length ≤ nalDataSize
  sentAs : SentAs nal packets

namespace SentUnit

/-- The type of the unit. -/
def type (u : SentUnit) : Byte := nalType (u.nal.headD 0)

/-- The call of `videoHandler` a unit amounts to. -/
def call (u : SentUnit) : Call := ⟨u.type, u.nal, lastTime u.packets, lastMarker u.packets⟩

/-- A sent unit amounts to one call, and exceeds a limit only if that call does. -/
theorem handed (u : SentUnit) {s : Depacketizer} {m : Assembly}
    (hflv : OnFlvPath s.route u.packets) :
    s.handed (u.packets.map Packet.arrive) = [u.call] ∧
      (m.Fits u.call → s.Fits m (u.packets.map Packet.arrive)) :=
  u.sentAs.handed u.isNalUnit u.size hflv

end SentUnit

/-- The packets of some units. -/
def packetsOf (us : List SentUnit) : List Packet := us.flatMap SentUnit.packets

/-- **The depacketizer hands on exactly the units**, and the packets fit when the calls do. -/
theorem units_handed (us : List SentUnit) {s : Depacketizer} {m : Assembly}
    (hflv : OnFlvPath s.route (packetsOf us)) :
    s.handed ((packetsOf us).map Packet.arrive) = us.map SentUnit.call ∧
      (Always (fun past c => (past.foldl Assembly.feed m).Fits c) (us.map SentUnit.call) →
        s.Fits m ((packetsOf us).map Packet.arrive)) := by
  induction us generalizing s m with
  | nil => exact ⟨rfl, fun _ => always_nil⟩
  | cons u us ih =>
      rw [packetsOf, List.flatMap_cons, ← packetsOf, onFlvPath_append] at hflv
      -- the packets of one unit hand on the unit, whatever was gathered before
      obtain ⟨hhanded, hfits⟩ := u.handed (m := m) hflv.1
      obtain ⟨hrest, hfitsRest⟩ := ih (m := m.feed u.call) hflv.2
      rw [packetsOf, List.flatMap_cons, ← packetsOf, List.map_append, Depacketizer.handed_append,
        hhanded, hrest, Depacketizer.fits_append, hhanded]
      refine ⟨rfl, fun hcalls => ?_⟩
      rw [List.map_cons, always_cons] at hcalls
      exact ⟨hfits hcalls.1, hfitsRest hcalls.2⟩

end RtpCapture
