import RtpCapture.Recorder.Simulation

/-! # Recordings that run to their end

A recording stops at a copy past the end of an array, at an assertion of the AVC muxer, or at a
division trap. This module says when none of them happens.

* **`Assembly.Fits`** — a call of `videoHandler` that stays inside the arrays: the SPS, the sequence
  header and the access unit are small enough.
* **`videoHandler_returns`** — such a call returns, at a positive clock rate and with an open file.
* **`record_returns`** — a recording returns when all its fragments and calls fit. -/

namespace RtpCapture

open Traced

/-! ## What has to fit -/

/-- **The sequence header can be built** from the parameter sets stored. -/
def Assembly.HeaderFits (m : Assembly) : Prop :=
  ∃ sps pps, m.sps = some sps ∧ m.pps = some pps ∧ 4 ≤ sps.length ∧ 1 ≤ pps.length ∧
    (avcDecoderConfiguration sps pps).length + 5 ≤ spsPpsTagDataSize

/-- **A call that fits** when it meets the assembly `m`. -/
structure Assembly.Fits (m : Assembly) (c : Call) : Prop where
  sps : m.sets ≠ 2 → c.type = 7 → c.nal.length ≤ spsArraySize
  header : m.sets ≠ 2 → (m.feed c).sets = 2 → (m.feed c).HeaderFits
  slice : m.sets = 2 → c.isSlice = true → 5 + (pack (m.pending ++ [c])).length ≤ videoDataSize

/-- The configuration record has eleven bytes around the two parameter sets. -/
@[simp] theorem length_avcDecoderConfiguration (sps pps : List Byte) :
    (avcDecoderConfiguration sps pps).length = 11 + sps.length + pps.length := by
  simp [avcDecoderConfiguration, bigEndian16]
  omega

section Returns

variable {m : Assembly} {d : RTPDump} {c : Call} {buf : Memory} {len : ℕ}

/-- Writing a tag through an open context returns. -/
theorem srsFlvWriteTag_returns {flv : Bool} (hflv : flv = true) (type : TagType)
    (timestamp : Word) (data : List Byte) (written : Bool) :
    (srsFlvWriteTag flv type timestamp data written).outcome = .ok () := by
  subst hflv
  cases written <;> rfl

/-- The SPS branch returns when the SPS fits its array. -/
theorem storeSps_returns (hc : c.ReadFrom buf len)
    (hfits : c.type = 7 → c.nal.length ≤ spsArraySize) :
    ∃ d', (storeSps d buf len).outcome = .ok d' := by
  unfold storeSps
  rw [hc.type]
  split
  · rename_i hsps
    rw [hc.length] at hfits
    rw [if_neg (Nat.not_lt.mpr (hfits hsps))]
    exact ⟨_, rfl⟩
  · exact ⟨_, rfl⟩

/-- The PPS branch returns. -/
theorem storePps_returns (d : RTPDump) (buf : Memory) (len : ℕ) :
    ∃ d', (storePps d buf len).outcome = .ok d' := by
  unfold storePps
  split <;> exact ⟨_, rfl⟩

/-- The sequence header is written when it can be built. -/
theorem writeSequenceHeader_returns (hm : m.Matches d) (hflv : d.flv = true) (r : FileResults)
    (timestamp : Word) (hfits : m.sets = 2 → m.HeaderFits) :
    ∃ d', (writeSequenceHeader r d timestamp).outcome = .ok d' := by
  unfold writeSequenceHeader
  split
  swap
  · exact ⟨_, rfl⟩
  rename_i hsets
  obtain ⟨sps, pps, hsps, hpps, hmin, hmin', hsize⟩ := hfits (hm.sets.symm.trans hsets)
  obtain ⟨hspsSize, hspsRead⟩ := hm.sps sps hsps
  obtain ⟨hppsSize, hppsRead⟩ := hm.pps pps hpps
  have hwrite : (srsFlvWriteSpsPpsTag d.flv timestamp d.sps d.spsSize d.pps d.ppsSize
      r.written).outcome = .ok () := by
    unfold srsFlvWriteSpsPpsTag muxSequenceHeader
    rw [hspsSize, hppsSize, Int.toNat_natCast, Int.toNat_natCast, hspsRead, hppsRead, hflv,
      emit_bind, if_neg (by decide), if_neg (by omega), if_neg (by omega), if_neg (by omega),
      pure_bind, if_neg (by omega)]
    cases r.written <;> rfl
  exact ⟨d, by rw [bind_of_ok hwrite]; rfl⟩

/-- The slice branch returns when the access unit fits its buffer. -/
theorem slicePhase_returns (hm : m.Matches d) (hc : c.ReadFrom buf len) (hflv : d.flv = true)
    (r : FileResults) (timestamp : Word) (marker : Bool)
    (hfits : c.isSlice = true → 5 + (pack (m.pending ++ [c])).length ≤ videoDataSize) :
    ∃ d', (slicePhase r d buf len timestamp marker).outcome = .ok d' := by
  unfold slicePhase
  rw [hc.type]
  split
  swap
  · exact ⟨_, rfl⟩
  rename_i hslice
  have hsize := hfits (decide_eq_true hslice)
  rw [(hm.appendSlice hc).length.symm] at hsize
  have hcopy : ¬ videoDataSize < 5 + d.length + 4 + len := by
    simp only [appendSlice] at hsize
    omega
  rw [emit_bind, if_neg hcopy]
  split
  · unfold flushSlices
    have hopen : (appendSlice d buf len).flv = true := hflv
    rw [bind_of_ok (srsFlvWriteTag_returns hopen _ _ _ _)]
    exact ⟨_, rfl⟩
  · exact ⟨_, rfl⟩

/-- Both phases return on a call that fits. -/
theorem nalPhase_returns (hm : m.Matches d) (hc : c.ReadFrom buf len) (hflv : d.flv = true)
    (r : FileResults) (timestamp : Word) (marker : Bool) (hfits : m.Fits c) :
    ∃ d', (nalPhase r d buf len timestamp marker).outcome = .ok d' := by
  unfold nalPhase
  rw [hm.sets]
  by_cases hsets : m.sets = 2
  · rw [if_neg (not_not.mpr hsets)]
    exact slicePhase_returns hm hc hflv r timestamp marker (hfits.slice hsets)
  · rw [if_pos hsets]
    unfold parameterSetPhase
    obtain ⟨d₁, h₁⟩ := storeSps_returns (d := d) hc (hfits.sps hsets)
    obtain ⟨d₂, h₂⟩ := storePps_returns d₁ buf len
    have hm₁ := (storeSps_simulates hm hc []).2 d₁ h₁
    have hm₂ := (storePps_simulates hm₁.1 hc []).2 d₂ h₂
    have hflv₂ : d₂.flv = true := by
      have hframe := ((storeSps_frame d buf len []).2 d₁ h₁).trans
        ((storePps_frame d₁ buf len []).2 d₂ h₂)
      exact (congrArg Route.flv hframe.route).trans hflv
    obtain ⟨d₃, h₃⟩ := writeSequenceHeader_returns hm₂.1 hflv₂ r timestamp fun h => by
      have hfeed : m.feed c = (m.storeSps c).storePps c := by rw [Assembly.feed, if_pos hsets]
      rw [← hfeed] at h ⊢
      exact hfits.header hsets h
    exact ⟨d₃, by rw [bind_of_ok h₁, bind_of_ok h₂, h₃]⟩

/-- **`videoHandler` returns** on a call that fits, at a positive clock rate. -/
theorem videoHandler_returns (hm : m.Matches d) (hc : c.ReadFrom buf len) (hflv : d.flv = true)
    (hfrequency : 0 < d.videoFrequency.toInt) (r : FileResults) (time : Word) (marker : Bool)
    (hfits : m.Fits c) : ∃ d', (videoHandler r d buf len time marker).outcome = .ok d' := by
  unfold videoHandler
  rw [Clock.tick_of_pos hfrequency, emit_bind]
  dsimp only
  have hclock : m.Matches { d with
      videoClock := ⟨time, ((d.videoClock.setBase time).skipGap d.videoFrequency time).baseTime⟩ } :=
    ⟨hm.sets, hm.sps, hm.pps, hm.length, hm.data⟩
  obtain ⟨d', hd'⟩ := nalPhase_returns hclock hc hflv r _ marker hfits
  exact ⟨{ d' with isVideoBegin := 1 }, by rw [emit_bind, bind_of_ok hd']; rfl⟩

/-- **The audio handler returns** once the file is open: eight is no divisor that traps. -/
theorem audioHandler_returns (hflv : d.flv = true) (r : FileResults) (payload : List Byte)
    (time : Word) (type : AudioType) :
    ∃ d', (audioHandler r d payload time type).outcome = .ok d' := by
  unfold audioHandler
  rw [Clock.tick_of_pos (by decide), emit_bind]
  dsimp only
  rw [emit_bind]
  split
  · rw [bind_of_ok (srsFlvWriteTag_returns hflv _ _ _ _)]
    exact ⟨_, rfl⟩
  · exact ⟨_, rfl⟩

end Returns

/-! ## One packet -/

/-- **A packet that fits** when it meets the depacketizer `s` and the assembly `m`. -/
structure Arrival.Fits (s : Depacketizer) (m : Assembly) (a : Arrival) : Prop where
  fragment : s.route.reaches a = true → a.packet.isFuA = true →
    (s.fragment a.packet).length ≤ nalDataSize
  call : ∀ c, s.call a = some c → m.Fits c

/-- The H.264 part returns on a packet that fits. -/
theorem nalHandler_returns {s : Depacketizer} {m : Assembly} {d : RTPDump} (hs : s.Matches d)
    (hm : m.Matches d) (hflv : d.flv = true) (hfrequency : 0 < d.videoFrequency.toInt)
    (r : FileResults) (p : Packet)
    (hfragment : p.isFuA = true → (s.fragment p).length ≤ nalDataSize)
    (hcall : ∀ c, s.completed p = some c → m.Fits c) :
    ∃ d', (nalHandler r d p).outcome = .ok d' := by
  unfold Depacketizer.completed at hcall
  by_cases hfua : p.isFuA = true
  swap
  · rw [nalHandler, if_neg fun hc => hfua (Packet.isFuA_iff.mpr hc)]
    rw [if_neg hfua] at hcall
    exact videoHandler_returns hm ⟨rfl, rfl⟩ hflv hfrequency r _ _ (hcall _ rfl)
  rw [if_pos hfua] at hcall
  have hmatches := hs.of_fragment p
  have hroom : ¬ nalDataSize < (d.gathered p).nalLength := by
    rw [hmatches.length]
    exact Nat.not_lt.mpr (hfragment hfua)
  rw [nalHandler_of_fragment (Packet.isFuA_iff.mp hfua), emit_bind, if_neg hroom]
  -- the NAL unit that is gathered concerns none of the other arrays
  have hsame : m.Matches (d.gathered p) ∧ (d.gathered p).flv = true ∧
      0 < (d.gathered p).videoFrequency.toInt := by
    obtain ⟨nalData, nalLength, hgathered⟩ := d.gathered_eq p
    rw [hgathered]
    exact ⟨⟨hm.sets, hm.sps, hm.pps, hm.length, hm.data⟩, hflv, hfrequency⟩
  obtain ⟨hm', hflv', hfrequency'⟩ := hsame
  by_cases hend : p.isEnd = true
  · rw [if_pos (Packet.isEnd_iff.mp hend)]
    rw [if_pos hend] at hcall
    refine videoHandler_returns hm' ⟨?_, ?_⟩ hflv' hfrequency' r _ _ (hcall _ rfl)
    · rw [hmatches.head]
    · rw [hmatches.data]
  · rw [if_neg fun hc => hend (Packet.isEnd_iff.mpr hc)]
    exact ⟨_, rfl⟩

/-- **A step on a packet that fits returns** and keeps the clock rate. -/
theorem step_returns {s : Depacketizer} {history : List Event} {d : RTPDump} (hs : s.Matches d)
    (h : Simulates history d) (hfrequency : 0 < d.videoFrequency.toInt) {a : Arrival}
    (hfits : a.Fits s (assemble (calls history))) :
    ∃ d', (d.step a).outcome = .ok d' := by
  rcases step_cases d a with ⟨-, hbegin, hstep⟩ | ⟨pre, d', hprelude, hopen, hstep⟩
  · -- audio is taken only after `videoHandler` was entered, and so with the file open
    have hcalls : calls history ≠ [] := by
      intro hnil
      rw [h.begun, if_pos hnil] at hbegin
      exact hbegin rfl
    rw [hstep]
    exact audioHandler_returns (h.flv hcalls) _ _ _ _
  · rw [hstep]
    split
    swap
    · exact ⟨d', rfl⟩
    rename_i hreaches
    have hs' := hs.of_prelude hprelude
    have hreaches' : s.route.reaches a = true := by rw [← hs.route]; exact hreaches
    obtain ⟨psOutfile, hd'⟩ := hprelude.state
    have hm' : (assemble (calls history)).Matches d' := by
      rw [hd']
      exact ⟨h.arrays.sets, h.arrays.sps, h.arrays.pps, h.arrays.length, h.arrays.data⟩
    refine nalHandler_returns hs' hm' (hopen hreaches) (by rw [hd']; exact hfrequency) _ _
      (hfits.fragment hreaches') fun c hc => hfits.call c ?_
    rw [Depacketizer.call, if_pos hreaches']
    exact hc

/-! ## A whole recording -/

/-- **All packets fit**, when the first one meets the depacketizer `s` and the assembly `m`. -/
def Depacketizer.Fits (s : Depacketizer) (m : Assembly) (as : List Arrival) : Prop :=
  Always (fun past a => a.Fits (s.after past) ((s.handed past).foldl Assembly.feed m)) as

/-- One packet that fits. -/
theorem Depacketizer.fits_singleton {s : Depacketizer} {m : Assembly} {a : Arrival} :
    s.Fits m [a] ↔ a.Fits s m := by
  rw [Fits, always_singleton]
  rfl

/-- Packets that fit can be taken apart anywhere. -/
theorem Depacketizer.fits_append {s : Depacketizer} {m : Assembly} {as bs : List Arrival} :
    s.Fits m (as ++ bs) ↔
      s.Fits m as ∧ (s.after as).Fits ((s.handed as).foldl Assembly.feed m) bs := by
  rw [Fits, always_append]
  refine and_congr_right fun _ => ?_
  simp only [Fits, after_append, handed_append, List.foldl_append]

/-- A recording returns from any state when all its packets fit. -/
theorem run_returns {s : Depacketizer} {history : List Event} {d : RTPDump} (hs : s.Matches d)
    (h : Simulates history d) (hfrequency : 0 < d.videoFrequency.toInt) {as : List Arrival}
    (hfits : s.Fits (assemble (calls history)) as) :
    ∃ d', (d.record as).outcome = .ok d' := by
  -- induction on the packets; what has to fit is said of the depacketizer and the assembly
  induction as generalizing s history d with
  | nil => exact ⟨d, rfl⟩
  | cons a as ih =>
      rw [← List.singleton_append, Depacketizer.fits_append, Depacketizer.fits_singleton] at hfits
      obtain ⟨hhead, htail⟩ := hfits
      obtain ⟨d₁, hd₁⟩ := step_returns hs h hfrequency hhead
      obtain ⟨hs₁, hcalls₁⟩ := (Depacketizer.step_handed (P := fun _ _ => True) hs a
        (fun _ _ _ => trivial) (fun _ _ _ _ _ _ => trivial)
        (fun _ _ _ _ => trivial)).2 d₁ hd₁
      have h₁ := (step_simulates h a).2 d₁ hd₁
      have htail' : (s.next a).Fits (assemble (calls (history ++ (d.step a).trace))) as := by
        rw [hcalls₁, assemble, List.foldl_append]
        rwa [Depacketizer.after_singleton, Depacketizer.handed_singleton] at htail
      obtain ⟨d', hd'⟩ := ih hs₁ h₁ ((step_videoFrequency hd₁).symm ▸ hfrequency) htail'
      exact ⟨d', by rw [RTPDump.record, run_cons_of_ok hd₁]; exact hd'⟩

/-- **A recording returns** when all its packets fit, at a positive clock rate. -/
theorem record_returns (fileName : String) (videoFrequency : Word) (u : Uninitialised)
    (hfrequency : 0 < (videoFrequency.sdiv 1000).toInt) {as : List Arrival}
    (hfits : (Depacketizer.start (u.nalData 0)).Fits .empty as) :
    ∃ d', ((RTPDump.construct fileName videoFrequency u).record as).outcome = .ok d' := by
  have hinit := (record_simulates fileName videoFrequency u []).2 _ rfl
  exact run_returns (RTPDump.matches_construct fileName videoFrequency u) hinit hfrequency hfits

/-! ## Single-NAL packets -/

/-- The call of a single-NAL packet. -/
def Packet.wholeCall (p : Packet) : Call :=
  ⟨nalType (p.h264Buf 0), p.payload, p.time, p.marker⟩

/-- The NAL unit of a packet of its own is its payload. -/
@[simp] theorem Packet.length_wholeCall (p : Packet) : p.wholeCall.nal.length = p.h264Len :=
  p.length_payload

/-- A single-NAL packet of type 98 with a file that opens. -/
structure IsWhole (a : Arrival) : Prop where
  isRtp : a.packet.isRtp = true
  pt : a.packet.pt = 98
  opened : a.results.opened = true
  isFuA : a.packet.isFuA = false

/-- A NAL unit in a packet of its own is handed over. -/
theorem IsWhole.call {a : Arrival} (h : IsWhole a) (s : Depacketizer) :
    s.call a = some a.packet.wholeCall := by
  rw [Depacketizer.call, if_pos (Route.reaches_of_98 h.isRtp h.pt h.opened),
    Depacketizer.completed, h.isFuA]
  rfl

/-- So are all of them, in order. -/
theorem IsWhole.handed {as : List Arrival} (h : ∀ a ∈ as, IsWhole a) (s : Depacketizer) :
    s.handed as = as.map fun a => a.packet.wholeCall := by
  induction as generalizing s with
  | nil => rfl
  | cons a as ih =>
      rw [Depacketizer.handed, (h a List.mem_cons_self).call,
        ih (fun b hb => h b (List.mem_cons_of_mem a hb)), List.map_cons]
      rfl

/-- A single-NAL packet fits when its call does. -/
theorem IsWhole.fits {a : Arrival} (h : IsWhole a) (s : Depacketizer) {m : Assembly}
    (hcall : m.Fits a.packet.wholeCall) : a.Fits s m where
  fragment _ hfua := by rw [h.isFuA] at hfua; cases hfua
  call c hc := by
    obtain rfl := Option.some.inj ((h.call s).symm.trans hc)
    exact hcall

end RtpCapture
