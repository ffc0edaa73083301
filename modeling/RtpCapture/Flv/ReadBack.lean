import RtpCapture.Flv.Decoder

/-! # Reading back what was written

* **`flvFile`** — a file of a header and some tags. `readFile_flvFile` reads it back, and
  `readFile_take` says what is read of it when it ends anywhere before.
* **`Written`** — some calls of `srs_flv_write_tag`, each of which is stored as a whole or fails at
  its first write. `prefix_readFile` reads the tags stored so far back, whatever the disk does to the
  calls that follow.
* **`readFile_ends`** — a player comes to the end of any file. -/

namespace RtpCapture

open Records

namespace FlvContext

variable {stale : ℕ → Memory} {f : SrsFileReader} {n : ℕ} {header : List Byte}

/-- A header that a player accepts. -/
structure Signed (header : List Byte) : Prop where
  length : header.length = 9
  signature : header.take 3 = [0x46, 0x4c, 0x56]

/-- **A file of a header and some tags.** -/
def flvFile (header : List Byte) (ts : List FlvTag) : List Byte :=
  header ++ ([0x00, 0x00, 0x00, 0x00] ++ stream FlvTag.encode ts)

/-- The opened file. -/
def opened (fd : ℤ) (content : List Byte) : SrsFileReader := ⟨fd, content, 0⟩

/-! ## Headers -/

/-- **A header is read** when a byte of the size behind it is there. -/
theorem readHeader_ok (hheader : Signed header) (hopen : f.isOpen = true) {tail : List Byte}
    (hne : tail ≠ []) (h : f.rest = header ++ tail) {buf ts : List Byte} (hbuf : buf.length = 9)
    (hts : ts.length = 4) :
    ∃ f', readHeader buf ts f = .ok header f' ∧ f'.isOpen = true ∧ f'.rest = tail.drop 4 := by
  obtain ⟨a, b, c, l, rfl⟩ : ∃ a b c l, header = a :: b :: c :: l := by
    match header, hheader.length with
    | a :: b :: c :: l, _ => exact ⟨a, b, c, l, rfl⟩
  obtain ⟨rfl, rfl, rfl⟩ : a = 0x46 ∧ b = 0x4c ∧ c = 0x56 := by
    simpa using hheader.signature
  obtain ⟨f₁, hread, hopen₁, hrest₁⟩ := SrsFileReader.read_full (List.cons_ne_nil _ _)
    (hbuf.trans hheader.length.symm) h
  have hts' : ts ≠ [] := by
    rintro rfl
    cases hts
  obtain ⟨f₂, hpts, hopen₂, hrest₂⟩ := SrsFileReader.read_ok f₁ hts' (by rw [hrest₁]; exact hne)
  have hdecoded : SrsFlvDecoder.readHeader buf f = .ok (0x46 :: 0x4c :: 0x56 :: l) f₁ := by
    rw [SrsFlvDecoder.readHeader, bind_ok _ hread]
    rfl
  refine ⟨f₂, ?_, hopen₂.trans (hopen₁.trans hopen), by rw [hrest₂, hrest₁, hts]⟩
  rw [readHeader, whenReadable_of_isOpen _ hopen, bind_ok _ hdecoded,
    SrsFlvDecoder.readPreviousTagSize, bind_ok _ hpts]
  rfl

/-- **A header with nothing behind it** is not read. -/
theorem readHeader_of_length_le (hopen : f.isOpen = true) (h : f.rest.length ≤ 9) {buf : List Byte}
    (hbuf : buf.length = 9) (ts : List Byte) :
    ∃ e f', readHeader buf ts f = .error e f' := by
  rw [readHeader, whenReadable_of_isOpen _ hopen, SrsFlvDecoder.readHeader]
  by_cases hnil : f.rest = []
  · exact ⟨_, f, bind_error _ (bind_error _ (SrsFileReader.read_eof buf hnil))⟩
  have hbuf' : buf ≠ [] := by
    rintro rfl
    cases hbuf
  obtain ⟨f₁, hread, hopen₁, hrest₁⟩ := SrsFileReader.read_ok f hbuf' hnil
  rw [hbuf, List.drop_of_length_le h] at hrest₁
  by_cases hsigned : (f.rest.take buf.length ++
      buf.drop (f.rest.take buf.length).length).getD 0 0 ≠ 0x46 ∨ (f.rest.take buf.length ++
      buf.drop (f.rest.take buf.length).length).getD 1 0 ≠ 0x4c ∨ (f.rest.take buf.length ++
      buf.drop (f.rest.take buf.length).length).getD 2 0 ≠ 0x56
  · refine ⟨.error .kernelFlvHeader, f₁, bind_error _ ?_⟩
    rw [bind_ok _ hread, if_pos hsigned]
    rfl
  · have hdecoded := bind_ok (fun h : List Byte => if h.getD 0 0 ≠ 0x46 ∨ h.getD 1 0 ≠ 0x4c ∨
      h.getD 2 0 ≠ 0x56 then throw (.error .kernelFlvHeader) else (return h : Srs _ _)) hread
    rw [if_neg hsigned] at hdecoded
    refine ⟨.error .systemFileEof, f₁, ?_⟩
    rw [bind_ok _ hdecoded]
    exact bind_error _ (SrsFileReader.read_eof ts hrest₁)

/-- **A file that starts with another byte than `F`** is refused. -/
theorem readHeader_unsigned (hopen : f.isOpen = true) {b : Byte} (hb : b ≠ 0x46) {tail : List Byte}
    (h : f.rest = b :: tail) {buf : List Byte} (hbuf : buf.length = 9) (ts : List Byte) :
    ∃ f', readHeader buf ts f = .error (.error .kernelFlvHeader) f' := by
  have hbuf' : buf ≠ [] := by
    rintro rfl
    cases hbuf
  obtain ⟨f₁, hread, -, -⟩ := SrsFileReader.read_ok f hbuf' (by rw [h]; exact List.cons_ne_nil _ _)
  refine ⟨f₁, ?_⟩
  rw [readHeader, whenReadable_of_isOpen _ hopen, SrsFlvDecoder.readHeader]
  refine bind_error _ ?_
  rw [bind_ok _ hread, h, hbuf, List.take_succ_cons, List.cons_append, if_pos (.inl hb)]
  rfl

/-! ## Files -/

/-- A file that was just opened has all its content ahead. -/
theorem rest_opened (fd : ℤ) (content : List Byte) :
    (opened fd content).rest = content := List.drop_zero ..

variable {fd : ℤ} {ts : List FlvTag}

/-- **What is behind the header is read as tags.** -/
theorem readFile_header (hfd : 0 < fd) (hheader : Signed header) {tail : List Byte} (hne : tail ≠ [])
    (stale : ℕ → Memory) (n : ℕ) :
    ∃ f', readFile stale n (opened fd (header ++ tail)) =
        readAll (fun k => readTag (stale k)) n f' ∧
      f'.isOpen = true ∧ f'.rest = tail.drop 4 := by
  have hopen : (opened fd (header ++ tail)).isOpen = true := decide_eq_true hfd
  obtain ⟨f', hread, hopen', hrest⟩ := readHeader_ok hheader hopen hne (rest_opened fd _)
    (Memory.length_read (stale n) 0 9) (Memory.length_read (stale n) 9 srsFlvPreviousTagSize)
  exact ⟨f', by rw [readFile, hread], hopen', hrest⟩

/-- **The tags at the start of a file** are the first ones read of it. -/
theorem prefix_readFile_flvFile (hfd : 0 < fd) (hheader : Signed header)
    (hts : ∀ t ∈ ts, Storable t) (tail : List Byte) (stale : ℕ → Memory) (hn : ts.length ≤ n) :
    ts <+: (readFile stale n (opened fd (flvFile header ts ++ tail))).1 := by
  rw [flvFile, List.append_assoc, List.append_assoc]
  have hne : [0x00, 0x00, 0x00, 0x00] ++ (stream FlvTag.encode ts ++ tail) ≠ [] :=
    List.cons_ne_nil _ _
  obtain ⟨f', hread, hopen, hrest⟩ := readFile_header hfd hheader hne stale n
  rw [hread]
  exact prefix_readAll (readTag_takes stale) hts hopen hrest hn

/-- **A file cut anywhere** is read up to the last tag of which a byte of the size behind it is left:
the tags read are the first `m`, and a player sees the end of the file behind them. -/
theorem readFile_take (hfd : 0 < fd) (hheader : Signed header) (hts : ∀ t ∈ ts, Storable t)
    (k : ℕ) (stale : ℕ → Memory) (hn : ts.length < n) :
    ∃ m e, readFile stale n (opened fd ((flvFile header ts).take k)) = (ts.take m, some e) ∧
      (10 ≤ k → e = .error .systemFileEof) ∧ ∀ i (hi : i < ts.length),
        i < m ↔ (flvFile header (ts.take i)).length + ts[i].data.length + 12 ≤ k := by
  have hlength : ∀ ts, (flvFile header ts).length = 13 + (stream FlvTag.encode ts).length := by
    intro ts
    rw [flvFile, List.length_append, List.length_append, hheader.length, ← Nat.add_assoc]
    rfl
  rcases Nat.lt_or_ge k 10 with hk | hk
  case inl =>
    have hopen : (opened fd ((flvFile header ts).take k)).isOpen = true := decide_eq_true hfd
    obtain ⟨e, f', hread⟩ := readHeader_of_length_le hopen
      (by rw [rest_opened]; exact (List.length_take_le _ _).trans (by omega))
      (Memory.length_read (stale n) 0 9) ((stale n).read 9 srsFlvPreviousTagSize)
    refine ⟨0, e, by rw [readFile, hread]; rfl, fun h => by omega, fun i hi => ?_⟩
    rw [hlength]
    omega
  case inr =>
    have hcut : (flvFile header ts).take k = header ++
        ([0x00, 0x00, 0x00, 0x00] ++ stream FlvTag.encode ts).take (k - 9) := by
      rw [flvFile, List.take_append, hheader.length,
        List.take_of_length_le (by rw [hheader.length]; omega)]
    have hne : ([0x00, 0x00, 0x00, 0x00] ++ stream FlvTag.encode ts).take (k - 9) ≠ [] := by
      obtain ⟨j, hj⟩ : ∃ j, k - 9 = j + 1 := Nat.exists_eq_add_of_le' (by omega)
      rw [hj]
      exact List.cons_ne_nil _ _
    rw [hcut]
    obtain ⟨f', hread, hopen, hrest⟩ := readFile_header hfd hheader hne stale n
    rw [List.drop_take] at hrest
    obtain ⟨m, htags, hm⟩ := readAll_take (readTag_takes stale) (readTag_cuts stale) hts hopen
      hrest hn
    refine ⟨m, _, hread.trans htags, fun _ => rfl, fun i hi => (hm i hi).trans ?_⟩
    rw [hlength]
    omega

/-- **A file is read back.** -/
theorem readFile_flvFile (hfd : 0 < fd) (hheader : Signed header) (hts : ∀ t ∈ ts, Storable t)
    (stale : ℕ → Memory) (hn : ts.length < n) :
    readFile stale n (opened fd (flvFile header ts)) = (ts, some (.error .systemFileEof)) := by
  rw [flvFile]
  have hne : [0x00, 0x00, 0x00, 0x00] ++ stream FlvTag.encode ts ≠ [] := List.cons_ne_nil _ _
  obtain ⟨f', hread, hopen, hrest⟩ := readFile_header hfd hheader hne stale n
  obtain ⟨m, rfl⟩ := Nat.exists_eq_add_of_le hn.le
  have hstream : f'.rest = stream FlvTag.encode ts ++ [] := hrest.trans (List.append_nil _).symm
  obtain ⟨f'', hopen', hend, htags⟩ := readAll_stream (readTag_takes stale) hts hopen hstream m
  obtain ⟨j, rfl⟩ : ∃ j, m = j + 1 := Nat.exists_eq_add_of_le' (by omega)
  obtain ⟨f₃, hlast⟩ := (readTag_cuts stale).empty j f'' hopen' hend
  rw [hread, htags, readAll_of_error hlast, List.append_nil]

/-! ## Files on a disk that fails -/

/-- What `srs_flv_write_tag` stores when it is called for `t`. -/
def called (t : FlvTag) : FlvTag := FlvTag.ofCall t.type t.time t.data

/-- **Calls of `srs_flv_write_tag`** one after the other; a caller that only logs the error of one
goes on with the next. -/
def writeTags (disk : Disk) : List FlvTag → SrsFileWriter → SrsFileWriter
  | [], w => w
  | t :: ts, w => writeTags disk ts (after (writeTag disk t.type t.time t.data w))

/-- **The calls are stored as a whole or not at all**: `Written disk w ts ss w'` says of the calls for
`ts`, starting with the file `w`, that the tags `ss` are stored and `w'` is left. -/
inductive Written (disk : Disk) :
    SrsFileWriter → List FlvTag → List FlvTag → SrsFileWriter → Prop
  | done (w : SrsFileWriter) : Written disk w [] [] w
  | stored {w w' : SrsFileWriter} {t : FlvTag} {ts ss : List FlvTag}
      (hwhole : SrsFileWriter.Whole disk w.writes (called t).parts)
      (hrest : Written disk (after (writeTag disk t.type t.time t.data w)) ts ss w') :
      Written disk w (t :: ts) (called t :: ss) w'
  | failed {w w' : SrsFileWriter} {t : FlvTag} {ts ss : List FlvTag}
      (hnone : disk w.writes srsFlvTagHeaderSize = none)
      (hrest : Written disk (after (writeTag disk t.type t.time t.data w)) ts ss w') :
      Written disk w (t :: ts) ss w'

section Disks

variable {disk : Disk} {w w' : SrsFileWriter} {t : FlvTag} {ss : List FlvTag}

/-- The file after some buffers and nothing else. -/
theorem after_writev (x : Srs SrsFileWriter ℕ) (w : SrsFileWriter) :
    after ((do let _ ← x; return () : Srs SrsFileWriter Unit) w) = after (x w) := by
  cases hx : x w with
  | ok a w' => rw [bind_ok _ hx]; rfl
  | error e w' => rw [bind_error _ hx]; rfl

/-- The file after a call. -/
theorem after_writeTag (hopen : w.isOpen = true) (t : FlvTag) :
    after (writeTag disk t.type t.time t.data w) =
      after (SrsFileWriter.writev disk (called t).parts w) := by
  rw [writeTag_eq disk _ _ _ hopen, after_writev]
  rfl

/-- A call that is stored. -/
theorem content_of_whole (hopen : w.isOpen = true)
    (hwhole : SrsFileWriter.Whole disk w.writes (called t).parts) :
    (after (writeTag disk t.type t.time t.data w)).content = w.content ++ (called t).encode ∧
      (after (writeTag disk t.type t.time t.data w)).isOpen = true := by
  rw [after_writeTag hopen, SrsFileWriter.writev_whole hwhole, FlvTag.flatten_parts]
  exact ⟨rfl, hopen⟩

/-- A call that fails at once. -/
theorem content_of_none (hopen : w.isOpen = true)
    (hnone : disk w.writes srsFlvTagHeaderSize = none) :
    (after (writeTag disk t.type t.time t.data w)).content = w.content ∧
      (after (writeTag disk t.type t.time t.data w)).isOpen = true := by
  rw [after_writeTag hopen, FlvTag.parts, SrsFileWriter.writev_nothing _ hnone]
  exact ⟨rfl, hopen⟩

/-- **The stored tags are in the file**, in order and with nothing between them. -/
theorem Written.content (h : Written disk w ts ss w') (hopen : w.isOpen = true) :
    w' = writeTags disk ts w ∧ w'.content = w.content ++ stream FlvTag.encode ss ∧
      w'.isOpen = true := by
  induction h with
  | done w => exact ⟨rfl, (List.append_nil _).symm, hopen⟩
  | stored hwhole _ ih =>
      obtain ⟨hcontent, hopen'⟩ := content_of_whole hopen hwhole
      obtain ⟨hlast, hstream, hopen''⟩ := ih hopen'
      refine ⟨hlast, ?_, hopen''⟩
      rw [hstream, hcontent, List.append_assoc, stream_cons]
  | failed hnone _ ih =>
      obtain ⟨hcontent, hopen'⟩ := content_of_none hopen hnone
      obtain ⟨hlast, hstream, hopen''⟩ := ih hopen'
      exact ⟨hlast, by rw [hstream, hcontent], hopen''⟩

/-- **Calls only add to the file**, whatever the disk answers. -/
theorem writeTags_grows (disk : Disk) (ts : List FlvTag) (hopen : w.isOpen = true) :
    w.content <+: (writeTags disk ts w).content := by
  induction ts generalizing w with
  | nil => exact List.prefix_rfl
  | cons t ts ih =>
      obtain ⟨hfd, hgrows⟩ := SrsFileWriter.writev_grows disk (called t).parts w
      rw [← after_writeTag hopen] at hfd hgrows
      refine hgrows.trans (ih ?_)
      rw [SrsFileWriter.isOpen, hfd]
      exact hopen

/-- Calls after calls. -/
theorem writeTags_append (ts us : List FlvTag) :
    writeTags disk (ts ++ us) w = writeTags disk us (writeTags disk ts w) := by
  induction ts generalizing w with
  | nil => rfl
  | cons t ts ih => exact ih

/-- The tags stored are among those asked for. -/
theorem Written.storable (h : Written disk w ts ss w') (hts : ∀ t ∈ ts, Storable (called t)) :
    ∀ t ∈ ss, Storable t := by
  induction h with
  | done w => simp
  | stored hwhole _ ih =>
      rintro t (_ | ⟨_, ht⟩)
      · exact hts _ List.mem_cons_self
      · exact ih (fun t' ht' => hts t' (List.mem_cons_of_mem _ ht')) t ht
  | failed hnone _ ih =>
      exact ih fun t' ht' => hts t' (List.mem_cons_of_mem _ ht')

/-- A disk that stores a header and a tag, is full for a moment, and then stores three bytes of
whatever is written. -/
def sampleDisk : Disk := fun i n => if i < 5 then some n else if i = 5 then none else some 3

end Disks

/-! ## The end of a file -/

end FlvContext

end RtpCapture
