import RtpCapture.Foundations.Records
import RtpCapture.Recorder.Flv

/-! # The byte stream of the FLV library

The functions of the FLV library return an error code, and end the process when an `srs_assert`
fails; an operation on `σ` is an `Srs σ`, which keeps the state it had reached when it fails.

* **`SrsStream`** — `srs_kernel_stream.cpp`: a buffer and the position of the next byte, with writes
  of big-endian numbers. Each of them asserts that the buffer has room.
* **`SrsStream.split`** — the stream between the bytes behind it and those ahead.
* **`SrsStream.Writes`** — what some writes store, with one rule for each way of building them;
  `Writes.fill_eq` is the buffer they leave. -/

namespace RtpCapture

open Records

/-- The error codes of `srs_kernel_error.hpp` that the functions modelled here return. -/
inductive SrsError
  | systemFileOpene
  | systemFileWrite
  | systemFileEof
  | systemIoInvalid
  | kernelFlvHeader
  | kernelStreamInit
  deriving DecidableEq, Repr

/-- **Why a function of the library does not succeed.** -/
inductive SrsFailure
  /-- It returns an error code. -/
  | error (ret : SrsError)
  /-- A failed `srs_assert` ends the process. -/
  | assertion
  /-- A copy past the end of `sps_pps_tag_data`. -/
  | spsPpsTagOverrun
  deriving DecidableEq, Repr

/-- A function of the library on the state `σ`. -/
abbrev Srs := EStateM SrsFailure

/-- `srs_assert`. -/
def srsAssert {σ : Type} (b : Bool) : Srs σ Unit := if b then pure () else throw .assertion

/-- An assertion that holds does nothing. -/
theorem srsAssert_bind {σ α : Type} {b : Bool} (h : b = true) (x : Srs σ α) :
    (srsAssert b >>= fun _ => x) = x := by
  rw [h]
  rfl

/-- The three bytes of the lower part of a number, most significant first. -/
def bigEndian24 (n : ℕ) : List Byte :=
  [BitVec.ofNat 8 (n / 2 ^ 16), BitVec.ofNat 8 (n / 2 ^ 8), BitVec.ofNat 8 n]

/-- `SrsStream`: `bytes` and the pointer `p` into it. -/
structure SrsStream where
  bytes : List Byte
  p : ℕ

namespace SrsStream

/-! ## The operations -/

/-- `initialize`: the size must be positive. -/
def initializeBytes (b : List Byte) : Except SrsFailure SrsStream :=
  if b.length = 0 then .error (.error .kernelStreamInit) else .ok ⟨b, 0⟩

/-- `require`, which asserts that it is asked for something. -/
def require (requiredSize : ℤ) : Srs SrsStream Bool := do
  srsAssert (0 < requiredSize)
  return requiredSize ≤ (← get).bytes.length - (← get).p

/-- `write_bytes`, and `write_string`. -/
def writeBytes (data : List Byte) : Srs SrsStream Unit := do
  srsAssert (← require data.length)
  modify fun s =>
    ⟨s.bytes.take s.p ++ data ++ s.bytes.drop (s.p + data.length), s.p + data.length⟩

/-- `write_1bytes`. -/
def write1bytes (value : Byte) : Srs SrsStream Unit := writeBytes [value]

/-- `write_2bytes`. -/
def write2bytes (value : BitVec 16) : Srs SrsStream Unit := writeBytes (bigEndian16 value.toNat)

/-- `write_3bytes`: the upper byte of the number is left out. -/
def write3bytes (value : BitVec 32) : Srs SrsStream Unit := writeBytes (bigEndian24 value.toNat)

/-- `write_4bytes`. -/
def write4bytes (value : BitVec 32) : Srs SrsStream Unit := writeBytes (bigEndian32 value.toNat)

/-- The buffer after some writes to a stream on it. -/
def fill (cache : List Byte) (writes : Srs SrsStream Unit) : Except SrsFailure (List Byte) := do
  match writes (← initializeBytes cache) with
  | .ok _ s => return s.bytes
  | .error e _ => throw e

/-! ## Between the bytes behind and the bytes ahead -/

/-- The stream with `done` behind its position and `ahead` from it on. -/
def split (done ahead : List Byte) : SrsStream := ⟨done ++ ahead, done.length⟩

variable {done ahead data : List Byte}

/-- A stream over some bytes starts in front of all of them. -/
theorem initializeBytes_of_ne_nil {b : List Byte} (h : b ≠ []) :
    initializeBytes b = .ok (split [] b) := by
  rw [initializeBytes, if_neg (by simpa using h)]
  rfl

/-- What is asked for is there. -/
theorem require_split {n : ℤ} (hpos : 0 < n) :
    require n (split done ahead) = .ok (decide (n ≤ ahead.length)) (split done ahead) := by
  have hlength : ((split done ahead).bytes.length : ℤ) - (split done ahead).p = ahead.length := by
    simp [split]
  rw [require, srsAssert_bind (decide_eq_true hpos)]
  change EStateM.Result.ok (decide (n ≤ ((split done ahead).bytes.length : ℤ) -
    (split done ahead).p)) (split done ahead) = _
  rw [hlength]

/-- **Some writes store `data`** in place of the next bytes and move behind them. -/
def Writes (writes : Srs SrsStream Unit) (data : List Byte) : Prop :=
  ∀ done ahead, data.length ≤ ahead.length →
    writes (split done ahead) = .ok () (split (done ++ data) (ahead.drop data.length))

/-- One write stores its bytes. -/
theorem writes_writeBytes (hdata : data ≠ []) : Writes (writeBytes data) data := by
  intro done ahead hroom
  have hpos : 0 < (data.length : ℤ) := by
    have := List.length_pos_of_ne_nil hdata
    omega
  rw [writeBytes, bind_ok _ (require_split hpos),
    srsAssert_bind (decide_eq_true (Int.ofNat_le.mpr hroom))]
  change EStateM.Result.ok () (SrsStream.mk _ _) = _
  simp [split, List.drop_append]

/-- Writes one after the other. -/
theorem Writes.bind {x y : Srs SrsStream Unit} {a b : List Byte} (hx : Writes x a)
    (hy : Writes y b) : Writes (x >>= fun _ => y) (a ++ b) := by
  intro done ahead hroom
  rw [List.length_append] at hroom
  rw [bind_ok _ (hx done ahead (by omega)), hy _ _ (by rw [List.length_drop]; omega),
    List.append_assoc, List.drop_drop, List.length_append]

/-- **A buffer filled by writes** holds what they store, whatever was there before. -/
theorem Writes.fill_eq {writes : Srs SrsStream Unit} (h : Writes writes data)
    (hne : data ≠ []) {cache : List Byte} (hcache : cache.length = data.length) :
    fill cache writes = .ok data := by
  have hcache' : cache ≠ [] := by
    rintro rfl
    exact hne (List.eq_nil_of_length_eq_zero hcache.symm)
  unfold fill
  rw [initializeBytes_of_ne_nil hcache']
  change (match writes (split [] cache) with
    | .ok _ s => Except.ok s.bytes
    | .error e _ => Except.error e) = _
  rw [h [] cache hcache.ge, List.drop_of_length_le hcache.le]
  simp [split]

/-- **An assertion fails**, where there is room for the `n` bytes stored before. -/
def Fails (writes : Srs SrsStream Unit) (n : ℕ) : Prop :=
  ∀ done ahead, n ≤ ahead.length →
    ∃ s, writes (split done ahead) = .error .assertion s

/-- An empty string is not asked for. -/
theorem fails_writeBytes_nil : Fails (writeBytes []) 0 := fun done ahead _ => ⟨split done ahead, rfl⟩

/-- What comes first is stored. -/
theorem Writes.bind_fails {x y : Srs SrsStream Unit} {a : List Byte} {n : ℕ} (hx : Writes x a)
    (hy : Fails y n) : Fails (x >>= fun _ => y) (a.length + n) := by
  intro done ahead hroom
  rw [bind_ok _ (hx done ahead (by omega))]
  exact hy _ _ (by rw [List.length_drop]; omega)

/-- A write without room for it is an assertion. -/
theorem Fails.fill_eq {writes : Srs SrsStream Unit} {n : ℕ} (h : Fails writes n)
    {cache : List Byte} (hne : cache ≠ []) (hroom : n ≤ cache.length) :
    fill cache writes = .error .assertion := by
  obtain ⟨s, hs⟩ := h [] cache hroom
  unfold fill
  rw [initializeBytes_of_ne_nil hne]
  change (match writes (split [] cache) with
    | .ok _ s => Except.ok s.bytes
    | .error e _ => Except.error e) = _
  rw [hs]

end SrsStream

end RtpCapture
