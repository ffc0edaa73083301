import Mathlib.Data.Set.Basic
import RtpCapture.Recorder.WriteFailures
import RtpCapture.Sessions.Ingestion
import RtpCapture.Sessions.Rates
import RtpCapture.Sessions.Recorders

/-! # The C interface

`RTPCapture.h` offers the calls of `RTPCaptureSDK` to C: a global pointer is null until the first
`addCaptureRtpSession`, which constructs the SDK, and the calls are passed on. The rate of a session
is not passed on: the SDK is called with `90000` whatever the caller says.

Each interface is a machine whose inputs are the calls and the steps of the threads behind them;
what can be seen of a sequence of calls is a set, since the threads may run in any order.

* **`cInterface`**, **`cppInterface`** — the functions of `RTPCapture.cpp`, and the same calls of an
  `RTPCaptureSDK` object.
* **`Interface.behaviours`** — what can be seen of a sequence of calls: the ids that are returned,
  the content of the files, the registries and the queues.
* **`run_some`**, **`run_forwarded`** — with an SDK the C interface does what the SDK does, but for
  the rates. -/

namespace RtpCapture

open Traced Sdk

/-! ## The calls -/

/-- **A call of `RTPCapture.h`**; `t` is the thread that calls `onRTPData`. -/
inductive InterfaceCall
  | onRTPData (t : ℕ) (session : Word) (data : Memory) (len : Word)
  | addCaptureRtpSession (fileName : String) (videoFrequency : Word)
  | delCaptureRtpSession (session : Word)

/-- **What happens next**: a call is made, or a thread goes on. The sessions have no ports, so that
the reactor has no handler to call. -/
inductive Turn
  | call (c : InterfaceCall)
  | ingest (t : ℕ)
  | capture (r : FileResults)
  | control (fails : Bool) (u : Uninitialised)

namespace Turn

/-- The call, if it is one. -/
def call? : Turn → Option InterfaceCall
  | .call c => some c
  | _ => none

/-- A call of `addCaptureRtpSession`. -/
def isAdd : Turn → Bool
  | .call (.addCaptureRtpSession _ _) => true
  | _ => false

/-- **What the SDK does**; `addCaptureRtpSession(fileName, videoFrequency)` calls the overload with
the ports `0`. -/
def action : Turn → Sdk.Action
  | .call (.onRTPData t session data len) => .onRTPData t session data len
  | .call (.addCaptureRtpSession fileName videoFrequency) => .add fileName 0 0 videoFrequency
  | .call (.delCaptureRtpSession session) => .del session
  | .ingest t => .ingest (.caller t) false
  | .capture r => .capture r
  | .control fails u => .control fails u

end Turn

/-! ## `RTPCapture.cpp` -/

namespace RTPCapture

/-- `onRTPData`, with the global `sdk`. -/
def onRTPData (sdk : Option Sdk) (t : ℕ) (session : Word) (data : Memory) (len : Word) :
    SdkRun (Option Sdk) :=
  match sdk with
  | none => return none
  | some st => (st.step (.onRTPData t session data len)).mapValue some

/-- `addCaptureRtpSession`: `sdk` is constructed if it is null, over the memory it finds; the second
argument is not used. -/
def addCaptureRtpSession (memory : Block → Memory) (sdk : Option Sdk) (fileName : String)
    (_videoFrequency : Word) : SdkRun (Option Sdk) :=
  ((sdk.getD (construct memory)).step (.add fileName 0 0 90000)).mapValue some

/-- `delCaptureRtpSession`. -/
def delCaptureRtpSession (sdk : Option Sdk) (session : Word) : SdkRun (Option Sdk) :=
  match sdk with
  | none => return none
  | some st => (st.step (.del session)).mapValue some

/-- **One step behind the C interface**; without an SDK there are no threads. -/
def turn (memory : Block → Memory) (sdk : Option Sdk) : Turn → SdkRun (Option Sdk)
  | .call (.onRTPData t session data len) => onRTPData sdk t session data len
  | .call (.addCaptureRtpSession fileName videoFrequency) =>
      addCaptureRtpSession memory sdk fileName videoFrequency
  | .call (.delCaptureRtpSession session) => delCaptureRtpSession sdk session
  | i => match sdk with
    | none => fault .notEnabled
    | some st => (st.step i.action).mapValue some

end RTPCapture

/-! ## What can be seen -/

/-- **The registries and the queues** of the packets, with the bytes the nodes stand for. -/
structure View where
  sdkMap : SessionMap
  receiverMap : SessionMap
  sessionVector : List SessionRef
  packets : SessionRef → List (BufferNode × List Byte)

/-- Without an SDK. -/
def View.empty : View := ⟨fun _ => none, fun _ => none, [], fun _ => []⟩

/-- What can be seen of an SDK. -/
def Sdk.view (st : Sdk) : View :=
  ⟨st.sdkMap, st.receiverMap, st.sessionVector, st.queues.packets⟩

/-- What a call of `addCaptureRtpSession` returns: the id, or nothing when it throws. -/
def SdkEvent.returned? : SdkEvent → Option (Option Word)
  | .added id _ => some (some id)
  | .addFailed _ => some none
  | _ => none

/-- **What can be seen of a run**: what the calls returned, the content of the file of each session,
and the registries and queues at the end, or why the run stopped. -/
structure Observation where
  returned : List (Option Word)
  content : SessionRef → List Output
  view : Except Stop View

/-- **An interface of the SDK**: where it starts, its steps, and the SDK behind it. -/
structure Interface (σ : Type) where
  start : σ
  turn : σ → Turn → SdkRun σ
  sdk : σ → Option Sdk

/-- The C interface: `RTPCaptureSDK *sdk = NULL;`. -/
def cInterface (memory : Block → Memory) : Interface (Option Sdk) where
  start := none
  turn := RTPCapture.turn memory
  sdk := id

/-- An `RTPCaptureSDK` object. -/
def cppInterface (memory : Block → Memory) : Interface Sdk where
  start := construct memory
  turn := fun st i => st.step i.action
  sdk := some

namespace Interface

variable {σ : Type} (I : Interface σ)

/-- A run from the start. -/
def run (turns : List Turn) : SdkRun σ := Traced.run I.turn I.start turns

/-- What can be seen of an interface: of no SDK there is nothing to see. -/
def view (s : σ) : View := (I.sdk s).elim .empty Sdk.view

/-- What can be seen of a computation. -/
def observe (x : SdkRun σ) : Observation where
  returned := x.trace.filterMap SdkEvent.returned?
  content := fun s => flvContent (recorderEvents s x.trace)
  view := x.outcome.map I.view

variable {I} in
/-- A run goes on. -/
theorem run_append {before : List Turn} {es : List SdkEvent} {s : σ}
    (h : I.run before = ⟨es, .ok s⟩) (after : List Turn) :
    I.run (before ++ after) = ⟨es ++ (Traced.run I.turn s after).trace,
      (Traced.run I.turn s after).outcome⟩ := by
  have hok : (Traced.run I.turn I.start before).outcome = .ok s := congrArg Traced.outcome h
  show Traced.run I.turn I.start (before ++ after) = _
  rw [run_append_of_ok hok]
  exact congrArg (fun x => (⟨x.trace ++ _, _⟩ : SdkRun σ)) h

/-- **The calls before the first `addCaptureRtpSession` have returned** when it is made. -/
def Sequenced (turns : List Turn) : Prop :=
  (∃ i ∈ turns, i.isAdd = true) → ∀ s st,
    (I.run (turns.takeWhile fun i => !i.isAdd)).outcome = .ok s → I.sdk s = some st →
    ∀ t, st.ingest (.caller t) = .idle

/-- **What can be seen of a sequence of calls**, whatever the order of the steps of the threads. -/
def behaviours (calls : List InterfaceCall) : Set Observation :=
  { o | o.view ≠ .error .notEnabled ∧ ∃ turns, turns.filterMap Turn.call? = calls ∧
    I.Sequenced turns ∧ I.observe (I.run turns) = o }

end Interface

/-! ## After the SDK is constructed -/

variable {memory : Block → Memory}

/-- The rate the C interface calls the SDK with, for a rate with the same quotient. -/
def toNinety (videoFrequency : Word) : Word :=
  if videoFrequency.sdiv 1000 = 90 then 90000 else videoFrequency

/-- Only the quotient reaches the recorder. -/
theorem sdiv_toNinety (videoFrequency : Word) :
    (toNinety videoFrequency).sdiv 1000 = videoFrequency.sdiv 1000 := by
  unfold toNinety
  split
  · next h =>
      rw [h]
      decide
  · rfl

/-- Before a session is constructed there is no rate. -/
theorem rerate_construct : (construct memory).rerate toNinety = construct memory := by
  have hnone : RTPSession.none.rerate toNinety = RTPSession.none := by
    have hzero : toNinety 0 = 0 := by decide
    show { RTPSession.none with videoFrequency := toNinety 0 } = RTPSession.none
    rw [hzero]
    rfl
  show { construct memory with sessions := fun _ => RTPSession.none.rerate toNinety } = _
  rw [hnone]
  rfl

/-- What the SDK is called with by the C interface. -/
def Turn.forwarded (i : Turn) : Sdk.Action := i.action.rerate fun _ => 90000

/-- **With an SDK** the C interface does what the SDK does, but for the rate. -/
theorem turn_some (st : Sdk) (i : Turn) :
    RTPCapture.turn memory (some st) i = (st.step i.forwarded).mapValue some := by
  cases i with
  | call c => cases c <;> rfl
  | ingest | capture | control => rfl

/-- The same for runs. -/
theorem run_some (st : Sdk) (turns : List Turn) :
    Traced.run (RTPCapture.turn memory) (some st) turns =
      (st.run (turns.map Turn.forwarded)).mapValue some := by
  have hstep : ∀ (st : Sdk) (i : Turn), RTPCapture.turn memory (some st) (id i) =
      ((fun st i => Sdk.step st (Turn.forwarded i)) st i).mapValue some := turn_some
  have hrun := run_mapValue hstep st turns
  rw [List.map_id] at hrun
  rw [hrun, Sdk.run, run_map]

/-- **Rates of the quotient 90** are as good as the rate the C interface passes on. -/
theorem run_forwarded {turns : List Turn}
    (h : ∀ fileName videoFrequency, .call (.addCaptureRtpSession fileName videoFrequency) ∈ turns →
      videoFrequency.sdiv 1000 = 90) :
    (construct memory).run (turns.map Turn.forwarded) =
      ((construct memory).run (turns.map Turn.action)).mapValue (rerate toNinety) := by
  have hforwarded : turns.map Turn.forwarded =
      (turns.map Turn.action).map (Action.rerate toNinety) := by
    rw [List.map_map]
    refine List.map_congr_left fun i hi => ?_
    cases i with
    | call c =>
        cases c with
        | addCaptureRtpSession fileName videoFrequency =>
            show Action.add fileName 0 0 90000 = .add fileName 0 0 (toNinety videoFrequency)
            rw [toNinety, if_pos (h fileName videoFrequency hi)]
        | onRTPData | delCaptureRtpSession => rfl
    | ingest | capture | control => rfl
  rw [hforwarded, ← run_rerate sdiv_toNinety, rerate_construct]

end RtpCapture
