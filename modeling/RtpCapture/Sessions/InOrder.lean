import RtpCapture.Sessions.Delivery
import RtpCapture.Sessions.Calls

/-! # Delivery in order, once and unaltered

The result about the threads around the sessions: whatever they do and in whatever order, the
packets that `rtpHandler` of a session was called on are the first of the packets pushed to its
`bufferList`, byte for byte.

* **`SdkEvent.pushedTo`**, **`SdkEvent.handedTo`** — the two sequences of a session.
* **`Sdk.handedTo_isPrefix`**, **`Sdk.handle_reads`** — the result, for every run.
* **`Sdk.run_exclusive`** — one call of `rtpHandler` at a time for a session, and none behind its
  deletion. -/

namespace RtpCapture

open Traced

namespace SdkEvent

/-- The packets pushed to the `bufferList` of a session. -/
def pushedTo (s : SessionRef) (history : List SdkEvent) : List (List Byte × ℤ) :=
  history.filterMap fun e => match e with
    | .pushed _ s' bytes len => if s' = s then some (bytes, len) else none
    | _ => none

/-- The packets `rtpHandler` of a session was called on. -/
def handedTo (s : SessionRef) (history : List SdkEvent) : List (List Byte × ℤ) :=
  history.filterMap fun e => match e with
    | .entered s' bytes len => if s' = s then some (bytes, len) else none
    | _ => none

/-- `rtpHandler` of a session was entered and not left. -/
def isHandling (s : SessionRef) (history : List SdkEvent) : Bool :=
  history.foldl (fun handling e => match e with
    | .entered s' _ _ => if s' = s then true else handling
    | .left s' => if s' = s then false else handling
    | _ => handling) false

/-- **`rtpHandler` may be entered**: it was left for that session, and no deletion of the session
has returned. -/
def Exclusive (history : List SdkEvent) (e : SdkEvent) : Prop :=
  ∀ s bytes len, e = .entered s bytes len →
    isHandling s history = false ∧ ∀ id, .deleted id s ∉ history

variable {s : SessionRef} {history : List SdkEvent}

/-- What is handed over in a history and then in one more step. -/
theorem handedTo_append (s : SessionRef) (history trace : List SdkEvent) :
    handedTo s (history ++ trace) = handedTo s history ++ handedTo s trace :=
  List.filterMap_append ..

/-- An entry of `rtpHandler` hands its bytes over. -/
theorem handedTo_entered (s s' : SessionRef) (bytes : List Byte) (len : ℤ) :
    handedTo s' [.entered s bytes len] = if s = s' then [(bytes, len)] else [] := by
  unfold handedTo
  split <;> simp [*]

/-- The packets appended are the messages posted. -/
theorem pushedTo_eq : pushedTo s history = MailEvent.posts s (history.filterMap mail) := by
  unfold pushedTo MailEvent.posts
  rw [List.filterMap_filterMap]
  congr 1
  funext e
  cases e <;> rfl

/-- The packets handed over are the messages started on. -/
theorem handedTo_eq : handedTo s history = MailEvent.entries s (history.filterMap mail) := by
  unfold handedTo MailEvent.entries
  rw [List.filterMap_filterMap]
  congr 1
  funext e
  cases e <;> rfl

/-- `rtpHandler` is at work while the consumer is inside. -/
theorem isHandling_eq : isHandling s history = MailEvent.isInside s (history.filterMap mail) := by
  unfold isHandling MailEvent.isInside
  rw [List.foldl_filterMap]
  congr 1
  funext handling e
  cases e <;> rfl

/-- The mailbox of a deleted session was retired. -/
theorem retired_of_deleted {id : Word} (h : .deleted id s ∈ history) :
    .retired s ∈ history.filterMap mail :=
  List.mem_filterMap.mpr ⟨_, h, rfl⟩

end SdkEvent

namespace Sdk

open SdkEvent

variable {memory : Block → Memory}

/-- The past of a run is a history of the mailboxes. -/
theorem run_past (as : List Action) {past : List SdkEvent}
    (hpast : past <+: (run (construct memory) as).trace) :
    ∃ m, Mailboxes.Run carrier (mailboxes memory) (past.filterMap SdkEvent.mail) m := by
  obtain ⟨m, hrun, -⟩ := run_mail memory as
  exact hrun.past (hpast.filterMap _)

/-- **What `rtpHandler` reads** is the packet it was entered for. -/
theorem handle_reads {as : List Action} {st : Sdk} {k : ℕ} {s : SessionRef} {node : BufferNode}
    (hrun : (run (construct memory) as).outcome = .ok st) (hpc : st.capture = .handle k s node) :
    ∃ earlier, handedTo s (run (construct memory) as).trace =
      earlier ++ [((st.memory node.buffer).read 0 node.len.toNat, node.len)] := by
  obtain ⟨m, hmail, hfollows⟩ := run_mail memory as
  have h := hfollows st hrun
  have hstage : m.stage = .inside s node := by
    rw [h.stage, hpc]
    rfl
  obtain ⟨earlier, hentries⟩ := (hmail.invariant (mailboxes_empty memory)).2.1.working s node hstage
  rw [handedTo_eq, hentries, ← h.memory]
  exact ⟨earlier, rfl⟩

/-- What `rtpHandler` was called on are the first packets of the list. -/
theorem handedTo_isPrefix (as : List Action) {past : List SdkEvent}
    (hpast : past <+: (run (construct memory) as).trace) (s : SessionRef) :
    handedTo s past <+: pushedTo s past := by
  obtain ⟨m, hrun⟩ := run_past as hpast
  rw [handedTo_eq, pushedTo_eq]
  exact hrun.entries_initial (mailboxes_empty memory) s

/-- **`rtpHandler` is never entered twice at once** for a session, nor after its deletion returned. -/
theorem run_exclusive (as : List Action) : Always Exclusive (run (construct memory) as).trace := by
  intro past e rest htrace s bytes len he
  subst he
  -- the event belongs to the past of what comes behind it
  have hpast : past ++ [.entered s bytes len] <+: (run (construct memory) as).trace :=
    ⟨rest, by rw [htrace, List.append_assoc]; rfl⟩
  obtain ⟨m, hrun⟩ := run_past as hpast
  have hallowed := hrun.entered_allowed (mailboxes_empty memory)
  rw [List.filterMap_append] at hallowed
  obtain ⟨houtside, hretired⟩ := hallowed _ _ [] rfl s (bytes, len) rfl
  exact ⟨by rw [isHandling_eq]; exact houtside, fun id hid => hretired (retired_of_deleted hid)⟩

end Sdk

end RtpCapture
