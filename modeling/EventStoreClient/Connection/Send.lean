import EventStoreClient.Foundation.Runs
import EventStoreClient.Wire.TcpPackage

/-!
# Sending

`async_send` and `do_async_send`: the posted closures, the message queue and the writes
under way on the socket.
-/

namespace EventStoreClient
namespace Connection

open Foundation
open Wire

/-- A package whose constructor has got as far as allocating its bytes, so that
`data()` and `size()` describe them. -/
structure Sendable where
  package : TcpPackage
  bytes : Bytes
  owns : package.package = some bytes
  deriving DecidableEq

/-- An element of `message_queue_`, with the number of closures that ran before its
own. -/
structure Queued where
  number : Nat
  package : Sendable
  deriving DecidableEq

/-- The sending half of a connection, with what has been sent, queued and handed to the
socket so far. -/
structure SendState where
  posted : List Sendable
  messageQueue : List Queued
  writing : List Queued
  failed : Bool
  undefined : Bool
  sent : List Sendable
  ran : List Queued
  handed : List Queued
  socketBytes : Bytes
  deriving DecidableEq

namespace SendState

def start : SendState :=
  { posted := []
    messageQueue := []
    writing := []
    failed := false
    undefined := false
    sent := []
    ran := []
    handed := []
    socketBytes := [] }

def doAsyncSend (s : SendState) : SendState :=
  match s.messageQueue with
  | [] => { s with undefined := true }
  | front :: _ =>
      { s with
        writing := s.writing ++ [front]
        handed := s.handed ++ [front]
        socketBytes := s.socketBytes ++ front.package.bytes }

def runClosure (s : SendState) (package : Sendable) : SendState :=
  let writeInProgress := !s.messageQueue.isEmpty
  let item : Queued := { number := s.ran.length, package := package }
  let next : SendState :=
    { s with
      messageQueue := s.messageQueue ++ [item]
      ran := s.ran ++ [item] }
  if !writeInProgress then next.doAsyncSend else next

def onWritten (s : SendState) : SendState :=
  match s.messageQueue with
  | [] => { s with undefined := true }
  | _ :: rest =>
      let next : SendState := { s with messageQueue := rest }
      if !rest.isEmpty then next.doAsyncSend else next

def onWriteFailed (s : SendState) : SendState :=
  { s with failed := true }

end SendState

/-!
# What each closure does

A closure appends one element, numbered by the closures that have run, and writes if
nothing is under way.
-/

section Closures

variable {s : SendState} {package : Sendable} {front next : Queued} {waiting : List Queued}

def SendState.item (s : SendState) (package : Sendable) : Queued :=
  { number := s.ran.length, package := package }

theorem runClosure_idle (hqueue : s.messageQueue = []) :
    s.runClosure package =
      SendState.doAsyncSend
        { s with
          messageQueue := [s.item package]
          ran := s.ran ++ [s.item package] } := by
  simp [SendState.runClosure, SendState.item, hqueue]

theorem runClosure_busy (hqueue : s.messageQueue = front :: waiting) :
    s.runClosure package =
      { s with
        messageQueue := front :: (waiting ++ [s.item package])
        ran := s.ran ++ [s.item package] } := by
  simp [SendState.runClosure, SendState.item, hqueue]

theorem onWritten_last (hqueue : s.messageQueue = [front]) :
    s.onWritten = { s with messageQueue := [] } := by
  simp [SendState.onWritten, hqueue]

theorem onWritten_next (hqueue : s.messageQueue = front :: next :: waiting) :
    s.onWritten = SendState.doAsyncSend { s with messageQueue := next :: waiting } := by
  simp [SendState.onWritten, hqueue]

end Closures

/-- What happens next: a call of `async_send`, wherever it is made from, the closure
posted first runs, or a write under way completes. -/
inductive SendInput where
  | asyncSend (package : Sendable)
  | runPosted
  | written (i : Nat)
  | writeFailed (i : Nat)
  deriving DecidableEq

def sendStep (s : SendState) : SendInput -> Option SendState
  | .asyncSend package =>
      some { s with posted := s.posted ++ [package], sent := s.sent ++ [package] }
  | .runPosted =>
      match s.posted with
      | [] => none
      | package :: rest => some ({ s with posted := rest }.runClosure package)
  | .written i =>
      if i < s.writing.length then
        some { s with writing := s.writing.eraseIdx i }.onWritten
      else
        none
  | .writeFailed i =>
      if i < s.writing.length then
        some { s with writing := s.writing.eraseIdx i }.onWriteFailed
      else
        none

/-!
# The invariant

In a state that is ready the front of the queue is written next, and with the queue empty
nothing is under way and nothing has failed.  Every step keeps this.
-/

/-- Until an error the front of the queue is the one package under way; after it none
is, and the front stays where it is. -/
structure Sending (s : SendState) : Prop where
  defined : s.undefined = false
  order : s.ran.map Queued.package ++ s.posted = s.sent
  numbered : s.ran.map Queued.number = List.range s.ran.length
  handed : s.handed ++ s.messageQueue.tail = s.ran
  bytes : s.socketBytes = s.handed.flatMap fun item => item.package.bytes
  writing : s.writing = if s.failed then [] else s.messageQueue.head?.toList
  stalled : s.failed = true -> s.messageQueue ≠ []

theorem sending_start : Sending SendState.start where
  defined := rfl
  order := rfl
  numbered := rfl
  handed := rfl
  bytes := rfl
  writing := rfl
  stalled := by
    intro h
    cases h

structure ReadyToSend (s : SendState) : Prop where
  defined : s.undefined = false
  order : s.ran.map Queued.package ++ s.posted = s.sent
  numbered : s.ran.map Queued.number = List.range s.ran.length
  handed : s.handed ++ s.messageQueue = s.ran
  bytes : s.socketBytes = s.handed.flatMap fun item => item.package.bytes
  idle : s.writing = []
  open_ : s.failed = false
  queued : s.messageQueue ≠ []

theorem ReadyToSend.doAsyncSend {s : SendState} (h : ReadyToSend s) :
    Sending s.doAsyncSend := by
  unfold SendState.doAsyncSend
  cases hqueue : s.messageQueue with
  | nil => exact absurd hqueue h.queued
  | cons front waiting =>
      have hhanded := h.handed
      rw [hqueue] at hhanded
      constructor
      · exact h.defined
      · exact h.order
      · exact h.numbered
      · show s.handed ++ [front] ++ waiting = s.ran
        rw [List.append_assoc, List.singleton_append, hhanded]
      · show s.socketBytes ++ front.package.bytes =
          (s.handed ++ [front]).flatMap fun item => item.package.bytes
        rw [List.flatMap_append, ← h.bytes, List.flatMap_singleton]
      · show s.writing ++ [front] = if s.failed then [] else [front]
        rw [h.idle, h.open_]
        rfl
      · intro hfailed
        have hopen := h.open_
        rw [show s.failed = true from hfailed] at hopen
        cases hopen

namespace Sending

variable {s : SendState}

theorem asyncSend (h : Sending s) (package : Sendable) :
    Sending { s with posted := s.posted ++ [package], sent := s.sent ++ [package] } where
  defined := h.defined
  order := by
    show s.ran.map Queued.package ++ (s.posted ++ [package]) = s.sent ++ [package]
    rw [← List.append_assoc, h.order]
  numbered := h.numbered
  handed := h.handed
  bytes := h.bytes
  writing := h.writing
  stalled := h.stalled

theorem idle_of_empty (h : Sending s) (hqueue : s.messageQueue = []) :
    s.failed = false ∧ s.writing = [] := by
  have hfailed : s.failed = false := by
    cases hf : s.failed with
    | false => rfl
    | true => exact absurd hqueue (h.stalled hf)
  constructor
  · exact hfailed
  · rw [h.writing, hfailed, hqueue]
    rfl

theorem runPosted (h : Sending s) {package : Sendable} {rest : List Sendable}
    (hposted : s.posted = package :: rest) :
    Sending ({ s with posted := rest }.runClosure package) := by
  have horder : (s.ran ++ [s.item package]).map Queued.package ++ rest = s.sent := by
    rw [← h.order, hposted, List.map_append, List.append_assoc]
    rfl
  have hnumbered : (s.ran ++ [s.item package]).map Queued.number =
      List.range (s.ran ++ [s.item package]).length := by
    rw [List.map_append, h.numbered, List.length_append, List.length_singleton,
      List.range_succ]
    rfl
  have hhanded := h.handed
  by_cases hqueue : s.messageQueue = []
  · rcases h.idle_of_empty hqueue with ⟨hopen, hidle⟩
    rw [hqueue] at hhanded
    rw [runClosure_idle (s := { s with posted := rest }) hqueue]
    apply ReadyToSend.doAsyncSend
    constructor
    · exact h.defined
    · exact horder
    · exact hnumbered
    · show s.handed ++ [s.item package] = s.ran ++ [s.item package]
      rw [← hhanded, List.tail_nil, List.append_nil]
    · exact h.bytes
    · exact hidle
    · exact hopen
    · exact List.cons_ne_nil (s.item package) []
  · rcases List.exists_cons_of_ne_nil hqueue with ⟨front, waiting, hcons⟩
    have hwriting := h.writing
    rw [hcons] at hhanded hwriting
    rw [runClosure_busy (s := { s with posted := rest }) hcons]
    constructor
    · exact h.defined
    · exact horder
    · exact hnumbered
    · show s.handed ++ (waiting ++ [s.item package]) = s.ran ++ [s.item package]
      rw [← hhanded, List.tail_cons, List.append_assoc]
    · exact h.bytes
    · exact hwriting
    · intro _
      exact List.cons_ne_nil front (waiting ++ [s.item package])

/-- The write under way is the only one, and its package is the front of the queue. -/
theorem underWay (h : Sending s) {i : Nat} (hi : i < s.writing.length) :
    s.failed = false ∧ s.writing.eraseIdx i = [] ∧ s.messageQueue ≠ [] := by
  have hwriting := h.writing
  cases hf : s.failed with
  | true =>
      rw [hf, if_pos rfl] at hwriting
      rw [hwriting] at hi
      cases hi
  | false =>
      rw [hf] at hwriting
      cases hqueue : s.messageQueue with
      | nil =>
          rw [hqueue] at hwriting
          rw [hwriting] at hi
          cases hi
      | cons front waiting =>
          rw [hqueue] at hwriting
          have hone : s.writing = [front] := hwriting
          rw [hone, List.length_singleton, Nat.lt_one_iff] at hi
          rw [hone, hi]
          exact ⟨rfl, rfl, List.cons_ne_nil front waiting⟩

theorem written (h : Sending s) {i : Nat} (hi : i < s.writing.length) :
    Sending { s with writing := s.writing.eraseIdx i }.onWritten := by
  rcases h.underWay hi with ⟨hopen, hidle, hne⟩
  have hhanded := h.handed
  rcases List.exists_cons_of_ne_nil hne with ⟨front, waiting, hqueue⟩
  rw [hqueue, List.tail_cons] at hhanded
  cases waiting with
  | nil =>
      rw [onWritten_last (s := { s with writing := s.writing.eraseIdx i }) hqueue]
      constructor
      · exact h.defined
      · exact h.order
      · exact h.numbered
      · exact hhanded
      · exact h.bytes
      · show s.writing.eraseIdx i = if s.failed then [] else []
        rw [hidle, ite_self]
      · intro hfailed
        rw [show s.failed = true from hfailed] at hopen
        cases hopen
  | cons next waiting =>
      rw [onWritten_next (s := { s with writing := s.writing.eraseIdx i }) hqueue]
      apply ReadyToSend.doAsyncSend
      constructor
      · exact h.defined
      · exact h.order
      · exact h.numbered
      · exact hhanded
      · exact h.bytes
      · exact hidle
      · exact hopen
      · exact List.cons_ne_nil next waiting

theorem writeFailed (h : Sending s) {i : Nat} (hi : i < s.writing.length) :
    Sending { s with writing := s.writing.eraseIdx i }.onWriteFailed := by
  rcases h.underWay hi with ⟨_, hidle, hne⟩
  constructor
  · exact h.defined
  · exact h.order
  · exact h.numbered
  · exact h.handed
  · exact h.bytes
  · exact hidle
  · intro _
    exact hne

theorem step (h : Sending s) {input : SendInput} {next : SendState}
    (hstep : sendStep s input = some next) : Sending next := by
  cases input with
  | asyncSend package =>
      cases hstep
      exact h.asyncSend package
  | runPosted =>
      unfold sendStep at hstep
      cases hposted : s.posted with
      | nil =>
          simp only [hposted] at hstep
          cases hstep
      | cons package rest =>
          simp only [hposted] at hstep
          cases hstep
          exact h.runPosted hposted
  | written i =>
      unfold sendStep at hstep
      by_cases hi : i < s.writing.length
      · simp only [if_pos hi] at hstep
        cases hstep
        exact h.written hi
      · simp only [if_neg hi] at hstep
        cases hstep
  | writeFailed i =>
      unfold sendStep at hstep
      by_cases hi : i < s.writing.length
      · simp only [if_pos hi] at hstep
        cases hstep
        exact h.writeFailed hi
      · simp only [if_neg hi] at hstep
        cases hstep

end Sending

/-!
# After an error

Nothing more is handed to the socket.
-/

structure Stopped (handed : List Queued) (s : SendState) : Prop where
  sending : Sending s
  failed : s.failed = true
  handed_eq : s.handed = handed

theorem Stopped.idle {handed : List Queued} {s : SendState} (h : Stopped handed s) :
    s.writing = [] := by
  rw [h.sending.writing, h.failed, if_pos rfl]

/-- A closure that still runs finds the queue occupied, and no write completes. -/
theorem Stopped.step {handed : List Queued} {s next : SendState} {input : SendInput}
    (h : Stopped handed s) (hstep : sendStep s input = some next) : Stopped handed next := by
  have hnext := h.sending.step hstep
  cases input with
  | asyncSend package =>
      cases hstep
      exact ⟨hnext, h.failed, h.handed_eq⟩
  | runPosted =>
      unfold sendStep at hstep
      cases hposted : s.posted with
      | nil =>
          simp only [hposted] at hstep
          cases hstep
      | cons package rest =>
          simp only [hposted] at hstep
          rcases List.exists_cons_of_ne_nil (h.sending.stalled h.failed) with
            ⟨front, waiting, hqueue⟩
          cases hstep
          rw [runClosure_busy (s := { s with posted := rest }) hqueue] at hnext ⊢
          exact ⟨hnext, h.failed, h.handed_eq⟩
  | written i =>
      unfold sendStep at hstep
      simp only [h.idle, List.length_nil, Nat.not_lt_zero, if_false] at hstep
      cases hstep
  | writeFailed i =>
      unfold sendStep at hstep
      simp only [h.idle, List.length_nil, Nat.not_lt_zero, if_false] at hstep
      cases hstep

/-!
# Every run

The packages sent are those that the inputs of the run ask for.
-/

def asyncSends (inputs : List SendInput) : List Sendable :=
  inputs.filterMap fun
    | .asyncSend package => some package
    | _ => none

theorem asyncSends_cons (input : SendInput) (rest : List SendInput) :
    asyncSends (input :: rest) = asyncSends [input] ++ asyncSends rest :=
  List.filterMap_append (l := [input])

theorem doAsyncSend_sent (s : SendState) : s.doAsyncSend.sent = s.sent := by
  unfold SendState.doAsyncSend
  cases s.messageQueue <;> rfl

theorem runClosure_sent (s : SendState) (package : Sendable) :
    (s.runClosure package).sent = s.sent := by
  cases hqueue : s.messageQueue with
  | nil =>
      rw [runClosure_idle hqueue]
      exact doAsyncSend_sent _
  | cons front waiting => rw [runClosure_busy hqueue]

theorem onWritten_sent (s : SendState) : s.onWritten.sent = s.sent := by
  cases hqueue : s.messageQueue with
  | nil => simp [SendState.onWritten, hqueue]
  | cons front rest =>
      cases rest with
      | nil => rw [onWritten_last hqueue]
      | cons next waiting =>
          rw [onWritten_next hqueue]
          exact doAsyncSend_sent _

theorem sendStep_sent {s next : SendState} {input : SendInput}
    (hstep : sendStep s input = some next) : next.sent = s.sent ++ asyncSends [input] := by
  cases input with
  | asyncSend package =>
      cases hstep
      rfl
  | runPosted =>
      unfold sendStep at hstep
      cases hposted : s.posted with
      | nil =>
          simp only [hposted] at hstep
          cases hstep
      | cons package rest =>
          simp only [hposted] at hstep
          cases hstep
          exact (runClosure_sent _ package).trans (List.append_nil _).symm
  | written i =>
      unfold sendStep at hstep
      by_cases hi : i < s.writing.length
      · simp only [if_pos hi] at hstep
        cases hstep
        exact (onWritten_sent _).trans (List.append_nil _).symm
      · simp only [if_neg hi] at hstep
        cases hstep
  | writeFailed i =>
      unfold sendStep at hstep
      by_cases hi : i < s.writing.length
      · simp only [if_pos hi] at hstep
        cases hstep
        exact (List.append_nil _).symm
      · simp only [if_neg hi] at hstep
        cases hstep

theorem run_sent {s last : SendState} {inputs : List SendInput}
    (hrun : run sendStep s inputs = some last) : last.sent = s.sent ++ asyncSends inputs := by
  induction inputs generalizing s with
  | nil =>
      cases hrun
      exact (List.append_nil _).symm
  | cons input rest ih =>
      rcases run_cons hrun with ⟨next, hstep, hrest⟩
      rw [ih hrest, sendStep_sent hstep, asyncSends_cons input rest, List.append_assoc]

structure WritesInOrder (s : SendState) : Prop where
  defined : s.undefined = false
  atMostOne : s.writing.length ≤ 1
  outstanding : s.failed = false -> (s.writing ≠ [] <-> s.messageQueue ≠ [])
  front : forall item, item ∈ s.writing -> s.messageQueue.head? = some item
  bytes : s.socketBytes = s.handed.flatMap fun item => item.package.bytes
  handed : s.handed ++ s.messageQueue.tail = s.ran
  ran : s.ran.map Queued.package ++ s.posted = s.sent
  once : (s.ran.map Queued.number).Nodup

theorem Sending.writesInOrder {s : SendState} (h : Sending s) : WritesInOrder s := by
  have hwriting := h.writing
  constructor
  · exact h.defined
  · rw [hwriting]
    cases s.failed <;> cases s.messageQueue <;> simp
  · intro hopen
    rw [hwriting, hopen]
    cases s.messageQueue <;> simp
  · intro item hitem
    rw [hwriting] at hitem
    cases hf : s.failed with
    | true =>
        rw [hf] at hitem
        cases hitem
    | false =>
        rw [hf] at hitem
        simpa using hitem
  · exact h.bytes
  · exact h.handed
  · exact h.order
  · rw [h.numbered]
    exact List.nodup_range

/-- Between any two steps of any run the writes are in order, one at a time, the packages
sent are those of its inputs, and from the first error on no further write starts, however
the run goes on. -/
theorem run_writesInOrder {inputs : List SendInput} {s : SendState}
    (hrun : run sendStep SendState.start inputs = some s) :
    WritesInOrder s ∧ s.sent = asyncSends inputs ∧
      forall more last, run sendStep s more = some last ->
        s.failed = true -> last.handed = s.handed ∧ last.writing = [] := by
  have hsending : Sending s :=
    run_preserves (fun h hstep => h.step hstep) sending_start hrun
  refine ⟨hsending.writesInOrder, ?_, ?_⟩
  · exact (run_sent hrun).trans (List.nil_append _)
  · intro more last hmore hfailed
    have hstopped : Stopped s.handed last :=
      run_preserves (fun h hstep => h.step hstep) ⟨hsending, hfailed, rfl⟩ hmore
    exact ⟨hstopped.handed_eq, hstopped.idle⟩

/-- Two packages, the second of which is sent while the first is written, and an error
while it is written itself. -/
def twoWritesInputs (first second : Sendable) : List SendInput :=
  [.asyncSend first, .runPosted, .asyncSend second, .runPosted, .written 0,
    .writeFailed 0]

def heartbeatResponse : Sendable :=
  { package := TcpPackage.unauthenticated TcpCommand.heartbeatResponseCommand
      TcpFlags.none (Guid.ofByte 1) []
    bytes := (TcpPackage.unauthenticated TcpCommand.heartbeatResponseCommand
      TcpFlags.none (Guid.ofByte 1) []).bytes
    owns := by decide }

theorem twoWrites_inOrder :
    exists s, run sendStep SendState.start
        (twoWritesInputs heartbeatResponse heartbeatResponse) = some s ∧
      WritesInOrder s ∧ s.sent = [heartbeatResponse, heartbeatResponse] ∧
      forall more last, run sendStep s more = some last ->
        s.failed = true -> last.handed = s.handed ∧ last.writing = [] :=
  ⟨_, rfl, run_writesInOrder
    (show run sendStep SendState.start
      (twoWritesInputs heartbeatResponse heartbeatResponse) = some _ from rfl)⟩

end Connection
end EventStoreClient
