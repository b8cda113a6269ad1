import EventStoreClient.Operations.Answers
import EventStoreClient.Subscription.Messages
import Mathlib.Data.Prod.Lex

/-!
# Log positions

The server orders the log by pairs of a commit and a prepare position.  The positions of
the events read from `$all` keep that order; those of the writes are put together the
other way round.
-/

namespace EventStoreClient

namespace Position

def Greater (p q : Position) : Prop :=
  p.commitPosition > q.commitPosition ∨
    (p.commitPosition = q.commitPosition ∧ p.preparePosition > q.preparePosition)

/-- The operators compare `p` with `q` as the log orders two of the server's pairs. -/
structure ComparesAs (p q : Position) (logged other : Int × Int) : Prop where
  less : Less p q <-> toLex logged < toLex other
  equal : p = q <-> logged = other
  greater : Greater p q <-> toLex other < toLex logged

def ofLogged (logged : Int × Int) : Position :=
  { commitPosition := logged.1
    preparePosition := logged.2 }

theorem less_ofLogged (logged other : Int × Int) :
    Less (ofLogged logged) (ofLogged other) <-> toLex logged < toLex other := by
  rw [Prod.Lex.toLex_lt_toLex]
  rfl

theorem ofLogged_inj (logged other : Int × Int) :
    ofLogged logged = ofLogged other <-> logged = other := by
  simp only [ofLogged, Position.mk.injEq, Prod.ext_iff]

theorem greater_iff_less (p q : Position) : Greater p q <-> Less q p := by
  simp only [Greater, Less, gt_iff_lt, eq_comm]

/-- Two positions compare as two pairs do, if the pairs that they are put together from
are ordered in the same way. -/
theorem comparesAs_ofLogged_iff (x y logged other : Int × Int) :
    ComparesAs (ofLogged x) (ofLogged y) logged other <->
      (toLex x < toLex y <-> toLex logged < toLex other) ∧
        (toLex y < toLex x <-> toLex other < toLex logged) := by
  constructor
  · intro h
    have hless := h.less
    have hgreater := h.greater
    rw [less_ofLogged] at hless
    rw [greater_iff_less, less_ofLogged] at hgreater
    exact ⟨hless, hgreater⟩
  · rintro ⟨hless, hgreater⟩
    constructor
    · rw [less_ofLogged]
      exact hless
    · -- neither pair is before the other one
      have heq : forall a b : Int × Int,
          a = b <-> ¬ toLex a < toLex b ∧ ¬ toLex b < toLex a := by
        intro a b
        rw [not_lt, not_lt, and_comm, <- le_antisymm_iff, toLex_inj]
      rw [ofLogged_inj, heq, heq logged, hless, hgreater]
    · rw [greater_iff_less, less_ofLogged]
      exact hgreater

theorem comparesAs_self (logged other : Int × Int) :
    ComparesAs (ofLogged logged) (ofLogged other) logged other :=
  (comparesAs_ofLogged_iff logged other logged other).mpr ⟨Iff.rfl, Iff.rfl⟩

/-- The swapped pairs are in the order of the pairs, unless the commit positions are in
one strict order and the prepare positions in the other. -/
theorem comparesAs_swap_iff (logged other : Int × Int) :
    ComparesAs (ofLogged logged.swap) (ofLogged other.swap) logged other <->
      ¬ (logged.1 < other.1 ∧ other.2 < logged.2) ∧
        ¬ (other.1 < logged.1 ∧ logged.2 < other.2) := by
  rw [comparesAs_ofLogged_iff]
  simp only [Prod.Lex.toLex_lt_toLex, Prod.fst_swap, Prod.snd_swap]
  omega

end Position

namespace Operations

open Connection Foundation Subscription Wire

/-!
# The positions that writes return

The commit and the prepare position in the response of a write, and the log position that
the handler of the user gets for them.  One reported with a success is that of the
response.
-/

inductive Write where
  | appendToStream
  | conditionalAppendToStream
  | commitTransaction
  | deleteStream
  deriving DecidableEq

namespace Write

variable (pb : Protobuf)

def logged : Write -> Bytes -> Option Int × Option Int
  | appendToStream, payload =>
      let response := (pb.writeEventsCompleted payload).message
      (response.commitPosition, response.preparePosition)
  | conditionalAppendToStream, payload =>
      let response := (pb.writeEventsCompleted payload).message
      (response.commitPosition, response.preparePosition)
  | commitTransaction, payload =>
      let response := (pb.transactionCommitCompleted payload).message
      (response.commitPosition, response.preparePosition)
  | deleteStream, payload =>
      let response := (pb.deleteStreamCompleted payload).message
      (response.commitPosition, response.preparePosition)

def respond : Write -> Answer -> List (ErrorCode × Option Position)
  | appendToStream, answer =>
      ((Operations.appendToStream pb).respond answer).map fun call =>
        (call.ec, call.result.map WriteResult.logPosition)
  | conditionalAppendToStream, answer =>
      ((Operations.conditionalAppendToStream pb).respond answer).map fun call =>
        (call.ec, call.result.map WriteResult.logPosition)
  | commitTransaction, answer =>
      ((Operations.commitTransaction pb).respond answer).map fun call =>
        (call.ec, call.result.map WriteResult.logPosition)
  | deleteStream, answer =>
      ((Operations.deleteStream pb).respond answer).map fun call =>
        (call.ec, call.result.map DeleteStreamResult.logPosition)

/-- A successful response that carries both positions, and the log position that the user
gets for it. -/
structure Returns (w : Write) (p : Package) (logged : Int × Int) (position : Position) :
    Prop where
  carried : w.logged pb p.message = (some logged.1, some logged.2)
  returned : (none, some position) ∈ w.respond pb (Answer.package p)

variable {pb} {w : Write} {p : Package} {commit prepare : Int} {position : Position}

omit pb in
theorem reported_position {message result : Type}
    {r : Responder message (Option result)} {field : result -> Position}
    (h : (none, some position) ∈ (r.respond (Answer.package p)).map fun call =>
      (call.ec, call.result.map field)) :
    (r.onSuccess (r.parse p.message).message).map field = some position := by
  rcases List.mem_map.mp h with ⟨call, hcall, heq⟩
  have hec : call.ec = none := congrArg Prod.fst heq
  rw [<- Responder.respond_success_result hcall hec]
  exact congrArg Prod.snd heq

/-- The four handlers pass the prepare position as the commit position, and vice versa. -/
theorem Returns.position_eq {logged : Int × Int} (h : w.Returns pb p logged position) :
    position = Position.ofLogged logged.swap := by
  have hcarried := h.carried
  have hreturned := h.returned
  cases w with
  | appendToStream =>
      have hposition := reported_position hreturned
      simp only [Write.logged, Prod.mk.injEq] at hcarried
      simp only [Operations.appendToStream, writeEvents, logPosition, hcarried,
        Option.map_some, Option.getD_some, Option.some.injEq] at hposition
      exact hposition.symm
  | conditionalAppendToStream =>
      have hposition := reported_position hreturned
      simp only [Write.logged, Prod.mk.injEq] at hcarried
      simp only [Operations.conditionalAppendToStream, writeEvents, logPosition, hcarried,
        Option.map_some, Option.getD_some, Option.some.injEq] at hposition
      exact hposition.symm
  | commitTransaction =>
      have hposition := reported_position hreturned
      simp only [Write.logged, Prod.mk.injEq] at hcarried
      simp only [Operations.commitTransaction, logPosition, hcarried,
        Option.map_some, Option.getD_some, Option.some.injEq] at hposition
      exact hposition.symm
  | deleteStream =>
      have hposition := reported_position hreturned
      simp only [Write.logged, Prod.mk.injEq] at hcarried
      simp only [Operations.deleteStream, logPosition, hcarried,
        Option.map_some, Option.getD_some, Option.some.injEq] at hposition
      exact hposition.symm

end Write

/-!
# The positions that are read from `$all`

A pair of positions of the server, as the accessors read it, is ordered like the log.
-/

def readPair (commitPosition preparePosition : Option Int) : Int × Int :=
  (read commitPosition, read preparePosition)

/-- A position that the client makes from an answer about `$all`, with the server's
pair. -/
inductive ReadFromAll (pb : Protobuf) : Int × Int -> Position -> Prop where
  | event (e : ResolvedEvent) (position : Position)
      (h : (Resolved.ofResolvedEvent e).originalPosition = some position) :
      ReadFromAll pb (readPair e.commitPosition e.preparePosition) position
  | sliceStart (direction : ReadDirection) (m : ReadAllEventsCompleted)
      (slice : AllEventsSlice)
      (h : (readAllEvents pb direction).onSuccess m = some slice) :
      ReadFromAll pb (readPair m.commitPosition m.preparePosition) slice.fromPosition
  | sliceNext (direction : ReadDirection) (m : ReadAllEventsCompleted)
      (slice : AllEventsSlice)
      (h : (readAllEvents pb direction).onSuccess m = some slice) :
      ReadFromAll pb (readPair m.nextCommitPosition m.nextPreparePosition)
        slice.nextPosition

variable {pb : Protobuf}

theorem ReadFromAll.position_eq {logged : Int × Int} {position : Position}
    (h : ReadFromAll pb logged position) : position = Position.ofLogged logged := by
  cases h with
  | event e _ h => exact (Option.some.inj h).symm
  | sliceStart direction m slice h =>
      rw [<- Option.some.inj h]
      rfl
  | sliceNext direction m slice h =>
      rw [<- Option.some.inj h]
      rfl

theorem readFromAll_ofLogged (logged : Int × Int) :
    ReadFromAll pb logged (Position.ofLogged logged) :=
  ReadFromAll.event
    { event := none, link := none, commitPosition := some logged.1,
      preparePosition := some logged.2 } _ rfl

theorem readFromAll_comparesAs {logged other : Int × Int} {x y : Position}
    (hx : ReadFromAll pb logged x) (hy : ReadFromAll pb other y) :
    Position.ComparesAs x y logged other := by
  rw [hx.position_eq, hy.position_eq]
  exact Position.comparesAs_self logged other

/-!
# Writes and reads

The two orders differ: the transaction that was committed last gets the lower log
position.
-/

/-- The position of a write compares with the positions that are read from `$all` as the
log does. -/
def ComparesWithReads (pb : Protobuf) (logged : Int × Int) (x : Position) : Prop :=
  forall other y, ReadFromAll pb other y -> Position.ComparesAs x y logged other

theorem comparesWithReads_swap_iff (logged : Int × Int) :
    ComparesWithReads pb logged (Position.ofLogged logged.swap) <->
      logged.1 = logged.2 := by
  constructor
  · intro h
    -- an event in the same place is the one to compare with
    have hequal := (h logged _ (readFromAll_ofLogged logged)).equal
    have hswap := (Position.ofLogged_inj _ _).mp (hequal.mpr rfl)
    exact congrArg Prod.snd hswap
  · rintro h other y hy
    have hself : logged.swap = logged := Prod.ext h.symm h
    rw [hself, hy.position_eq]
    exact Position.comparesAs_self logged other

/-- The positions of two writes are ordered like the log, among themselves and together
with what is read from `$all`. -/
structure OrderedLikeLog (pb : Protobuf) (logged other : Int × Int) (x y : Position) :
    Prop where
  writes : Position.ComparesAs x y logged other
  reads : ComparesWithReads pb logged x
  otherReads : ComparesWithReads pb other y

/-- Two writes are in the order of the log exactly if each has one number for both
positions; among themselves they are as long as the two numbers do not disagree about
which write is first. -/
theorem logPositions_orderedLikeLog_iff {w v : Write} {p q : Package}
    {logged other : Int × Int} {x y : Position}
    (hx : w.Returns pb p logged x) (hy : v.Returns pb q other y) :
    (OrderedLikeLog pb logged other x y <->
        logged.1 = logged.2 ∧ other.1 = other.2) ∧
      (Position.ComparesAs x y logged other <->
        ¬ (logged.1 < other.1 ∧ other.2 < logged.2) ∧
          ¬ (other.1 < logged.1 ∧ logged.2 < other.2)) := by
  rw [hx.position_eq, hy.position_eq]
  refine ⟨⟨?_, ?_⟩, Position.comparesAs_swap_iff logged other⟩
  · intro h
    exact ⟨(comparesWithReads_swap_iff logged).mp h.reads,
      (comparesWithReads_swap_iff other).mp h.otherReads⟩
  · rintro ⟨hlogged, hother⟩
    constructor
    · rw [Position.comparesAs_swap_iff]
      omega
    · exact (comparesWithReads_swap_iff logged).mpr hlogged
    · exact (comparesWithReads_swap_iff other).mpr hother

/-- A `ParseFromArray` of two commits: a transaction that was prepared at 1 and committed
at 10, and one that was prepared at 3 and committed at 5. -/
def transactionsProtobuf : Protobuf :=
  { timeoutProtobuf with
    transactionCommitCompleted := fun payload =>
      if payload = [1] then
        { ok := true
          message :=
            { result := some .success
              lastEventNumber := some 0
              preparePosition := some 1
              commitPosition := some 10 } }
      else
        { ok := true
          message :=
            { result := some .success
              lastEventNumber := some 0
              preparePosition := some 3
              commitPosition := some 5 } } }

def committed (payload : UInt8) : Package :=
  { command := TcpCommand.transactionCommitCompleted
    correlationId := Guid.ofByte payload
    message := [payload] }

theorem committed_returns :
    Write.commitTransaction.Returns transactionsProtobuf (committed 1) (10, 1)
        { commitPosition := 1, preparePosition := 10 } ∧
      Write.commitTransaction.Returns transactionsProtobuf (committed 3) (5, 3)
        { commitPosition := 3, preparePosition := 5 } :=
  ⟨⟨rfl, List.mem_singleton.mpr rfl⟩, ⟨rfl, List.mem_singleton.mpr rfl⟩⟩

theorem committedLast_less :
    ¬ forall (w v : Write) (p q : Package) (logged other : Int × Int) (x y : Position),
      w.Returns transactionsProtobuf p logged x ->
      v.Returns transactionsProtobuf q other y ->
      OrderedLikeLog transactionsProtobuf logged other x y := by
  intro h
  have hordered := h _ _ _ _ _ _ _ _ committed_returns.left committed_returns.right
  have hless := hordered.writes.less.mp (by decide)
  exact absurd hless (by decide)

theorem logPositions_committed :
    ¬ OrderedLikeLog transactionsProtobuf (10, 1) (5, 3)
      { commitPosition := 1, preparePosition := 10 }
      { commitPosition := 3, preparePosition := 5 } := by
  intro h
  have hcondition := (logPositions_orderedLikeLog_iff committed_returns.left
    committed_returns.right).left.mp h
  exact absurd hcondition.left (by decide)

end Operations
end EventStoreClient
