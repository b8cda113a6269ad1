import EventStoreClient.Foundation.SortedLog
import EventStoreClient.Subscription.Callbacks
import EventStoreClient.Subscription.CatchupDelivery
import EventStoreClient.Subscription.Keeping

/-!
# Reading a stream with gaps

`catchup_subscription` with a server that pages a stream some of whose numbers may be
missing.  The subscription moves its current number by as many as it receives events, and
not to the next number of the slice.
-/

namespace EventStoreClient
namespace Subscription
namespace CatchupReading

open Buffer Catchup Connection Foundation Operations Wire

/-!
# The server

Events may be truncated or scavenged, and a slice has those that are left of the numbers
it covers.  Slices and confirmations come from the server alone.
-/

def number (e : Resolved) : Int := (CatchupDelivery.originalEventNumber e).getD 0

def indexedNumber (e : ResolvedIndexedEvent) : Int :=
  number (Resolved.ofResolvedIndexedEvent e)

/-- The events of a stream that can be read, in the order of their numbers, and the number
that the next event is going to get. -/
structure EventStream where
  events : List ResolvedIndexedEvent
  nextNumber : Int
  sorted : SortedLog indexedNumber events
  below : forall e, e ∈ events -> indexedNumber e < nextNumber

namespace EventStream

variable (stream : EventStream)

def append (e : ResolvedIndexedEvent) (he : indexedNumber e = stream.nextNumber) :
    EventStream where
  events := stream.events ++ [e]
  nextNumber := stream.nextNumber + 1
  sorted := stream.sorted.concat fun b hb => he ▸ stream.below b hb
  below := by
    intro b hb
    rcases List.mem_append.mp hb with hold | hnew
    · exact Int.lt_add_one_of_le (Int.le_of_lt (stream.below b hold))
    · rw [List.mem_singleton.mp hnew, he]
      exact Int.lt_succ _

def scavenge (n : Int) : EventStream where
  events := stream.events.filter fun e => decide (indexedNumber e ≠ n)
  nextNumber := stream.nextNumber
  sorted := List.Pairwise.filter _ stream.sorted
  below := fun e he => stream.below e (List.mem_filter.mp he).left

def slice (r : Read Int) (nextEventNumber : Int) : StreamEventsSlice :=
  { fromEventNumber := r.fromPosition
    nextEventNumber := nextEventNumber
    lastEventNumber := stream.nextNumber - 1
    stream := []
    readDirection := ReadDirection.forward
    isEndOfStream := decide (stream.nextNumber ≤ nextEventNumber)
    events := logSegment indexedNumber r.fromPosition nextEventNumber stream.events }

/-- How far a slice may go: with no more events than asked, not beyond the stream, and
further than its start if the stream does. -/
structure Answers (r : Read Int) (nextEventNumber : Int) : Prop where
  le_next : r.fromPosition ≤ nextEventNumber
  progress : r.fromPosition < stream.nextNumber -> r.fromPosition < nextEventNumber
  within : nextEventNumber ≤ max r.fromPosition stream.nextNumber
  count : ((stream.slice r nextEventNumber).events.length : Int) ≤ r.maxCount.toInt

instance (r : Read Int) (nextEventNumber : Int) :
    Decidable (stream.Answers r nextEventNumber) :=
  decidable_of_iff
    (r.fromPosition ≤ nextEventNumber ∧
      (r.fromPosition < stream.nextNumber -> r.fromPosition < nextEventNumber) ∧
      nextEventNumber ≤ max r.fromPosition stream.nextNumber ∧
      ((stream.slice r nextEventNumber).events.length : Int) ≤ r.maxCount.toInt)
    ⟨fun h => ⟨h.left, h.right.left, h.right.right.left, h.right.right.right⟩,
      fun h => ⟨h.le_next, h.progress, h.within, h.count⟩⟩

end EventStream

/-- A slice that the client has handled, in the loop of the history or of the missed
events. -/
structure Page where
  start : Int
  nextEventNumber : Int
  history : Bool
  -- the current number once the slice has been handled
  cursor : Int
  -- the events that the handler has passed on
  passed : List Resolved
  -- whether no fault has left the handler
  returned : Bool

structure System where
  client : CatchupState
  stream : EventStream
  -- whether the server has confirmed the subscription
  confirmed : Bool
  -- the slices handled, oldest first
  pages : List Page

/-- What can happen: an event is appended, an event can no longer be read, the client handles
a slice that the server has read for it, the client handles the confirmation, or anything
else happens to the client. -/
inductive Input where
  | append (e : ResolvedIndexedEvent)
  | scavenge (n : Int)
  | read (nextEventNumber : Int)
  | confirm (lastCommitPosition : Int)
  | other (i : Subscription.Input StreamEventsSlice)

def IsOther : Subscription.Input StreamEventsSlice -> Bool
  | .received (.subscriptionConfirmation _) => false
  | .readCompleted _ (.ok _) => false
  | _ => true

section System

variable (key : Guid) (user : User) (settings : CatchupSubscriptionSettings)

def clientStep (s : System) (i : Subscription.Input StreamEventsSlice) : Option System :=
  (Subscription.step (Catchup.subscription key user settings) s.client i).map
    fun client => { s with client := client }

def handled (r : Read Int) (nextEventNumber : Int) (s : System) (client : CatchupState) :
    System :=
  { s with
    client := client
    pages := s.pages ++
      [{ start := r.fromPosition
         nextEventNumber := nextEventNumber
         history := Buffered.IsHistory r
         cursor := currentEventNumber client
         passed := (appeared client).drop (appeared s.client).length
         returned := decide (client.faults.length = s.client.faults.length) }] }

def step (s : System) : Input -> Option System
  | Input.append e =>
      if he : indexedNumber e = s.stream.nextNumber then
        some { s with stream := s.stream.append e he }
      else none
  | Input.scavenge n => some { s with stream := s.stream.scavenge n }
  | Input.read nextEventNumber =>
      match s.client.reads with
      | [] => none
      | r :: _ =>
          if s.stream.Answers r nextEventNumber then
            (Subscription.step (Catchup.subscription key user settings) s.client
              (Subscription.Input.readCompleted 0
                (Except.ok (s.stream.slice r nextEventNumber)))).map
              (handled r nextEventNumber s)
          else none
  | Input.confirm lastCommitPosition =>
      if s.client.registered = true ∧ s.confirmed = false then
        clientStep key user settings { s with confirmed := true }
          (Subscription.Input.received
            (.subscriptionConfirmation
              { lastCommitPosition := some lastCommitPosition
                lastEventNumber := some (s.stream.nextNumber - 1) }))
      else none
  | Input.other i => if IsOther i then clientStep key user settings s i else none

def initial (fromEventNumber : Int) (stream : EventStream) : System :=
  { client := (Kind.catchup fromEventNumber settings).started
    stream := stream
    confirmed := false
    pages := [] }

end System

/-- The reads of a loop, by their starts, the one under way included. -/
def starts (history : Bool) (s : System) : List Int :=
  (s.pages.filter fun page => page.history == history).map Page.start ++
    (s.client.reads.filter fun r => Buffered.IsHistory r == history).map Read.fromPosition

def passed (s : System) : List Resolved := s.pages.flatMap Page.passed

/-- What should hold in every state: the current number was the next number of each slice
once it had been handled, every read of a loop starts later than the one before, no event is
passed on twice by the loops, and there are no more slices than numbers to read, and one that
finds nothing. -/
structure FollowsCursor (first : Int) (s : System) : Prop where
  cursor_eq : forall page, page ∈ s.pages -> page.returned = true ->
    page.cursor = page.nextEventNumber
  later : forall history, (starts history s).Pairwise fun earlier next => earlier < next
  once : (passed s).Nodup
  finite : (s.pages.length : Int) ≤ max 0 (s.stream.nextNumber - first) + 1

/-- No number is missing in the slice that is read, if its handler is going to return. -/
def Gapless (user : User) (s : System) : Input -> Prop
  | Input.read nextEventNumber => forall r, r ∈ s.client.reads ->
      s.stream.Answers r nextEventNumber ->
      ¬ Interrupts user (sliceEvents (s.stream.slice r nextEventNumber)) s.client ->
      Covers indexedNumber r.fromPosition nextEventNumber s.stream.events
  | _ => True

/-!
# The client

The handler of the only read has returned, or a callback has left it by a fault.
-/

section Client

variable {b : Base Child} {settings : CatchupSubscriptionSettings} {s read : CatchupState}

/-- The loop over a slice moves the current number by the number of events, or is left by
a callback. -/
theorem appear_cases (hshutdown : b.shutdown = Buffered.shutdown) (events : List Resolved)
    (s : CatchupState) :
    (¬ Interrupts b.user events s ∧ exists next,
      Buffered.PassedOn (fun n : Int => n + events.length) events s next ∧
        (appear b events).runOn s = (Except.ok (), next)) ∨
    (Interrupts b.user events s ∧ exists fault move part next, part <+: events ∧
      Buffered.PassedOn move part s next ∧
        (appear b events).runOn s = (Except.error fault, next)) := by
  induction events generalizing s with
  | nil =>
      left
      refine ⟨not_interrupts_nil _ _, s, ?_, rfl⟩
      convert Buffered.PassedOn.refl s using 1
      funext n
      exact Int.add_zero n
  | cons e rest ih =>
      have hcons : appear b (e :: rest) =
          (do
            b.eventAppeared e
            modify advance) >>= fun _ => appear b rest := rfl
      rcases Buffered.eventAppeared_cases hshutdown e s with
        ⟨hgoes, mid, hmid, hrun⟩ | ⟨hends, fault, mid, hmid, hrun⟩
      · have hadvanced : Buffered.PassedOn (fun n : Int => n + 1) [e] s (advance mid) :=
          hmid.trans (Buffered.PassedOn.setCursor (fun n : Int => n + 1) mid)
        have hsplit := hadvanced.interrupts_append b.user rest
        rcases ih (advance mid) with
          ⟨hreturns, next, hnext, hrest⟩ | ⟨hreturns, fault, move, part, next, hpart, hnext, hrest⟩
        · left
          refine ⟨fun h => (hsplit.mp h).elim hgoes hreturns, next, ?_, ?_⟩
          · convert hadvanced.trans hnext using 1
            · funext n
              rw [Function.comp_apply, List.length_cons, Int.natCast_add, Int.natCast_one]
              omega
            · rfl
          · simp only [hcons, Handler.runOn_bind, hrun, Handler.runOn_modify, hrest]
        · right
          refine ⟨hsplit.mpr (Or.inr hreturns), fault, _, e :: part, next,
            List.cons_prefix_cons.mpr ⟨rfl, hpart⟩, hadvanced.trans hnext, ?_⟩
          simp only [hcons, Handler.runOn_bind, hrun, Handler.runOn_modify, hrest]
      · right
        refine ⟨(hmid.interrupts_append b.user rest).mpr (Or.inl hends), fault, _, [e], mid,
          List.cons_prefix_cons.mpr ⟨rfl, List.nil_prefix⟩, hmid, ?_⟩
        simp only [hcons, Handler.runOn_bind, hrun]

/-- What the handler of a read does once the events of its slice have been passed on. -/
def goOn (settings : CatchupSubscriptionSettings) (handler : ReadHandler)
    (slice : StreamEventsSlice) (s : CatchupState) : CatchupState :=
  match handler with
  | .history =>
      if slice.isEndOfStream then Buffered.doAsyncStart s else asyncStart settings s
  | .missed count =>
      if 0 < count - slice.events.length then
        catchUpMissedEvents (count - slice.events.length) s
      else s.post Posted.readSubscriptionEvents

theorem goOn_frame (settings : CatchupSubscriptionSettings) (handler : ReadHandler)
    (slice : StreamEventsSlice) (s : CatchupState) :
    currentEventNumber (goOn settings handler slice s) = currentEventNumber s ∧
      (goOn settings handler slice s).calls = s.calls ∧
      (goOn settings handler slice s).faults = s.faults := by
  cases handler with
  | history =>
      rw [goOn]
      split
      · exact ⟨rfl, rfl, rfl⟩
      · exact ⟨rfl, rfl, rfl⟩
  | missed count =>
      rw [goOn]
      split
      · exact ⟨rfl, rfl, rfl⟩
      · exact ⟨rfl, rfl, rfl⟩

structure Returned (settings : CatchupSubscriptionSettings) (r : Read Int)
    (slice : StreamEventsSlice) (s read client : CatchupState) : Prop where
  passes : Buffered.PassedOn (fun n : Int => n + slice.events.length) (sliceEvents slice)
    (s.takeRead 0) read
  client_eq : client = goOn settings r.handler slice read

structure Interrupted (slice : StreamEventsSlice) (s client : CatchupState) : Prop where
  faulted : client.faults.length = s.faults.length + 1
  unregistered : client.registered = false
  reads_eq : client.reads = (s.takeRead 0).reads
  appeared_eq : exists part, part <+: sliceEvents slice ∧
    appeared client = appeared s ++ part

theorem step_slice (key : Guid) (user : User) (settings : CatchupSubscriptionSettings)
    {r : Read Int} (hreads : s.reads = [r]) (slice : StreamEventsSlice) :
    exists client, Subscription.step (Catchup.subscription key user settings) s
        (Subscription.Input.readCompleted 0 (Except.ok slice)) = some client ∧
      ((¬ Interrupts user (sliceEvents slice) s ∧
          exists read, Returned settings r slice s read client) ∨
        (Interrupts user (sliceEvents slice) s ∧ Interrupted slice s client)) := by
  have hlength : (sliceEvents slice).length = slice.events.length := List.length_map _
  rcases r with ⟨start, maxCount, handler⟩
  have hread : s.reads[0]? = some ⟨start, maxCount, handler⟩ := by
    rw [hreads, List.getElem?_cons_zero]
  rw [Subscription.step, hread, Option.map_some]
  refine ⟨_, rfl, ?_⟩
  rcases appear_cases (b := Catchup.base key user) rfl (sliceEvents slice) (s.takeRead 0) with
    ⟨hreturns, read, hpassed, hrun⟩ | ⟨hends, fault, move, part, read, hpart, hpassed, hrun⟩
  · rw [hlength] at hpassed
    have hgone : (onRead (Catchup.base key user) settings ⟨start, maxCount, handler⟩
        (Except.ok slice)).runOn (s.takeRead 0) =
          (Except.ok (), goOn settings handler slice read) := by
      cases handler with
      | history =>
          simp only [onRead, Handler.runOn_bind, hrun, goOn]
          split <;> rfl
      | missed count =>
          simp only [onRead, Handler.runOn_bind, hrun, goOn]
          split <;> rfl
    left
    refine ⟨hreturns, read, hpassed, ?_⟩
    show settleReceived ((onRead (Catchup.base key user) settings ⟨start, maxCount, handler⟩
      (Except.ok slice)).runOn (s.takeRead 0)) = _
    rw [hgone]
    rfl
  · have hfaulted : (onRead (Catchup.base key user) settings ⟨start, maxCount, handler⟩
        (Except.ok slice)).runOn (s.takeRead 0) = (Except.error fault, read) := by
      cases handler with
      | history => simp only [onRead, Handler.runOn_bind, hrun]
      | missed count => simp only [onRead, Handler.runOn_bind, hrun]
    right
    refine ⟨hends, ?_⟩
    show Interrupted slice s (settleReceived ((onRead (Catchup.base key user) settings
      ⟨start, maxCount, handler⟩ (Except.ok slice)).runOn (s.takeRead 0)))
    rw [hfaulted]
    constructor
    · show (read.faults ++ [fault]).length = _
      rw [List.length_append, hpassed.faults_eq, List.length_singleton]
      rfl
    · exact hpassed.registered_eq.trans hends.left
    · exact hpassed.reads_eq
    · exact ⟨part, hpart, hpassed.appeared_eq⟩

theorem catchUpMissedEvents_reads (hreads : s.reads = []) (count : Int) :
    (catchUpMissedEvents count s).reads =
      [{ fromPosition := currentEventNumber s
         maxCount := Int32.ofInt count
         handler := ReadHandler.missed count }] := by
  rw [catchUpMissedEvents, Buffered.catchUpEvents, State.startRead, hreads, List.nil_append]

end Client

/-!
# What holds in every state

The client waits for a slice from the current number on, or is not going to read any more.
-/

/-- The loops have read, and passed events on, up to a number.  At most one slice has found
nothing. -/
structure Progress (first current : Int) (s : System) : Prop where
  first_le : first ≤ current
  within : current ≤ max first s.stream.nextNumber
  sorted : (passed s).Pairwise fun e e' => number e < number e'
  below : forall e, e ∈ passed s -> number e < current
  cursor_eq : forall page, page ∈ s.pages -> page.returned = true ->
    page.cursor = page.nextEventNumber
  later : forall history, (starts history s).Pairwise fun earlier next => earlier < next
  starts_le : forall history start, start ∈ starts history s -> start ≤ current
  counted : (s.pages.length : Int) ≤ current - first + 1

structure Waiting (reads : List (Read Int)) (current : Int) (target : Option Int)
    (client : CatchupState) : Prop where
  reads_eq : client.reads = reads
  cursor_eq : currentEventNumber client = current
  target_eq : client.lastEventNumber = target
  unread : Posted.readSubscriptionEvents ∉ client.posted

/-- The client reads nothing, and a confirmation is not going to make it. -/
structure Idle (confirmed : Bool) (client : CatchupState) : Prop where
  reads_eq : client.reads = []
  settled : client.registered = true -> client.handleGuard = false -> confirmed = true

/-- The client reads the history, waits for the confirmation, reads missed events, or reads
no more. -/
inductive Phase (first current : Int) (s : System) : Prop where
  | history {r : Read Int} (hwaiting : Waiting [r] current none s.client)
      (hhandler : r.handler = ReadHandler.history) (hstart : r.fromPosition = current)
      (hregistered : s.client.registered = false) (hconfirmed : s.confirmed = false)
      (hmissed : forall page, page ∈ s.pages -> page.history = true)
      (hcounted : (s.pages.length : Int) ≤ current - first) : Phase first current s
  | requested (hwaiting : Waiting [] current none s.client) (hconfirmed : s.confirmed = false)
      (hmissed : forall page, page ∈ s.pages -> page.history = true) : Phase first current s
  | missed {r : Read Int} {count : Int}
      (hwaiting : Waiting [r] current (some (current + count)) s.client)
      (hhandler : r.handler = ReadHandler.missed count) (hstart : r.fromPosition = current)
      (hconfirmed : s.confirmed = true) (hcount : 0 < count)
      (hbehind : current + count < s.stream.nextNumber) : Phase first current s
  | done (hidle : Idle s.confirmed s.client) : Phase first current s

def Following (first : Int) (s : System) : Prop :=
  exists current, Progress first current s ∧ Phase first current s

section Steps

variable {first current : Int} {s next : System} {client : CatchupState} {key : Guid}
  {user : User} {settings : CatchupSubscriptionSettings} {b : Base Child}
  {reads : List (Read Int)} {target : Option Int} {confirmed : Bool}

theorem Progress.followsCursor (h : Progress first current s) : FollowsCursor first s where
  cursor_eq := h.cursor_eq
  later := h.later
  once := h.sorted.imp fun hlt heq => absurd (heq ▸ hlt) (Int.lt_irrefl _)
  finite := by
    have hwithin := h.within
    have hcounted := h.counted
    omega

theorem initial_following (settings : CatchupSubscriptionSettings) (first : Int)
    (stream : EventStream) : Following first (initial settings first stream) := by
  refine ⟨first, ?_, Phase.history ⟨rfl, rfl, rfl, List.not_mem_nil⟩ rfl rfl rfl rfl ?_ ?_⟩
  · constructor
    · exact le_rfl
    · exact le_max_left _ _
    · exact List.Pairwise.nil
    · exact fun _ he => absurd he List.not_mem_nil
    · exact fun _ hpage => absurd hpage List.not_mem_nil
    · intro history
      cases history with
      | true => exact List.pairwise_singleton _ _
      | false => exact List.Pairwise.nil
    · intro history start hstart
      cases history with
      | true => exact le_of_eq (List.mem_singleton.mp hstart)
      | false => exact absurd hstart List.not_mem_nil
    · show (0 : Int) ≤ first - first + 1
      omega
  · exact fun _ hpage => absurd hpage List.not_mem_nil
  · show (0 : Int) ≤ first - first
    omega

/-!
# Steps that read nothing

They leave the reads alone.  A read that fails is not counted, and ends the subscription.
-/

theorem Progress.frame (h : Progress first current s) (hreads : next.client.reads = s.client.reads)
    (hpages : next.pages = s.pages)
    (hstream : s.stream.nextNumber ≤ next.stream.nextNumber) :
    Progress first current next := by
  have hstarts : forall history, starts history next = starts history s := by
    intro history
    rw [starts, hreads, hpages, starts]
  have hpassed : passed next = passed s := by
    rw [passed, hpages, passed]
  constructor
  · exact h.first_le
  · exact h.within.trans (max_le_max le_rfl hstream)
  · rw [hpassed]
    exact h.sorted
  · rw [hpassed]
    exact h.below
  · rw [hpages]
    exact h.cursor_eq
  · intro history
    rw [hstarts]
    exact h.later history
  · intro history
    rw [hstarts]
    exact h.starts_le history
  · rw [hpages]
    exact h.counted

theorem Progress.failed (h : Progress first current s) (hnone : client.reads = []) :
    Progress first current { s with client := client } := by
  have hsublist : forall history,
      (starts history { s with client := client }).Sublist (starts history s) := by
    intro history
    rw [starts, hnone, List.filter_nil, List.map_nil, List.append_nil]
    exact List.sublist_append_left _ _
  exact ⟨h.first_le, h.within, h.sorted, h.below, h.cursor_eq,
    fun history => (h.later history).sublist (hsublist history),
    fun history start hstart => h.starts_le history start ((hsublist history).mem hstart),
    h.counted⟩

theorem Phase.server (h : Phase first current s) {stream : EventStream}
    (hstream : s.stream.nextNumber ≤ stream.nextNumber) :
    Phase first current { s with stream := stream } := by
  cases h with
  | history hwaiting hhandler hstart hregistered hconfirmed hmissed hcounted =>
      exact Phase.history hwaiting hhandler hstart hregistered hconfirmed hmissed hcounted
  | requested hwaiting hconfirmed hmissed => exact Phase.requested hwaiting hconfirmed hmissed
  | missed hwaiting hhandler hstart hconfirmed hcount hbehind =>
      exact Phase.missed hwaiting hhandler hstart hconfirmed hcount
        (lt_of_lt_of_le hbehind hstream)
  | done hidle => exact Phase.done hidle

theorem Following.server (h : Following first s) {stream : EventStream}
    (hstream : s.stream.nextNumber ≤ stream.nextNumber) :
    Following first { s with stream := stream } := by
  rcases h with ⟨current, hprogress, hphase⟩
  exact ⟨current, hprogress.frame rfl rfl hstream, hphase.server hstream⟩

theorem keepingBase_waiting (hshutdown : b.shutdown = Buffered.shutdown)
    (reads : List (Read Int)) (current : Int) (target : Option Int) :
    KeepingBase b (Waiting reads current target) where
  called := fun _ hs => ⟨hs.reads_eq, hs.cursor_eq, hs.target_eq, hs.unread⟩
  unsubscribe := by
    intro s ec hs
    constructor
    · rw [unsubscribe_reads]
      exact hs.reads_eq
    · rw [currentEventNumber, unsubscribe_child, hshutdown]
      exact hs.cursor_eq
    · rw [unsubscribe_lastEventNumber]
      exact hs.target_eq
    · exact fun hmem => hs.unread (mem_posted_unsubscribe ec hmem)
  erase := fun hs => ⟨hs.reads_eq, hs.cursor_eq, hs.target_eq, hs.unread⟩
  answered := fun hs => ⟨hs.reads_eq, hs.cursor_eq, hs.target_eq, hs.unread⟩
  setDeadline := fun _ hs => ⟨hs.reads_eq, hs.cursor_eq, hs.target_eq, hs.unread⟩
  fault := fun _ _ hs => ⟨hs.reads_eq, hs.cursor_eq, hs.target_eq, hs.unread⟩

theorem keepingBase_unregistered (b : Base Child) :
    KeepingBase b (fun client : CatchupState => client.registered = false) where
  called := fun _ hs => hs
  unsubscribe := by
    intro s ec hs
    rw [unsubscribe_registered]
    exact hs
  erase := fun _ => rfl
  answered := fun hs => hs
  setDeadline := fun _ hs => hs
  fault := fun _ _ hs => hs

/-- Events are missed: one that appears waits, or it leaves its handler with a fault. -/
theorem Waiting.onAppeared (h : Waiting reads current target client)
    (hbehind : forall n, target = some n -> current < n) (b : Base Child)
    (settings : CatchupSubscriptionSettings) (message : StreamEventAppeared) :
    Waiting reads current target
      ((onPackageReceived b settings (.streamEventAppeared message)).runOn client).2 := by
  have hheld : Waiting reads current target
      (Buffered.emplaceBack (Resolved.ofStreamEventAppeared message) client) :=
    ⟨h.reads_eq, h.cursor_eq, h.target_eq, h.unread⟩
  unfold onPackageReceived
  apply Handler.after_modify
  refine Handler.after_bind Buffered.keeps_front (fun _ hs => hs) (fun event s hs => ?_) hheld
  refine Handler.after_bind (keeps_value _) (fun _ hs => hs) (fun _ s hs => ?_) hs
  cases htarget : s.lastEventNumber with
  | none =>
      simp only [Handler.runOn_bind, Handler.runOn_get, htarget, value, Handler.runOn_throw]
      exact hs
  | some n =>
      have hmissed : currentEventNumber s < n := by
        rw [hs.cursor_eq]
        exact hbehind n (hs.target_eq.symm.trans htarget)
      simp only [Handler.runOn_bind, Handler.runOn_get, htarget, value, Handler.runOn_pure,
        if_pos hmissed]
      exact hs

theorem Waiting.step (h : Waiting reads current target client)
    (hbehind : forall n, target = some n -> current < n)
    {i : Subscription.Input StreamEventsSlice} (hother : IsOther i = true)
    (hread : forall j result, i ≠ .readCompleted j result) {after : CatchupState}
    (hstep : Subscription.step (Catchup.subscription key user settings) client i = some after) :
    Waiting reads current target after ∧
      (client.registered = false -> after.registered = false) := by
  have hkeeping := keepingBase_waiting (b := Catchup.base key user) rfl reads current target
  have htaken : forall j, Waiting reads current target (client.takePosted j) := fun j =>
    ⟨h.reads_eq, h.cursor_eq, h.target_eq, fun hmem => h.unread (List.mem_of_mem_eraseIdx hmem)⟩
  have hderived : forall message, i = .received message ->
      Waiting reads current target ((onPackageReceived (Catchup.base key user) settings
        message).runOn client).2 := by
    rintro message rfl
    cases message with
    | subscriptionConfirmation response => cases hother
    | streamEventAppeared message => exact h.onAppeared hbehind _ settings message
    | _ => exact h
  constructor
  · exact KeepingBase.step (c := Catchup.subscription key user settings) hkeeping h hread
      (fun message hi _ => hderived message hi) htaken (fun hmem => absurd hmem h.unread) hstep
  · intro hregistered
    refine KeepingBase.step (c := Catchup.subscription key user settings)
      (keepingBase_unregistered _) hregistered hread ?_ (fun _ => hregistered)
      (fun hmem => absurd hmem h.unread) hstep
    intro message _ hlistening
    rw [hlistening.registered] at hregistered
    cases hregistered

theorem keepingBase_idle (confirmed : Bool) (b : Base Child) :
    KeepingBase b (Idle confirmed) where
  called := fun _ hs => ⟨hs.reads_eq, hs.settled⟩
  unsubscribe := by
    intro s ec hs
    constructor
    · rw [unsubscribe_reads]
      exact hs.reads_eq
    · intro _ hunlocked
      rw [unsubscribe_handleGuard] at hunlocked
      cases hunlocked
  erase := fun hs => ⟨hs.reads_eq, fun hregistered => absurd hregistered Bool.false_ne_true⟩
  answered := fun hs => ⟨hs.reads_eq, hs.settled⟩
  setDeadline := fun _ hs => ⟨hs.reads_eq, hs.settled⟩
  fault := fun _ _ hs => ⟨hs.reads_eq, hs.settled⟩

theorem keeping_idle (confirmed : Bool) (b : Base Child) :
    Keeping b (fun _ => False) (Idle confirmed) where
  setChild := fun _ hs => ⟨hs.reads_eq, hs.settled⟩
  confirm := fun _ _ hs => ⟨hs.reads_eq, hs.settled⟩
  called := fun _ _ hs => ⟨hs.reads_eq, hs.settled⟩
  unsubscribe := (keepingBase_idle confirmed b).unsubscribe
  postRead := fun hs => ⟨hs.reads_eq, hs.settled⟩
  startRead := fun hmissed _ => hmissed.elim

theorem Idle.step (h : Idle confirmed client) {i : Subscription.Input StreamEventsSlice}
    (hother : IsOther i = true) {after : CatchupState}
    (hstep : Subscription.step (Catchup.subscription key user settings) client i = some after) :
    Idle confirmed after := by
  have hguarding := (keeping_idle confirmed (Catchup.base key user)).guarding
  by_cases hread : exists j result, i = .readCompleted j result
  · rcases hread with ⟨j, result, rfl⟩
    rw [Subscription.step, h.reads_eq] at hstep
    cases hstep
  · push Not at hread
    have htaken : forall j, Idle confirmed (client.takePosted j) :=
      fun _ => ⟨h.reads_eq, h.settled⟩
    refine KeepingBase.step (c := Catchup.subscription key user settings)
      (keepingBase_idle confirmed _) h hread ?_ htaken
      (fun _ j => (guards_readSubscriptionEvents settings hguarding).keeps _ (htaken j)) hstep
    rintro message rfl _
    cases message with
    | subscriptionConfirmation response => cases hother
    | streamEventAppeared message => exact (guards_onAppeared settings hguarding message).keeps _ h
    | _ => exact h

theorem step_failed {r : Read Int} (hreads : client.reads = [r]) {j : Nat} {e : Error}
    {after : CatchupState}
    (hstep : Subscription.step (Catchup.subscription key user settings) client
      (.readCompleted j (.error e)) = some after) (confirmed : Bool) : Idle confirmed after := by
  rw [Subscription.step, hreads, List.getElem?_singleton] at hstep
  split at hstep
  case isFalse => cases hstep
  case isTrue hj =>
    subst hj
    obtain rfl := Option.some.inj hstep
    have hended : forall ec, Idle confirmed
        ((Catchup.base key user).unsubscribe ec (client.takeRead 0)) := by
      intro ec
      constructor
      · rw [unsubscribe_reads]
        exact takeRead_reads hreads
      · intro _ hunlocked
        rw [unsubscribe_handleGuard] at hunlocked
        cases hunlocked
    rcases r with ⟨start, maxCount, handler⟩
    cases handler with
    | history =>
        have hafter := hended (Error.subscription .subscriptionRequestNotSent)
        rw [← settleRead_ok (Except.error e : Except Error StreamEventsSlice)
          (Base.unsubscribe _ _ _)] at hafter
        exact hafter
    | missed count =>
        have hafter := hended e
        rw [← settleRead_ok (Except.error e : Except Error StreamEventsSlice)
          (Base.unsubscribe _ _ _)] at hafter
        exact hafter

theorem Following.other (h : Following first s) {i : Subscription.Input StreamEventsSlice}
    (hstep : step key user settings s (Input.other i) = some next) : Following first next := by
  rw [step] at hstep
  split at hstep
  case isFalse => cases hstep
  case isTrue hother =>
    rw [clientStep, Option.map_eq_some_iff] at hstep
    rcases hstep with ⟨client, hclient, rfl⟩
    rcases h with ⟨current, hprogress, hphase⟩
    have hframe : client.reads = s.client.reads ->
        Progress first current { s with client := client } :=
      fun hreads => hprogress.frame hreads rfl le_rfl
    by_cases hread : exists j result, i = .readCompleted j result
    · rcases hread with ⟨j, result, rfl⟩
      have hfailed : forall r, s.client.reads = [r] -> Idle s.confirmed client := by
        intro r hreads
        cases result with
        | ok slice => cases hother
        | error e => exact step_failed hreads hclient s.confirmed
      have hnone : s.client.reads ≠ [] := by
        intro hnone
        rw [Subscription.step, hnone] at hclient
        cases hclient
      cases hphase with
      | history hwaiting =>
          have hidle := hfailed _ hwaiting.reads_eq
          exact ⟨current, hprogress.failed hidle.reads_eq, Phase.done hidle⟩
      | requested hwaiting => exact absurd hwaiting.reads_eq hnone
      | missed hwaiting =>
          have hidle := hfailed _ hwaiting.reads_eq
          exact ⟨current, hprogress.failed hidle.reads_eq, Phase.done hidle⟩
      | done hidle => exact absurd hidle.reads_eq hnone
    · push Not at hread
      cases hphase with
      | history hwaiting hhandler hstart hregistered hconfirmed hmissed hcounted =>
          rcases hwaiting.step (fun _ htarget => absurd htarget.symm (Option.some_ne_none _))
            hother hread hclient with ⟨hafter, hunregistered⟩
          exact ⟨current, hframe (hafter.reads_eq.trans hwaiting.reads_eq.symm),
            Phase.history hafter hhandler hstart (hunregistered hregistered) hconfirmed hmissed
              hcounted⟩
      | requested hwaiting hconfirmed hmissed =>
          rcases hwaiting.step (fun _ htarget => absurd htarget.symm (Option.some_ne_none _))
            hother hread hclient with ⟨hafter, _⟩
          exact ⟨current, hframe (hafter.reads_eq.trans hwaiting.reads_eq.symm),
            Phase.requested hafter hconfirmed hmissed⟩
      | @missed r count hwaiting hhandler hstart hconfirmed hcount hbehind =>
          have htarget : forall n, some (current + count) = some n -> current < n := by
            intro n hn
            obtain rfl := Option.some.inj hn
            exact Int.lt_add_of_pos_right current hcount
          rcases hwaiting.step htarget hother hread hclient with ⟨hafter, _⟩
          exact ⟨current, hframe (hafter.reads_eq.trans hwaiting.reads_eq.symm),
            Phase.missed hafter hhandler hstart hconfirmed hcount hbehind⟩
      | done hidle =>
          have hafter := hidle.step hother hclient
          exact ⟨current, hframe (hafter.reads_eq.trans hidle.reads_eq.symm), Phase.done hafter⟩

/-!
# The confirmation

The first read of missed events is counted with the reads before it.
-/

theorem Progress.confirm (h : Progress first current s) (hreads : s.client.reads = [])
    (hmissed : forall page, page ∈ s.pages -> page.history = true)
    (hpages : next.pages = s.pages) (hstream : next.stream = s.stream) {r : Read Int}
    (hissued : next.client.reads = [r]) (hloop : Buffered.IsHistory r = false)
    (hstart : r.fromPosition = current) : Progress first current next := by
  have hbefore : forall history, starts history s =
      (s.pages.filter fun page => page.history == history).map Page.start := by
    intro history
    rw [starts, hreads]
    exact List.append_nil _
  have hhistory : starts true next = starts true s := by
    rw [hbefore, starts, hpages, hissued]
    simp [hloop]
  have hfirst : starts false next = [current] := by
    have hnone : (s.pages.filter fun page => page.history == false) = [] := by
      rw [List.filter_eq_nil_iff]
      intro page hpage
      rw [hmissed page hpage]
      exact Bool.false_ne_true
    rw [starts, hpages, hissued, hnone]
    simp [hloop, hstart]
  have hpassed : passed next = passed s := by
    rw [passed, hpages, passed]
  constructor
  · exact h.first_le
  · rw [hstream]
    exact h.within
  · rw [hpassed]
    exact h.sorted
  · rw [hpassed]
    exact h.below
  · rw [hpages]
    exact h.cursor_eq
  · intro history
    cases history with
    | true =>
        rw [hhistory]
        exact h.later true
    | false =>
        rw [hfirst]
        exact List.pairwise_singleton _ _
  · intro history
    cases history with
    | true =>
        rw [hhistory]
        exact h.starts_le true
    | false =>
        rw [hfirst]
        exact fun start hstart => le_of_eq (List.mem_singleton.mp hstart)
  · rw [hpages]
    exact h.counted

theorem Waiting.confirm (hwaiting : Waiting [] current none s.client)
    (hlistening : Listening s.client) (hprogress : Progress first current s)
    (hmissed : forall page, page ∈ s.pages -> page.history = true)
    {lastCommitPosition : Int}
    (hclient : Subscription.step (Catchup.subscription key user settings) s.client
      (.received (.subscriptionConfirmation
        { lastCommitPosition := some lastCommitPosition
          lastEventNumber := some (s.stream.nextNumber - 1) })) = some client) :
    Following first { s with confirmed := true, client := client } := by
  have hnone := hwaiting.reads_eq
  have hrun : ((Catchup.subscription key user settings).onPackageReceived
      (.subscriptionConfirmation
        { lastCommitPosition := some lastCommitPosition
          lastEventNumber := some (s.stream.nextNumber - 1) })).runOn s.client =
        (Except.ok true, _) :=
    CatchupDelivery.onConfirmation_run (Catchup.base key user) settings _ _
  obtain rfl := received_eq (c := Catchup.subscription key user settings) hlistening.unasked
    hlistening.registered hlistening.unlocked hrun hclient
  simp only
  split
  · rename_i hbehind
    have hissued := catchUpMissedEvents_reads hnone
      (s.stream.nextNumber - 1 - currentEventNumber s.client)
    rw [hwaiting.cursor_eq] at hbehind
    refine ⟨current, hprogress.confirm hnone hmissed rfl rfl hissued rfl hwaiting.cursor_eq,
      Phase.missed ⟨hissued, hwaiting.cursor_eq, ?_, hwaiting.unread⟩ rfl hwaiting.cursor_eq rfl
        ?_ ?_⟩
    · show some (s.stream.nextNumber - 1) = some _
      rw [hwaiting.cursor_eq]
      congr 1
      omega
    · rw [hwaiting.cursor_eq]
      omega
    · show _ < s.stream.nextNumber
      rw [hwaiting.cursor_eq]
      omega
  · exact ⟨current, hprogress.frame rfl rfl le_rfl, Phase.done ⟨hnone, fun _ _ => rfl⟩⟩

theorem Following.confirm (h : Following first s) {lastCommitPosition : Int}
    (hstep : step key user settings s (Input.confirm lastCommitPosition) = some next) :
    Following first next := by
  rw [step] at hstep
  split at hstep
  case isFalse => cases hstep
  case isTrue hallowed =>
    rcases hallowed with ⟨hregistered, hunconfirmed⟩
    rw [clientStep, Option.map_eq_some_iff] at hstep
    rcases hstep with ⟨client, hclient, rfl⟩
    rcases h with ⟨current, hprogress, hphase⟩
    -- the confirmation does not get to the class
    have hignored : s.client.reads = [] -> ¬ Listening s.client ->
        Following first { s with confirmed := true, client := client } := by
      intro hnone hdeaf
      have hkeeping := keepingBase_idle true (Catchup.base key user)
      have hidle : Idle true client := by
        rw [Subscription.step] at hclient
        split at hclient
        · cases hclient
          exact hkeeping.settleReceived (KeepingBase.receive
            (c := Catchup.subscription key user settings) hkeeping
            (fun hlistening => absurd hlistening hdeaf) ⟨hnone, fun _ _ => rfl⟩)
        · cases hclient
      exact ⟨current, hprogress.frame (hidle.reads_eq.trans hnone.symm) rfl le_rfl,
        Phase.done hidle⟩
    cases hphase with
    | history _ _ _ hunregistered =>
        rw [hunregistered] at hregistered
        cases hregistered
    | missed _ _ _ hconfirmed =>
        rw [hunconfirmed] at hconfirmed
        cases hconfirmed
    | requested hwaiting _ hmissed =>
        by_cases hlistening : Listening s.client
        · exact hwaiting.confirm hlistening hprogress hmissed hclient
        · exact hignored hwaiting.reads_eq hlistening
    | done hidle =>
        apply hignored hidle.reads_eq
        intro hlistening
        have hconfirmed := hidle.settled hlistening.registered hlistening.unlocked
        rw [hunconfirmed] at hconfirmed
        cases hconfirmed

/-!
# Slices

A slice has as many events as numbers if and only if it has no gap.  One without a gap is
handled with the current number at its end.
-/

/-- The events of a slice are in order, and have numbers between its start and its next
number. -/
theorem slice_sorted (stream : EventStream) (r : Read Int) (nextEventNumber : Int) :
    (sliceEvents (stream.slice r nextEventNumber)).Pairwise fun e e' =>
      number e < number e' :=
  List.pairwise_map.mpr (List.Pairwise.filter _ stream.sorted)

theorem slice_between {stream : EventStream} {r : Read Int} {nextEventNumber : Int}
    {e : Resolved} (he : e ∈ sliceEvents (stream.slice r nextEventNumber)) :
    r.fromPosition ≤ number e ∧ number e < nextEventNumber := by
  rcases List.mem_map.mp he with ⟨event, hevent, rfl⟩
  exact of_decide_eq_true (List.mem_filter.mp hevent).right

theorem passed_handled {r : Read Int} {nextEventNumber : Int} {part : List Resolved}
    (happeared : appeared client = appeared s.client ++ part) :
    passed (handled r nextEventNumber s client) = passed s ++ part := by
  rw [passed, handled, List.flatMap_append, passed, List.flatMap_singleton, happeared,
    List.drop_left]

theorem pages_handled (r : Read Int) (nextEventNumber : Int) (s : System)
    (client : CatchupState) :
    ((handled r nextEventNumber s client).pages.length : Int) = s.pages.length + 1 := by
  rw [handled, List.length_append, List.length_singleton, Int.natCast_add, Int.natCast_one]

theorem starts_handled {r : Read Int} (hreads : s.client.reads = [r])
    (nextEventNumber : Int) (client : CatchupState) (history : Bool) :
    starts history (handled r nextEventNumber s client) = starts history s ++
      (client.reads.filter fun r => Buffered.IsHistory r == history).map
        Read.fromPosition := by
  rw [starts, handled, starts, hreads, List.filter_append, List.map_append]
  congr 2
  cases hloop : (Buffered.IsHistory r == history) with
  | true => simp [hloop]
  | false => simp [hloop]

/-- The client has handled a slice, or the first events of it, and asks for more only behind
it. -/
theorem Progress.handled (h : Progress first current s) {r : Read Int}
    (hreads : s.client.reads = [r]) (hstart : r.fromPosition = current)
    {nextEventNumber : Int} (hanswers : s.stream.Answers r nextEventNumber)
    (hcursor : client.faults.length = s.client.faults.length ->
      currentEventNumber client = nextEventNumber)
    {part : List Resolved}
    (hpart : part <+: sliceEvents (s.stream.slice r nextEventNumber))
    (happeared : appeared client = appeared s.client ++ part)
    (hissued : client.reads = [] ∨ exists r', client.reads = [r'] ∧
      r'.fromPosition = nextEventNumber ∧ current < nextEventNumber)
    (hcounted : (s.pages.length : Int) ≤ nextEventNumber - first) :
    Progress first nextEventNumber (handled r nextEventNumber s client) := by
  have hle : current ≤ nextEventNumber := hstart ▸ hanswers.le_next
  have hfirst := h.first_le
  have hlater : forall history start,
      start ∈ (client.reads.filter fun r => Buffered.IsHistory r == history).map
        Read.fromPosition -> start = nextEventNumber ∧ current < nextEventNumber := by
    intro history start hmem
    rcases List.mem_map.mp hmem with ⟨r', hr', rfl⟩
    have hr'' := (List.mem_filter.mp hr').left
    rcases hissued with hnone | ⟨r₀, hone, hfrom, hlt⟩
    · rw [hnone] at hr''
      cases hr''
    · rw [hone, List.mem_singleton] at hr''
      exact ⟨hr''.symm ▸ hfrom, hlt⟩
  constructor
  · omega
  · have hwithin := h.within
    have hslice := hanswers.within
    show _ ≤ max first s.stream.nextNumber
    omega
  · rw [passed_handled happeared, List.pairwise_append]
    refine ⟨h.sorted, (slice_sorted _ _ _).sublist hpart.sublist, ?_⟩
    intro e he e' he'
    have hbefore := h.below e he
    have hafter := (slice_between (hpart.mem he')).left
    omega
  · rw [passed_handled happeared]
    intro e he
    rcases List.mem_append.mp he with hold | hnew
    · exact lt_of_lt_of_le (h.below e hold) hle
    · exact (slice_between (hpart.mem hnew)).right
  · intro page hpage hreturned
    rcases List.mem_append.mp hpage with hold | hnew
    · exact h.cursor_eq page hold hreturned
    · rw [List.mem_singleton.mp hnew] at hreturned ⊢
      exact hcursor (of_decide_eq_true hreturned)
  · intro history
    rw [starts_handled hreads, List.pairwise_append]
    refine ⟨h.later history, ?_, ?_⟩
    · rcases hissued with hnone | ⟨r', hone, _, _⟩
      · rw [hnone]
        exact List.Pairwise.nil
      · rw [hone]
        exact List.Pairwise.map _ (fun _ _ h => h) (List.Pairwise.filter _
          (List.pairwise_singleton (fun a b : Read Int => a.fromPosition < b.fromPosition) r'))
    · intro start hmem start' hmem'
      have hold := h.starts_le history start hmem
      rcases hlater history start' hmem' with ⟨rfl, hlt⟩
      exact lt_of_le_of_lt hold hlt
  · intro history start hmem
    rw [starts_handled hreads] at hmem
    rcases List.mem_append.mp hmem with hold | hnew
    · exact (h.starts_le history start hold).trans hle
    · exact le_of_eq (hlater history start hnew).left
  · rw [pages_handled]
    omega

theorem slice_length_iff {r : Read Int} {nextEventNumber : Int}
    (hanswers : s.stream.Answers r nextEventNumber) (hstart : r.fromPosition = current) :
    current + (s.stream.slice r nextEventNumber).events.length = nextEventNumber <->
      Covers indexedNumber r.fromPosition nextEventNumber s.stream.events := by
  subst hstart
  exact s.stream.sorted.length_logSegment_eq_iff hanswers.le_next

theorem slice_isEnd_iff (stream : EventStream) (r : Read Int) (nextEventNumber : Int) :
    (stream.slice r nextEventNumber).isEndOfStream = true <->
      stream.nextNumber ≤ nextEventNumber := decide_eq_true_iff

theorem Interrupted.following {r : Read Int} {nextEventNumber : Int}
    (h : Interrupted (s.stream.slice r nextEventNumber) s.client client)
    (hprogress : Progress first current s) (hreads : s.client.reads = [r])
    (hstart : r.fromPosition = current) (hanswers : s.stream.Answers r nextEventNumber)
    (hcounted : (s.pages.length : Int) ≤ nextEventNumber - first) :
    Following first (handled r nextEventNumber s client) := by
  rcases h.appeared_eq with ⟨part, hpart, happeared⟩
  have hnone : client.reads = [] := h.reads_eq.trans (takeRead_reads hreads)
  have hcursor : client.faults.length = s.client.faults.length ->
      currentEventNumber client = nextEventNumber := by
    intro hreturned
    have hfaulted := h.faulted
    omega
  refine ⟨nextEventNumber, hprogress.handled hreads hstart hanswers hcursor hpart happeared
    (Or.inl hnone) hcounted, Phase.done ⟨hnone, ?_⟩⟩
  intro hregistered
  have hunregistered := h.unregistered
  rw [show client.registered = true from hregistered] at hunregistered
  cases hunregistered

section Returned

variable {r : Read Int} {slice : StreamEventsSlice} {read : CatchupState}

theorem Returned.cursor_eq (h : Returned settings r slice s.client read client) :
    currentEventNumber client = currentEventNumber s.client + slice.events.length := by
  rw [h.client_eq, (goOn_frame settings r.handler slice read).left]
  exact h.passes.cursor_eq

theorem Returned.appeared_eq (h : Returned settings r slice s.client read client) :
    appeared client = appeared s.client ++ sliceEvents slice := by
  rw [h.client_eq, appeared, (goOn_frame settings r.handler slice read).right.left]
  exact h.passes.appeared_eq

theorem Returned.faults_eq (h : Returned settings r slice s.client read client) :
    client.faults = s.client.faults := by
  rw [h.client_eq, (goOn_frame settings r.handler slice read).right.right]
  exact h.passes.faults_eq

theorem Returned.waiting (h : Returned settings r slice s.client read client)
    (hwaiting : Waiting [r] current target s.client) :
    Waiting [] (current + slice.events.length) target read where
  reads_eq := h.passes.reads_eq.trans (takeRead_reads hwaiting.reads_eq)
  cursor_eq := by
    rw [← hwaiting.cursor_eq]
    exact h.passes.cursor_eq
  target_eq := h.passes.lastEventNumber_eq.trans hwaiting.target_eq
  unread := fun hmem => hwaiting.unread (h.passes.unread hmem)

end Returned

theorem Following.history (hprogress : Progress first current s) {r : Read Int}
    (hwaiting : Waiting [r] current none s.client) (hhandler : r.handler = ReadHandler.history)
    (hstart : r.fromPosition = current) (hregistered : s.client.registered = false)
    (hconfirmed : s.confirmed = false)
    (hmissed : forall page, page ∈ s.pages -> page.history = true)
    (hcounted : (s.pages.length : Int) ≤ current - first) {nextEventNumber : Int}
    (hanswers : s.stream.Answers r nextEventNumber)
    (hlength : current + (s.stream.slice r nextEventNumber).events.length = nextEventNumber)
    {read : CatchupState} (hreturned : Returned settings r
      (s.stream.slice r nextEventNumber) s.client read client) :
    Following first (CatchupReading.handled r nextEventNumber s client) := by
  have hle : current ≤ nextEventNumber := hstart ▸ hanswers.le_next
  have hread := hreturned.waiting hwaiting
  have hcursor := hreturned.cursor_eq
  have happeared := hreturned.appeared_eq
  rw [hlength] at hread
  rw [hwaiting.cursor_eq, hlength] at hcursor
  have hpages : forall page,
      page ∈ (CatchupReading.handled r nextEventNumber s client).pages ->
        page.history = true := by
    intro page hpage
    rcases List.mem_append.mp hpage with hold | hnew
    · exact hmissed page hold
    · rw [List.mem_singleton.mp hnew]
      exact decide_eq_true hhandler
  have hclient := hreturned.client_eq
  rw [hhandler, goOn] at hclient
  by_cases hend : (s.stream.slice r nextEventNumber).isEndOfStream = true
  · rw [if_pos hend] at hclient
    subst hclient
    exact ⟨nextEventNumber, hprogress.handled hwaiting.reads_eq hstart hanswers
      (fun _ => hcursor) List.prefix_rfl happeared (Or.inl hread.reads_eq) (by omega),
      Phase.requested ⟨hread.reads_eq, hread.cursor_eq, hread.target_eq, hread.unread⟩
        hconfirmed hpages⟩
  · rw [if_neg hend] at hclient
    subst hclient
    have hissued := @CatchupDelivery.asyncStart_reads settings _ hread.reads_eq
    have hlater : current < nextEventNumber := by
      rw [slice_isEnd_iff] at hend
      have hprogresses := hanswers.progress
      omega
    refine ⟨nextEventNumber, hprogress.handled hwaiting.reads_eq hstart hanswers
      (fun _ => hcursor) List.prefix_rfl happeared
      (Or.inr ⟨_, hissued, hread.cursor_eq, hlater⟩) (by omega),
      Phase.history ⟨hissued, hread.cursor_eq, hread.target_eq, hread.unread⟩ rfl
        hread.cursor_eq ?_ hconfirmed hpages ?_⟩
    · exact hreturned.passes.registered_eq.trans hregistered
    · rw [pages_handled]
      omega

theorem Following.missed (hprogress : Progress first current s) {r : Read Int} {count : Int}
    (hwaiting : Waiting [r] current (some (current + count)) s.client)
    (hhandler : r.handler = ReadHandler.missed count) (hstart : r.fromPosition = current)
    (hconfirmed : s.confirmed = true) (hbehind : current + count < s.stream.nextNumber)
    {nextEventNumber : Int} (hanswers : s.stream.Answers r nextEventNumber)
    (hlater : current < nextEventNumber)
    (hlength : current + (s.stream.slice r nextEventNumber).events.length = nextEventNumber)
    {read : CatchupState} (hreturned : Returned settings r
      (s.stream.slice r nextEventNumber) s.client read client) :
    Following first (CatchupReading.handled r nextEventNumber s client) := by
  have hread := hreturned.waiting hwaiting
  have hcursor := hreturned.cursor_eq
  have happeared := hreturned.appeared_eq
  have hcounted := hprogress.counted
  rw [hlength] at hread
  rw [hwaiting.cursor_eq, hlength] at hcursor
  have hclient := hreturned.client_eq
  rw [hhandler, goOn] at hclient
  by_cases hmore : 0 < count - (s.stream.slice r nextEventNumber).events.length
  · rw [if_pos hmore] at hclient
    subst hclient
    have hissued := catchUpMissedEvents_reads hread.reads_eq
      (count - (s.stream.slice r nextEventNumber).events.length)
    have hsum : nextEventNumber +
        (count - (s.stream.slice r nextEventNumber).events.length) = current + count := by
      omega
    refine ⟨nextEventNumber, hprogress.handled hwaiting.reads_eq hstart hanswers
      (fun _ => hcursor) List.prefix_rfl happeared
      (Or.inr ⟨_, hissued, hread.cursor_eq, hlater⟩) (by omega),
      Phase.missed ⟨hissued, hread.cursor_eq, ?_, hread.unread⟩ rfl hread.cursor_eq hconfirmed
        hmore ?_⟩
    · rw [hsum]
      exact hread.target_eq
    · rw [hsum]
      exact hbehind
  · rw [if_neg hmore] at hclient
    subst hclient
    exact ⟨nextEventNumber, hprogress.handled hwaiting.reads_eq hstart hanswers
      (fun _ => hcursor) List.prefix_rfl happeared (Or.inl hread.reads_eq) (by omega),
      Phase.done ⟨hread.reads_eq, fun _ _ => hconfirmed⟩⟩

theorem Phase.asks (h : Phase first current s) {r : Read Int} (hr : r ∈ s.client.reads) :
    (exists target, Waiting [r] current target s.client) ∧ r.fromPosition = current := by
  cases h with
  | @history r' hwaiting _ hstart =>
      rw [hwaiting.reads_eq, List.mem_singleton] at hr
      subst hr
      exact ⟨⟨_, hwaiting⟩, hstart⟩
  | @missed r' count hwaiting _ hstart =>
      rw [hwaiting.reads_eq, List.mem_singleton] at hr
      subst hr
      exact ⟨⟨_, hwaiting⟩, hstart⟩
  | requested hwaiting =>
      rw [hwaiting.reads_eq] at hr
      cases hr
  | done hidle =>
      rw [hidle.reads_eq] at hr
      cases hr

theorem step_read {nextEventNumber : Int}
    (hstep : step key user settings s (Input.read nextEventNumber) = some next) :
    exists r rest, s.client.reads = r :: rest ∧ s.stream.Answers r nextEventNumber ∧
      exists client, Subscription.step (Catchup.subscription key user settings) s.client
        (Subscription.Input.readCompleted 0
          (Except.ok (s.stream.slice r nextEventNumber))) = some client ∧
      next = CatchupReading.handled r nextEventNumber s client := by
  rw [step] at hstep
  cases hreads : s.client.reads with
  | nil =>
      rw [hreads] at hstep
      cases hstep
  | cons r rest =>
      rw [hreads] at hstep
      simp only at hstep
      split at hstep
      case isFalse => cases hstep
      case isTrue hanswers =>
        rcases Option.map_eq_some_iff.mp hstep with ⟨client, hclient, hnext⟩
        exact ⟨r, rest, rfl, hanswers, client, hclient, hnext.symm⟩

theorem Following.read (h : Following first s) {nextEventNumber : Int}
    (hgapless : Gapless user s (Input.read nextEventNumber))
    (hstep : step key user settings s (Input.read nextEventNumber) = some next) :
    Following first next := by
  rcases h with ⟨current, hprogress, hphase⟩
  rcases step_read hstep with ⟨r, rest, hr, hanswers, client, hclient, rfl⟩
  have hmem : r ∈ s.client.reads := hr ▸ List.mem_cons_self
  rcases hphase.asks hmem with ⟨⟨_, hasks⟩, hstart⟩
  have hle : current ≤ nextEventNumber := hstart ▸ hanswers.le_next
  have hcounted := hprogress.counted
  rcases step_slice key user settings hasks.reads_eq (s.stream.slice r nextEventNumber) with
    ⟨after, hafter, hcases⟩
  rw [hafter] at hclient
  obtain rfl := Option.some.inj hclient
  have hlength : ¬ Interrupts user (sliceEvents (s.stream.slice r nextEventNumber)) s.client ->
      current + (s.stream.slice r nextEventNumber).events.length = nextEventNumber :=
    fun hreturns => (slice_length_iff hanswers hstart).mpr (hgapless r hmem hanswers hreturns)
  cases hphase with
  | history hwaiting hhandler _ hregistered hconfirmed hmissed hbefore =>
      rw [hwaiting.reads_eq, List.mem_singleton] at hmem
      subst hmem
      rcases hcases with ⟨hreturns, read, hreturned⟩ | ⟨_, hinterrupted⟩
      · exact Following.history hprogress hwaiting hhandler hstart hregistered hconfirmed
          hmissed hbefore hanswers (hlength hreturns) hreturned
      · exact hinterrupted.following hprogress hwaiting.reads_eq hstart hanswers (by omega)
  | missed hwaiting hhandler _ hconfirmed hcount hbehind =>
      rw [hwaiting.reads_eq, List.mem_singleton] at hmem
      subst hmem
      have hlater : current < nextEventNumber := by
        have hprogresses := hanswers.progress
        omega
      rcases hcases with ⟨hreturns, read, hreturned⟩ | ⟨_, hinterrupted⟩
      · exact Following.missed hprogress hwaiting hhandler hstart hconfirmed hbehind hanswers
          hlater (hlength hreturns) hreturned
      · exact hinterrupted.following hprogress hwaiting.reads_eq hstart hanswers (by omega)
  | requested hwaiting =>
      rw [hwaiting.reads_eq] at hmem
      cases hmem
  | done hidle =>
      rw [hidle.reads_eq] at hmem
      cases hmem

/-!
# Every run

A step that follows the cursor has read a slice without gaps.  The failing run is on a
stream that was truncated before its event 5.
-/

theorem step_following (h : Following first s) {i : Input} (hgapless : Gapless user s i)
    (hstep : step key user settings s i = some next) : Following first next := by
  cases i with
  | append e =>
      rw [step] at hstep
      split at hstep
      · cases hstep
        exact h.server (Int.le_of_lt (Int.lt_succ _))
      · cases hstep
  | scavenge n =>
      cases hstep
      exact h.server le_rfl
  | read nextEventNumber => exact h.read hgapless hstep
  | confirm lastCommitPosition => exact h.confirm hstep
  | other i => exact h.other hstep

theorem gapless_of_followsCursor (h : Following first s) {i : Input}
    (hfollows : forall next, step key user settings s i = some next ->
      FollowsCursor first next) : Gapless user s i := by
  cases i with
  | read nextEventNumber =>
      intro r hr hanswers hreturns
      rcases h with ⟨current, _, hphase⟩
      rcases hphase.asks hr with ⟨⟨_, hwaiting⟩, hstart⟩
      rcases step_slice key user settings hwaiting.reads_eq
        (s.stream.slice r nextEventNumber) with ⟨client, hclient, hcases⟩
      rcases hcases with ⟨_, read, hreturned⟩ | ⟨hinterrupts, _⟩
      · have hstep : step key user settings s (Input.read nextEventNumber) =
            some (CatchupReading.handled r nextEventNumber s client) := by
          rw [step, hwaiting.reads_eq]
          simp only
          rw [if_pos hanswers, hclient, Option.map_some]
        have hpage := (hfollows _ hstep).cursor_eq _
          (List.mem_append_right _ List.mem_cons_self)
          (decide_eq_true (congrArg List.length hreturned.faults_eq))
        have hcursor := hreturned.cursor_eq
        rw [hwaiting.cursor_eq] at hcursor
        rw [← slice_length_iff hanswers hstart, ← hcursor]
        exact hpage
      · exact absurd hinterrupts hreturns
  | append e => trivial
  | scavenge n => trivial
  | confirm lastCommitPosition => trivial
  | other i => trivial

/-- The subscription follows the cursor of the server, and reads to the end, in exactly the
runs in which no slice that it has handled missed a number. -/
theorem run_followsCursor_iff (key : Guid) (user : User)
    (settings : CatchupSubscriptionSettings) (first : Int) (stream : EventStream)
    (inputs : List Input) :
    EveryStep (step key user settings)
        (fun s i => forall next, step key user settings s i = some next ->
          FollowsCursor first next)
        (initial settings first stream) inputs <->
      EveryStep (step key user settings) (Gapless user) (initial settings first stream)
        inputs := by
  refine everyStep_congr
    (fun (h : Following first _) hgapless hstep => step_following h hgapless hstep)
    (fun i h => ⟨gapless_of_followsCursor h, ?_⟩) (initial_following settings first stream)
    inputs
  intro hgapless next hstep
  rcases step_following h hgapless hstep with ⟨_, hprogress, _⟩
  exact hprogress.followsCursor

end Steps

def truncated : EventStream where
  events := [{ event := some (recordedEvent 5), link := none }]
  nextNumber := 6
  sorted := List.pairwise_singleton _ _
  below := by
    intro e he
    rw [List.mem_singleton.mp he]
    exact of_decide_eq_true rfl

/-- The server answers that there is nothing up to event 5, and the client asks again. -/
theorem truncated_standsStill :
    exists last, run (step (Guid.ofByte 1) User.passive CatchupSubscriptionSettings.built)
        (initial CatchupSubscriptionSettings.built 0 truncated) [Input.read 5] = some last ∧
      ¬ FollowsCursor 0 last := by
  let system := step (Guid.ofByte 1) User.passive CatchupSubscriptionSettings.built
  obtain ⟨last, hlast⟩ : exists last,
      run system (initial CatchupSubscriptionSettings.built 0 truncated) [Input.read 5] =
        some last :=
    Option.isSome_iff_exists.mp (by decide +kernel)
  have hstarts : (run system (initial CatchupSubscriptionSettings.built 0 truncated)
      [Input.read 5]).map (starts true) = some [0, 0] := by
    decide +kernel
  rw [hlast, Option.map_some, Option.some_inj] at hstarts
  refine ⟨last, hlast, ?_⟩
  intro h
  have hlater := h.later true
  rw [hstarts] at hlater
  exact absurd hlater (by decide)

end CatchupReading
end Subscription
end EventStoreClient
