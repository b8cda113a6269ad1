import EventStoreClient.Subscription.CatchupReading

/-!
# Pages of a stream

`catchup_subscription` with slices of one list of events, which any number of other readers
and writers may share: what its read loops pass on, page after page.
-/

namespace EventStoreClient
namespace Subscription

open Buffer Connection Foundation Operations Wire

/-!
# What passes nothing on

A history in which the user was called with some events, and no others.
-/

section Silent

variable {child pending batch : Type} {b : Base child} {c : Class child pending batch}
  {front : List Resolved} {s next : State child pending}

abbrev HasAppeared (front : List Resolved) (s : State child pending) : Prop :=
  appeared s = front

theorem appeared_unsubscribe (b : Base child) (ec : Error) (s : State child pending) :
    appeared (b.unsubscribe ec s) = appeared s := by
  rw [appeared, unsubscribe_calls, appeared]

theorem keeps_dropped_appeared (b : Base child) (ec : Error) :
    Handler.Keeps (HasAppeared front) (b.dropped ec : Handles child pending Unit) := by
  refine Handler.keeps_bind (Handler.keeps_modify fun s hs => ?_) fun _ =>
    Handler.keeps_bind Handler.keeps_get fun s => ?_
  · rw [HasAppeared, appeared, State.called, List.filterMap_append]
    exact (List.append_nil _).trans hs
  · split
    · exact keeps_unsubscribeByKey (fun ec hs => (appeared_unsubscribe b ec _).trans hs) _
    · exact Handler.keeps_pure _

theorem appeared_onPackageReceived (b : Base child) (message : ServerMessage)
    (s : State child pending) : appeared (b.onPackageReceived message s) = appeared s := by
  unfold Base.onPackageReceived
  split
  · split
    · exact appeared_unsubscribe b _ s
    · exact appeared_unsubscribe b _ s
    · exact appeared_unsubscribe b _ s
    · rfl
    · rfl
  · exact appeared_unsubscribe b _ s
  · exact appeared_unsubscribe b _ s
  · split
    · exact appeared_unsubscribe b _ s
    · exact appeared_unsubscribe b _ s
  · exact appeared_unsubscribe b _ s

theorem appeared_settle (after : Except Fault Unit × State child pending) :
    appeared (settle after) = appeared after.2 := by
  rcases after with ⟨r, s⟩
  cases r with
  | ok _ => rfl
  | error fault => rfl

theorem appeared_settleReceived (after : Except Fault Unit × State child pending) :
    appeared (settleReceived after) = appeared after.2 := by
  rcases after with ⟨r, s⟩
  cases r with
  | ok _ => rfl
  | error fault => rfl

theorem appeared_settleRead (result : Except Error batch)
    (after : Except Fault Unit × State child pending) :
    appeared (settleRead result after) = appeared after.2 := by
  rcases settleRead_eq result after with heq | heq
  · rw [heq]
    exact appeared_settle after
  · rw [heq]
    exact appeared_settleReceived after

theorem appeared_receive {message : ServerMessage}
    (hderived : Listening s ->
      appeared ((c.onPackageReceived message).runOn s).2 = appeared s) :
    appeared ((c.receive message).runOn s).2 = appeared s := by
  cases hrequest : s.unsubscribing with
  | true =>
      have hanswered : Handler.Keeps (HasAppeared (appeared s)) (do
          c.unsubscribeAnswered
          modify (fun s : State child pending => { s with unsubscribing := false })) :=
        Handler.keeps_bind
          (Handler.keeps_bind (Handler.keeps_modify fun _ hs => hs) fun _ =>
            Handler.keeps_bind (Handler.keeps_modify fun _ hs => hs) fun _ =>
              keeps_dropped_appeared _ _)
          fun _ => Handler.keeps_modify fun _ hs => hs
      simpa [Class.receive, hrequest] using hanswered s rfl
  | false =>
      cases hregistered : s.registered with
      | false => simp [Class.receive, hrequest, hregistered]
      | true =>
          cases hguard : s.handleGuard with
          | true => simp [Class.receive, hrequest, hregistered, Base.entry, hguard]
          | false =>
              have hafter := hderived ⟨hrequest, hregistered, hguard⟩
              simp only [Class.receive, Base.entry, Handler.runOn_bind, Handler.runOn_get,
                hrequest, hregistered, hguard, Bool.false_eq_true, if_false, if_true]
              rcases hrun : (c.onPackageReceived message).runOn s with ⟨r, after⟩
              rw [hrun] at hafter
              cases r with
              | error fault => exact hafter
              | ok handled =>
                  cases handled with
                  | true => exact hafter
                  | false => exact (appeared_onPackageReceived _ message after).trans hafter

/-- A step that handles no read and does not read the buffer, if the class passes nothing on
for a package. -/
theorem appeared_step {i : Input batch}
    (hread : forall j result, i ≠ Input.readCompleted j result)
    (hderived : forall message, i = Input.received message -> Listening s ->
      appeared ((c.onPackageReceived message).runOn s).2 = appeared s)
    (hunread : Posted.readSubscriptionEvents ∉ s.posted)
    (hstep : Subscription.step c s i = some next) : appeared next = appeared s := by
  cases stepped_of_step hstep with
  | received message _ =>
      rw [appeared_settleReceived]
      exact appeared_receive (hderived message rfl)
  | readCompleted j result _ => exact absurd rfl (hread j result)
  | @posted j closure hclosure =>
      rw [appeared_settle]
      cases closure with
      | dropped ec =>
          have hkeeps : Handler.Keeps (HasAppeared (appeared s))
              (c.postedDropped ec : Handles child pending Unit) :=
            Handler.keeps_bind (Handler.keeps_modify fun _ hs => hs) fun _ =>
              keeps_dropped_appeared _ ec
          exact hkeeps (s.takePosted j) rfl
      | readSubscriptionEvents => exact absurd (List.mem_of_getElem? hclosure) hunread
  | expired _ => rfl
  | @completed result _ =>
      rw [appeared_settle]
      cases result with
      | aborted => rfl
      | expired =>
          have hkeeps : Handler.Keeps (HasAppeared (appeared s))
              (c.completed WaitResult.expired : Handles child pending Unit) := by
            refine Handler.keeps_bind Handler.keeps_get fun s => ?_
            split
            · refine Handler.keeps_bind (Handler.keeps_modify fun s hs => ?_) fun _ =>
                Handler.keeps_modify fun _ hs => hs
              exact (appeared_unsubscribe _ _ _).trans hs
            · exact Handler.keeps_throw _
          exact hkeeps (s.setDeadline Timer.idle) rfl
  | unsubscribe =>
      rw [appeared_settle]
      have hkeeps : Handler.Keeps (HasAppeared (appeared s))
          (c.unsubscribeByKey (Error.subscription .unsubscribed) : Handles child pending Unit) :=
        keeps_unsubscribeByKey (fun ec hs => (appeared_unsubscribe _ ec _).trans hs) _
      exact hkeeps s rfl

end Silent

namespace CatchupPages

open Catchup CatchupReading

/-!
# The pages

Each page goes on where the ones before it end.
-/

/-- A catch-up subscription with the events that the handlers of its reads have passed on. -/
structure Paging where
  client : CatchupState
  -- whether a confirmation has come
  confirmed : Bool
  passed : List Resolved

def IsConfirmation : Subscription.Input StreamEventsSlice -> Bool
  | .received (.subscriptionConfirmation _) => true
  | _ => false

def IsRead : Subscription.Input StreamEventsSlice -> Bool
  | .readCompleted _ _ => true
  | _ => false

def pagingStep (key : Guid) (user : User) (settings : CatchupSubscriptionSettings) (s : Paging)
    (i : Subscription.Input StreamEventsSlice) : Option Paging :=
  if IsConfirmation i = true ∧ s.confirmed = true then none
  else
    (Subscription.step (Catchup.subscription key user settings) s.client i).map fun client =>
      { client := client
        confirmed := s.confirmed || IsConfirmation i
        passed :=
          if IsRead i then s.passed ++ (appeared client).drop (appeared s.client).length
          else s.passed }

theorem exists_of_isConfirmation {i : Subscription.Input StreamEventsSlice}
    (h : IsConfirmation i = true) :
    exists response, i = .received (.subscriptionConfirmation response) := by
  cases i with
  | received message =>
      cases message with
      | subscriptionConfirmation response => exact ⟨response, rfl⟩
      | _ => cases h
  | _ => cases h

theorem exists_of_isRead {i : Subscription.Input StreamEventsSlice} (h : IsRead i = true) :
    exists j result, i = .readCompleted j result := by
  cases i with
  | readCompleted j result => exact ⟨j, result, rfl⟩
  | _ => cases h

theorem other_of_neither {i : Subscription.Input StreamEventsSlice}
    (hconfirmation : IsConfirmation i = false) (hread : IsRead i = false) :
    IsOther i = true ∧ forall j result, i ≠ .readCompleted j result := by
  constructor
  · cases i with
    | received message =>
        cases message with
        | subscriptionConfirmation response => cases hconfirmation
        | _ => rfl
    | readCompleted j result => cases hread
    | _ => rfl
  · rintro j result rfl
    cases hread

def initial (settings : CatchupSubscriptionSettings) (first : Int) : Paging :=
  { client := (Kind.catchup first settings).started
    confirmed := false
    passed := [] }

/-- A slice has the events from the start of its read on, in order and without a gap. -/
def PageOf (events : List Resolved) (s : Paging) :
    Subscription.Input StreamEventsSlice -> Prop
  | .readCompleted j (.ok slice) => forall r, s.client.reads[j]? = some r ->
      sliceEvents slice <+: events.drop r.fromPosition.toNat
  | _ => True

/-- The subscription reads the history, waits for the confirmation, reads missed events, or
reads no more.  Its current number has been moved by as many events as its reads have passed
on. -/
inductive Phase (first : Int) (s : Paging) : Prop where
  | history {r : Read Int}
      (hwaiting : Waiting [r] (first + s.passed.length) none s.client)
      (hhandler : r.handler = ReadHandler.history)
      (hstart : r.fromPosition = first + s.passed.length)
      (hregistered : s.client.registered = false)
      (happeared : appeared s.client = s.passed) : Phase first s
  | requested (hwaiting : Waiting [] (first + s.passed.length) none s.client)
      (happeared : appeared s.client = s.passed) : Phase first s
  | missed {r : Read Int} {count : Int}
      (hwaiting : Waiting [r] (first + s.passed.length)
        (some (first + s.passed.length + count)) s.client)
      (hhandler : r.handler = ReadHandler.missed count)
      (hstart : r.fromPosition = first + s.passed.length)
      (hconfirmed : s.confirmed = true) (hcount : 0 < count)
      (happeared : appeared s.client = s.passed) : Phase first s
  | done (hidle : Idle s.confirmed s.client) : Phase first s

/-- The pages so far are the first events from a number on.  As long as there is a read,
nothing else has been passed on. -/
structure Paged (events : List Resolved) (first : Int) (s : Paging) : Prop where
  passed : s.passed <+: events.drop first.toNat
  reading : s.client.reads ≠ [] -> appeared s.client = s.passed

structure Going (events : List Resolved) (first : Int) (s : Paging) : Prop where
  passed : s.passed <+: events.drop first.toNat
  phase : Phase first s

section Steps

variable {key : Guid} {user : User} {settings : CatchupSubscriptionSettings}
  {events : List Resolved} {first : Int} {s next : Paging} {client : CatchupState}

theorem Going.paged (h : Going events first s) : Paged events first s where
  passed := h.passed
  reading := by
    intro hreads
    cases h.phase with
    | history _ _ _ _ happeared => exact happeared
    | requested hwaiting happeared => exact happeared
    | missed _ _ _ _ _ happeared => exact happeared
    | done hidle => exact absurd hidle.reads_eq hreads

theorem initial_going (events : List Resolved) (settings : CatchupSubscriptionSettings)
    (first : Int) : Going events first (initial settings first) where
  passed := List.nil_prefix
  phase := Phase.history
    { reads_eq := rfl
      cursor_eq := (Int.add_zero first).symm
      target_eq := rfl
      unread := List.not_mem_nil } rfl (Int.add_zero first).symm rfl rfl

theorem prefix_page (hfirst : 0 ≤ first) {passed page : List Resolved}
    (hpassed : passed <+: events.drop first.toNat)
    (hpage : page <+: events.drop (first + passed.length).toNat) :
    passed ++ page <+: events.drop first.toNat := by
  rcases hpassed with ⟨rest, hrest⟩
  have hstart : (first + passed.length).toNat = first.toNat + passed.length := by
    omega
  rw [hstart, ← List.drop_drop, ← hrest, List.drop_left] at hpage
  rw [← hrest, List.prefix_append_right_inj]
  exact hpage

theorem pagingStep_cases {i : Subscription.Input StreamEventsSlice}
    (hstep : pagingStep key user settings s i = some next) :
    (IsConfirmation i = true -> s.confirmed = false) ∧
      exists client,
        Subscription.step (Catchup.subscription key user settings) s.client i = some client ∧
          next =
            { client := client
              confirmed := s.confirmed || IsConfirmation i
              passed :=
                if IsRead i then
                  s.passed ++ (appeared client).drop (appeared s.client).length
                else s.passed } := by
  unfold pagingStep at hstep
  split at hstep
  · cases hstep
  · rename_i hallowed
    rcases Option.map_eq_some_iff.mp hstep with ⟨client, hclient, rfl⟩
    refine ⟨fun hconfirmation => ?_, client, hclient, rfl⟩
    cases hconfirmed : s.confirmed with
    | false => rfl
    | true => exact absurd ⟨hconfirmation, hconfirmed⟩ hallowed

/-!
# Everything but reads

While the subscription waits, an event that comes is kept.  Whatever else happens, the
phase is the same.
-/

theorem appeared_onAppeared {reads : List (Read Int)} {current : Int} {target : Option Int}
    (h : Waiting reads current target client)
    (hbehind : forall n, target = some n -> current < n) (b : Base Child)
    (message : StreamEventAppeared) :
    appeared ((onPackageReceived b settings (.streamEventAppeared message)).runOn client).2 =
      appeared client := by
  let Held : CatchupState -> Prop := fun s =>
    Waiting reads current target s ∧ appeared s = appeared client
  have hheld : Held (Buffered.emplaceBack (Resolved.ofStreamEventAppeared message) client) :=
    ⟨⟨h.reads_eq, h.cursor_eq, h.target_eq, h.unread⟩, rfl⟩
  unfold onPackageReceived
  apply @Handler.after_modify _ _ _ (HasAppeared (appeared client))
  refine Handler.after_bind Buffered.keeps_front (fun _ hs => hs.right) (fun event s hs => ?_)
    hheld
  refine Handler.after_bind (keeps_value _) (fun _ hs => hs.right) (fun _ s hs => ?_) hs
  cases htarget : s.lastEventNumber with
  | none =>
      simp only [Handler.runOn_bind, Handler.runOn_get, htarget, value, Handler.runOn_throw]
      exact hs.right
  | some n =>
      have hmissed : currentEventNumber s < n := by
        rw [hs.left.cursor_eq]
        exact hbehind n (hs.left.target_eq.symm.trans htarget)
      simp only [Handler.runOn_bind, Handler.runOn_get, htarget, value, Handler.runOn_pure,
        if_pos hmissed]
      exact hs.right

theorem appeared_waiting {reads : List (Read Int)} {current : Int} {target : Option Int}
    (h : Waiting reads current target client)
    (hbehind : forall n, target = some n -> current < n)
    {i : Subscription.Input StreamEventsSlice} (hother : IsOther i = true)
    (hread : forall j result, i ≠ .readCompleted j result) {after : CatchupState}
    (hstep : Subscription.step (Catchup.subscription key user settings) client i = some after) :
    appeared after = appeared client := by
  refine appeared_step (c := Catchup.subscription key user settings) hread ?_ h.unread hstep
  rintro message rfl _
  cases message with
  | subscriptionConfirmation response => cases hother
  | streamEventAppeared message => exact appeared_onAppeared h hbehind _ message
  | _ => rfl

theorem behind_none {current n : Int} (h : (none : Option Int) = some n) : current < n := by
  cases h

theorem behind_some {current count n : Int} (hcount : 0 < count)
    (h : some (current + count) = some n) : current < n := by
  cases h
  omega

theorem Going.other (h : Going events first s) {i : Subscription.Input StreamEventsSlice}
    (hconfirmation : IsConfirmation i = false) (hisRead : IsRead i = false)
    (hclient : Subscription.step (Catchup.subscription key user settings) s.client i =
      some client) : Going events first { s with client := client } := by
  rcases other_of_neither hconfirmation hisRead with ⟨hother, hread⟩
  refine ⟨h.passed, ?_⟩
  cases h.phase with
  | history hwaiting hhandler hstart hregistered happeared =>
      rcases hwaiting.step (fun _ => behind_none) hother hread hclient with
        ⟨hafter, hunregistered⟩
      exact Phase.history hafter hhandler hstart (hunregistered hregistered)
        ((appeared_waiting hwaiting (fun _ => behind_none) hother hread hclient).trans happeared)
  | requested hwaiting happeared =>
      exact Phase.requested (hwaiting.step (fun _ => behind_none) hother hread hclient).left
        ((appeared_waiting hwaiting (fun _ => behind_none) hother hread hclient).trans happeared)
  | missed hwaiting hhandler hstart hconfirmed hcount happeared =>
      have hbehind := fun n => @behind_some (first + s.passed.length) _ n hcount
      exact Phase.missed (hwaiting.step hbehind hother hread hclient).left hhandler hstart
        hconfirmed hcount
        ((appeared_waiting hwaiting hbehind hother hread hclient).trans happeared)
  | done hidle => exact Phase.done (hidle.step hother hclient)

/-!
# The confirmation

A confirmation that gets to the class starts to read what has been missed.
-/

theorem step_deaf {inv : CatchupState -> Prop} (hkeeping : KeepingBase (Catchup.base key user) inv)
    (hdeaf : ¬ Listening client) (hinv : inv client) {message : ServerMessage}
    {after : CatchupState}
    (hstep : Subscription.step (Catchup.subscription key user settings) client
      (.received message) = some after) : inv after := by
  cases stepped_of_step hstep with
  | received _ _ =>
      exact hkeeping.settleReceived (KeepingBase.receive
        (c := Catchup.subscription key user settings) hkeeping
        (fun hlistening => absurd hlistening hdeaf) hinv)

theorem appeared_deaf (hdeaf : ¬ Listening client) {message : ServerMessage}
    {after : CatchupState}
    (hstep : Subscription.step (Catchup.subscription key user settings) client
      (.received message) = some after) : appeared after = appeared client := by
  cases stepped_of_step hstep with
  | received _ _ =>
      rw [appeared_settleReceived]
      exact appeared_receive (c := Catchup.subscription key user settings)
        (fun hlistening => absurd hlistening hdeaf)

theorem Phase.confirm {response : SubscriptionConfirmation} {passed : List Resolved}
    (hwaiting : Waiting [] (first + passed.length) none client)
    (happeared : appeared client = passed) (hlistening : Listening client)
    {after : CatchupState}
    (hstep : Subscription.step (Catchup.subscription key user settings) client
      (.received (.subscriptionConfirmation response)) = some after) :
    Phase first { client := after, confirmed := true, passed := passed } := by
  rcases response with ⟨lastCommitPosition, lastEventNumber⟩
  cases lastEventNumber with
  | none =>
      have hrun : ((Catchup.subscription key user settings).onPackageReceived
          (.subscriptionConfirmation
            { lastCommitPosition := lastCommitPosition
              lastEventNumber := none })).runOn client = (Except.ok true, _) := rfl
      obtain rfl := received_eq (c := Catchup.subscription key user settings)
        hlistening.unasked hlistening.registered hlistening.unlocked hrun hstep
      exact Phase.done ⟨hwaiting.reads_eq, fun _ _ => rfl⟩
  | some n =>
      have hrun : ((Catchup.subscription key user settings).onPackageReceived
          (.subscriptionConfirmation
            { lastCommitPosition := lastCommitPosition
              lastEventNumber := some n })).runOn client = (Except.ok true, _) :=
        CatchupDelivery.onConfirmation_run (Catchup.base key user) settings _ _
      obtain rfl := received_eq (c := Catchup.subscription key user settings)
        hlistening.unasked hlistening.registered hlistening.unlocked hrun hstep
      simp only
      split
      · rename_i hbehind
        have hissued := catchUpMissedEvents_reads
          (s := Subscription.confirm lastCommitPosition (some n) client) hwaiting.reads_eq
          (n - currentEventNumber client)
        have hcursor : currentEventNumber client = first + passed.length := hwaiting.cursor_eq
        have htarget : n = first + passed.length + (n - currentEventNumber client) := by
          omega
        exact Phase.missed
          ⟨hissued, hcursor, congrArg some htarget, hwaiting.unread⟩ rfl hcursor rfl
          (Int.sub_pos_of_lt hbehind) happeared
      · exact Phase.done ⟨hwaiting.reads_eq, fun _ _ => rfl⟩

theorem Going.confirm (h : Going events first s) (hunconfirmed : s.confirmed = false)
    {response : SubscriptionConfirmation}
    (hclient : Subscription.step (Catchup.subscription key user settings) s.client
      (.received (.subscriptionConfirmation response)) = some client) :
    Going events first { s with client := client, confirmed := true } := by
  refine ⟨h.passed, ?_⟩
  cases h.phase with
  | history hwaiting hhandler hstart hregistered happeared =>
      have hdeaf : ¬ Listening s.client := by
        intro hlistening
        have hlistens := hlistening.registered
        rw [hregistered] at hlistens
        cases hlistens
      exact Phase.history
        (step_deaf (keepingBase_waiting rfl _ _ _) hdeaf hwaiting hclient) hhandler hstart
        (step_deaf (keepingBase_unregistered _) hdeaf hregistered hclient)
        ((appeared_deaf hdeaf hclient).trans happeared)
  | requested hwaiting happeared =>
      by_cases hlistening : Listening s.client
      · exact Phase.confirm hwaiting happeared hlistening hclient
      · exact Phase.requested
          (step_deaf (keepingBase_waiting rfl _ _ _) hlistening hwaiting hclient)
          ((appeared_deaf hlistening hclient).trans happeared)
  | missed _ _ _ hconfirmed =>
      rw [hunconfirmed] at hconfirmed
      cases hconfirmed
  | done hidle =>
      have hdeaf : ¬ Listening s.client := by
        intro hlistening
        have hconfirmed := hidle.settled hlistening.registered hlistening.unlocked
        rw [hunconfirmed] at hconfirmed
        cases hconfirmed
      exact Phase.done (step_deaf (keepingBase_idle true _) hdeaf
        ⟨hidle.reads_eq, fun _ _ => rfl⟩ hclient)

/-!
# Reads

A slice of a loop is handled to its end, and the next page is the whole of it, or a
callback has left its handler; a read that has failed passes nothing on.
-/

def nextPage (s : Paging) (client : CatchupState) : Paging :=
  { s with
    client := client
    passed := s.passed ++ (appeared client).drop (appeared s.client).length }

theorem nextPage_returned {r : Read Int} {slice : StreamEventsSlice} {read : CatchupState}
    (hreturned : Returned settings r slice s.client read client)
    (happeared : appeared s.client = s.passed) :
    nextPage s client =
        { s with
          client := client
          passed := s.passed ++ sliceEvents slice } ∧
      appeared client = s.passed ++ sliceEvents slice := by
  have hpassed : appeared client = appeared s.client ++ sliceEvents slice := by
    rw [hreturned.client_eq, appeared,
      (goOn_frame settings r.handler slice read).right.left]
    exact hreturned.passes.appeared_eq
  constructor
  · rw [nextPage, hpassed, List.drop_left]
  · rw [hpassed, happeared]

theorem step_onlyRead {r : Read Int} (hreads : client.reads = [r]) {j : Nat}
    {result : Except Error StreamEventsSlice} {after : CatchupState}
    (hstep : Subscription.step (Catchup.subscription key user settings) client
      (.readCompleted j result) = some after) : j = 0 := by
  cases stepped_of_step hstep with
  | readCompleted _ _ hread =>
      rw [hreads, List.getElem?_singleton] at hread
      split at hread
      · assumption
      · cases hread

/-- The rest of the handler goes on with the loop, with the subscription or with the
buffer. -/
theorem Phase.goOn {r : Read Int} {slice : StreamEventsSlice} {read : CatchupState}
    {passed : List Resolved} {confirmed : Bool} {target : Option Int}
    (hreturned : Returned settings r slice s.client read client)
    (hwaiting : Waiting [] (first + (passed ++ sliceEvents slice).length) target read)
    (happeared : appeared client = passed ++ sliceEvents slice)
    (hhandler : r.handler = ReadHandler.history ∧ target = none ∧
        read.registered = false ∨
      exists count : Int, r.handler = ReadHandler.missed count ∧
        target = some (first + passed.length + count) ∧ confirmed = true) :
    Phase first
      { client := client
        confirmed := confirmed
        passed := passed ++ sliceEvents slice } := by
  have hclient := hreturned.client_eq
  rcases hhandler with ⟨hhistory, rfl, hregistered⟩ | ⟨count, hmissed, rfl, rfl⟩
  · rw [hhistory, CatchupReading.goOn] at hclient
    split at hclient
    · subst hclient
      exact Phase.requested
        ⟨hwaiting.reads_eq, hwaiting.cursor_eq, hwaiting.target_eq, hwaiting.unread⟩ happeared
    · subst hclient
      have hissued := @CatchupDelivery.asyncStart_reads settings _ hwaiting.reads_eq
      exact Phase.history ⟨hissued, hwaiting.cursor_eq, hwaiting.target_eq, hwaiting.unread⟩ rfl
        hwaiting.cursor_eq hregistered happeared
  · rw [hmissed, CatchupReading.goOn] at hclient
    split at hclient
    · rename_i hmore
      subst hclient
      have hissued := catchUpMissedEvents_reads hwaiting.reads_eq (count - slice.events.length)
      refine Phase.missed ⟨hissued, hwaiting.cursor_eq, ?_, hwaiting.unread⟩ rfl
        hwaiting.cursor_eq rfl hmore happeared
      refine hwaiting.target_eq.trans (congrArg some ?_)
      have hlength : (sliceEvents slice).length = slice.events.length := List.length_map _
      rw [List.length_append, hlength]
      omega
    · subst hclient
      exact Phase.done ⟨hwaiting.reads_eq, fun _ _ => rfl⟩

theorem Going.page (hfirst : 0 ≤ first) (h : Going events first s) {r : Read Int}
    {target : Option Int}
    (hwaiting : Waiting [r] (first + s.passed.length) target s.client)
    (hstart : r.fromPosition = first + s.passed.length)
    (happeared : appeared s.client = s.passed)
    (hhandler : r.handler = ReadHandler.history ∧ target = none ∧
        s.client.registered = false ∨
      exists count : Int, r.handler = ReadHandler.missed count ∧
        target = some (first + s.passed.length + count) ∧ s.confirmed = true)
    {j : Nat} {slice : StreamEventsSlice}
    (hpage : PageOf events s (.readCompleted j (.ok slice)))
    (hclient : Subscription.step (Catchup.subscription key user settings) s.client
      (.readCompleted j (.ok slice)) = some client) :
    Going events first (nextPage s client) := by
  cases step_onlyRead hwaiting.reads_eq hclient
  have hread : s.client.reads[0]? = some r := by
    rw [hwaiting.reads_eq, List.getElem?_cons_zero]
  have hslice := hpage r hread
  rw [hstart] at hslice
  rcases step_slice key user settings hwaiting.reads_eq slice with ⟨after, hafter, hcases⟩
  rw [hafter] at hclient
  cases hclient
  rcases hcases with ⟨_, read, hreturned⟩ | ⟨_, hinterrupted⟩
  · rcases nextPage_returned hreturned happeared with ⟨hnext, hall⟩
    rw [hnext]
    have hlength : (sliceEvents slice).length = slice.events.length := List.length_map _
    have hcursor : currentEventNumber read = first + (s.passed ++ sliceEvents slice).length := by
      have hadvanced : currentEventNumber read = currentEventNumber (s.client.takeRead 0) +
          slice.events.length := hreturned.passes.cursor_eq
      have hstarted : currentEventNumber (s.client.takeRead 0) = first + s.passed.length :=
        hwaiting.cursor_eq
      rw [hadvanced, hstarted, List.length_append, hlength]
      omega
    have hafterwards : Waiting [] (first + (s.passed ++ sliceEvents slice).length) target read :=
      { reads_eq := hreturned.passes.reads_eq.trans (takeRead_reads hwaiting.reads_eq)
        cursor_eq := hcursor
        target_eq := hreturned.passes.lastEventNumber_eq.trans hwaiting.target_eq
        unread := fun hmem => hwaiting.unread (hreturned.passes.unread hmem) }
    refine ⟨prefix_page hfirst h.passed hslice, Phase.goOn hreturned hafterwards hall ?_⟩
    refine hhandler.imp (fun hhistory => ?_) id
    exact ⟨hhistory.left, hhistory.right.left,
      hreturned.passes.registered_eq.trans hhistory.right.right⟩
  · rcases hinterrupted.appeared_eq with ⟨part, hpart, hall⟩
    have hdone : Idle s.confirmed client := by
      refine ⟨hinterrupted.reads_eq.trans (takeRead_reads hwaiting.reads_eq), ?_⟩
      intro hregistered
      rw [hinterrupted.unregistered] at hregistered
      cases hregistered
    refine ⟨?_, Phase.done hdone⟩
    show s.passed ++ (appeared client).drop (appeared s.client).length <+: _
    rw [hall, List.drop_left]
    exact prefix_page hfirst h.passed (hpart.trans hslice)

theorem Going.slice (hfirst : 0 ≤ first) (h : Going events first s) {j : Nat}
    {slice : StreamEventsSlice} (hpage : PageOf events s (.readCompleted j (.ok slice)))
    (hclient : Subscription.step (Catchup.subscription key user settings) s.client
      (.readCompleted j (.ok slice)) = some client) :
    Going events first (nextPage s client) := by
  have hsome : s.client.reads ≠ [] := by
    intro hnone
    rw [Subscription.step, hnone] at hclient
    cases hclient
  cases h.phase with
  | history hwaiting hhandler hstart hregistered happeared =>
      exact h.page hfirst hwaiting hstart happeared (Or.inl ⟨hhandler, rfl, hregistered⟩) hpage
        hclient
  | requested hwaiting _ => exact absurd hwaiting.reads_eq hsome
  | missed hwaiting hhandler hstart hconfirmed _ happeared =>
      exact h.page hfirst hwaiting hstart happeared (Or.inr ⟨_, hhandler, rfl, hconfirmed⟩) hpage
        hclient
  | done hidle => exact absurd hidle.reads_eq hsome

theorem appeared_failed {r : Read Int} (hreads : s.client.reads = [r]) {j : Nat} {e : Error}
    (hclient : Subscription.step (Catchup.subscription key user settings) s.client
      (.readCompleted j (.error e)) = some client) : appeared client = appeared s.client := by
  cases step_onlyRead hreads hclient
  rw [Subscription.step, hreads, List.getElem?_cons_zero] at hclient
  obtain rfl := Option.some.inj hclient
  refine (appeared_settleRead _ _).trans ?_
  rcases r with ⟨start, maxCount, handler⟩
  cases handler with
  | history => exact appeared_unsubscribe (Catchup.base key user) _ (s.client.takeRead 0)
  | missed count => exact appeared_unsubscribe (Catchup.base key user) _ (s.client.takeRead 0)

theorem Going.failed (h : Going events first s) {j : Nat} {e : Error}
    (hclient : Subscription.step (Catchup.subscription key user settings) s.client
      (.readCompleted j (.error e)) = some client) :
    Going events first (nextPage s client) := by
  have hended : forall r, s.client.reads = [r] -> Going events first (nextPage s client) := by
    intro r hreads
    refine ⟨?_, Phase.done (step_failed hreads hclient s.confirmed)⟩
    rw [nextPage, appeared_failed hreads hclient, List.drop_length, List.append_nil]
    exact h.passed
  have hsome : s.client.reads ≠ [] := by
    intro hnone
    rw [Subscription.step, hnone] at hclient
    cases hclient
  cases h.phase with
  | history hwaiting => exact hended _ hwaiting.reads_eq
  | requested hwaiting => exact absurd hwaiting.reads_eq hsome
  | missed hwaiting => exact hended _ hwaiting.reads_eq
  | done hidle => exact absurd hidle.reads_eq hsome

theorem pagingStep_going (hfirst : 0 ≤ first) (h : Going events first s)
    {i : Subscription.Input StreamEventsSlice} (hpage : PageOf events s i)
    (hstep : pagingStep key user settings s i = some next) : Going events first next := by
  rcases pagingStep_cases hstep with ⟨hunconfirmed, client, hclient, rfl⟩
  cases hconfirmation : IsConfirmation i with
  | true =>
      rcases exists_of_isConfirmation hconfirmation with ⟨response, rfl⟩
      rw [Bool.or_true]
      exact h.confirm (hunconfirmed rfl) hclient
  | false =>
      rw [Bool.or_false]
      cases hread : IsRead i with
      | true =>
          rcases exists_of_isRead hread with ⟨j, result, rfl⟩
          cases result with
          | ok slice => exact h.slice hfirst hpage hclient
          | error e => exact h.failed hclient
      | false => exact h.other hconfirmation hread hclient

end Steps

/-- In every run in which each slice goes on from where its read starts, the pages that the
handlers of the reads pass on are the first events from the given number on: none twice, none
left out and none out of order, through the history and what has been missed. -/
theorem run_paged {key : Guid} {user : User} {settings : CatchupSubscriptionSettings}
    {events : List Resolved} {first : Int} (hfirst : 0 ≤ first)
    {inputs : List (Subscription.Input StreamEventsSlice)} {s : Paging}
    (hpages : EveryStep (pagingStep key user settings) (PageOf events) (initial settings first)
      inputs)
    (hrun : run (pagingStep key user settings) (initial settings first) inputs = some s) :
    Paged events first s := by
  have hgoing := run_invariant (fun h hpage hstep => pagingStep_going hfirst h hpage hstep)
    (initial_going events settings first) hpages hrun
  exact hgoing.paged

end CatchupPages

end Subscription
end EventStoreClient
