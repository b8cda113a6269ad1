import EventStoreClient.Operations.Parsing
import EventStoreClient.Subscription.Delivery
import EventStoreClient.Subscription.Keeping

/-!
# Packages that the server pushes

The confirmations and the events that the server sends for a volatile or a persistent
subscription, and what becomes of them for a user who never unsubscribes.
-/

namespace EventStoreClient
namespace Subscription

open Connection Foundation Operations Wire

/-!
# `ParseFromArray`

The parser of the library for the messages that a server pushes.
-/

namespace SubscriptionConfirmation

def ofMessage : Messages.subscriptionConfirmation.Message -> SubscriptionConfirmation
  | (lastCommitPosition, lastEventNumber, _) =>
      { lastCommitPosition := number lastCommitPosition
        lastEventNumber := number lastEventNumber }

end SubscriptionConfirmation

namespace PersistentSubscriptionConfirmation

def ofMessage :
    Messages.persistentSubscriptionConfirmation.Message -> PersistentSubscriptionConfirmation
  | (lastCommitPosition, subscriptionId, lastEventNumber, _) =>
      { lastCommitPosition := number lastCommitPosition
        subscriptionId := subscriptionId
        lastEventNumber := number lastEventNumber }

end PersistentSubscriptionConfirmation

namespace StreamEventAppeared

def ofMessage : Messages.streamEventAppeared.Message -> StreamEventAppeared
  | (event, _) => { event := Option.map ResolvedEvent.ofMessage event }

end StreamEventAppeared

namespace PersistentSubscriptionStreamEventAppeared

def ofMessage :
    Messages.persistentSubscriptionStreamEventAppeared.Message ->
      PersistentSubscriptionStreamEventAppeared
  | (event, retryCount, _) =>
      { event := Option.map ResolvedIndexedEvent.ofMessage event
        retryCount := number32 retryCount }

end PersistentSubscriptionStreamEventAppeared

namespace SubscriptionDropped

def ofMessage : Messages.subscriptionDropped.Message -> SubscriptionDropped
  | (reason, _) => { reason := reason }

end SubscriptionDropped

namespace NotHandled

def ofMessage : Messages.notHandled.Message -> NotHandled
  | (reason, _, _) => { reason := reason }

end NotHandled

def subscriptionProtobuf : SubscriptionProtobuf :=
  { subscriptionConfirmation :=
      parse Messages.subscriptionConfirmation SubscriptionConfirmation.ofMessage
    persistentSubscriptionConfirmation :=
      parse Messages.persistentSubscriptionConfirmation
        PersistentSubscriptionConfirmation.ofMessage
    streamEventAppeared := parse Messages.streamEventAppeared StreamEventAppeared.ofMessage
    persistentSubscriptionStreamEventAppeared :=
      parse Messages.persistentSubscriptionStreamEventAppeared
        PersistentSubscriptionStreamEventAppeared.ofMessage
    subscriptionDropped := parse Messages.subscriptionDropped SubscriptionDropped.ofMessage
    notHandled := parse Messages.notHandled NotHandled.ofMessage }

/-!
# Confirmations and events

A message that the server pushes to a subscription, with the package for it.
-/

inductive Push where
  | subscriptionConfirmation (m : Messages.subscriptionConfirmation.Message)
  | streamEventAppeared (m : Messages.streamEventAppeared.Message)
  | persistentSubscriptionConfirmation
      (m : Messages.persistentSubscriptionConfirmation.Message)
  | persistentSubscriptionStreamEventAppeared
      (m : Messages.persistentSubscriptionStreamEventAppeared.Message)

namespace Push

def command : Push -> TcpCommand
  | subscriptionConfirmation _ => TcpCommand.subscriptionConfirmation
  | streamEventAppeared _ => TcpCommand.streamEventAppeared
  | persistentSubscriptionConfirmation _ => TcpCommand.persistentSubscriptionConfirmation
  | persistentSubscriptionStreamEventAppeared _ =>
      TcpCommand.persistentSubscriptionStreamEventAppeared

def type : Push -> MessageType
  | subscriptionConfirmation _ => Messages.subscriptionConfirmation
  | streamEventAppeared _ => Messages.streamEventAppeared
  | persistentSubscriptionConfirmation _ => Messages.persistentSubscriptionConfirmation
  | persistentSubscriptionStreamEventAppeared _ =>
      Messages.persistentSubscriptionStreamEventAppeared

def content : (push : Push) -> push.type.Message
  | subscriptionConfirmation m => m
  | streamEventAppeared m => m
  | persistentSubscriptionConfirmation m => m
  | persistentSubscriptionStreamEventAppeared m => m

/-- What the switches of the client make of a message of this type. -/
def view : (push : Push) -> push.type.Message -> ServerMessage
  | subscriptionConfirmation _ => fun m =>
      ServerMessage.subscriptionConfirmation (SubscriptionConfirmation.ofMessage m)
  | streamEventAppeared _ => fun m =>
      ServerMessage.streamEventAppeared (StreamEventAppeared.ofMessage m)
  | persistentSubscriptionConfirmation _ => fun m =>
      ServerMessage.persistentSubscriptionConfirmation
        (PersistentSubscriptionConfirmation.ofMessage m)
  | persistentSubscriptionStreamEventAppeared _ => fun m =>
      ServerMessage.persistentSubscriptionStreamEventAppeared
        (PersistentSubscriptionStreamEventAppeared.ofMessage m)

def message (push : Push) : ServerMessage := push.view push.content

/-- The payload of the package carries the message, whatever the order of its fields. -/
structure Carried (push : Push) (p : Package) : Prop where
  command_eq : p.command = push.command
  fits : push.type.Fits push.content
  carries : push.type.Carries push.content p.message

theorem ofPackage_command {push : Push} {p : Package} (hcommand : p.command = push.command) :
    ServerMessage.ofPackage subscriptionProtobuf p =
      push.view (push.type.parseFromArray p.message).message := by
  rw [ServerMessage.ofPackage, hcommand]
  cases push with
  | _ => rfl

theorem ofPackage_carried {push : Push} {p : Package} (h : push.Carried p) :
    ServerMessage.ofPackage subscriptionProtobuf p = push.message := by
  rw [ofPackage_command h.command_eq, MessageType.parseFromArray_carries h.fits h.carries]
  rfl

end Push

/-!
# What becomes of them

What the class calls for a message, and what it asks for; messages are passed on one after
another.
-/

variable {child pending batch : Type}

def Push.event? : Push -> Option Resolved
  | subscriptionConfirmation _ => none
  | streamEventAppeared m =>
      some (Resolved.ofStreamEventAppeared (StreamEventAppeared.ofMessage m))
  | persistentSubscriptionConfirmation _ => none
  | persistentSubscriptionStreamEventAppeared m =>
      some (Resolved.ofPersistentSubscriptionStreamEventAppeared
        (PersistentSubscriptionStreamEventAppeared.ofMessage m))

def Push.retryCount? : Push -> Option Int
  | persistentSubscriptionStreamEventAppeared m =>
      some (read (PersistentSubscriptionStreamEventAppeared.ofMessage m).retryCount)
  | _ => none

def Push.call? (push : Push) : Option Callback :=
  push.event?.map fun e => Callback.eventAppeared e push.retryCount?

/-- The ids of the records are as long as the client takes them to be. -/
def Resolved.WellFormed (e : Resolved) : Prop :=
  forall record, record ∈ e.event.toList ++ e.link.toList -> (read record.eventId).length = 16

instance (e : Resolved) : Decidable e.WellFormed :=
  inferInstanceAs (Decidable (forall record, record ∈ _ -> _))

theorem Resolved.WellFormed.originalEvent {e : Resolved} (h : e.WellFormed)
    {record : EventRecord} (hrecord : e.originalEvent = some record) :
    (read record.eventId).length = 16 := by
  refine h record (List.mem_append.mpr ?_)
  unfold Resolved.originalEvent at hrecord
  split at hrecord
  · exact Or.inr (Option.mem_toList.mpr hrecord)
  · exact Or.inl (Option.mem_toList.mpr hrecord)

/-- The subscription takes packages, and nothing keeps them from its class. -/
structure Attending (s : State child pending) : Prop extends Listening s where
  receiving : s.receiving = true

/-- What a message changes, with the requests that are made and the members that are left
by it. -/
structure Heard (push : Push) (asked : List Request) (left : child)
    (s next : State child pending) : Prop where
  attending : Attending next
  calls_eq : next.calls = s.calls ++ push.call?.toList
  sent_eq : next.sent = s.sent ++ asked
  child_eq : next.child = left
  faults_eq : next.faults = s.faults

/-- A class that takes messages, with what it asks for and what becomes of its members. -/
structure Hearing (c : Class child pending batch) where
  Accepts : Push -> Prop
  asks : child -> Push -> List Request
  moved : child -> Push -> child
  hears : forall {s : State child pending} {push : Push}, Attending s -> Accepts push ->
    exists next, step c s (Input.received push.message) = some next ∧
      Heard push (asks s.child push) (moved s.child push) s next

namespace Hearing

variable {c : Class child pending batch}

def asksAll (h : Hearing c) : child -> List Push -> List Request
  | _, [] => []
  | m, push :: rest => h.asks m push ++ h.asksAll (h.moved m push) rest

theorem run_hears (h : Hearing c) {s : State child pending} (hs : Attending s)
    {pushes : List Push} (haccepts : forall push, push ∈ pushes -> h.Accepts push) :
    exists last, run (step c) s (pushes.map fun push => Input.received push.message) = some last ∧
      Attending last ∧ last.calls = s.calls ++ pushes.filterMap Push.call? ∧
      last.sent = s.sent ++ h.asksAll s.child pushes ∧ last.faults = s.faults := by
  induction pushes generalizing s with
  | nil =>
      exact ⟨s, rfl, hs, (List.append_nil _).symm, (List.append_nil _).symm, rfl⟩
  | cons push rest ih =>
      rw [List.forall_mem_cons] at haccepts
      rcases h.hears hs haccepts.left with ⟨next, hstep, hheard⟩
      rcases ih hheard.attending haccepts.right with
        ⟨last, hrun, hattending, hcalls, hsent, hfaults⟩
      refine ⟨last, ?_, hattending, ?_, ?_, hfaults.trans hheard.faults_eq⟩
      · rw [List.map_cons, run, hstep]
        exact hrun
      · rw [hcalls, hheard.calls_eq, List.append_assoc]
        congr 1
        cases hcall : push.call? with
        | none => rw [List.filterMap_cons_none hcall, Option.toList_none, List.nil_append]
        | some call =>
            rw [List.filterMap_cons_some hcall, Option.toList_some, List.singleton_append]
      · rw [hsent, hheard.sent_eq, hheard.child_eq, List.append_assoc]
        rfl

end Hearing

/-!
# Requests are not taken back

A package adds to the requests of a subscription of any kind.
-/

theorem keepingAll_sent (b : Base child) (asked : List Request) :
    KeepingAll b fun s : State child pending => asked <+: s.sent where
  setChild := fun _ hs => hs
  confirm := fun _ _ hs => hs
  called := fun _ _ hs => hs
  unsubscribe := by
    intro s ec hs
    unfold Base.unsubscribe
    split
    · exact hs.trans (List.prefix_append _ _)
    · exact hs
  postRead := fun hs => hs
  startRead := fun _ hs => hs
  start := fun hs => hs
  send := fun _ hs => hs.trans (List.prefix_append _ _)

theorem keepingBase_sent (b : Base child) (asked : List Request) :
    KeepingBase b fun s : State child pending => asked <+: s.sent where
  called := fun _ hs => hs
  unsubscribe := (keepingAll_sent b asked).unsubscribe
  erase := fun hs => hs
  answered := fun hs => hs
  setDeadline := fun _ hs => hs
  fault := fun _ _ hs => hs

theorem Kind.received_sent (kind : Kind child pending batch) (key : Guid) (user : User)
    {message : ServerMessage} {s next : State child pending}
    (hstep : step (kind.subscription key user) s (Input.received message) = some next) :
    s.sent <+: next.sent := by
  have hbase : KeepingBase (kind.subscription key user).toBase
      fun s' : State child pending => s.sent <+: s'.sent := keepingBase_sent _ s.sent
  have hclass := kind.keeps key user fun b => keepingAll_sent b s.sent
  cases stepped_of_step hstep with
  | received _ _ =>
      exact hbase.settleReceived (hbase.receive
        (fun _ => hclass.received message s List.prefix_rfl) List.prefix_rfl)

theorem Kind.run_received_sent (kind : Kind child pending batch) (key : Guid) (user : User)
    {messages : List ServerMessage} {s last : State child pending}
    (hrun : run (step (kind.subscription key user)) s
      (messages.map fun message => Input.received message) = some last) :
    s.sent <+: last.sent := by
  induction messages generalizing s with
  | nil =>
      cases hrun
      exact List.prefix_rfl
  | cons message rest ih =>
      rcases run_cons hrun with ⟨next, hstep, hrest⟩
      exact (kind.received_sent key user hstep).trans (ih hrest)

/-!
# The two kinds

An attending subscription leaves to its class what the class handles: a volatile one asks
for nothing more, a persistent one acknowledges.
-/

theorem eventAppeared_undisturbed {b : Base child} (hpassive : b.user = User.passive) (e : Resolved)
    (retryCount : Option Int) (s : State child pending) :
    (b.eventAppeared e retryCount).runOn s =
      (Except.ok (), s.called (Callback.eventAppeared e retryCount)) := by
  simp [Base.eventAppeared, hpassive, User.passive, Except.map]

theorem Attending.step_handled {c : Class child pending batch} {s : State child pending}
    (hs : Attending s) {message : ServerMessage} {next : State child pending}
    (hrun : (c.onPackageReceived message).runOn s = (Except.ok true, next)) :
    step c s (Input.received message) = some next := by
  rw [step, if_pos hs.receiving,
    receive_handled hs.unasked hs.registered hs.unlocked hrun]
  rfl

namespace Volatile

def Accepts (push : Push) : Prop :=
  (push.command = TcpCommand.subscriptionConfirmation ∨
    push.command = TcpCommand.streamEventAppeared) ∧
  forall e, e ∈ push.event? -> e.WellFormed

def hearing (key : Guid) : Hearing (subscription key User.passive) where
  Accepts := Accepts
  asks := fun _ _ => []
  moved := fun m _ => m
  hears := by
    intro s push hs haccepts
    cases push with
    | subscriptionConfirmation m =>
        refine ⟨_, hs.step_handled rfl, ?_⟩
        exact
          { attending := ⟨⟨hs.unasked, hs.registered, hs.unlocked⟩, hs.receiving⟩
            calls_eq := (List.append_nil _).symm
            sent_eq := (List.append_nil _).symm
            child_eq := rfl
            faults_eq := rfl }
    | streamEventAppeared m =>
        refine ⟨_, hs.step_handled rfl, ?_⟩
        exact
          { attending := ⟨⟨hs.unasked, hs.registered, hs.unlocked⟩, hs.receiving⟩
            calls_eq := rfl
            sent_eq := (List.append_nil _).symm
            child_eq := rfl
            faults_eq := rfl }
    | persistentSubscriptionConfirmation m =>
        exact absurd haccepts.left (of_decide_eq_false rfl)
    | persistentSubscriptionStreamEventAppeared m =>
        exact absurd haccepts.left (of_decide_eq_false rfl)

theorem hearing_asksAll (key : Guid) (m : Unit) (pushes : List Push) :
    (hearing key).asksAll m pushes = [] := by
  induction pushes with
  | nil => rfl
  | cons push rest ih => exact ih

end Volatile

namespace Persistent

/-- What the server sends for a persistent subscription.  Every event has a record, whose id
an acknowledgement needs. -/
def Accepts (push : Push) : Prop :=
  (push.command = TcpCommand.persistentSubscriptionConfirmation ∨
    push.command = TcpCommand.persistentSubscriptionStreamEventAppeared) ∧
  forall e, e ∈ push.event? -> e.WellFormed ∧ e.originalEvent.isSome = true

def acknowledgedId (m : Messages.persistentSubscriptionStreamEventAppeared.Message) : Bytes :=
  ((Resolved.ofPersistentSubscriptionStreamEventAppeared
    (PersistentSubscriptionStreamEventAppeared.ofMessage m)).originalEvent.map fun record =>
      read record.eventId).getD []

/-- Each event is acknowledged under the subscription id of the last confirmation. -/
def acknowledgement (autoAck : Bool) (m : Child) : Push -> List Request
  | .persistentSubscriptionStreamEventAppeared event =>
      if autoAck then
        [Request.persistentSubscriptionAckEvents m.subscriptionId [acknowledgedId event]]
      else []
  | _ => []

def confirmed (m : Child) : Push -> Child
  | .persistentSubscriptionConfirmation confirmation =>
      { subscriptionId :=
          read (PersistentSubscriptionConfirmation.ofMessage confirmation).subscriptionId }
  | _ => m

/-- The acknowledgements of a whole history, for a subscription with these members. -/
def acknowledgements (autoAck : Bool) : Child -> List Push -> List Request
  | _, [] => []
  | m, push :: rest =>
      acknowledgement autoAck m push ++ acknowledgements autoAck (confirmed m push) rest

theorem onPackageReceived_event (key : Guid) (autoAck : Bool)
    {m : Messages.persistentSubscriptionStreamEventAppeared.Message}
    (haccepts : Accepts (.persistentSubscriptionStreamEventAppeared m))
    (s : State Child Empty) :
    (onPackageReceived (base key User.passive) autoAck
        (Push.persistentSubscriptionStreamEventAppeared m).message).runOn s =
      (Except.ok true,
        { s with
          calls := s.calls ++ (Push.persistentSubscriptionStreamEventAppeared m).call?.toList
          sent :=
            s.sent ++
              acknowledgement autoAck s.child
                (.persistentSubscriptionStreamEventAppeared m) }) := by
  rcases Option.isSome_iff_exists.mp (haccepts.right _ rfl).right with ⟨record, hrecord⟩
  have hid : acknowledgedId m = read record.eventId := by
    rw [acknowledgedId, hrecord]
    rfl
  have hcopied : recordedEventId record = read record.eventId :=
    recordedEventId_of_length ((haccepts.right _ rfl).left.originalEvent hrecord)
  cases autoAck with
  | false =>
      simp [Push.message, Push.view, Push.content, onPackageReceived,
        eventAppeared_undisturbed, base, State.called, Push.call?, Push.event?,
        Push.retryCount?, acknowledgement, Except.map]
  | true =>
      simp [Push.message, Push.view, Push.content, onPackageReceived,
        eventAppeared_undisturbed, base, State.called, Push.call?, Push.event?,
        Push.retryCount?, acknowledgement, acknowledge, hrecord, hid, hcopied, value, State.send,
        Except.map]

def hearing (key : Guid) (autoAck : Bool) :
    Hearing (subscription key User.passive autoAck) where
  Accepts := Accepts
  asks := acknowledgement autoAck
  moved := confirmed
  hears := by
    intro s push hs haccepts
    cases push with
    | subscriptionConfirmation m => exact absurd haccepts.left (of_decide_eq_false rfl)
    | streamEventAppeared m => exact absurd haccepts.left (of_decide_eq_false rfl)
    | persistentSubscriptionConfirmation m =>
        refine ⟨_, hs.step_handled rfl, ?_⟩
        exact
          { attending := ⟨⟨hs.unasked, hs.registered, hs.unlocked⟩, hs.receiving⟩
            calls_eq := (List.append_nil _).symm
            sent_eq := (List.append_nil _).symm
            child_eq := rfl
            faults_eq := rfl }
    | persistentSubscriptionStreamEventAppeared m =>
        refine ⟨_, hs.step_handled (onPackageReceived_event key autoAck haccepts s), ?_⟩
        exact
          { attending := ⟨⟨hs.unasked, hs.registered, hs.unlocked⟩, hs.receiving⟩
            calls_eq := rfl
            sent_eq := rfl
            child_eq := rfl
            faults_eq := rfl }

theorem hearing_asksAll (key : Guid) (autoAck : Bool) (m : Child) (pushes : List Push) :
    (hearing key autoAck).asksAll m pushes = acknowledgements autoAck m pushes := by
  induction pushes generalizing m with
  | nil => rfl
  | cons push rest ih => exact congrArg _ (ih _)

end Persistent

end Subscription
end EventStoreClient
