import EventStoreClient.Session.Subscriptions

/-!
# Deliveries

What the server sends for a subscription is what its user is called with, and what is
acknowledged is what the server reads.
-/

namespace EventStoreClient
namespace Session

open Connection Foundation Operations Subscription Wire

variable {child pending batch : Type}

/-!
# What comes of it

What the server has sent, and what it has read, under one id.
-/

def State.repliesTo (key : Guid) (s : State) : List Outgoing :=
  s.replies.filter fun p => p.correlationId = key

def State.servedTo (w : Setting) (key : Guid) (s : State) : List RequestMessage :=
  ((s.served w).reduceOption.filter fun q => q.correlationId = key).map ReadRequest.request

/-- The user has been called with the events of these messages, and the server reads what
the subscription has asked for, in order and up to the last one. -/
structure Delivered (w : Setting) (u : Subscriber child pending batch) (heard : List Push)
    (asked : List Subscription.Request) (c : Coupled child pending) : Prop where
  calls_eq : c.subscription.calls = heard.filterMap Push.call?
  no_faults : c.subscription.faults = []
  served : c.session.servedTo w u.key <+:
    (asked.filterMap u.clientRequest).map fun r => r.message w.connection
  served_all : Quiet w c.session -> c.session.servedTo w u.key =
    (asked.filterMap u.clientRequest).map fun r => r.message w.connection

section Results

variable {w : Setting} {u : Subscriber child pending batch} {c : Coupled child pending}

theorem filter_readBack (connection : ConnectionSettings) (key : Guid)
    (requests : List (Guid × ClientRequest)) :
    ((requests.map fun request => request.2.readBack connection request.1).filter
        fun q => q.correlationId = key).map ReadRequest.request =
      ((requests.filter fun request => request.1 = key).map Prod.snd).map
        fun r => r.message connection := by
  rw [List.filter_map, List.map_map, List.map_map]
  rfl

theorem Together.served (h : Together w u start c) (hshort : ShortCredentials w.connection)
    (hfits : forall request, request ∈ c.session.requests -> request.2.Fits w.connection) :
    c.session.servedTo w u.key <+:
        (c.subscription.sent.filterMap u.clientRequest).map (fun r => r.message w.connection) ∧
      (Quiet w c.session -> c.session.servedTo w u.key =
        (c.subscription.sent.filterMap u.clientRequest).map fun r => r.message w.connection) := by
  have hserving := h.serving
  rw [← h.asked, State.requestsOf, ← filter_readBack]
  constructor
  · have hstart := hserving.consistent.served_start hshort hserving.inOrder
    rw [readable_of_fits hfits] at hstart
    exact (hstart.filter _).map _
  · intro hquiet
    rw [State.servedTo, hserving.consistent.served_readBack hshort hserving.inOrder hfits hquiet]

/-- The subscription is called with the packages of the server, in their order. -/
theorem Together.heard_replies (h : Together w u start c) {pushes : List Push}
    (hpushes : List.Forall₂ (fun push p => push.Carried (Outgoing.received p)) pushes
      (c.session.repliesTo u.key)) :
    exists heard, heard <+: pushes ∧ (Quiet w c.session -> heard = pushes) ∧
      inputsOf u c.session.told =
        heard.map fun push => Subscription.Input.received push.message := by
  have hevents := h.serving.consistent.told.told_events u.key h.serving.subscribed
  have htransport := h.serving.consistent.transport
  let handled := (c.session.replies.take c.session.handled).filter
    fun p => p.correlationId = u.key
  have hhandled : handled <+: c.session.repliesTo u.key :=
    (List.take_prefix _ _).filter _
  have hinputs : inputsOf u c.session.told = handled.map fun p =>
      Subscription.Input.received
        (ServerMessage.ofPackage subscriptionProtobuf (Outgoing.received p)) := by
    rw [inputsOf, hevents, List.filter_map, List.map_map]
    rfl
  refine ⟨pushes.take handled.length, List.take_prefix _ _, ?_, ?_⟩
  · intro hquiet
    have hall : c.session.replies.take c.session.handled = c.session.replies := by
      have hlength := hquiet.handled
      rw [htransport.framesOf_length hquiet.toClient] at hlength
      exact List.take_of_length_le hlength
    have hlength : handled.length = pushes.length := by
      rw [hpushes.length_eq]
      exact congrArg (fun replies : List Outgoing =>
        (replies.filter fun p => p.correlationId = u.key).length) hall
    rw [hlength, List.take_length]
  · have hfirst := List.forall₂_take handled.length hpushes
    rw [← List.prefix_iff_eq_take.mp hhandled] at hfirst
    rw [hinputs]
    clear_value handled
    clear hinputs hhandled
    generalize pushes.take handled.length = heard at hfirst
    induction hfirst with
    | nil => rfl
    | cons hcarried _ ih => rw [List.map_cons, List.map_cons, ih, Push.ofPackage_carried hcarried]

/-- A subscription that is started in a session passes on what the server sends for it. -/
theorem run_delivered (hshort : ShortCredentials w.connection) (h : Hearing u.subscription)
    {before : List Input} {s s' : State} (hbefore : run (step w) initial before = some s)
    {r : ClientRequest} (hsubscribe : step w s (.subscribe u.key r) = some s')
    (hstart : u.kind.started.sent.filterMap u.clientRequest = [r])
    (hattending : Attending u.kind.started) (hcalls : u.kind.started.calls = [])
    (hfaults : u.kind.started.faults = []) {inputs : List Input}
    (hrun : run (coupledStep w u) { session := s', subscription := u.kind.started } inputs =
      some c)
    {pushes : List Push} (haccepts : forall push, push ∈ pushes -> h.Accepts push)
    (hpushes : List.Forall₂ (fun push p => push.Carried (Outgoing.received p)) pushes
      (c.session.repliesTo u.key))
    (hfits : forall request, request ∈ c.session.requests -> request.2.Fits w.connection) :
    exists heard, heard <+: pushes ∧ (Quiet w c.session -> heard = pushes) ∧
      Delivered w u heard (u.kind.started.sent ++ h.asksAll u.kind.started.child heard) c := by
  have htogether := run_together hshort (Together.subscribe hshort hbefore hsubscribe hstart) hrun
  rcases htogether.heard_replies hpushes with ⟨heard, hfirst, hall, hinputs⟩
  refine ⟨heard, hfirst, hall, ?_⟩
  rcases h.run_hears hattending fun push hpush => haccepts push (hfirst.subset hpush) with
    ⟨last, hlast, _, hcalled, hsent, hnone⟩
  have hheard := htogether.heard
  rw [hinputs, hlast] at hheard
  cases hheard
  rcases htogether.served hshort hfits with ⟨hserved, hservedAll⟩
  rw [hsent] at hserved hservedAll
  exact
    { calls_eq := by rw [hcalled, hcalls, List.nil_append]
      no_faults := hnone.trans hfaults
      served := hserved
      served_all := hservedAll }

end Results

/-!
# The two kinds

A persistent subscription, and a volatile one whose user never unsubscribes.
-/

def volatileSubscriber (key : Guid) (stream : Bytes) (resolveLinkTos : Bool) :
    Subscriber Unit Empty Empty :=
  { kind := Kind.volatile
    key := key
    user := User.passive
    stream := stream
    resolveLinkTos := resolveLinkTos
    groupName := []
    allowedInFlightMessages := 0 }

/-- A persistent subscription whose user never unsubscribes, and acknowledges nothing
itself. -/
def persistentSubscriber (key : Guid) (stream groupName : Bytes)
    (allowedInFlightMessages : UInt32) (autoAck : Bool) :
    Subscriber Persistent.Child Empty Empty :=
  { kind := Kind.persistent autoAck
    key := key
    user := User.passive
    stream := stream
    resolveLinkTos := false
    groupName := groupName
    allowedInFlightMessages := allowedInFlightMessages }

section Kinds

variable {w : Setting} {before inputs : List Input} {s s' : State}

/-- The user of a volatile subscription is called with the events that the server sends for
it, each once and in their order, and with all of them in the end. -/
theorem run_volatileDelivered (hshort : ShortCredentials w.connection)
    (hbefore : run (step w) initial before = some s) {key : Guid} {stream : Bytes}
    {resolveLinkTos : Bool}
    (hsubscribe : step w s (.subscribe key (.subscribeToStream stream resolveLinkTos)) = some s')
    {c : Coupled Unit Empty}
    (hrun : run (coupledStep w (volatileSubscriber key stream resolveLinkTos))
      { session := s', subscription := Kind.volatile.started } inputs = some c)
    {pushes : List Push} (haccepts : forall push, push ∈ pushes -> Volatile.Accepts push)
    (hpushes : List.Forall₂ (fun push p => push.Carried (Outgoing.received p)) pushes
      (c.session.repliesTo key))
    (hfits : forall request, request ∈ c.session.requests -> request.2.Fits w.connection) :
    exists heard, heard <+: pushes ∧ (Quiet w c.session -> heard = pushes) ∧
      Delivered w (volatileSubscriber key stream resolveLinkTos) heard
        [Subscription.Request.subscribeToStream] c := by
  have hdelivered := run_delivered (u := volatileSubscriber key stream resolveLinkTos) hshort
    (Volatile.hearing key) hbefore hsubscribe rfl ⟨⟨rfl, rfl, rfl⟩, rfl⟩ rfl rfl hrun haccepts
    hpushes hfits
  rcases hdelivered with ⟨heard, hfirst, hall, h⟩
  have hasked : Delivered w (volatileSubscriber key stream resolveLinkTos) heard
      (Subscription.Request.subscribeToStream :: (Volatile.hearing key).asksAll () heard) c := h
  rw [Volatile.hearing_asksAll] at hasked
  exact ⟨heard, hfirst, hall, hasked⟩

/-- So is that of a persistent subscription, and the server reads one acknowledgement for
each event that the user has been called with, if it is to be acknowledged automatically. -/
theorem run_persistentDelivered (hshort : ShortCredentials w.connection)
    (hbefore : run (step w) initial before = some s) {key : Guid} {stream groupName : Bytes}
    {allowedInFlightMessages : UInt32} {autoAck : Bool}
    (hsubscribe : step w s (.subscribe key
      (.connectToPersistentSubscription stream groupName allowedInFlightMessages)) = some s')
    {c : Coupled Persistent.Child Empty}
    (hrun : run
      (coupledStep w
        (persistentSubscriber key stream groupName allowedInFlightMessages autoAck))
      { session := s', subscription := (Kind.persistent autoAck).started } inputs = some c)
    {pushes : List Push} (haccepts : forall push, push ∈ pushes -> Persistent.Accepts push)
    (hpushes : List.Forall₂ (fun push p => push.Carried (Outgoing.received p)) pushes
      (c.session.repliesTo key))
    (hfits : forall request, request ∈ c.session.requests -> request.2.Fits w.connection) :
    exists heard, heard <+: pushes ∧ (Quiet w c.session -> heard = pushes) ∧
      Delivered w (persistentSubscriber key stream groupName allowedInFlightMessages autoAck)
        heard
        (Subscription.Request.connectToPersistentSubscription ::
          Persistent.acknowledgements autoAck { subscriptionId := [] } heard) c := by
  have hdelivered := run_delivered
    (u := persistentSubscriber key stream groupName allowedInFlightMessages autoAck) hshort
    (Persistent.hearing key autoAck) hbefore hsubscribe rfl ⟨⟨rfl, rfl, rfl⟩, rfl⟩ rfl rfl hrun
    haccepts hpushes hfits
  rcases hdelivered with ⟨heard, hfirst, hall, h⟩
  have hasked : Delivered w
      (persistentSubscriber key stream groupName allowedInFlightMessages autoAck) heard
      (Subscription.Request.connectToPersistentSubscription ::
        (Persistent.hearing key autoAck).asksAll { subscriptionId := [] } heard) c := h
  rw [Persistent.hearing_asksAll] at hasked
  exact ⟨heard, hfirst, hall, hasked⟩

end Kinds

/-!
A persistent subscription, which is confirmed, and told and acknowledges an event.
-/

/-- The server confirms a persistent subscription and sends an event. -/
def deliverySetting : Setting :=
  { deletionSetting with
    answers := fun q p =>
      q.request.command = TcpCommand.connectToPersistentSubscription ∧
        (p.command = TcpCommand.persistentSubscriptionConfirmation ∨
          p.command = TcpCommand.persistentSubscriptionStreamEventAppeared) }

theorem deliverySetting_short : ShortCredentials deliverySetting.connection :=
  ⟨by decide, by decide⟩

def delivery : Subscriber Persistent.Child Empty Empty :=
  persistentSubscriber (Guid.ofByte 1) [115] [103] 10 true

def connecting : Guid × ClientRequest :=
  (delivery.key, .connectToPersistentSubscription [115] [103] 10)

def connectingPackage : Package := requestPackage deliverySetting.connection connecting

def confirmationPush : Push :=
  .persistentSubscriptionConfirmation (some (5 : Int64), some [103], none, ())

def deliveredRecord : Messages.eventRecord.Message :=
  (some [115], some (0 : Int64), some (List.replicate 16 7), some [116], some (1 : Int32),
    some (0 : Int32), some [100], none, none, none, ())

def eventPush : Push :=
  .persistentSubscriptionStreamEventAppeared
    (some (some deliveredRecord, none, ()), some (2 : Int32), ())

def confirmationReply : Outgoing :=
  Outgoing.ofServer TcpCommand.persistentSubscriptionConfirmation delivery.key
    [8, 5, 18, 1, 103] (by decide)

def eventReply : Outgoing :=
  Outgoing.ofServer TcpCommand.persistentSubscriptionStreamEventAppeared delivery.key
    [16, 2, 10, 35, 10, 33, 10, 1, 115, 16, 0, 26, 16, 7, 7, 7, 7, 7, 7, 7, 7, 7, 7, 7, 7, 7,
      7, 7, 7, 34, 1, 116, 40, 1, 48, 0, 58, 1, 100] (by decide)

theorem confirmationPush_carried : confirmationPush.Carried confirmationReply.received where
  command_eq := rfl
  fits := MessageType.fits_of_size (by decide)
  carries :=
    { complete := by decide
      fields := by decide }

theorem eventPush_carried : eventPush.Carried eventReply.received where
  command_eq := rfl
  fits := MessageType.fits_of_size (by decide)
  carries :=
    { complete := by decide
      fields := by decide }

def connectingPosted : State :=
  { initial with
    client :=
      { Operation.initial with
        subscriptions :=
          Operation.initial.subscriptions.registerOp delivery.key Operation.Entry.subscription
        sent := [connectingPackage] }
    sending :=
      { SendState.start with
        posted := [connectingPackage.sendable]
        sent := [connectingPackage.sendable] }
    requests := [connecting] }

def connectingSent : State :=
  { connectingPosted with
    sending :=
      { SendState.start with
        sent := [connectingPackage.sendable]
        ran := [{ number := 0, package := connectingPackage.sendable }]
        handed := [{ number := 0, package := connectingPackage.sendable }]
        socketBytes := connectingPackage.bytes }
    toServer := ((Pipe.empty.write connectingPackage.bytes).write []).arrive 200 }

def connectingReplied : State :=
  { connectingSent with
    replies := [confirmationReply, eventReply]
    toClient :=
      ((Pipe.empty.write confirmationReply.package.bytes).write
        eventReply.package.bytes).arrive 200 }

def connectingConfirmed : State :=
  { connectingReplied with
    client := connectingReplied.client.counted
    handled := 1
    told := [callOf confirmationReply] }

def acknowledging : Guid × ClientRequest :=
  (delivery.key, .persistentSubscriptionAckEvents [103] [List.replicate 16 7])

def acknowledgingPackage : Package := requestPackage deliverySetting.connection acknowledging

def acknowledged : State :=
  { connectingConfirmed with
    client :=
      { connectingConfirmed.client.counted with
        sent := [connectingPackage, acknowledgingPackage] }
    sending :=
      { connectingSent.sending with
        posted := [acknowledgingPackage.sendable]
        sent := [connectingPackage.sendable, acknowledgingPackage.sendable] }
    handled := 2
    requests := [connecting, acknowledging]
    told := [callOf confirmationReply, callOf eventReply] }

theorem step_connecting :
    step deliverySetting initial (.subscribe connecting.1 connecting.2) = some connectingPosted :=
  rfl

def deliveryInputs : List Input := [.runPosted, .written 0, .arriveAtServer 200]

theorem run_connectingSent :
    run (step deliverySetting) initial
      (.subscribe connecting.1 connecting.2 :: deliveryInputs) = some connectingSent := rfl

def deliveryAt (session : State) : Coupled Persistent.Child Empty :=
  { session := session
    subscription := delivery.kind.started }

theorem run_deliverySent :
    run (coupledStep deliverySetting delivery) (deliveryAt connectingPosted) deliveryInputs =
      some (deliveryAt connectingSent) := rfl

def deliveryConfirmed : Subscription.State Persistent.Child Empty :=
  { confirm (some 5) none delivery.kind.started with child := { subscriptionId := [103] } }

def deliveryAppeared : Subscription.State Persistent.Child Empty :=
  { deliveryConfirmed with
    calls := eventPush.call?.toList
    sent :=
      [.connectToPersistentSubscription,
        .persistentSubscriptionAckEvents [103] [List.replicate 16 7]] }

theorem deliveryAppeared_sent :
    deliveryAppeared.sent = deliveryConfirmed.sent ++
      [Subscription.Request.persistentSubscriptionAckEvents [103] [List.replicate 16 7]] := rfl

theorem step_confirmed :
    Subscription.step delivery.subscription delivery.kind.started
      (.received confirmationPush.message) = some deliveryConfirmed := rfl

theorem step_appeared :
    Subscription.step delivery.subscription deliveryConfirmed (.received eventPush.message) =
      some deliveryAppeared := rfl

theorem connectingSent_consistent : Consistent deliverySetting connectingSent :=
  run_consistent deliverySetting_short run_connectingSent

theorem connecting_fits : forall request, request ∈ [connecting] ->
    request.2.Fits deliverySetting.connection := by
  decide

theorem connectingSent_answers {p : Outgoing} (hid : p.correlationId = connecting.1)
    (hcommand : p.command = TcpCommand.persistentSubscriptionConfirmation ∨
      p.command = TcpCommand.persistentSubscriptionStreamEventAppeared) :
    connectingSent.Answers deliverySetting p := by
  refine connectingSent_consistent.answers deliverySetting_short connecting_fits rfl rfl rfl
    (show connectingSent.toServer.Drained from rfl) (List.mem_singleton_self connecting)
    (List.mem_singleton_self _) hid ?_
  exact decide_eq_true ⟨rfl, hcommand⟩

def deliveryAnswers : List Input :=
  [.reply confirmationReply, .reply eventReply, .arriveAtClient 200]

theorem step_reply {w : Setting} {s : State} {p : Outgoing} (hanswers : s.Answers w p) :
    step w s (.reply p) = some (s.reply p) := if_pos hanswers

theorem run_connectingReplied :
    run (step deliverySetting) connectingSent deliveryAnswers = some connectingReplied := by
  have hfirst : step deliverySetting connectingSent (.reply confirmationReply) =
      some (connectingSent.reply confirmationReply) :=
    if_pos (connectingSent_answers rfl (Or.inl rfl))
  have hsecond : step deliverySetting (connectingSent.reply confirmationReply)
      (.reply eventReply) = some ((connectingSent.reply confirmationReply).reply eventReply) :=
    if_pos (connectingSent_answers (p := eventReply) rfl (Or.inr rfl))
  simp only [deliveryAnswers, run, hfirst, hsecond]
  rfl

theorem connectingReplied_transport : Transport connectingReplied :=
  (run_consistent deliverySetting_short
    (run_append run_connectingSent run_connectingReplied)).transport

theorem step_connectingConfirmed :
    step deliverySetting connectingReplied (.receive (Guid.ofByte 9) []) =
      some connectingConfirmed := by
  rw [step, if_pos (fun _ h => absurd h List.not_mem_nil),
    connectingReplied_transport.receive_eq (show connectingReplied.toClient.Drained from rfl)
      (show connectingReplied.replies[connectingReplied.handled]? = some confirmationReply
        from rfl)]
  rfl

def connectingTold : State :=
  { connectingConfirmed with
    client := connectingConfirmed.client.counted
    handled := 2
    told := [callOf confirmationReply, callOf eventReply] }

theorem step_connectingTold :
    step deliverySetting connectingConfirmed (.receive (Guid.ofByte 9) []) =
      some connectingTold := by
  have htransport : Transport connectingConfirmed :=
    ⟨connectingReplied_transport.sending, connectingReplied_transport.queued,
      connectingReplied_transport.toServer_written, connectingReplied_transport.toClient_written⟩
  rw [step, if_pos (fun _ h => absurd h List.not_mem_nil),
    htransport.receive_eq (show connectingReplied.toClient.Drained from rfl)
      (show connectingConfirmed.replies[connectingConfirmed.handled]? = some eventReply from rfl)]
  rfl

def deliveryEnd : Coupled Persistent.Child Empty :=
  { session := acknowledged
    subscription := deliveryAppeared }

def deliveryReceives : List Input :=
  [.receive (Guid.ofByte 9) [], .receive (Guid.ofByte 9) []]

theorem run_deliveryReplied :
    run (coupledStep deliverySetting delivery) (deliveryAt connectingSent) deliveryAnswers =
      some (deliveryAt connectingReplied) := by
  have hfirst : coupledStep deliverySetting delivery (deliveryAt connectingSent)
      (.reply confirmationReply) =
        some (deliveryAt (connectingSent.reply confirmationReply)) :=
    coupledStep_untold trivial (step_reply (connectingSent_answers rfl (Or.inl rfl))) rfl
  have hsecond : coupledStep deliverySetting delivery
      (deliveryAt (connectingSent.reply confirmationReply)) (.reply eventReply) =
        some (deliveryAt ((connectingSent.reply confirmationReply).reply eventReply)) :=
    coupledStep_untold trivial
      (step_reply (connectingSent_answers (p := eventReply) rfl (Or.inr rfl))) rfl
  simp only [deliveryAnswers, run, hfirst, hsecond]
  rfl

theorem run_deliveryReceived :
    run (coupledStep deliverySetting delivery) (deliveryAt connectingReplied)
      deliveryReceives = some deliveryEnd := by
  have hfirst : coupledStep deliverySetting delivery (deliveryAt connectingReplied)
      (.receive (Guid.ofByte 9) []) =
        some { session := connectingConfirmed, subscription := deliveryConfirmed } :=
    coupledStep_told trivial step_connectingConfirmed rfl confirmationPush_carried
      step_confirmed (List.append_nil _).symm List.not_mem_nil rfl
  have hsecond : coupledStep deliverySetting delivery
      { session := connectingConfirmed, subscription := deliveryConfirmed }
      (.receive (Guid.ofByte 9) []) = some deliveryEnd :=
    coupledStep_told trivial step_connectingTold rfl eventPush_carried step_appeared
      deliveryAppeared_sent (by decide) rfl
  simp only [deliveryReceives, run, hfirst, hsecond]

theorem run_delivery :
    run (coupledStep deliverySetting delivery) (deliveryAt connectingPosted)
      (deliveryInputs ++ (deliveryAnswers ++ deliveryReceives)) = some deliveryEnd :=
  run_append run_deliverySent (run_append run_deliveryReplied run_deliveryReceived)

theorem delivery_acknowledged :
    exists heard, heard <+: [confirmationPush, eventPush] ∧
      (Quiet deliverySetting deliveryEnd.session -> heard = [confirmationPush, eventPush]) ∧
        Delivered deliverySetting delivery heard
          (Subscription.Request.connectToPersistentSubscription ::
            Persistent.acknowledgements true { subscriptionId := [] } heard) deliveryEnd := by
  have hbefore : run (step deliverySetting) initial [] = some initial := rfl
  refine run_persistentDelivered deliverySetting_short hbefore step_connecting run_delivery ?_ ?_ ?_
  · intro push hpush
    rcases List.mem_cons.mp hpush with rfl | hevent
    · exact ⟨Or.inl rfl, fun e he => by cases he⟩
    · cases List.mem_singleton.mp hevent
      refine ⟨Or.inr rfl, fun e he => ?_⟩
      cases he
      exact ⟨by decide, rfl⟩
  · exact List.Forall₂.cons confirmationPush_carried
      (List.Forall₂.cons eventPush_carried List.Forall₂.nil)
  · show forall request, request ∈ [connecting, acknowledging] ->
      request.2.Fits deliverySetting.connection
    decide

end Session
end EventStoreClient
