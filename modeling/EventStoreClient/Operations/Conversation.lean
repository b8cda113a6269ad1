import EventStoreClient.Connection.Receive
import EventStoreClient.Operations.Requests
import EventStoreClient.Wire.Framing
import EventStoreClient.Wire.RoundTrip

/-!
# Requests on the wire

A request is read back by the commands, ids and credentials of its package, and by parsing
the message that belongs to the command.
-/

namespace EventStoreClient
namespace Operations

open Connection Foundation Wire

/-!
# Reading a request

The server side of the format: the requests in a stream of bytes, each with the message
that belongs to its command, and with login and password if its package is flagged to have
them.
-/

def requestTypes : List (TcpCommand × MessageType) :=
  [(TcpCommand.writeEvents, Messages.writeEvents),
    (TcpCommand.deleteStream, Messages.deleteStream),
    (TcpCommand.transactionStart, Messages.transactionStart),
    (TcpCommand.transactionWrite, Messages.transactionWrite),
    (TcpCommand.transactionCommit, Messages.transactionCommit),
    (TcpCommand.readEvent, Messages.readEvent),
    (TcpCommand.readStreamEventsForward, Messages.readStreamEvents),
    (TcpCommand.readStreamEventsBackward, Messages.readStreamEvents),
    (TcpCommand.readAllEventsForward, Messages.readAllEvents),
    (TcpCommand.readAllEventsBackward, Messages.readAllEvents),
    (TcpCommand.createPersistentSubscription, Messages.createPersistentSubscription),
    (TcpCommand.updatePersistentSubscription, Messages.updatePersistentSubscription),
    (TcpCommand.deletePersistentSubscription, Messages.deletePersistentSubscription),
    (TcpCommand.subscribeToStream, Messages.subscribeToStream),
    (TcpCommand.connectToPersistentSubscription, Messages.connectToPersistentSubscription),
    (TcpCommand.unsubscribeFromStream, Messages.unsubscribeFromStream),
    (TcpCommand.persistentSubscriptionAckEvents, Messages.persistentSubscriptionAckEvents),
    (TcpCommand.persistentSubscriptionNakEvents, Messages.persistentSubscriptionNakEvents),
    (TcpCommand.identifyClient, Messages.identifyClient)]

structure ReadRequest where
  correlationId : Guid
  credentials : Option (Bytes × Bytes)
  request : RequestMessage

def readCredentials (view : TcpPackageView) : Option (Option (Bytes × Bytes)) := do
  let isAuthenticated <- view.isAuthenticated?
  if isAuthenticated then
    let login <- view.login?
    let password <- view.password?
    some (some (login, password))
  else some none

/-- A message that cannot be read to its end, or lacks a required field, is no request. -/
def readMessage (command : TcpCommand) (payload : Bytes) : Option RequestMessage :=
  match requestTypes.lookup command with
  | none => none
  | some type =>
      let parsed := type.parseFromArray payload
      if parsed.ok then
        some
          { command := command
            type := type
            message := parsed.message }
      else none

def readRequest (view : TcpPackageView) : Option ReadRequest :=
  match view.command?, view.correlationId?, readCredentials view, view.message? with
  | some command, some correlationId, some credentials, some payload =>
      (readMessage command payload).map fun request =>
        { correlationId := correlationId
          credentials := credentials
          request := request }
  | _, _, _, _ => none

def readRequests (beyond : Nat -> UInt8) (buffer : DynamicBuffer) (socket : Socket) :
    List (Option ReadRequest) :=
  (asyncStartReceive buffer socket).frames.map fun frame => readRequest (frameView beyond frame)

/-!
# One request

Each message has the type that belongs to its command, and every request sets the fields
that it has to have.
-/

theorem ClientRequest.lookup_command (connection : ConnectionSettings) (r : ClientRequest) :
    requestTypes.lookup (r.message connection).command = some (r.message connection).type := by
  cases r with
  | readStreamEvents stream direction fromEventNumber maxCount resolveLinkTos =>
      cases direction with
      | forward => rfl
      | backward => rfl
  | readAllEvents direction commitPosition preparePosition maxCount resolveLinkTos =>
      cases direction with
      | forward => rfl
      | backward => rfl
  | _ => rfl

theorem newEvent_initialized (events : List EventData) :
    (events.map newEvent).all Messages.newEvent.isInitialized = true := by
  rw [List.all_map, List.all_eq_true]
  intro e _
  cases hmetadata : e.metadata with
  | none =>
      simp only [Function.comp, newEvent, hmetadata]
      rfl
  | some metadata =>
      simp only [Function.comp, newEvent, hmetadata]
      rfl

theorem asyncAppendToStream_initialized (connection : ConnectionSettings) (stream : Bytes)
    (events : List EventData) (expectedVersion : Int64) :
    Messages.writeEvents.isInitialized
      (asyncAppendToStream connection stream events expectedVersion).message = true := by
  show ((events.map newEvent).all Messages.newEvent.isInitialized && true) = true
  rw [newEvent_initialized events]
  rfl

theorem asyncTransactionalWrite_initialized (connection : ConnectionSettings)
    (transactionId : Int64) (events : List EventData) :
    Messages.transactionWrite.isInitialized
      (asyncTransactionalWrite connection transactionId events).message = true := by
  show ((events.map newEvent).all Messages.newEvent.isInitialized && true) = true
  rw [newEvent_initialized events]
  rfl

theorem bytes_initialized (ids : List Bytes) :
    List.all ids FieldType.bytes.initialized = true :=
  List.all_eq_true.mpr fun _ _ => rfl

theorem ClientRequest.initialized (connection : ConnectionSettings) (r : ClientRequest) :
    (r.message connection).type.isInitialized (r.message connection).message = true := by
  cases r with
  | appendToStream stream events expectedVersion =>
      exact asyncAppendToStream_initialized connection stream events expectedVersion
  | conditionalAppendToStream stream events expectedVersion =>
      exact asyncAppendToStream_initialized connection stream events expectedVersion
  | transactionalWrite transactionId events =>
      exact asyncTransactionalWrite_initialized connection transactionId events
  | persistentSubscriptionAckEvents subscriptionId processedEventIds =>
      show (List.all processedEventIds FieldType.bytes.initialized && true) = true
      rw [bytes_initialized processedEventIds]
      rfl
  | persistentSubscriptionNakEvents subscriptionId action processedEventIds =>
      show (List.all processedEventIds FieldType.bytes.initialized && true) = true
      rw [bytes_initialized processedEventIds]
      rfl
  | _ => rfl

/-!
# Which requests fit

A request fits if the package made for it is not too long for a reader.
-/

/-- The size bytes behind which login and password are written hold their lengths. -/
structure ShortCredentials (connection : ConnectionSettings) : Prop where
  login : connection.defaultUserCredentials.1.length ≤ 255
  password : connection.defaultUserCredentials.2.length ≤ 255

namespace ClientRequest

variable (connection : ConnectionSettings) (r : ClientRequest)

/-- The size of the message, as it is counted before the message is serialized. -/
def messageSize : Nat :=
  (r.message connection).type.byteSizeLong (r.message connection).message

def credentialsSize : Nat :=
  (r.credentials connection).elim 0 fun c => 1 + c.1.length + 1 + c.2.length

/-- The package with the whole message is not too long for a reader. -/
def Fits : Prop :=
  18 + r.credentialsSize connection + r.messageSize connection ≤ kMaxPackageSize

def Framed : Prop :=
  18 + r.credentialsSize connection + (r.message connection).serialized.length ≤
    kMaxPackageSize

instance : Decidable (r.Fits connection) := inferInstanceAs (Decidable (_ ≤ _))

instance : Decidable (r.Framed connection) := inferInstanceAs (Decidable (_ ≤ _))

variable {connection : ConnectionSettings} {r : ClientRequest}

theorem credentials_default {c : Bytes × Bytes} (h : c ∈ r.credentials connection) :
    c = connection.defaultUserCredentials := by
  have hconnection : c ∈ connection.credentials -> c = connection.defaultUserCredentials := by
    intro hc
    rw [ConnectionSettings.credentials] at hc
    split at hc
    · cases hc
    · exact (Option.some.inj hc).symm
  cases r with
  | unsubscribeFromStream => cases h
  | identifyClient authenticated connectionName =>
      cases authenticated with
      | false => cases h
      | true => exact (Option.some.inj h).symm
  | _ => exact hconnection h

theorem credentialsSize_le (hshort : ShortCredentials connection) :
    r.credentialsSize connection ≤ 512 := by
  unfold credentialsSize
  cases hcred : r.credentials connection with
  | none => exact Nat.zero_le 512
  | some c =>
      have hlogin := hshort.login
      have hpassword := hshort.password
      rw [← credentials_default hcred] at hlogin hpassword
      show 1 + c.1.length + 1 + c.2.length ≤ 512
      omega

/-!
A message that is too long to be counted by an `int` is sent as an empty one.
-/

theorem serialized_of_lt (hsize : r.messageSize connection < 2 ^ 31) :
    (r.message connection).serialized.length = r.messageSize connection := by
  have hfits := MessageType.fits_of_size hsize
  rw [RequestMessage.serialized, MessageType.serializeAsString_eq hfits,
    ← MessageType.byteSizeLong_eq hfits]
  rfl

theorem serialized_of_le (hsize : 2 ^ 31 ≤ r.messageSize connection) :
    (r.message connection).serialized = [] :=
  if_neg (Nat.not_lt.mpr hsize)

theorem framed_of_fits (h : r.Fits connection) : r.Framed connection := by
  have hmax : kMaxPackageSize < 2 ^ 31 := by decide
  have hsize : r.messageSize connection < 2 ^ 31 := by
    unfold Fits at h
    omega
  rw [Framed, serialized_of_lt hsize]
  exact h

theorem fits_iff : r.Fits connection <->
    r.Framed connection ∧ r.messageSize connection < 2 ^ 31 := by
  constructor
  · intro h
    have hmax : kMaxPackageSize < 2 ^ 31 := by decide
    refine ⟨framed_of_fits h, ?_⟩
    unfold Fits at h
    omega
  · rintro ⟨hframed, hsize⟩
    rw [Framed, serialized_of_lt hsize] at hframed
    exact hframed

/-!
# The message of a request

What the request is read back as.  The one request whose message may be empty is never too
long; a request that is sent without its message is none.
-/

theorem readMessage_of_lt (hsize : r.messageSize connection < 2 ^ 31) :
    readMessage (r.message connection).command (r.message connection).serialized =
      some (r.message connection) := by
  have hparsed := MessageType.parseFromArray_serialize (MessageType.fits_of_size hsize)
  rw [readMessage, lookup_command connection r]
  simp only [RequestMessage.serialized, hparsed, initialized connection r, if_true]

theorem empty_or_lacking (connection : ConnectionSettings) (r : ClientRequest) :
    r.messageSize connection = 0 ∨
      (r.message connection).type.isInitialized (r.message connection).type.empty = false := by
  cases r with
  | unsubscribeFromStream => exact Or.inl rfl
  | _ => exact Or.inr rfl

theorem readMessage_of_le (hsize : 2 ^ 31 ≤ r.messageSize connection) :
    readMessage (r.message connection).command (r.message connection).serialized = none := by
  rcases empty_or_lacking connection r with hempty | hlacking
  · omega
  · rw [readMessage, lookup_command connection r, serialized_of_le hsize]
    simp only [MessageType.parseFromArray_nil, hlacking, Bool.false_eq_true, if_false]

def readBack (connection : ConnectionSettings) (corrId : Guid) (r : ClientRequest) :
    ReadRequest :=
  { correlationId := corrId
    credentials := r.credentials connection
    request := r.message connection }

def outcome (connection : ConnectionSettings) (corrId : Guid) (r : ClientRequest) :
    Option ReadRequest :=
  if r.messageSize connection < 2 ^ 31 then some (r.readBack connection corrId) else none

/-!
# The package of a request

The package, with what makes it fit the format.
-/

theorem package_constructed (connection : ConnectionSettings) (corrId : Guid)
    (r : ClientRequest) : (r.package connection corrId).Constructed := by
  unfold Arguments.Constructed package
  cases hcred : (r.credentials connection).isSome with
  | false => simp [TcpFlags.none]
  | true => simp [TcpFlags.authenticated]

theorem package_bytes (connection : ConnectionSettings) (corrId : Guid) (r : ClientRequest) :
    (r.package connection corrId).package.bytes = (r.package connection corrId).frame := by
  rw [Arguments.package_of_constructed (package_constructed connection corrId r)]
  rfl

theorem package_bodyLength (connection : ConnectionSettings) (corrId : Guid)
    (r : ClientRequest) :
    (r.package connection corrId).bodyLength =
      18 + r.credentialsSize connection + (r.message connection).serialized.length := by
  unfold Arguments.bodyLength Arguments.credentialBytes credentialsSize package
  cases hcred : r.credentials connection with
  | none => simp
  | some c =>
      simp [TcpPackage.credentials]
      omega

def outgoing (hshort : ShortCredentials connection) (corrId : Guid)
    (hframed : r.Framed connection) : Outgoing :=
  { command := (r.message connection).command
    correlationId := corrId
    credentials := r.credentials connection
    message := (r.message connection).serialized
    login_le := fun c hc => by
      rw [credentials_default hc]
      exact hshort.login
    password_le := fun c hc => by
      rw [credentials_default hc]
      exact hshort.password
    body_le := hframed }

/-- The length of a body that is too long is out of range, also where it is read as a
negative number. -/
theorem package_notInRange (hshort : ShortCredentials connection) (corrId : Guid)
    (hlong : ¬ r.Framed connection) :
    ¬ LengthInRange (lengthPrefix (r.package connection corrId).frame) := by
  have hbody := package_bodyLength connection corrId r
  have hcredentials := credentialsSize_le hshort (r := r)
  have hmax : kMaxPackageSize = 67108864 := rfl
  have hsize : r.messageSize connection < 2 ^ 31 := by
    apply Classical.byContradiction
    intro h
    have hempty := serialized_of_le (Nat.not_lt.mp h)
    rw [Framed, hempty, List.length_nil] at hlong
    omega
  rw [serialized_of_lt hsize] at hbody
  rw [Framed, serialized_of_lt hsize] at hlong
  rw [lengthPrefix, Arguments.frame_take, leNat_leBytes, Nat.mod_eq_of_lt (by omega),
    signed32]
  intro hrange
  have hupper := hrange.right
  have hlower := LengthInRange.pos hrange
  split at hupper
  · omega
  · omega

end ClientRequest

theorem readCredentials_decoded {p : Outgoing} {view : TcpPackageView} (h : p.Decoded view) :
    readCredentials view = some p.credentials := by
  rw [readCredentials, h.isAuthenticated]
  cases hcred : p.credentials with
  | none => rfl
  | some c =>
      rcases h.credentials c hcred with ⟨hlogin, hpassword⟩
      rw [hlogin, hpassword]
      rfl

/-- A view that gives back the arguments of the package gives back the request. -/
theorem readRequest_decoded {connection : ConnectionSettings} {r : ClientRequest}
    (hshort : ShortCredentials connection) (corrId : Guid) (hframed : r.Framed connection)
    {view : TcpPackageView} (h : (r.outgoing hshort corrId hframed).Decoded view) :
    readRequest view = r.outcome connection corrId := by
  rw [readRequest, h.command, h.correlationId, readCredentials_decoded h, h.message]
  show (readMessage (r.message connection).command (r.message connection).serialized).map _ = _
  by_cases hsize : r.messageSize connection < 2 ^ 31
  · rw [ClientRequest.outcome, if_pos hsize, ClientRequest.readMessage_of_lt hsize]
    rfl
  · rw [ClientRequest.outcome, if_neg hsize,
      ClientRequest.readMessage_of_le (Nat.not_lt.mp hsize)]
    rfl

/-!
# The whole conversation

All requests of a connection, one behind the other in its stream.
-/

/-- The bytes of requests that are sent one after another, each under its id. -/
def conversation (connection : ConnectionSettings) (requests : List (Guid × ClientRequest)) :
    Bytes :=
  requests.flatMap fun request => (request.2.package connection request.1).package.bytes

/-- Requests that are written one after another are read in the same order, up to the first
that is too long for a reader, whatever pieces the stream is cut into. -/
theorem readRequests_takeWhile {connection : ConnectionSettings}
    (hshort : ShortCredentials connection) (requests : List (Guid × ClientRequest))
    (beyond : Nat -> UInt8) (buffer : DynamicBuffer) (socket : Socket)
    (hbytes : socket.bytes = conversation connection requests) :
    readRequests beyond buffer socket =
      (requests.takeWhile fun request => request.2.Framed connection).map fun request =>
        request.2.outcome connection request.1 := by
  induction requests generalizing buffer socket with
  | nil =>
      have hempty : socket.bytes.length < 4 := by
        rw [hbytes]
        exact Nat.zero_lt_succ 3
      have hstops := readTcpPackageOp_stops buffer (Stops.truncatedPrefix hempty)
      rw [readRequests, asyncStartReceive_error hstops.left]
      rfl
  | cons request requests ih =>
      rw [conversation, List.flatMap_cons] at hbytes
      by_cases hframed : request.2.Framed connection
      · rcases readTcpPackageOp_outgoing buffer
            (p := request.2.outgoing hshort request.1 hframed) hbytes with
          ⟨hec, hread, hrest, _⟩
        have hlater := ih (readTcpPackageOp buffer socket).buffer
          (readTcpPackageOp buffer socket).socket hrest
        have hfirst := readRequest_decoded hshort request.1 hframed (hread.decoded beyond)
        rw [List.takeWhile_cons, if_pos (decide_eq_true hframed), List.map_cons, ← hlater,
          ← hfirst, readRequests, asyncStartReceive_frame hec]
        rfl
      · have hbad : ¬ LengthInRange (lengthPrefix socket.bytes) := by
          have hlength := Arguments.frame_length (request.2.package connection request.1)
          rw [hbytes, ClientRequest.package_bytes, lengthPrefix_append (by omega)]
          exact ClientRequest.package_notInRange hshort request.1 hframed
        have hlong : 4 ≤ socket.bytes.length := by
          have hlength := Arguments.frame_length (request.2.package connection request.1)
          rw [hbytes, ClientRequest.package_bytes, List.length_append]
          omega
        have hstops := readTcpPackageOp_stops buffer (Stops.badLengthPrefix hlong hbad)
        rw [List.takeWhile_cons, if_neg (by simpa using hframed), readRequests,
          asyncStartReceive_error hstops.left]
        rfl

/-- All requests of a conversation are read back, with their ids, their credentials and all
the fields of their messages, exactly if each of them fits. -/
theorem readRequests_readBack_iff {connection : ConnectionSettings}
    (hshort : ShortCredentials connection) (requests : List (Guid × ClientRequest))
    (beyond : Nat -> UInt8) (buffer : DynamicBuffer) (socket : Socket)
    (hbytes : socket.bytes = conversation connection requests) :
    readRequests beyond buffer socket =
        requests.map (fun request => some (request.2.readBack connection request.1)) <->
      forall request, request ∈ requests -> request.2.Fits connection := by
  rw [readRequests_takeWhile hshort requests beyond buffer socket hbytes]
  clear hbytes
  induction requests with
  | nil => simp
  | cons request requests ih =>
      rw [List.forall_mem_cons, ← ih, List.takeWhile_cons, List.map_cons]
      by_cases hfits : request.2.Fits connection
      · rcases ClientRequest.fits_iff.mp hfits with ⟨hframed, hsize⟩
        have houtcome : request.2.outcome connection request.1 =
            some (request.2.readBack connection request.1) := if_pos hsize
        rw [if_pos (decide_eq_true hframed), List.map_cons, houtcome, List.cons.injEq]
        simp only [hfits, true_and]
      · simp only [hfits, false_and, iff_false]
        by_cases hframed : request.2.Framed connection
        · have hsize : ¬ request.2.messageSize connection < 2 ^ 31 :=
            fun h => hfits (ClientRequest.fits_iff.mpr ⟨hframed, h⟩)
          have houtcome : request.2.outcome connection request.1 = none := if_neg hsize
          rw [if_pos (decide_eq_true hframed), List.map_cons, houtcome, List.cons.injEq]
          rintro ⟨hnone, _⟩
          cases hnone
        · rw [if_neg (by simpa using hframed), List.map_nil]
          intro hnil
          cases hnil

def appendThenReadConnection : ConnectionSettings :=
  { defaultUserCredentials := ([97, 100], [109])
    maxReconnections := 0
    identifyClient := []
    requireMaster := true }

def appendThenRead : List (Guid × ClientRequest) :=
  [(Guid.ofByte 1,
      .appendToStream [115]
        [{ eventId := Guid.ofByte 7
           type := [116]
           isJson := true
           content := [123, 125]
           metadata := none }]
        (-2)),
    (Guid.ofByte 2, .readStreamEvents [115] .backward (-1) 10 false)]

def appendThenReadSocket : Socket :=
  { pieces := (conversation appendThenReadConnection appendThenRead).map fun b => [b]
    failure := AsioErrors.eof }

theorem readRequests_appendThenRead :
    readRequests (fun _ => 0) (DynamicBuffer.ofVector []) appendThenReadSocket =
      appendThenRead.map fun request =>
        some (request.2.readBack appendThenReadConnection request.1) := by
  have hshort : ShortCredentials appendThenReadConnection := ⟨by decide, by decide⟩
  have hbytes : appendThenReadSocket.bytes =
      conversation appendThenReadConnection appendThenRead :=
    List.flatMap_def.symm.trans (List.flatMap_singleton' _)
  exact (readRequests_readBack_iff hshort appendThenRead (fun _ => 0)
    (DynamicBuffer.ofVector []) appendThenReadSocket hbytes).mpr (by decide)

end Operations
end EventStoreClient
