import EventStoreClient.Operations.Payloads
import EventStoreClient.Session.Answers

/-!
# Results of a session

What the user of an operation is told in the end, if the server answers with the messages
of the protocol.
-/

namespace EventStoreClient

open Connection Foundation Operations Wire

/-- The operation whose response handler waits for the answer.  That of the metadata of a
stream hands its result on. -/
def Operations.ClientRequest.operation : ClientRequest -> Option ClientOperation
  | appendToStream _ _ _ => some ClientOperation.appendToStream
  | conditionalAppendToStream _ _ _ => some ClientOperation.conditionalAppendToStream
  | deleteStream _ _ _ => some ClientOperation.deleteStream
  | startTransaction _ _ => some ClientOperation.startTransaction
  | transactionalWrite _ _ => some ClientOperation.transactionalWrite
  | commitTransaction _ => some ClientOperation.commitTransaction
  | readStreamEvent stream eventNumber _ =>
      some (ClientOperation.readStreamEvent stream eventNumber.toInt)
  | readStreamEvents stream direction fromEventNumber _ _ =>
      some (ClientOperation.readStreamEvents stream fromEventNumber.toInt direction)
  | readAllEvents direction _ _ _ _ => some (ClientOperation.readAllEvents direction)
  | setStreamMetadata _ _ _ _ => some ClientOperation.appendToStream
  | getStreamMetadata stream =>
      some (ClientOperation.readStreamEvent (metaStreamOf stream) (-1))
  | createPersistentSubscription _ _ _ => some ClientOperation.createPersistentSubscription
  | updatePersistentSubscription _ _ _ => some ClientOperation.updatePersistentSubscription
  | deletePersistentSubscription _ _ => some ClientOperation.deletePersistentSubscription
  | subscribeToStream _ _ => none
  | connectToPersistentSubscription _ _ _ => none
  | unsubscribeFromStream => none
  | persistentSubscriptionAckEvents _ _ => none
  | persistentSubscriptionNakEvents _ _ _ => none
  | identifyClient _ _ => none

namespace Session

abbrev Service := (op : ClientOperation) -> ReadRequest -> op.type.Message -> Prop

/-- The server answers the request of an operation with its completed message, whose fields
it writes in any order, and with any unknown ones. -/
def Completes (w : Setting) (service : Service) : Prop :=
  forall (r : ClientRequest) op key p, r.operation = some op ->
    w.answers (r.readBack w.connection key) p = true ->
      p.command = op.completedCommand ∧
        exists m, op.type.Fits m ∧ op.type.Carries m p.message ∧
          service op (r.readBack w.connection key) m

/-- The handler of an operation has been called with the message of the server, which the
package carries. -/
def ToldAnswer (w : Setting) (service : Service) (s : State) (key : Guid) (p : Package) : Prop :=
  exists r, (key, r) ∈ s.requests ∧ (forall r', (key, r') ∈ s.requests -> r' = r) ∧
    forall op, r.operation = some op ->
      exists m, op.type.Carries m p.message ∧ service op (r.readBack w.connection key) m ∧
        (op.responder protobuf).respond (Answer.package p) = op.told (op.view m)

theorem respond_carried (op : ClientOperation) {p : Package}
    (hcommand : p.command = op.completedCommand) {m : op.type.Message}
    (hfits : op.type.Fits m) (hcarries : op.type.Carries m p.message) :
    (op.responder protobuf).respond (Answer.package p) = op.told (op.view m) := by
  have hcompleted : p.command = (op.responder protobuf).completed :=
    hcommand.trans (op.responder_completed protobuf).symm
  rw [Responder.respond, if_neg (not_not.mpr hcompleted)]
  simp only [op.responder_parse p.message, Parsed.ofMerged,
    MessageType.parseFromArray_carries hfits hcarries]
  rfl

/-- In every state of every session, each user that has been called without an error has
been told what the server completed the one request of this user with, as the user made
it: through both encodings, the queue, the pieces of both streams and the map of the
operations. -/
theorem run_toldAnswers {w : Setting} (hshort : ShortCredentials w.connection) {service : Service}
    (hcompletes : Completes w service) {inputs : List Input} {last : State}
    (hrun : run (step w) initial inputs = some last) {key : Guid}
    (hanswered : (key, none) ∈ last.client.world.answers) :
    exists p, (key, p) ∈ last.told ∧ ToldAnswer w service last key p := by
  have h := run_consistent hshort hrun
  have hstarted : key ∈ last.client.world.started :=
    (h.books.started_iff key).mpr (Or.inr (List.mem_map_of_mem hanswered))
  rcases List.mem_map.mp ((h.told.told_answers key hstarted).mp hanswered) with
    ⟨⟨key', p⟩, htold, rfl⟩
  refine ⟨p, htold, ?_⟩
  rcases (h.answered htold).right with ⟨r, hr, hanswers⟩
  refine ⟨r, hr, fun r' hr' => h.asked.asked_once key' r' r hstarted hr' hr, ?_⟩
  intro op hop
  rcases hcompletes r op key' p hop hanswers with ⟨hcommand, m, hfits, hcarries, hservice⟩
  exact ⟨m, hcarries, hservice, respond_carried op hcommand hfits hcarries⟩

def deletedAt : Messages.deleteStreamCompleted.Message :=
  (some OperationResult.success, none, some (5 : Int64), some (6 : Int64), ())

def deletionService : Service
  | .deleteStream, _, m => m = deletedAt
  | _, _, _ => False

theorem deletionSetting_completes : Completes deletionSetting deletionService := by
  intro r op key p hop hanswers
  simp only [deletionSetting, Bool.and_eq_true, decide_eq_true_eq] at hanswers
  rcases hanswers with ⟨⟨hrequest, hcommand⟩, hmessage⟩
  cases r with
  | deleteStream stream expectedVersion hardDelete =>
      cases hop
      have hfits : Messages.deleteStreamCompleted.Fits deletedAt :=
        MessageType.fits_of_size (by decide)
      have hcarries : Messages.deleteStreamCompleted.Carries deletedAt p.message := by
        rw [hmessage]
        exact
          { complete := by decide
            fields := by decide }
      exact ⟨hcommand, deletedAt, hfits, hcarries, rfl⟩
  | readStreamEvents stream direction fromEventNumber maxCount resolveLinkTos =>
      cases direction with
      | forward => exact absurd hrequest (of_decide_eq_false rfl)
      | backward => exact absurd hrequest (of_decide_eq_false rfl)
  | readAllEvents direction commitPosition preparePosition maxCount resolveLinkTos =>
      cases direction with
      | forward => exact absurd hrequest (of_decide_eq_false rfl)
      | backward => exact absurd hrequest (of_decide_eq_false rfl)
  | _ => exact absurd hrequest (of_decide_eq_false rfl)

theorem deletion_toldAnswers :
    exists p, (deletion.1, p) ∈ deletionTold.told ∧
      ToldAnswer deletionSetting deletionService deletionTold deletion.1 p :=
  run_toldAnswers deletionSetting_short deletionSetting_completes run_deletionTold (by decide)

end Session
end EventStoreClient
