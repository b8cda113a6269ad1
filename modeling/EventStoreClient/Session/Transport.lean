import EventStoreClient.Session.Client

/-!
# The bytes of a session

In every state the server has the first packages that the client has sent, and the client
the first ones that the server has.
-/

namespace EventStoreClient
namespace Session

open Connection Foundation Operations Wire

/-- The queue has all packages of the connection, and the pipes what was written to them. -/
structure Transport (s : State) : Prop where
  sending : Sending s.sending
  queued : s.sending.sent = s.client.sent.map Package.sendable
  toServer_written : s.toServer.written = s.sending.socketBytes
  toClient_written : s.toClient.written = s.replies.flatMap fun p => p.package.bytes

theorem initial_transport : Transport initial where
  sending := sending_start
  queued := rfl
  toServer_written := rfl
  toClient_written := rfl

/-!
# Steps

Most steps only write: nothing new is sent, and bytes are added.
-/

theorem run_asyncSend (packages : List Package) {sending last : SendState}
    (h : Sending sending)
    (hrun : run sendStep sending (packages.map fun p => SendInput.asyncSend p.sendable) =
      some last) :
    Sending last ∧ last.sent = sending.sent ++ packages.map Package.sendable ∧
      last.socketBytes = sending.socketBytes := by
  induction packages generalizing sending with
  | nil =>
      cases hrun
      exact ⟨h, (List.append_nil _).symm, rfl⟩
  | cons p packages ih =>
      rcases run_cons hrun with ⟨next, hstep, hrest⟩
      have hnext := h.step hstep
      cases hstep
      rcases ih hnext hrest with ⟨hlast, hsent, hbytes⟩
      refine ⟨hlast, ?_, hbytes⟩
      rw [hsent, List.map_cons]
      exact List.append_assoc _ _ _

def OnlyWrites (s next : SendState) : Prop :=
  next.sent = s.sent ∧ s.socketBytes <+: next.socketBytes

theorem doAsyncSend_onlyWrites (s : SendState) : OnlyWrites s s.doAsyncSend := by
  unfold SendState.doAsyncSend
  cases s.messageQueue with
  | nil => exact ⟨rfl, List.prefix_rfl⟩
  | cons front waiting => exact ⟨rfl, List.prefix_append _ _⟩

theorem runClosure_onlyWrites (s : SendState) (package : Sendable) :
    OnlyWrites s (s.runClosure package) := by
  cases hqueue : s.messageQueue with
  | nil =>
      rw [runClosure_idle hqueue]
      exact doAsyncSend_onlyWrites _
  | cons front waiting =>
      rw [runClosure_busy hqueue]
      exact ⟨rfl, List.prefix_rfl⟩

theorem onWritten_onlyWrites (s : SendState) : OnlyWrites s s.onWritten := by
  cases hqueue : s.messageQueue with
  | nil =>
      rw [SendState.onWritten, hqueue]
      exact ⟨rfl, List.prefix_rfl⟩
  | cons front waiting =>
      cases waiting with
      | nil =>
          rw [onWritten_last hqueue]
          exact ⟨rfl, List.prefix_rfl⟩
      | cons second waiting =>
          rw [onWritten_next hqueue]
          exact doAsyncSend_onlyWrites _

theorem sendStep_onlyWrites {s next : SendState} {i : SendInput}
    (hother : forall p, i ≠ SendInput.asyncSend p) (hstep : sendStep s i = some next) :
    OnlyWrites s next := by
  cases i with
  | asyncSend package => exact absurd rfl (hother package)
  | runPosted =>
      unfold sendStep at hstep
      cases hposted : s.posted with
      | nil =>
          simp only [hposted] at hstep
          cases hstep
      | cons package rest =>
          simp only [hposted] at hstep
          cases hstep
          exact runClosure_onlyWrites { s with posted := rest } package
  | written i =>
      unfold sendStep at hstep
      by_cases hi : i < s.writing.length
      · simp only [if_pos hi] at hstep
        cases hstep
        exact onWritten_onlyWrites { s with writing := s.writing.eraseIdx i }
      · simp only [if_neg hi] at hstep
        cases hstep
  | writeFailed i =>
      unfold sendStep at hstep
      by_cases hi : i < s.writing.length
      · simp only [if_pos hi] at hstep
        cases hstep
        exact ⟨rfl, List.prefix_rfl⟩
      · simp only [if_neg hi] at hstep
        cases hstep

namespace Transport

variable {s next : State}

theorem adopt (h : Transport s) {client : Operation.State} {sent : List Package}
    (hclient : client.sent = s.client.sent ++ sent) (hadopt : s.adopt client = some next) :
    exists sending, next = { s with client := client, sending := sending } ∧
      Transport next := by
  rw [State.adopt, Option.map_eq_some_iff] at hadopt
  rcases hadopt with ⟨sending, hrun, rfl⟩
  refine ⟨sending, rfl, ?_⟩
  rw [hclient, List.drop_left] at hrun
  rcases run_asyncSend sent h.sending hrun with ⟨hsending, hsent, hbytes⟩
  constructor
  · exact hsending
  · show sending.sent = client.sent.map Package.sendable
    rw [hsent, h.queued, hclient, List.map_append]
  · exact h.toServer_written.trans hbytes.symm
  · exact h.toClient_written

theorem transmit (h : Transport s) {i : SendInput}
    (hother : forall p, i ≠ SendInput.asyncSend p) (hstep : s.transmit i = some next) :
    exists sending toServer,
      next = { s with sending := sending, toServer := toServer } ∧ Transport next := by
  rw [State.transmit, Option.map_eq_some_iff] at hstep
  rcases hstep with ⟨sending, hsendStep, rfl⟩
  rcases sendStep_onlyWrites hother hsendStep with ⟨hsent, more, hmore⟩
  refine ⟨sending, _, rfl, ?_⟩
  constructor
  · exact h.sending.step hsendStep
  · exact hsent.trans h.queued
  · show s.toServer.written ++ sending.socketBytes.drop s.sending.socketBytes.length =
      sending.socketBytes
    rw [h.toServer_written, ← hmore, List.drop_left]
  · exact h.toClient_written

theorem reply (h : Transport s) (p : Outgoing) : Transport (s.reply p) where
  sending := h.sending
  queued := h.queued
  toServer_written := h.toServer_written
  toClient_written := by
    show s.toClient.written ++ p.package.bytes = _
    rw [h.toClient_written]
    exact (List.flatMap_append.trans (congrArg _ (List.flatMap_singleton _ _))).symm

/-!
# What has arrived

What the socket has been handed is the start of all that was sent, and with nothing posted
and nothing queued all of it.  Then the next package of the server is handled whole.
-/

/-- The bytes of packages one after another, as they were given to `async_send`. -/
theorem flatMap_sendable (packages : List Package) :
    (packages.map Package.sendable).flatMap Sendable.bytes = packages.flatMap Package.bytes := by
  rw [List.flatMap_map]
  rfl

theorem socketBytes_start (h : Transport s) :
    s.sending.socketBytes <+: s.client.sent.flatMap Package.bytes := by
  have hsending := h.sending
  rw [← flatMap_sendable, ← h.queued, ← hsending.order, ← hsending.handed, hsending.bytes,
    List.map_append, List.flatMap_append, List.flatMap_append, List.flatMap_map,
    List.append_assoc]
  exact List.prefix_append _ _

theorem socketBytes_all (h : Transport s) (hposted : s.sending.posted = [])
    (hqueue : s.sending.messageQueue = []) :
    s.sending.socketBytes = s.client.sent.flatMap Package.bytes := by
  have hsending := h.sending
  rw [← flatMap_sendable, ← h.queued, ← hsending.order, ← hsending.handed, hsending.bytes,
    hposted, hqueue, List.tail_nil, List.append_nil, List.append_nil, List.flatMap_map]

/-- The server has read the first requests, and all of them if nothing is under way. -/
theorem served (h : Transport s) (w : Setting)
    (hreadable : forall p, p ∈ s.client.sent -> p.Readable) :
    exists read : List Package, read <+: s.client.sent ∧
      s.served w = read.map requestOf ∧
      (s.sending.posted = [] -> s.sending.messageQueue = [] -> s.toServer.Drained ->
        (forall p, p ∈ s.client.sent -> p.Framed) -> read = s.client.sent) := by
  have harrived : (socketOf s.toServer).bytes <+: s.client.sent.flatMap Package.bytes := by
    have hwritten := s.toServer.arrived_start
    rw [h.toServer_written] at hwritten
    exact hwritten.trans h.socketBytes_start
  rcases frames_of_start hreadable (DynamicBuffer.ofVector []) _ harrived with
    ⟨read, hframes, hfirst, hall⟩
  refine ⟨read.map Outgoing.received, hfirst, ?_, ?_⟩
  · exact map_readBack hframes (fun p v hv => readRequest_requestOf hv) w.beyond
  · intro hposted hqueue hdrained hframed
    refine hall ?_ hframed
    rw [← h.socketBytes_all hposted hqueue, ← h.toServer_written]
    exact hdrained

/-- The client has the first packages of the server, and all of them if nothing is under
way. -/
theorem arrivedReplies (h : Transport s) :
    exists read : List Outgoing, List.Forall₂ ReadBack read (framesOf s.toClient) ∧
      read.map Outgoing.received <+: s.replies.map Outgoing.received ∧
      (s.toClient.Drained ->
        read.map Outgoing.received = s.replies.map Outgoing.received) := by
  have hwritten : s.toClient.written =
      (s.replies.map Outgoing.received).flatMap Package.bytes := by
    rw [h.toClient_written, List.flatMap_map]
    exact congrArg (List.flatMap · s.replies) (funext fun p => p.received_bytes.symm)
  have harrived : (socketOf s.toClient).bytes <+:
      (s.replies.map Outgoing.received).flatMap Package.bytes :=
    hwritten ▸ s.toClient.arrived_start
  have hreadable : forall p, p ∈ s.replies.map Outgoing.received -> p.Readable := by
    intro p hp
    rcases List.mem_map.mp hp with ⟨q, _, rfl⟩
    exact q.received_readable
  rcases frames_of_start hreadable (DynamicBuffer.ofVector []) _ harrived with
    ⟨read, hframes, hfirst, hall⟩
  refine ⟨read, hframes, hfirst, ?_⟩
  intro hdrained
  refine hall (hdrained.trans hwritten) ?_
  intro p hp
  rcases List.mem_map.mp hp with ⟨q, _, rfl⟩
  exact q.received_framed

theorem nextReply (h : Transport s) {frame : Frame}
    (hframe : (framesOf s.toClient)[s.handled]? = some frame) (beyond : Nat -> UInt8) :
    exists p : Outgoing, s.replies[s.handled]? = some p ∧
      readPackage (frameView beyond frame) = some p.received := by
  rcases h.arrivedReplies with ⟨read, hframes, hfirst, _⟩
  have hviews := map_readBack hframes (fun p v hv => readPackage_decoded hv) beyond
  have hview := congrArg (fun views => views[s.handled]?) hviews
  simp only [List.getElem?_map, hframe, Option.map_some] at hview
  cases hq : read[s.handled]? with
  | none => simp [hq] at hview
  | some q =>
      have hreceived : (read.map Outgoing.received)[s.handled]? = some q.received := by
        rw [List.getElem?_map, hq]
        rfl
      rcases hfirst with ⟨rest, hrest⟩
      have hplace : (s.replies.map Outgoing.received)[s.handled]? = some q.received := by
        rw [← hrest]
        exact List.getElem?_append_left (List.getElem?_eq_some_iff.mp hreceived).1 ▸ hreceived
      rw [List.getElem?_map, Option.map_eq_some_iff] at hplace
      rcases hplace with ⟨p, hp, hsame⟩
      refine ⟨p, hp, ?_⟩
      rw [hsame]
      simpa [hq] using hview

theorem framesOf_length (h : Transport s) (hdrained : s.toClient.Drained) :
    (framesOf s.toClient).length = s.replies.length := by
  rcases h.arrivedReplies with ⟨read, hframes, _, hall⟩
  have hlength := congrArg List.length (hall hdrained)
  rw [List.length_map, List.length_map] at hlength
  rw [← hframes.length_eq, hlength]

theorem receive_eq (h : Transport s) (hdrained : s.toClient.Drained) {p : Outgoing}
    (hp : s.replies[s.handled]? = some p) (w : Setting) (newGuid : Guid)
    (nested : List (Guid × ClientRequest)) :
    s.receive w newGuid nested =
      if s.Registered p.correlationId then
        { s with
          handled := s.handled + 1
          requests := s.requests ++ nested
          told := s.told ++ [(p.correlationId, p.received)] }.act
            (.received p.received newGuid (nested.map (requestPackage w.connection)))
      else if nested = [] then
        { s with handled := s.handled + 1 }.act (.received p.received newGuid [])
      else none := by
  obtain ⟨frame, hframe⟩ : exists frame, (framesOf s.toClient)[s.handled]? = some frame := by
    refine ⟨_, List.getElem?_eq_getElem ?_⟩
    rw [h.framesOf_length hdrained]
    exact (List.getElem?_eq_some_iff.mp hp).1
  rcases h.nextReply hframe w.beyond with ⟨q, hq, hread⟩
  rw [hp] at hq
  cases hq
  simp only [State.receive, hframe, hread]
  rfl

end Transport

end Session
end EventStoreClient
