import EventStoreClient.Session.Consistent

/-!
# Answers of a session

Whatever the order in which requests are made, bytes arrive, the server answers and timers
expire: an entry is told what the server has answered to its own request, and nothing is
lost.
-/

namespace EventStoreClient
namespace Session

open Connection Foundation Operations Wire

/-!
# The packages of requests

The package of a request fits if and only if the request does.
-/

section Requests

variable {connection : ConnectionSettings}

theorem requestPackage_framed_iff (request : Guid × ClientRequest) :
    (requestPackage connection request).Framed <-> request.2.Framed connection := by
  have hbody := ClientRequest.package_bodyLength connection request.1 request.2
  have hframed : (requestPackage connection request).Framed <->
      (request.2.package connection request.1).bodyLength ≤ kMaxPackageSize := Iff.rfl
  rw [hframed, hbody]
  rfl

theorem requestPackage_readable (hshort : ShortCredentials connection)
    (request : Guid × ClientRequest) : (requestPackage connection request).Readable where
  login_le := by
    intro c hc
    rw [ClientRequest.credentials_default hc]
    exact hshort.login
  password_le := by
    intro c hc
    rw [ClientRequest.credentials_default hc]
    exact hshort.password
  notInRange := by
    intro hlong
    rw [requestPackage_framed_iff] at hlong
    exact ClientRequest.package_notInRange hshort request.1 hlong

theorem heartbeatResponse_framed (key : Guid) : (heartbeatResponse key).Framed := by
  rw [Package.Framed, Package.bodyLength_eq]
  show 18 + 0 + 0 ≤ kMaxPackageSize
  decide

theorem heartbeatResponse_readable (key : Guid) : (heartbeatResponse key).Readable where
  login_le := fun _ h => by cases h
  password_le := fun _ h => by cases h
  notInRange := fun h => absurd (heartbeatResponse_framed key) h

theorem requestOf_requestPackage (request : Guid × ClientRequest) :
    requestOf (requestPackage connection request) =
      request.2.outcome connection request.1 := by
  rw [requestOf, ClientRequest.outcome]
  by_cases hsize : request.2.messageSize connection < 2 ^ 31
  · have hread := ClientRequest.readMessage_of_lt hsize
    rw [if_pos hsize, requestPackage, hread]
    rfl
  · have hread := ClientRequest.readMessage_of_le (Nat.not_lt.mp hsize)
    rw [if_neg hsize, requestPackage, hread]
    rfl

theorem requestOf_heartbeatResponse (key : Guid) : requestOf (heartbeatResponse key) = none :=
  rfl

end Requests

/-!
# The replies

What the server reads as a request is one that somebody has made.
-/

section Steps

variable {w : Setting} {s next : State}

theorem Asked.readable (h : Asked w s) (hshort : ShortCredentials w.connection) :
    forall p, p ∈ s.client.sent -> p.Readable := by
  intro p hp
  rcases h.sent_requests p hp with ⟨request, _, rfl⟩ | heq
  · exact requestPackage_readable hshort request
  · rw [heq]
    exact heartbeatResponse_readable _

theorem Asked.readBack (h : Asked w s) {p : Package} (hp : p ∈ s.client.sent)
    {q : ReadRequest} (hq : requestOf p = some q) :
    exists r, (q.correlationId, r) ∈ s.requests ∧
      q = r.readBack w.connection q.correlationId := by
  rcases h.sent_requests p hp with ⟨request, hrequest, rfl⟩ | heq
  · rw [requestOf_requestPackage, ClientRequest.outcome] at hq
    split at hq
    · cases hq
      exact ⟨request.2, hrequest, rfl⟩
    · cases hq
  · rw [heq, requestOf_heartbeatResponse] at hq
    cases hq

theorem Asked.isAnswer (h : Asked w s) (htransport : Transport s)
    (hshort : ShortCredentials w.connection) {p : Outgoing} (hanswers : s.Answers w p) :
    IsAnswer w s.requests p := by
  rcases htransport.served w (h.readable hshort) with ⟨read, hread, hserved, _⟩
  rw [State.Answers, hserved, List.any_eq_true] at hanswers
  rcases hanswers with ⟨found, hfound, hmatch⟩
  rcases List.mem_map.mp hfound with ⟨package, hpackage, rfl⟩
  cases hq : requestOf package with
  | none =>
      rw [hq] at hmatch
      cases hmatch
  | some q =>
      rw [hq, Option.any_some, Bool.and_eq_true, decide_eq_true_eq] at hmatch
      rcases hmatch with ⟨hid, hcontent⟩
      rcases h.readBack (hread.subset hpackage) hq with ⟨r, hr, heq⟩
      rw [hid] at hr heq
      rw [heq] at hcontent
      exact ⟨r, hr, hcontent⟩

/-!
# Every step

What holds in every state of a session is kept by each of its steps.
-/

structure Consistent (w : Setting) (s : State) : Prop where
  transport : Transport s
  books : Operation.Books none s.client
  asked : Asked w s
  told : Told s

theorem initial_consistent (w : Setting) : Consistent w initial where
  transport := initial_transport
  books := Operation.initial_books
  asked := initial_asked w
  told := initial_told

theorem acts_same {toServer toClient : Pipe UInt8} {sending : SendState} :
    Acts w [] [] [] s
      { s with
        sending := sending
        toServer := toServer
        toClient := toClient } where
  requests_eq := (List.append_nil _).symm
  sent_eq := ⟨[], (List.append_nil _).symm, fun _ h => absurd h List.not_mem_nil⟩
  started_eq := (List.append_nil _).symm
  answers_eq := (List.append_nil _).symm
  heartbeats_eq := rfl
  replies_eq := rfl
  started_new := fun _ h => absurd h List.not_mem_nil
  started_once := fun h => absurd rfl h
  asked_known := fun _ h => absurd h List.not_mem_nil
  subscribed := fun _ h => Or.inl h

theorem outcome_transmit (htransport : Transport s) (hbooks : Operation.Books none s.client)
    {i : SendInput} (hother : forall p, i ≠ SendInput.asyncSend p)
    (hstep : s.transmit i = some next) : Outcome w s next := by
  rcases htransport.transmit hother hstep with ⟨sending, toServer, rfl, hnext⟩
  exact
    { transport := hnext
      books := hbooks
      change := Change.acts acts_same rfl rfl fun _ => List.not_mem_nil }

theorem step_outcome (h : Consistent w s) (hshort : ShortCredentials w.connection) {i : Input}
    (hstep : step w s i = some next) : Outcome w s next := by
  have htransport := h.transport
  have hbooks := h.books
  cases i with
  | request key r => exact outcome_request htransport hbooks hstep
  | subscribe key r => exact outcome_subscribe htransport hbooks hstep
  | tell key r => exact outcome_tell htransport hbooks hstep
  | unsubscribe key => exact outcome_unsubscribe htransport hbooks hstep
  | runPosted => exact outcome_transmit htransport hbooks (fun _ h => by cases h) hstep
  | written i => exact outcome_transmit htransport hbooks (fun _ h => by cases h) hstep
  | writeFailed i => exact outcome_transmit htransport hbooks (fun _ h => by cases h) hstep
  | arriveAtServer n =>
      cases hstep
      exact
        { transport :=
            ⟨htransport.sending, htransport.queued, htransport.toServer_written,
              htransport.toClient_written⟩
          books := hbooks
          change := Change.acts acts_same rfl rfl fun _ => List.not_mem_nil }
  | reply p =>
      rw [step] at hstep
      split at hstep
      · rename_i hanswers
        cases hstep
        have hanswer := h.asked.isAnswer htransport hshort hanswers
        exact
          { transport := htransport.reply p
            books := hbooks
            change := Change.replies p ⟨rfl, rfl, rfl, rfl, rfl, Or.inl ⟨rfl, hanswer⟩⟩ }
      · cases hstep
  | heartbeat key =>
      rw [step] at hstep
      split at hstep
      · rename_i hnew
        cases hstep
        have hsame : Transport { s with heartbeats := s.heartbeats ++ [key] } :=
          ⟨htransport.sending, htransport.queued, htransport.toServer_written,
            htransport.toClient_written⟩
        exact
          { transport := hsame.reply (heartbeatRequest key)
            books := hbooks
            change := Change.replies (heartbeatRequest key)
              ⟨rfl, rfl, rfl, rfl, rfl, Or.inr ⟨rfl, hnew⟩⟩ }
      · cases hstep
  | arriveAtClient n =>
      cases hstep
      exact
        { transport :=
            ⟨htransport.sending, htransport.queued, htransport.toServer_written,
              htransport.toClient_written⟩
          books := hbooks
          change := Change.acts acts_same rfl rfl fun _ => List.not_mem_nil }
  | receive newGuid nested => exact outcome_receive htransport hbooks hstep
  | expired key => exact outcome_expired htransport hbooks hstep
  | completed key nested => exact outcome_completed htransport hbooks hstep

theorem step_consistent (hshort : ShortCredentials w.connection) {i : Input}
    (h : Consistent w s) (hstep : step w s i = some next) : Consistent w next := by
  have houtcome := step_outcome h hshort hstep
  cases houtcome.change with
  | acts hacts hhandled htold hsilent =>
      exact
        { transport := houtcome.transport
          books := houtcome.books
          asked := h.asked.acts hacts
          told := h.told.acts h.books h.asked hacts hhandled htold hsilent }
  | replies p hreplies =>
      exact
        { transport := houtcome.transport
          books := houtcome.books
          asked := h.asked.replies hreplies
          told := h.told.replies hreplies }
  | handles p hp hacts hhandled hcalled =>
      exact
        { transport := houtcome.transport
          books := houtcome.books
          asked := h.asked.acts hacts
          told :=
            Handling.toTold ⟨h.told, h.books, h.asked, hp, hacts, hhandled, hcalled⟩ }

end Steps

theorem run_consistent {w : Setting} (hshort : ShortCredentials w.connection)
    {inputs : List Input} {last : State} (hrun : run (step w) initial inputs = some last) :
    Consistent w last :=
  run_preserves (fun h hstep => step_consistent hshort h hstep) (initial_consistent w) hrun

/-!
# What the entries are told

A session is faithful if what was sent is served in its order, and each entry is told the
answers to its own requests, each of them once.
-/

/-- The server reads the requests in the order in which they were sent.  An entry is told
what the server has answered to a request under its id, in the order of the answers, and
each answer once; the entry of an operation, which makes one request, is told one. -/
structure Faithful (w : Setting) (s : State) : Prop where
  served : s.served w <+: s.client.sent.map requestOf
  asked_once : forall key r r', key ∈ s.client.world.started ->
    (key, r) ∈ s.requests -> (key, r') ∈ s.requests -> r = r'
  answered : forall key p, (key, p) ∈ s.told ->
    p.correlationId = key ∧
      exists r, (key, r) ∈ s.requests ∧
        w.answers (r.readBack w.connection key) p = true
  inOrder : s.told.Sublist (s.replies.map callOf)
  once : forall key, key ∈ s.client.world.started -> (s.told.map Prod.fst).count key ≤ 1
  success_iff : forall key, key ∈ s.client.world.started ->
    ((key, none) ∈ s.client.world.answers <-> key ∈ s.told.map Prod.fst)

theorem Consistent.answered {w : Setting} {s : State} (h : Consistent w s) {key : Guid}
    {p : Package} (htold : (key, p) ∈ s.told) :
    p.correlationId = key ∧
      exists r, (key, r) ∈ s.requests ∧
        w.answers (r.readBack w.connection key) p = true := by
  have hmem : key ∈ s.told.map Prod.fst := List.mem_map_of_mem htold
  rcases List.mem_map.mp (h.told.told_order.subset htold) with ⟨q, hq, heq⟩
  cases heq
  refine ⟨rfl, ?_⟩
  rcases h.asked.replies_origin q (List.mem_of_mem_take hq) with hheartbeat | hanswer
  · exact absurd (h.told.told_asked _ hmem) (h.asked.heartbeats_new _ hheartbeat)
  · exact hanswer

/-- In every state of every session, the user's handler of an operation is called with what
the server has answered to the request of this operation, at most once, and a subscription
with answers to its own requests, in order. -/
theorem run_faithful {w : Setting} (hshort : ShortCredentials w.connection)
    {inputs : List Input} {last : State} (hrun : run (step w) initial inputs = some last) :
    Faithful w last := by
  have h := run_consistent hshort hrun
  constructor
  · rcases h.transport.served w (h.asked.readable hshort) with ⟨read, hread, hserved, _⟩
    rw [hserved]
    exact hread.map requestOf
  · exact h.asked.asked_once
  · exact fun key p htold => h.answered htold
  · exact h.told.told_order.trans ((List.take_sublist _ _).map callOf)
  · exact h.told.told_once
  · exact h.told.told_answers

/-!
# Nothing is lost

Once everything that was sent has been read, answered and handled, no operation is left
waiting.
-/

/-- Everything that was sent has been read, the server has answered every request that it
has read, and the client has handled every package that has come. -/
structure Quiet (w : Setting) (s : State) : Prop where
  posted : s.sending.posted = []
  writing : s.sending.writing = []
  not_failed : s.sending.failed = false
  toServer : s.toServer.Drained
  answered : forall q, some q ∈ s.served w ->
    exists p, p ∈ s.replies ∧ p.correlationId = q.correlationId
  toClient : s.toClient.Drained
  handled : (framesOf s.toClient).length ≤ s.handled

/-- No operation waits any longer, and each has been answered once.  A subscription has
been told everything that the server has sent under its id. -/
structure Settled (s : State) : Prop where
  answered : forall key, key ∈ s.client.world.started ->
    key ∉ s.client.operations ∧ (Operation.answered s.client).count key = 1
  events : forall key, key ∈ s.client.subscriptions ->
    s.told.filter (fun call => call.1 = key) =
      (s.replies.map callOf).filter fun call => call.1 = key

section Quiet

variable {w : Setting} {s : State}

theorem Consistent.served_all (h : Consistent w s) (hshort : ShortCredentials w.connection)
    (hfits : forall request, request ∈ s.requests -> request.2.Fits w.connection)
    (hposted : s.sending.posted = []) (hwriting : s.sending.writing = [])
    (hnotFailed : s.sending.failed = false) (hdrained : s.toServer.Drained) :
    s.served w = s.client.sent.map requestOf := by
  have hqueue : s.sending.messageQueue = [] := by
    have hfront := h.transport.sending.writing
    rw [hwriting, hnotFailed] at hfront
    cases hmessages : s.sending.messageQueue with
    | nil => rfl
    | cons front waiting =>
        rw [hmessages] at hfront
        cases hfront
  have hframed : forall p, p ∈ s.client.sent -> p.Framed := by
    intro p hp
    rcases h.asked.sent_requests p hp with ⟨request, hrequest, rfl⟩ | heq
    · rw [requestPackage_framed_iff]
      exact ClientRequest.framed_of_fits (hfits request hrequest)
    · rw [heq]
      exact heartbeatResponse_framed _
  rcases h.transport.served w (h.asked.readable hshort) with ⟨read, _, hserved, hall⟩
  rw [hserved, hall hposted hqueue hdrained hframed]

/-- Once nothing is under way to the server, it may answer every request that has been
sent. -/
theorem Consistent.answers (h : Consistent w s) (hshort : ShortCredentials w.connection)
    (hfits : forall request, request ∈ s.requests -> request.2.Fits w.connection)
    (hposted : s.sending.posted = []) (hwriting : s.sending.writing = [])
    (hnotFailed : s.sending.failed = false) (hdrained : s.toServer.Drained)
    {request : Guid × ClientRequest} (hrequest : request ∈ s.requests)
    (hsent : requestPackage w.connection request ∈ s.client.sent) {p : Outgoing}
    (hid : p.correlationId = request.1)
    (hanswers : w.answers (request.2.readBack w.connection request.1) p.received = true) :
    s.Answers w p := by
  have hread : requestOf (requestPackage w.connection request) =
      some (request.2.readBack w.connection request.1) := by
    rw [requestOf_requestPackage]
    exact if_pos (ClientRequest.fits_iff.mp (hfits request hrequest)).right
  have hserved := h.served_all hshort hfits hposted hwriting hnotFailed hdrained
  rw [State.Answers, hserved, List.any_eq_true]
  refine ⟨_, List.mem_map_of_mem hsent, ?_⟩
  rw [hread, Option.any_some, Bool.and_eq_true]
  exact ⟨decide_eq_true hid.symm, hanswers⟩

theorem Consistent.settled (h : Consistent w s) (hshort : ShortCredentials w.connection)
    (hfits : forall request, request ∈ s.requests -> request.2.Fits w.connection)
    (hquiet : Quiet w s) : Settled s := by
  have hserved := h.served_all hshort hfits hquiet.posted hquiet.writing hquiet.not_failed
    hquiet.toServer
  have hall : s.replies.take s.handled = s.replies := by
    have hhandled := hquiet.handled
    rw [h.transport.framesOf_length hquiet.toClient] at hhandled
    exact List.take_of_length_le hhandled
  have hanswered : forall key, key ∈ s.client.world.started ->
      key ∈ Operation.answered s.client := by
    intro key hkey
    rcases h.asked.started_sent key hkey with ⟨r, hr, hsent⟩
    have hread : some (r.readBack w.connection key) ∈ s.served w := by
      rw [hserved]
      refine List.mem_map.mpr ⟨_, hsent, ?_⟩
      rw [requestOf_requestPackage]
      exact if_pos (ClientRequest.fits_iff.mp (hfits _ hr)).right
    rcases hquiet.answered _ hread with ⟨p, hp, hid⟩
    rw [← hall] at hp
    have hid' : p.correlationId = key := hid
    have hhandled := h.told.handled_answered p hp
    rw [hid'] at hhandled
    exact hhandled hkey
  constructor
  · intro key hkey
    constructor
    · intro hregistered
      cases h.books.not_both hregistered (hanswered key hkey)
    · exact List.count_eq_one_of_mem h.books.answered_nodup (hanswered key hkey)
  · have hevents := h.told.told_events
    rw [hall] at hevents
    exact hevents

/-- In every session whose requests fit, once nothing is under way any more, every operation
has been answered and every subscription has been told everything. -/
theorem run_settled (hshort : ShortCredentials w.connection) {inputs : List Input}
    {last : State} (hrun : run (step w) initial inputs = some last)
    (hfits : forall request, request ∈ last.requests -> request.2.Fits w.connection)
    (hquiet : Quiet w last) : Settled last :=
  (run_consistent hshort hrun).settled hshort hfits hquiet

end Quiet

/-!
A deletion, whose answer arrives in two pieces.
-/

def deletionReply : Outgoing :=
  Outgoing.ofServer TcpCommand.deleteStreamCompleted (Guid.ofByte 1)
    [0x08, 0, 0x18, 5, 0x20, 6] (by decide)

def deletionSetting : Setting :=
  { connection :=
      { defaultUserCredentials := ([97, 100], [109])
        maxReconnections := 0
        identifyClient := []
        requireMaster := true }
    answers := fun q p =>
      q.request.command = TcpCommand.deleteStream && p.command = deletionReply.command &&
        p.message = deletionReply.message
    beyond := fun _ => 0 }

theorem deletionSetting_short : ShortCredentials deletionSetting.connection :=
  ⟨by decide, by decide⟩

def deletion : Guid × ClientRequest := (Guid.ofByte 1, .deleteStream [115] (-2) false)

def deletionPackage : Package := requestPackage deletionSetting.connection deletion

theorem requestOf_deletionPackage :
    requestOf deletionPackage =
      some (deletion.2.readBack deletionSetting.connection deletion.1) :=
  (requestOf_requestPackage deletion).trans (if_pos (by decide))

def deletionSent : State :=
  { client := Operation.asyncSendWithHandler deletionPackage Operation.initial
    sending :=
      { SendState.start with
        sent := [deletionPackage.sendable]
        ran := [{ number := 0, package := deletionPackage.sendable }]
        handed := [{ number := 0, package := deletionPackage.sendable }]
        socketBytes := deletionPackage.bytes }
    toServer := ((Pipe.empty.write deletionPackage.bytes).write []).arrive 100
    toClient := Pipe.empty
    handled := 0
    requests := [deletion]
    heartbeats := []
    replies := []
    told := [] }

def deletionReplied : State :=
  { deletionSent with
    replies := [deletionReply]
    toClient := ((Pipe.empty.write deletionReply.package.bytes).arrive 5).arrive 100 }

def deletionTold : State :=
  { deletionReplied with
    client :=
      Operation.finish [] deletion.1 none (Timer.queued WaitResult.aborted)
        deletionReplied.client.counted
    handled := 1
    told := [callOf deletionReply] }

def deletionInputs : List Input :=
  [.request deletion.1 deletion.2, .runPosted, .written 0, .arriveAtServer 100,
    .reply deletionReply, .arriveAtClient 5, .arriveAtClient 100]

theorem run_deletionSent :
    run (step deletionSetting) initial (deletionInputs.take 4) = some deletionSent := rfl

theorem deletion_fits : forall request, request ∈ [deletion] ->
    request.2.Fits deletionSetting.connection := by
  decide

theorem deletionSent_answers : deletionSent.Answers deletionSetting deletionReply :=
  (run_consistent deletionSetting_short run_deletionSent).answers deletionSetting_short
    deletion_fits rfl rfl rfl (show deletionSent.toServer.Drained from rfl)
    (List.mem_singleton_self deletion) (List.mem_singleton_self _) rfl rfl

theorem run_deletionReplied :
    run (step deletionSetting) initial deletionInputs = some deletionReplied := by
  refine run_append run_deletionSent ?_
  show run (step deletionSetting) deletionSent (.reply deletionReply :: _) = _
  rw [run, step, if_pos deletionSent_answers]
  rfl

theorem step_deletionTold :
    step deletionSetting deletionReplied (.receive (Guid.ofByte 9) []) = some deletionTold := by
  have htransport := (run_consistent deletionSetting_short run_deletionReplied).transport
  rw [step, if_pos (fun _ h => absurd h List.not_mem_nil),
    htransport.receive_eq (show deletionReplied.toClient.Drained from rfl)
      (show deletionReplied.replies[deletionReplied.handled]? = some deletionReply from rfl)]
  rfl

theorem run_deletionTold :
    run (step deletionSetting) initial (deletionInputs ++ [.receive (Guid.ofByte 9) []]) =
      some deletionTold := by
  refine run_append run_deletionReplied ?_
  rw [run, step_deletionTold]
  rfl

theorem deletionTold_faithful : Faithful deletionSetting deletionTold :=
  run_faithful deletionSetting_short run_deletionTold

theorem deletionTold_quiet : Quiet deletionSetting deletionTold := by
  have h := run_consistent deletionSetting_short run_deletionTold
  have hserved := h.served_all deletionSetting_short deletion_fits rfl rfl rfl
    (show deletionTold.toServer.Drained from rfl)
  constructor
  · rfl
  · rfl
  · rfl
  · rfl
  · intro q hq
    have hq' : some q ∈ [deletionPackage].map requestOf := hserved ▸ hq
    rw [List.map_singleton, requestOf_deletionPackage, List.mem_singleton] at hq'
    cases hq'
    exact ⟨deletionReply, List.mem_singleton_self _, rfl⟩
  · rfl
  · rw [h.transport.framesOf_length (show deletionTold.toClient.Drained from rfl)]
    decide

theorem deletionTold_settled : Settled deletionTold :=
  run_settled deletionSetting_short run_deletionTold deletion_fits deletionTold_quiet

end Session
end EventStoreClient
