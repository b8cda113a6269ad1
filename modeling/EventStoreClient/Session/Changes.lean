import EventStoreClient.Session.Transport

/-!
# The steps of a session

What one input can do to the requests, to the replies and to the calls of the entries.
-/

namespace EventStoreClient
namespace Session

open Connection Foundation Operations Wire

def callOf (p : Outgoing) : Guid × Package := (p.correlationId, p.received)

/-- The server answers the request that was made under the id of the package. -/
def IsAnswer (w : Setting) (requests : List (Guid × ClientRequest)) (p : Outgoing) : Prop :=
  exists r, (p.correlationId, r) ∈ requests ∧
    w.answers (r.readBack w.connection p.correlationId) p.received = true

/-- The connection sends the requests `asked`, starts operations and answers others. -/
structure Acts (w : Setting) (asked : List (Guid × ClientRequest)) (started : List Guid)
    (answered : List (Guid × ErrorCode)) (s next : State) : Prop where
  requests_eq : next.requests = s.requests ++ asked
  sent_eq : exists beats,
    next.client.sent =
        s.client.sent ++ (asked.map (requestPackage w.connection) ++ beats) ∧
      forall p, p ∈ beats -> p = heartbeatResponse p.correlationId
  started_eq : next.client.world.started = s.client.world.started ++ started
  answers_eq : next.client.world.answers = s.client.world.answers ++ answered
  heartbeats_eq : next.heartbeats = s.heartbeats
  replies_eq : next.replies = s.replies
  started_new : forall key, key ∈ started -> s.New key ∧ exists r, (key, r) ∈ asked
  started_once : started ≠ [] -> (asked.map Prod.fst).Nodup
  asked_known : forall request, request ∈ asked ->
    s.New request.1 ∨
      request.1 ∈ s.requests.map Prod.fst ∧ request.1 ∉ s.client.world.started
  subscribed : forall key, key ∈ next.client.subscriptions ->
    key ∈ s.client.subscriptions ∨
      s.New key ∧ key ∈ asked.map Prod.fst ∧ key ∉ started

structure Replies (w : Setting) (p : Outgoing) (s next : State) : Prop where
  client_eq : next.client = s.client
  requests_eq : next.requests = s.requests
  handled_eq : next.handled = s.handled
  told_eq : next.told = s.told
  replies_eq : next.replies = s.replies ++ [p]
  origin : next.heartbeats = s.heartbeats ∧ IsAnswer w s.requests p ∨
    next.heartbeats = s.heartbeats ++ [p.correlationId] ∧ s.New p.correlationId

inductive Called (p : Outgoing) (s next : State) : List (Guid × ErrorCode) -> Prop where
  | operation (hkey : p.correlationId ∈ s.client.operations)
      (htold : next.told = s.told ++ [callOf p]) :
      Called p s next [(p.correlationId, none)]
  | subscription (hkey : p.correlationId ∉ s.client.operations)
      (hsubscribed : p.correlationId ∈ s.client.subscriptions)
      (htold : next.told = s.told ++ [callOf p]) : Called p s next []
  | nothing (hkey : p.correlationId ∉ s.client.operations)
      (hsubscribed : p.correlationId ∉ s.client.subscriptions)
      (htold : next.told = s.told) : Called p s next []

inductive Change (w : Setting) (s next : State) : Prop where
  | acts {asked : List (Guid × ClientRequest)} {started : List Guid}
      {answered : List (Guid × ErrorCode)} (h : Acts w asked started answered s next)
      (hhandled : next.handled = s.handled) (htold : next.told = s.told)
      (hsilent : forall key, (key, none) ∉ answered)
  | replies (p : Outgoing) (h : Replies w p s next)
  | handles {asked : List (Guid × ClientRequest)} {started : List Guid}
      {answered : List (Guid × ErrorCode)} (p : Outgoing)
      (hp : s.replies[s.handled]? = some p) (h : Acts w asked started answered s next)
      (hhandled : next.handled = s.handled + 1) (hcalled : Called p s next answered)

/-!
# Steps of the connection

Each input of the connection makes one outcome of the session: nothing is sent, new
requests start an operation each, or a package is handled by the entry under its id, if
there is one.
-/

theorem requestPackage_ids (connection : ConnectionSettings)
    (requests : List (Guid × ClientRequest)) :
    (requests.map (requestPackage connection)).map Package.correlationId =
      requests.map Prod.fst := by
  rw [List.map_map]
  rfl

theorem Transport.adopt_record {s next : State} (h : Transport s) {client : Operation.State}
    {sent : List Package} (hclient : client.sent = s.client.sent ++ sent)
    {requests : List (Guid × ClientRequest)} {handled : Nat} {told : List (Guid × Package)}
    (hadopt :
      State.adopt client
        { s with requests := requests, handled := handled, told := told } = some next) :
    exists sending,
      next =
          { s with
            client := client
            sending := sending
            requests := requests
            handled := handled
            told := told } ∧
        Transport next := by
  have hrecord : Transport
      { s with requests := requests, handled := handled, told := told } :=
    ⟨h.sending, h.queued, h.toServer_written, h.toClient_written⟩
  exact hrecord.adopt hclient hadopt

theorem acts_of_grows {w : Setting} {s : State} {client : Operation.State}
    {asked : List (Guid × ClientRequest)} {beats : List Package} {started : List Guid}
    {answered : List (Guid × ErrorCode)}
    (hgrows : Grows (asked.map (requestPackage w.connection) ++ beats) started answered
      s.client client)
    (hbeats : forall p, p ∈ beats -> p = heartbeatResponse p.correlationId)
    (hstarted : forall key, key ∈ started -> s.New key ∧ exists r, (key, r) ∈ asked)
    (honce : started ≠ [] -> (asked.map Prod.fst).Nodup)
    (hasked : forall request, request ∈ asked ->
      s.New request.1 ∨
        request.1 ∈ s.requests.map Prod.fst ∧ request.1 ∉ s.client.world.started)
    (sending : SendState) (handled : Nat) (told : List (Guid × Package)) :
    Acts w asked started answered s
      { s with
        client := client
        sending := sending
        requests := s.requests ++ asked
        handled := handled
        told := told } where
  requests_eq := rfl
  sent_eq := ⟨beats, hgrows.sent_eq, hbeats⟩
  started_eq := hgrows.started_eq
  answers_eq := hgrows.answers_eq
  heartbeats_eq := rfl
  replies_eq := rfl
  started_new := hstarted
  started_once := honce
  asked_known := hasked
  subscribed := fun _ hkey => Or.inl (hgrows.subscriptions_eq ▸ hkey)

structure Outcome (w : Setting) (s next : State) : Prop where
  transport : Transport next
  books : Operation.Books none next.client
  change : Change w s next

section Acting

variable {w : Setting} {s next : State} {i : Operation.Input}

theorem act_cases (hact : s.act i = some next) :
    exists client, Operation.step s.client i = some client ∧ s.adopt client = some next :=
  Option.bind_eq_some_iff.mp hact

theorem started_of_asked {asked : List (Guid × ClientRequest)}
    (hnew : forall request, request ∈ asked -> s.New request.1) :
    forall key, key ∈ (asked.map (requestPackage w.connection)).map Package.correlationId ->
      s.New key ∧ exists r, (key, r) ∈ asked := by
  intro key hkey
  rw [requestPackage_ids] at hkey
  rcases List.mem_map.mp hkey with ⟨request, hrequest, rfl⟩
  exact ⟨hnew request hrequest, request.2, hrequest⟩

theorem acts_of_asked {asked : List (Guid × ClientRequest)} {client : Operation.State}
    {answered : List (Guid × ErrorCode)}
    (hgrows : Grows (asked.map (requestPackage w.connection))
      ((asked.map (requestPackage w.connection)).map Package.correlationId) answered s.client
      client)
    (hnew : forall request, request ∈ asked -> s.New request.1)
    (hfresh : Operation.Fresh (asked.map (requestPackage w.connection)) s.client)
    (sending : SendState) (handled : Nat) (told : List (Guid × Package)) :
    Acts w asked ((asked.map (requestPackage w.connection)).map Package.correlationId) answered
      s
      { s with
        client := client
        sending := sending
        requests := s.requests ++ asked
        handled := handled
        told := told } := by
  have honce : (asked.map Prod.fst).Nodup := by
    rw [← requestPackage_ids w.connection]
    exact hfresh.left
  exact acts_of_grows hgrows.append_nil (fun p hp => absurd hp List.not_mem_nil)
    (started_of_asked hnew) (fun _ => honce)
    (fun request hrequest => Or.inl (hnew request hrequest)) sending handled told

theorem outcome_request (htransport : Transport s) (hbooks : Operation.Books none s.client)
    {key : Guid} {r : ClientRequest} (hstep : step w s (.request key r) = some next) :
    Outcome w s next := by
  rw [step] at hstep
  split at hstep
  · rename_i hnew
    rcases act_cases hstep with ⟨client, hclient, hadopt⟩
    rcases step_asyncSend hclient with ⟨hfresh, hsent⟩
    have hgrows : Grows ([(key, r)].map (requestPackage w.connection))
        (([(key, r)].map (requestPackage w.connection)).map Package.correlationId) []
        s.client client := hsent
    rcases htransport.adopt_record hgrows.sent_eq hadopt with
      ⟨sending, rfl, hnext⟩
    have hnewAll : forall request, request ∈ [(key, r)] -> s.New request.1 := by
      intro request hrequest
      rw [List.mem_singleton.mp hrequest]
      exact hnew
    have hacts := acts_of_asked hgrows hnewAll hfresh sending s.handled s.told
    exact
      { transport := hnext
        books := Operation.step_books hbooks hclient
        change := Change.acts hacts rfl rfl fun _ => List.not_mem_nil }
  · cases hstep

theorem outcome_subscribe (htransport : Transport s)
    (hbooks : Operation.Books none s.client) {key : Guid} {r : ClientRequest}
    (hstep : step w s (.subscribe key r) = some next) : Outcome w s next := by
  rw [step] at hstep
  split at hstep
  · rename_i hnew
    have hsubscribed : Transport
        { s with
          client :=
            { s.client with
              subscriptions :=
                s.client.subscriptions.registerOp key Operation.Entry.subscription }
          requests := s.requests ++ [(key, r)] } :=
      ⟨htransport.sending, htransport.queued, htransport.toServer_written,
        htransport.toClient_written⟩
    rcases hsubscribed.adopt rfl hstep with ⟨sending, rfl, hnext⟩
    suffices hacts : Acts w [(key, r)] [] [] s
        { s with
          client := _
          sending := sending
          requests := s.requests ++ [(key, r)] } from
      { transport := hnext
        books := (hbooks.subscribe key).of_eq rfl rfl rfl rfl
        change := Change.acts hacts rfl rfl fun _ => List.not_mem_nil }
    constructor
    · rfl
    · exact ⟨[], rfl, fun p hp => absurd hp List.not_mem_nil⟩
    · exact (List.append_nil _).symm
    · exact (List.append_nil _).symm
    · rfl
    · rfl
    · exact fun _ h => absurd h List.not_mem_nil
    · exact fun h => absurd rfl h
    · intro request hrequest
      rw [List.mem_singleton.mp hrequest]
      exact Or.inl hnew
    · intro key' hkey'
      rcases OperationsMap.mem_registerOp.mp hkey' with rfl | hold
      · exact Or.inr ⟨hnew, List.mem_singleton_self _, List.not_mem_nil⟩
      · exact Or.inl hold
  · cases hstep

theorem outcome_tell (htransport : Transport s) (hbooks : Operation.Books none s.client)
    {key : Guid} {r : ClientRequest} (hstep : step w s (.tell key r) = some next) :
    Outcome w s next := by
  rw [step] at hstep
  split at hstep
  · rename_i hknown
    have hgrows : Grows ([(key, r)].map (requestPackage w.connection) ++ []) [] [] s.client
        (s.client.asyncSend (requestPackage w.connection (key, r))) :=
      { sent_eq := rfl
        started_eq := (List.append_nil _).symm
        answers_eq := (List.append_nil _).symm
        subscriptions_eq := rfl }
    rcases htransport.adopt_record hgrows.sent_eq hstep with
      ⟨sending, rfl, hnext⟩
    have hasked : forall request, request ∈ [(key, r)] ->
        s.New request.1 ∨
          request.1 ∈ s.requests.map Prod.fst ∧ request.1 ∉ s.client.world.started := by
      intro request hrequest
      rw [List.mem_singleton.mp hrequest]
      exact Or.inr hknown
    have hacts := acts_of_grows hgrows (fun p hp => absurd hp List.not_mem_nil)
      (fun _ h => absurd h List.not_mem_nil) (fun h => absurd rfl h) hasked sending s.handled
      s.told
    exact
      { transport := hnext
        books := hbooks.of_eq rfl rfl rfl rfl
        change := Change.acts hacts rfl rfl fun _ => List.not_mem_nil }
  · cases hstep

theorem outcome_quiet (htransport : Transport s) (hbooks : Operation.Books none s.client)
    {client : Operation.State} (hclient : Operation.step s.client i = some client)
    (hgrows : Grows [] [] [] s.client client) (hadopt : s.adopt client = some next) :
    Outcome w s next := by
  rcases htransport.adopt hgrows.sent_eq hadopt with ⟨sending, rfl, hnext⟩
  have hnothing : Grows
      (([] : List (Guid × ClientRequest)).map (requestPackage w.connection) ++ []) [] []
      s.client client := hgrows
  have hacts := acts_of_grows hnothing (fun p hp => absurd hp List.not_mem_nil)
    (fun _ h => absurd h List.not_mem_nil) (fun h => absurd rfl h)
    (fun _ h => absurd h List.not_mem_nil) sending s.handled s.told
  rw [List.append_nil] at hacts
  exact
    { transport := hnext
      books := Operation.step_books hbooks hclient
      change := Change.acts hacts rfl rfl fun _ => List.not_mem_nil }

theorem outcome_unsubscribe (htransport : Transport s)
    (hbooks : Operation.Books none s.client) {key : Guid}
    (hstep : step w s (.unsubscribe key) = some next) : Outcome w s next := by
  rcases act_cases hstep with ⟨client, hclient, hadopt⟩
  have hbooks' := Operation.step_books hbooks hclient
  have hsent : client.sent = s.client.sent ++ [] := by
    rw [step_unsubscribe hclient, List.append_nil]
  rcases htransport.adopt hsent hadopt with ⟨sending, rfl, hnext⟩
  have heq := step_unsubscribe hclient
  subst heq
  suffices hacts : Acts w [] [] [] s { s with client := _, sending := sending } from
    { transport := hnext
      books := hbooks'
      change := Change.acts hacts rfl rfl fun _ => List.not_mem_nil }
  constructor
  · exact (List.append_nil _).symm
  · exact ⟨[], (List.append_nil _).symm, fun p hp => absurd hp List.not_mem_nil⟩
  · exact (List.append_nil _).symm
  · exact (List.append_nil _).symm
  · rfl
  · rfl
  · exact fun _ h => absurd h List.not_mem_nil
  · exact fun h => absurd rfl h
  · exact fun _ h => absurd h List.not_mem_nil
  · exact fun key' hkey' => Or.inl (AList.mem_erase.mp hkey').right

theorem outcome_expired (htransport : Transport s) (hbooks : Operation.Books none s.client)
    {key : Guid} (hstep : step w s (.expired key) = some next) : Outcome w s next := by
  rcases act_cases hstep with ⟨client, hclient, hadopt⟩
  exact outcome_quiet htransport hbooks hclient (step_expired hclient) hadopt

theorem outcome_completed (htransport : Transport s) (hbooks : Operation.Books none s.client)
    {key : Guid} {nested : List (Guid × ClientRequest)}
    (hstep : step w s (.completed key nested) = some next) : Outcome w s next := by
  rw [step] at hstep
  split at hstep
  · rename_i hnew
    split at hstep
    · rename_i hcalls
      rcases act_cases hstep with ⟨client, hclient, hadopt⟩
      by_cases htimesOut : s.TimesOut key
      · have hgrows := step_completed_expired hbooks htimesOut.left htimesOut.right hclient
        rcases htransport.adopt_record hgrows.sent_eq hadopt with
          ⟨sending, rfl, hnext⟩
        have hfresh := (Operation.step_completed hbooks hclient).left
        have hacts := acts_of_asked hgrows hnew hfresh sending s.handled s.told
        refine
          { transport := hnext
            books := Operation.step_books hbooks hclient
            change := Change.acts hacts rfl rfl ?_ }
        intro key' hkey'
        cases List.mem_singleton.mp hkey'
      · have hnone : nested = [] := hcalls.resolve_left htimesOut
        subst hnone
        rw [List.append_nil] at hadopt
        exact outcome_quiet htransport hbooks hclient
          (step_completed_other hbooks htimesOut hclient) hadopt
    · cases hstep
  · cases hstep

theorem outcome_receive (htransport : Transport s) (hbooks : Operation.Books none s.client)
    {newGuid : Guid} {nested : List (Guid × ClientRequest)}
    (hstep : step w s (.receive newGuid nested) = some next) : Outcome w s next := by
  rw [step] at hstep
  split at hstep
  · rename_i hnew
    unfold State.receive at hstep
    cases hframe : (framesOf s.toClient)[s.handled]? with
    | none =>
        rw [hframe] at hstep
        cases hstep
    | some frame =>
        rcases htransport.nextReply hframe w.beyond with ⟨p, hp, hread⟩
        simp only [hframe, hread] at hstep
        have hcallOf : (p.received.correlationId, p.received) = callOf p := rfl
        split at hstep
        · rename_i hregistered
          rcases act_cases hstep with ⟨client, hclient, hadopt⟩
          have hbooks' := Operation.step_books hbooks hclient
          have hfresh := (Operation.step_received hbooks hclient).left
          by_cases hkey : p.correlationId ∈ s.client.operations
          · have hgrows := step_received_operation hbooks hkey hclient
            rcases htransport.adopt_record hgrows.sent_eq hadopt with ⟨sending, rfl, hnext⟩
            have hacts := acts_of_asked hgrows hnew hfresh sending (s.handled + 1)
              (s.told ++ [callOf p])
            exact
              { transport := hnext
                books := hbooks'
                change := Change.handles p hp hacts rfl (Called.operation hkey rfl) }
          · have hsubscribed : p.correlationId ∈ s.client.subscriptions :=
              hregistered.resolve_left hkey
            have hgrows := step_received_subscription hbooks hkey hsubscribed hclient
            rcases htransport.adopt_record hgrows.sent_eq hadopt with ⟨sending, rfl, hnext⟩
            have hacts := acts_of_asked hgrows hnew hfresh sending (s.handled + 1)
              (s.told ++ [callOf p])
            exact
              { transport := hnext
                books := hbooks'
                change :=
                  Change.handles p hp hacts rfl (Called.subscription hkey hsubscribed rfl) }
        · rename_i hregistered
          split at hstep
          · rcases act_cases hstep with ⟨client, hclient, hadopt⟩
            have hkey : p.correlationId ∉ s.client.operations :=
              fun h => hregistered (Or.inl h)
            have hsubscribed : p.correlationId ∉ s.client.subscriptions :=
              fun h => hregistered (Or.inr h)
            obtain ⟨beats, hgrows, hbeats⟩ : exists beats,
                Grows (([] : List (Guid × ClientRequest)).map (requestPackage w.connection) ++
                  beats) [] [] s.client client ∧
                forall p, p ∈ beats -> p = heartbeatResponse p.correlationId := by
              rcases step_received_unregistered hkey hsubscribed hclient with
                hquiet | hheartbeat
              · exact ⟨[], hquiet, fun p hp => absurd hp List.not_mem_nil⟩
              · refine ⟨[heartbeatResponse newGuid], hheartbeat, ?_⟩
                intro p hp
                rw [List.mem_singleton.mp hp]
                rfl
            rcases htransport.adopt_record hgrows.sent_eq hadopt with ⟨sending, rfl, hnext⟩
            have hacts := acts_of_grows hgrows hbeats (fun _ h => absurd h List.not_mem_nil)
              (fun h => absurd rfl h) (fun _ h => absurd h List.not_mem_nil) sending
              (s.handled + 1) s.told
            rw [List.append_nil] at hacts
            exact
              { transport := hnext
                books := Operation.step_books hbooks hclient
                change :=
                  Change.handles p hp hacts rfl (Called.nothing hkey hsubscribed rfl) }
          · cases hstep
  · cases hstep

end Acting

end Session
end EventStoreClient
