import EventStoreClient.Session.Answers

/-!
# The order of the requests

The server reads the requests in the order in which they have been made, whoever has made
them.
-/

namespace EventStoreClient
namespace Session

open Connection Foundation Operations Wire

/-!
# What an input asks for

The requests that an input makes.  An input spares a subscription if nothing is done in
its name.
-/

def Input.asks : Input -> List (Guid × ClientRequest)
  | request key r => [(key, r)]
  | subscribe key r => [(key, r)]
  | tell key r => [(key, r)]
  | receive _ nested => nested
  | completed _ nested => nested
  | _ => []

def Input.Spares (key : Guid) : Input -> Prop
  | unsubscribe key' => key' ≠ key
  | tell key' _ => key' ≠ key
  | _ => True

instance (key : Guid) (i : Input) : Decidable (i.Spares key) :=
  match i with
  | .request _ _ => inferInstanceAs (Decidable True)
  | .subscribe _ _ => inferInstanceAs (Decidable True)
  | .tell key' _ => inferInstanceAs (Decidable (key' ≠ key))
  | .unsubscribe key' => inferInstanceAs (Decidable (key' ≠ key))
  | .runPosted => inferInstanceAs (Decidable True)
  | .written _ => inferInstanceAs (Decidable True)
  | .writeFailed _ => inferInstanceAs (Decidable True)
  | .arriveAtServer _ => inferInstanceAs (Decidable True)
  | .reply _ => inferInstanceAs (Decidable True)
  | .heartbeat _ => inferInstanceAs (Decidable True)
  | .arriveAtClient _ => inferInstanceAs (Decidable True)
  | .receive _ _ => inferInstanceAs (Decidable True)
  | .expired _ => inferInstanceAs (Decidable True)
  | .completed _ _ => inferInstanceAs (Decidable True)

section Steps

variable {w : Setting} {s next : State}

theorem adopt_keeps {client : Operation.State} (hadopt : s.adopt client = some next) :
    next.client = client ∧ next.requests = s.requests := by
  rw [State.adopt, Option.map_eq_some_iff] at hadopt
  rcases hadopt with ⟨sending, _, rfl⟩
  exact ⟨rfl, rfl⟩

theorem act_keeps {i : Operation.Input} (hact : s.act i = some next) :
    Operation.step s.client i = some next.client ∧ next.requests = s.requests := by
  rcases act_cases hact with ⟨client, hclient, hadopt⟩
  rcases adopt_keeps hadopt with ⟨hnext, hrequests⟩
  rw [hnext]
  exact ⟨hclient, hrequests⟩

theorem transmit_keeps {i : SendInput} (htransmit : s.transmit i = some next) :
    next.client = s.client ∧ next.requests = s.requests := by
  rw [State.transmit, Option.map_eq_some_iff] at htransmit
  rcases htransmit with ⟨sending, _, rfl⟩
  exact ⟨rfl, rfl⟩

theorem receive_keeps {newGuid : Guid} {nested : List (Guid × ClientRequest)}
    (hreceive : s.receive w newGuid nested = some next) :
    exists p packages,
      Operation.step s.client (.received p newGuid packages) = some next.client ∧
        next.requests = s.requests ++ nested := by
  unfold State.receive at hreceive
  split at hreceive
  · cases hreceive
  · split at hreceive
    · cases hreceive
    · rename_i p _
      split at hreceive
      · rcases act_keeps hreceive with ⟨hclient, hrequests⟩
        exact ⟨p, _, hclient, hrequests⟩
      · split at hreceive
        · rename_i hnested
          rcases act_keeps hreceive with ⟨hclient, hrequests⟩
          refine ⟨p, _, hclient, ?_⟩
          rw [hnested, List.append_nil]
          exact hrequests
        · cases hreceive

theorem step_asks {i : Input} (hstep : step w s i = some next) :
    next.requests = s.requests ++ i.asks := by
  cases i with
  | request key r =>
      rw [step] at hstep
      split at hstep
      · exact (act_keeps hstep).right
      · cases hstep
  | subscribe key r =>
      rw [step] at hstep
      split at hstep
      · exact (adopt_keeps hstep).right
      · cases hstep
  | tell key r =>
      rw [step] at hstep
      split at hstep
      · exact (adopt_keeps hstep).right
      · cases hstep
  | unsubscribe key => exact (act_keeps hstep).right.trans (List.append_nil _).symm
  | runPosted => exact (transmit_keeps hstep).right.trans (List.append_nil _).symm
  | written i => exact (transmit_keeps hstep).right.trans (List.append_nil _).symm
  | writeFailed i => exact (transmit_keeps hstep).right.trans (List.append_nil _).symm
  | arriveAtServer n =>
      cases hstep
      exact (List.append_nil _).symm
  | reply p =>
      rw [step] at hstep
      split at hstep
      · cases hstep
        exact (List.append_nil _).symm
      · cases hstep
  | heartbeat key =>
      rw [step] at hstep
      split at hstep
      · cases hstep
        exact (List.append_nil _).symm
      · cases hstep
  | arriveAtClient n =>
      cases hstep
      exact (List.append_nil _).symm
  | receive newGuid nested =>
      rw [step] at hstep
      split at hstep
      · rcases receive_keeps hstep with ⟨_, _, _, hrequests⟩
        exact hrequests
      · cases hstep
  | expired key => exact (act_keeps hstep).right.trans (List.append_nil _).symm
  | completed key nested =>
      rw [step] at hstep
      split at hstep
      · split at hstep
        · exact (act_keeps hstep).right
        · cases hstep
      · cases hstep

/-- Whoever has asked before is not asked for again, unless a subscription tells more. -/
theorem asks_new {i : Input} (hstep : step w s i = some next) {key : Guid} {r : ClientRequest}
    (hasked : (key, r) ∈ i.asks) : s.New key ∨ i = Input.tell key r := by
  cases i with
  | request key' r' =>
      rw [step] at hstep
      split at hstep
      · rename_i hnew
        cases List.mem_singleton.mp hasked
        exact Or.inl hnew
      · cases hstep
  | subscribe key' r' =>
      rw [step] at hstep
      split at hstep
      · rename_i hnew
        cases List.mem_singleton.mp hasked
        exact Or.inl hnew
      · cases hstep
  | tell key' r' =>
      cases List.mem_singleton.mp hasked
      exact Or.inr rfl
  | receive newGuid nested =>
      rw [step] at hstep
      split at hstep
      · rename_i hnew
        exact Or.inl (hnew _ hasked)
      · cases hstep
  | completed key' nested =>
      rw [step] at hstep
      split at hstep
      · rename_i hnew
        exact Or.inl (hnew _ hasked)
      · cases hstep
  | unsubscribe key' => exact absurd hasked List.not_mem_nil
  | runPosted => exact absurd hasked List.not_mem_nil
  | written i => exact absurd hasked List.not_mem_nil
  | writeFailed i => exact absurd hasked List.not_mem_nil
  | arriveAtServer n => exact absurd hasked List.not_mem_nil
  | reply p => exact absurd hasked List.not_mem_nil
  | heartbeat key' => exact absurd hasked List.not_mem_nil
  | arriveAtClient n => exact absurd hasked List.not_mem_nil
  | expired key' => exact absurd hasked List.not_mem_nil

/-!
# Subscriptions stay

The connection alone drops a subscription, when it is told to.  What others do changes
nothing of what a subscription has asked for.
-/

theorem operationStep_subscriptions (hbooks : Operation.Books none s.client)
    {i : Operation.Input} {client : Operation.State} {key : Guid}
    (hother : i ≠ Operation.Input.unsubscribe key)
    (hstep : Operation.step s.client i = some client)
    (hkey : key ∈ s.client.subscriptions) : key ∈ client.subscriptions := by
  cases i with
  | asyncSend p => exact (step_asyncSend hstep).right.subscriptions_eq ▸ hkey
  | subscribe key' =>
      cases hstep
      exact OperationsMap.mem_registerOp.mpr (Or.inr hkey)
  | unsubscribe key' =>
      rw [step_unsubscribe hstep]
      exact AList.mem_erase.mpr ⟨fun heq => hother (heq ▸ rfl), hkey⟩
  | expired key' => exact (step_expired hstep).subscriptions_eq ▸ hkey
  | received p newGuid nested =>
      by_cases hoperation : p.correlationId ∈ s.client.operations
      · exact (step_received_operation hbooks hoperation hstep).subscriptions_eq ▸ hkey
      · by_cases hsubscribed : p.correlationId ∈ s.client.subscriptions
        · exact
            (step_received_subscription hbooks hoperation hsubscribed hstep).subscriptions_eq ▸ hkey
        · rcases step_received_unregistered hoperation hsubscribed hstep with hgrows | hgrows
          · exact hgrows.subscriptions_eq ▸ hkey
          · exact hgrows.subscriptions_eq ▸ hkey
  | completed key' nested =>
      by_cases hexpires : s.client.world.deadline key' = Timer.queued WaitResult.expired ∧
          key' ∈ s.client.operations
      · exact
          (step_completed_expired hbooks hexpires.left hexpires.right hstep).subscriptions_eq ▸ hkey
      · exact (step_completed_other hbooks hexpires hstep).subscriptions_eq ▸ hkey

theorem step_subscribed (hbooks : Operation.Books none s.client) {i : Input} {key : Guid}
    (hspares : i.Spares key) (hstep : step w s i = some next)
    (hkey : key ∈ s.client.subscriptions) : key ∈ next.client.subscriptions := by
  have hacted : forall {i : Operation.Input}, i ≠ Operation.Input.unsubscribe key ->
      Operation.step s.client i = some next.client -> key ∈ next.client.subscriptions :=
    fun hother hclient => operationStep_subscriptions hbooks hother hclient hkey
  cases i with
  | request key' r =>
      rw [step] at hstep
      split at hstep
      · exact hacted (fun h => by cases h) (act_keeps hstep).left
      · cases hstep
  | subscribe key' r =>
      rw [step] at hstep
      split at hstep
      · rw [(adopt_keeps hstep).left]
        exact OperationsMap.mem_registerOp.mpr (Or.inr hkey)
      · cases hstep
  | tell key' r =>
      rw [step] at hstep
      split at hstep
      · rw [(adopt_keeps hstep).left]
        exact hkey
      · cases hstep
  | unsubscribe key' =>
      have hother : Operation.Input.unsubscribe key' ≠ Operation.Input.unsubscribe key := by
        intro heq
        cases heq
        exact hspares rfl
      exact hacted hother (act_keeps hstep).left
  | runPosted => exact (transmit_keeps hstep).left ▸ hkey
  | written i => exact (transmit_keeps hstep).left ▸ hkey
  | writeFailed i => exact (transmit_keeps hstep).left ▸ hkey
  | arriveAtServer n =>
      cases hstep
      exact hkey
  | reply p =>
      rw [step] at hstep
      split at hstep
      · cases hstep
        exact hkey
      · cases hstep
  | heartbeat key' =>
      rw [step] at hstep
      split at hstep
      · cases hstep
        exact hkey
      · cases hstep
  | arriveAtClient n =>
      cases hstep
      exact hkey
  | receive newGuid nested =>
      rw [step] at hstep
      split at hstep
      · rcases receive_keeps hstep with ⟨p, packages, hclient, _⟩
        exact hacted (fun h => by cases h) hclient
      · cases hstep
  | expired key' => exact hacted (fun h => by cases h) (act_keeps hstep).left
  | completed key' nested =>
      rw [step] at hstep
      split at hstep
      · split at hstep
        · exact hacted (fun h => by cases h) (act_keeps hstep).left
        · cases hstep
      · cases hstep

theorem step_requestsOf {i : Input} {key : Guid} (hspares : i.Spares key)
    (hstep : step w s i = some next) (hkey : key ∈ s.requests.map Prod.fst) :
    next.requests.filter (fun request => request.1 = key) =
      s.requests.filter fun request => request.1 = key := by
  have hothers : i.asks.filter (fun request => request.1 = key) = [] := by
    rw [List.filter_eq_nil_iff]
    intro request hrequest heq
    rcases asks_new hstep hrequest with hnew | htell
    · exact hnew.left (of_decide_eq_true heq ▸ hkey)
    · rw [htell] at hspares
      exact hspares (of_decide_eq_true heq)
  rw [step_asks hstep, List.filter_append, hothers, List.append_nil]

end Steps

/-!
# The order

The packages carry the requests in the order in which they were made, so what the server
has read is the start of what has been asked for, and all of it once nothing is under way.
-/

/-- The requests in the order in which they were made, as they are read if they can be. -/
def State.readable (w : Setting) (s : State) : List ReadRequest :=
  s.requests.filterMap fun request => request.2.outcome w.connection request.1

def InOrder (w : Setting) (s : State) : Prop :=
  s.client.sent.filterMap requestOf = s.readable w

section Order

variable {w : Setting} {s next : State}

theorem Acts.inOrder {asked : List (Guid × ClientRequest)} {started : List Guid}
    {answered : List (Guid × ErrorCode)} (hacts : Acts w asked started answered s next)
    (h : InOrder w s) : InOrder w next := by
  rcases hacts.sent_eq with ⟨beats, hsent, hbeats⟩
  have hsilent : beats.filterMap requestOf = [] := by
    rw [List.filterMap_eq_nil_iff]
    intro p hp
    rw [hbeats p hp, requestOf_heartbeatResponse]
  have hrequests : (asked.map (requestPackage w.connection)).filterMap requestOf =
      asked.filterMap fun request => request.2.outcome w.connection request.1 := by
    rw [List.filterMap_map]
    exact List.filterMap_congr fun request _ => requestOf_requestPackage request
  rw [InOrder, State.readable] at h ⊢
  rw [hsent, hacts.requests_eq, List.filterMap_append, List.filterMap_append,
    List.filterMap_append, h, hrequests, hsilent, List.append_nil]

theorem step_inOrder (hshort : ShortCredentials w.connection) {i : Input}
    (hconsistent : Consistent w s) (h : InOrder w s) (hstep : step w s i = some next) :
    InOrder w next := by
  cases (step_outcome hconsistent hshort hstep).change with
  | acts hacts _ _ _ => exact hacts.inOrder h
  | replies p hreplies =>
      rw [InOrder, State.readable, hreplies.client_eq, hreplies.requests_eq]
      exact h
  | handles p _ hacts _ _ => exact hacts.inOrder h

theorem run_inOrder (hshort : ShortCredentials w.connection) {inputs : List Input}
    {last : State} (hrun : run (step w) initial inputs = some last) : InOrder w last := by
  have hstep : forall {s : State} {i : Input} {next : State},
      Consistent w s ∧ InOrder w s -> step w s i = some next ->
        Consistent w next ∧ InOrder w next :=
    fun h hstep =>
      ⟨step_consistent hshort h.left hstep, step_inOrder hshort h.left h.right hstep⟩
  exact (run_preserves hstep ⟨initial_consistent w, rfl⟩ hrun).right

theorem served_reduce (w : Setting) {read : List Package}
    (hserved : s.served w = read.map requestOf) :
    (s.served w).reduceOption = read.filterMap requestOf := by
  rw [hserved]
  exact List.filterMap_map

theorem Consistent.served_start (h : Consistent w s) (hshort : ShortCredentials w.connection)
    (horder : InOrder w s) : (s.served w).reduceOption <+: s.readable w := by
  rcases h.transport.served w (h.asked.readable hshort) with ⟨read, hread, hserved, _⟩
  rw [served_reduce w hserved, ← horder]
  exact hread.filterMap requestOf

theorem readable_of_fits
    (hfits : forall request, request ∈ s.requests -> request.2.Fits w.connection) :
    s.readable w = s.requests.map fun request => request.2.readBack w.connection request.1 := by
  rw [State.readable, ← List.filterMap_eq_map]
  refine List.filterMap_congr fun request hrequest => ?_
  exact if_pos (ClientRequest.fits_iff.mp (hfits request hrequest)).right

theorem Consistent.served_readBack (h : Consistent w s)
    (hshort : ShortCredentials w.connection) (horder : InOrder w s)
    (hfits : forall request, request ∈ s.requests -> request.2.Fits w.connection)
    (hquiet : Quiet w s) :
    (s.served w).reduceOption =
      s.requests.map fun request => request.2.readBack w.connection request.1 := by
  have hserved := h.served_all hshort hfits hquiet.posted hquiet.writing hquiet.not_failed
    hquiet.toServer
  rw [served_reduce w hserved, horder, readable_of_fits hfits]

end Order

end Session
end EventStoreClient
