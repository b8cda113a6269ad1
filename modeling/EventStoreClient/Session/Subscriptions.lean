import EventStoreClient.Session.Order
import EventStoreClient.Subscription.Pushes

/-!
# A subscription in a session

A subscription is called with the packages that come for it, and what it asks for goes
through the connection of the session, next to whatever else is done on it.
-/

namespace EventStoreClient
namespace Session

open Connection Foundation Operations Subscription Wire

/-!
# Both together

A session and a subscription on its connection: the packages under the id of the
subscription, and the ends of its reads, are the calls of its entries.  An unsubscription
is an operation and is not followed here.
-/

structure Subscriber (child pending batch : Type) where
  kind : Kind child pending batch
  key : Guid
  user : User
  stream : Bytes
  resolveLinkTos : Bool
  groupName : Bytes
  allowedInFlightMessages : UInt32

variable {child pending batch : Type}

namespace Subscriber

def subscription (u : Subscriber child pending batch) : Class child pending batch :=
  u.kind.subscription u.key u.user

def clientRequest (u : Subscriber child pending batch) :
    Subscription.Request -> Option ClientRequest
  | .subscribeToStream => some (.subscribeToStream u.stream u.resolveLinkTos)
  | .connectToPersistentSubscription =>
      some (.connectToPersistentSubscription u.stream u.groupName u.allowedInFlightMessages)
  | .unsubscribeFromStream => none
  | .persistentSubscriptionAckEvents subscriptionId processedEventIds =>
      some (.persistentSubscriptionAckEvents subscriptionId processedEventIds)
  | .persistentSubscriptionNakEvents subscriptionId action processedEventIds =>
      some (.persistentSubscriptionNakEvents subscriptionId action processedEventIds)

end Subscriber

structure Coupled (child pending : Type) where
  session : State
  subscription : Subscription.State child pending

section Coupled

variable (w : Setting) (u : Subscriber child pending batch)

def inputsOf (calls : List (Guid × Package)) : List (Subscription.Input batch) :=
  (calls.filter fun call => call.1 = u.key).map fun call =>
    Subscription.Input.received (ServerMessage.ofPackage subscriptionProtobuf call.2)

/-- What the subscription has asked for in a call goes to the connection. -/
def tells (asked : List Subscription.Request) : List Input :=
  (asked.filterMap u.clientRequest).map fun r => Input.tell u.key r

/-- One input of the session, with the call of the subscription that it leads to.  The
subscription goes on as long as it does not unsubscribe. -/
def coupledStep (c : Coupled child pending) (i : Input) : Option (Coupled child pending) :=
  if i.Spares u.key then
    match step w c.session i with
    | none => none
    | some session =>
        match run (Subscription.step u.subscription) c.subscription
            (inputsOf u (session.told.drop c.session.told.length)) with
        | none => none
        | some subscription =>
            let asked := subscription.sent.drop c.subscription.sent.length
            if Subscription.Request.unsubscribeFromStream ∈ asked then none
            else
              (run (step w) session (tells u asked)).map fun session =>
                { session := session
                  subscription := subscription }
  else none

end Coupled

/-!
# What the session does for the subscription

The session carries the requests of the subscription to the server, and what the server
sends under its id to the subscription.
-/

section Steps

variable {w : Setting} {u : Subscriber child pending batch} {s next : State}

theorem change_told (h : Change w s next) : exists more, next.told = s.told ++ more := by
  cases h with
  | acts _ _ htold _ => exact ⟨[], htold.trans (List.append_nil _).symm⟩
  | replies p hreplies => exact ⟨[], hreplies.told_eq.trans (List.append_nil _).symm⟩
  | handles p _ _ _ hcalled =>
      cases hcalled with
      | operation _ htold => exact ⟨_, htold⟩
      | subscription _ _ htold => exact ⟨_, htold⟩
      | nothing _ _ htold => exact ⟨[], htold.trans (List.append_nil _).symm⟩

theorem step_tell_told {key : Guid} {r : ClientRequest}
    (hstep : step w s (.tell key r) = some next) :
    next.told = s.told ∧ next.client.subscriptions = s.client.subscriptions := by
  rw [step] at hstep
  split at hstep
  · rw [State.adopt, Option.map_eq_some_iff] at hstep
    rcases hstep with ⟨sending, _, rfl⟩
    exact ⟨rfl, rfl⟩
  · cases hstep

structure Serving (w : Setting) (key : Guid) (s : State) : Prop where
  consistent : Consistent w s
  inOrder : InOrder w s
  subscribed : key ∈ s.client.subscriptions

theorem Serving.step (hshort : ShortCredentials w.connection) {key : Guid} {i : Input}
    (h : Serving w key s) (hspares : i.Spares key) (hstep : step w s i = some next) :
    Serving w key next where
  consistent := step_consistent hshort h.consistent hstep
  inOrder := step_inOrder hshort h.consistent h.inOrder hstep
  subscribed := step_subscribed h.consistent.books hspares hstep h.subscribed

theorem Serving.tell (hshort : ShortCredentials w.connection) {key : Guid} {r : ClientRequest}
    (h : Serving w key s) (hstep : Session.step w s (.tell key r) = some next) :
    Serving w key next where
  consistent := step_consistent hshort h.consistent hstep
  inOrder := step_inOrder hshort h.consistent h.inOrder hstep
  subscribed := (step_tell_told hstep).right ▸ h.subscribed

def State.requestsOf (key : Guid) (s : State) : List ClientRequest :=
  (s.requests.filter fun request => request.1 = key).map Prod.snd

theorem run_tells (hshort : ShortCredentials w.connection)
    {asked : List Subscription.Request} {last : State} (h : Serving w u.key s)
    (hrun : run (step w) s (tells u asked) = some last) :
    Serving w u.key last ∧ last.told = s.told ∧
      last.requestsOf u.key = s.requestsOf u.key ++ asked.filterMap u.clientRequest := by
  rw [tells] at hrun
  generalize asked.filterMap u.clientRequest = requests at hrun ⊢
  induction requests generalizing s with
  | nil =>
      cases hrun
      exact ⟨h, rfl, (List.append_nil _).symm⟩
  | cons r rest ih =>
      rcases run_cons hrun with ⟨next, hstep, hrest⟩
      rcases ih (h.tell hshort hstep) hrest with ⟨hserving, htold, hrequests⟩
      refine ⟨hserving, htold.trans (step_tell_told hstep).left, ?_⟩
      rw [hrequests, State.requestsOf, State.requestsOf, step_asks hstep, List.filter_append,
        List.map_append, List.append_assoc]
      congr 1
      simp [Input.asks]

/-!
# What the subscription has heard

From the step on in which the subscription has been started on the connection of a
session.
-/

/-- The subscription has been called with what it was told, and the connection has been
given what it has asked for. -/
structure Together (w : Setting) (u : Subscriber child pending batch)
    (start : Subscription.State child pending) (c : Coupled child pending) : Prop where
  serving : Serving w u.key c.session
  heard : run (Subscription.step u.subscription) start (inputsOf u c.session.told) =
    some c.subscription
  asked : c.session.requestsOf u.key = c.subscription.sent.filterMap u.clientRequest

theorem inputsOf_append (u : Subscriber child pending batch) (calls more : List (Guid × Package)) :
    inputsOf u (calls ++ more) = inputsOf u calls ++ inputsOf u more := by
  rw [inputsOf, inputsOf, inputsOf, List.filter_append, List.map_append]

theorem coupledStep_cases {c next : Coupled child pending} {i : Input}
    (hstep : coupledStep w u c i = some next) :
    exists session, i.Spares u.key ∧ step w c.session i = some session ∧
      run (Subscription.step u.subscription) c.subscription
          (inputsOf u (session.told.drop c.session.told.length)) = some next.subscription ∧
      run (step w) session
          (tells u (next.subscription.sent.drop c.subscription.sent.length)) =
        some next.session := by
  unfold coupledStep at hstep
  split at hstep
  · rename_i hspares
    split at hstep
    · cases hstep
    · rename_i session hsession
      split at hstep
      · cases hstep
      · rename_i subscription hheard
        simp only at hstep
        split at hstep
        · cases hstep
        · rw [Option.map_eq_some_iff] at hstep
          rcases hstep with ⟨last, hlast, rfl⟩
          exact ⟨session, hspares, hsession, hheard, hlast⟩
  · cases hstep

theorem Together.step (hshort : ShortCredentials w.connection)
    {start : Subscription.State child pending} {c next : Coupled child pending} {i : Input}
    (h : Together w u start c) (hstep : coupledStep w u c i = some next) :
    Together w u start next := by
  rcases coupledStep_cases hstep with ⟨session, hspares, hsession, hheard, htells⟩
  have hserving := h.serving.step hshort hspares hsession
  rcases run_tells hshort hserving htells with ⟨hnext, htold, hrequests⟩
  rcases change_told (step_outcome h.serving.consistent hshort hsession).change with ⟨more, hmore⟩
  rw [hmore, List.drop_left] at hheard
  have hasked : u.key ∈ c.session.requests.map Prod.fst :=
    (h.serving.consistent.asked.subscribed_asked _ h.serving.subscribed).left
  have hgrows : c.subscription.sent <+: next.subscription.sent := by
    have hmessages : inputsOf u more =
        ((more.filter fun call => call.1 = u.key).map fun call =>
          ServerMessage.ofPackage subscriptionProtobuf call.2).map Subscription.Input.received := by
      rw [List.map_map]
      rfl
    rw [hmessages] at hheard
    exact u.kind.run_received_sent u.key u.user hheard
  constructor
  · exact hnext
  · rw [htold, hmore, inputsOf_append]
    exact run_append h.heard hheard
  · rw [hrequests, State.requestsOf, step_requestsOf hspares hsession hasked,
      ← State.requestsOf, h.asked, ← List.filterMap_append]
    congr 1
    exact List.prefix_iff_eq_append.mp hgrows

theorem Together.subscribe (hshort : ShortCredentials w.connection) {before : List Input}
    (hbefore : run (Session.step w) initial before = some s) {r : ClientRequest}
    (hsubscribe : Session.step w s (.subscribe u.key r) = some next)
    {start : Subscription.State child pending}
    (hstart : start.sent.filterMap u.clientRequest = [r]) :
    Together w u start { session := next, subscription := start } := by
  have hconsistent := run_consistent hshort hbefore
  have hnew : s.New u.key :=
    (asks_new hsubscribe (List.mem_singleton_self _)).resolve_right fun h => by cases h
  have hnothing : s.requests.filter (fun request => request.1 = u.key) = [] := by
    rw [List.filter_eq_nil_iff]
    intro request hrequest heq
    exact hnew.left (of_decide_eq_true heq ▸ List.mem_map_of_mem hrequest)
  have hasked := step_asks hsubscribe
  have hserving : Serving w u.key next := by
    refine
      { consistent := step_consistent hshort hconsistent hsubscribe
        inOrder := step_inOrder hshort hconsistent (run_inOrder hshort hbefore) hsubscribe
        subscribed := ?_ }
    rw [Session.step, if_pos hnew] at hsubscribe
    rw [(adopt_keeps hsubscribe).left]
    exact OperationsMap.mem_registerOp.mpr (Or.inl rfl)
  constructor
  · exact hserving
  · have htold : next.told = s.told := by
      rw [Session.step, if_pos hnew, State.adopt, Option.map_eq_some_iff] at hsubscribe
      rcases hsubscribe with ⟨sending, _, rfl⟩
      rfl
    have hcalls : inputsOf u next.told = [] := by
      rw [inputsOf, htold,
        filter_key_eq_nil (hconsistent.told.new_notTold hconsistent.asked hnew), List.map_nil]
    rw [hcalls]
    rfl
  · rw [State.requestsOf, hasked, List.filter_append, hnothing, hstart]
    simp [Input.asks]

/-!
# The subscription holds nothing up

An input that calls no entry leaves the subscription alone.
-/

theorem run_together (hshort : ShortCredentials w.connection)
    {start : Subscription.State child pending} {c last : Coupled child pending}
    {inputs : List Input} (h : Together w u start c)
    (hrun : run (coupledStep w u) c inputs = some last) : Together w u start last :=
  run_preserves (fun h hstep => h.step hshort hstep) h hrun

theorem coupledStep_untold {c : Coupled child pending} {i : Input} {next : State}
    (hspares : i.Spares u.key) (hstep : step w c.session i = some next)
    (htold : next.told = c.session.told) :
    coupledStep w u c i = some { c with session := next } := by
  have hnothing : inputsOf u (next.told.drop c.session.told.length) = [] := by
    rw [htold, List.drop_length]
    rfl
  simp only [coupledStep, if_pos hspares, hstep, hnothing, run, List.drop_length, List.not_mem_nil,
    if_false, tells, List.filterMap_nil, List.map_nil, Option.map_some]

theorem coupledStep_told {c : Coupled child pending} {i : Input} {session last : State}
    {subscription : Subscription.State child pending} {push : Push} {p : Package}
    (hspares : i.Spares u.key) (hstep : step w c.session i = some session)
    (htold : session.told = c.session.told ++ [(u.key, p)]) (hcarried : push.Carried p)
    (hheard : Subscription.step u.subscription c.subscription (.received push.message) =
      some subscription)
    {asked : List Subscription.Request} (hsent : subscription.sent = c.subscription.sent ++ asked)
    (hstays : Subscription.Request.unsubscribeFromStream ∉ asked)
    (htells : run (step w) session (tells u asked) = some last) :
    coupledStep w u c i = some { session := last, subscription := subscription } := by
  have hinputs : inputsOf u (session.told.drop c.session.told.length) =
      [Subscription.Input.received push.message] := by
    rw [htold, List.drop_left]
    simp [inputsOf, Push.ofPackage_carried hcarried]
  simp only [coupledStep, if_pos hspares, hstep, hinputs, run, hheard, hsent, List.drop_left,
    if_neg hstays, htells, Option.map_some]

end Steps

end Session
end EventStoreClient
