import EventStoreClient.Subscription.Base

/-!
# A subscription on its connection

The entries that a subscription has in the two maps of its connection, and the dispatch of
the packages with its correlation id.  Seen through its two entries, the connection does
with such a package what the subscription does with the message in it.
-/

namespace EventStoreClient
namespace Subscription

open Connection Foundation Wire

/-- The entry of a subscription in the subscriptions map, and the one of its unsubscribe
request in the operations map. -/
inductive Entry where
  | subscription
  | unsubscribe
  deriving DecidableEq

abbrev Connected (child pending : Type) := BasicTcpConnection Entry (State child pending)

variable {child pending batch : Type} {key : Guid}

/-- The subscription with the entries that its connection has for it. -/
def held (key : Guid) (conn : Connected child pending) : State child pending :=
  { conn.world with
    registered := decide (key ∈ conn.subscriptions)
    unsubscribing := decide (key ∈ conn.operations) }

def setEntry (key : Guid) (e : Entry) (present : Bool) (entries : OperationsMap Entry) :
    OperationsMap Entry :=
  if present then entries.registerOp key e else entries.erase key

def store (key : Guid) (s : State child pending) (conn : Connected child pending) :
    Connected child pending :=
  { conn with
    operations := setEntry key Entry.unsubscribe s.unsubscribing conn.operations
    subscriptions := setEntry key Entry.subscription s.registered conn.subscriptions
    world := s }

def onConnection (key : Guid) (h : Handles child pending Unit) :
    Handler Fault (Connected child pending) Unit := do
  let after := h.runOn (held key (<- get))
  modify (store key after.2)
  match after.1 with
  | .ok _ => pure ()
  | .error fault => throw fault

/-- The call of an entry of the subscription, with the message it is called for. -/
def call (c : Class child pending batch) (message : ServerMessage) (_ : Guid) :
    Entry -> Handler Fault (Connected child pending) Unit
  | .subscription => onConnection c.key (c.entry c.onPackageReceived message)
  | .unsubscribe => onConnection c.key c.unsubscribeAnswered

structure Entered (key : Guid) (conn : Connected child pending) : Prop where
  operation_eq : forall e, conn.operations.lookup key = some e -> e = Entry.unsubscribe
  subscription_eq : forall e, conn.subscriptions.lookup key = some e -> e = Entry.subscription

/-!
# Entries

The entry in the subscriptions map and that of the unsubscribe request.
-/

section Entries

variable {entries : OperationsMap Entry} {present : Bool} {e : Entry}

@[simp] theorem mem_setEntry : key ∈ setEntry key e present entries <-> present = true := by
  cases present with
  | true => simp [setEntry]
  | false => simp [setEntry, AList.mem_erase]

theorem lookup_setEntry (hentries : forall e', entries.lookup key = some e' -> e' = e)
    (e' : Entry) (he' : (setEntry key e present entries).lookup key = some e') : e' = e := by
  cases present with
  | false =>
      rw [setEntry, if_neg Bool.false_ne_true, AList.lookup_erase] at he'
      cases he'
  | true =>
      rw [setEntry, if_pos rfl] at he'
      by_cases hold : key ∈ entries
      · rw [OperationsMap.registerOp_of_mem hold] at he'
        exact hentries e' he'
      · rw [OperationsMap.registerOp_of_notMem hold, AList.lookup_insert] at he'
        exact (Option.some.inj he').symm

theorem lookup_setEntry_ne {other : Guid} (hne : other ≠ key) :
    (setEntry key e present entries).lookup other = entries.lookup other := by
  cases present with
  | false => exact AList.lookup_erase_ne hne
  | true => exact OperationsMap.lookup_registerOp_ne hne e

end Entries

section Connection

variable {conn : Connected child pending} {s : State child pending}

@[simp] theorem held_store : held key (store key s conn) = s := by
  rcases s
  simp [held, store]

theorem Entered.store (h : Entered key conn) : Entered key (store key s conn) :=
  ⟨lookup_setEntry h.operation_eq, lookup_setEntry h.subscription_eq⟩

theorem onConnection_run (h : Handles child pending Unit) :
    (onConnection key h).runOn conn =
      ((h.runOn (held key conn)).1, store key (h.runOn (held key conn)).2 conn) := by
  rcases hrun : h.runOn (held key conn) with ⟨r, s⟩
  cases r <;> simp [onConnection, hrun]

theorem held_eraseOperation :
    held key (BasicTcpConnection.eraseOperation key (store key s conn)) =
      { s with unsubscribing := false } := by
  rcases s
  simp [held, store, BasicTcpConnection.eraseOperation, AList.mem_erase]

theorem Entered.eraseOperation (h : Entered key conn) :
    Entered key (BasicTcpConnection.eraseOperation key conn) := by
  constructor
  · intro e he
    rw [BasicTcpConnection.eraseOperation, AList.lookup_erase] at he
    cases he
  · exact h.subscription_eq

end Connection

/-!
# The dispatch

The reception of a package with the id of the subscription is seen through its entries.
-/

section Dispatch

variable {c : Class child pending batch} {pb : SubscriptionProtobuf} {p : Package}
  {conn : Connected child pending}

/-- The reception of a package with the id of the subscription, seen through its entries. -/
def Simulated (c : Class child pending batch) (message : ServerMessage)
    (conn : Connected child pending)
    (after : Except Fault Unit × Connected child pending) : Prop :=
  (c.receive message).runOn (held c.key conn) = (after.1, held c.key after.2) ∧
    Entered c.key after.2

theorem receive_answer (hp : p.correlationId = c.key) (h : Entered c.key conn)
    (hmem : c.key ∈ conn.operations) (newGuid : Guid) (message : ServerMessage) :
    Simulated c message conn
      ((BasicTcpConnection.receive (call c message) newGuid p).runOn conn) := by
  rcases OperationsMap.entry_of_mem hmem with ⟨e, he⟩
  cases h.operation_eq e he
  have hflag : (held c.key conn).unsubscribing = true := decide_eq_true hmem
  have hcounted : held c.key conn.counted = held c.key conn := rfl
  have hentered : Entered c.key conn.counted := ⟨h.operation_eq, h.subscription_eq⟩
  rw [← hp] at he
  rw [BasicTcpConnection.receive_operation he, call, onConnection_run, hp, hcounted]
  rcases hrun : c.unsubscribeAnswered.runOn (held c.key conn) with ⟨r, s⟩
  cases r with
  | error fault =>
      constructor
      · simp [Class.receive, hflag, hrun]
      · exact hentered.store
  | ok _ =>
      constructor
      · simp [Class.receive, hflag, hrun, held_eraseOperation]
      · exact hentered.store.eraseOperation

theorem receive_entry (hp : p.correlationId = c.key) (h : Entered c.key conn)
    (hnone : c.key ∉ conn.operations) (hmem : c.key ∈ conn.subscriptions)
    (newGuid : Guid) (message : ServerMessage) :
    Simulated c message conn
      ((BasicTcpConnection.receive (call c message) newGuid p).runOn conn) := by
  rcases OperationsMap.entry_of_mem hmem with ⟨e, he⟩
  cases h.subscription_eq e he
  have hflag : (held c.key conn).unsubscribing = false := decide_eq_false hnone
  have hflag' : (held c.key conn).registered = true := decide_eq_true hmem
  have hcounted : held c.key conn.counted = held c.key conn := rfl
  have hentered : Entered c.key conn.counted := ⟨h.operation_eq, h.subscription_eq⟩
  rw [← hp] at hnone he
  rw [BasicTcpConnection.receive_subscription hnone he, call, onConnection_run, hcounted]
  constructor
  · simp [Class.receive, hflag, hflag']
  · exact hentered.store

/-- What the connection does with a package for the subscription is what the subscription
does with the message in it. -/
theorem receive_simulated (c : Class child pending batch) (pb : SubscriptionProtobuf)
    (newGuid : Guid) (hp : p.correlationId = c.key) (h : Entered c.key conn) :
    Simulated c (ServerMessage.ofPackage pb p) conn
      ((BasicTcpConnection.receive (call c (ServerMessage.ofPackage pb p)) newGuid p).runOn
        conn) := by
  by_cases hmem : c.key ∈ conn.operations
  · exact receive_answer hp h hmem newGuid _
  by_cases hmem' : c.key ∈ conn.subscriptions
  · exact receive_entry hp h hmem hmem' newGuid _
  have hflag : (held c.key conn).unsubscribing = false := decide_eq_false hmem
  have hflag' : (held c.key conn).registered = false := decide_eq_false hmem'
  rw [← hp] at hmem hmem'
  rcases BasicTcpConnection.receive_other (call c (ServerMessage.ofPackage pb p)) newGuid
    hmem hmem' with ⟨sent, hsent⟩
  rw [hsent]
  constructor
  · simp only [Class.receive, Handler.runOn_bind, Handler.runOn_get, hflag, hflag',
      Bool.false_eq_true, if_false, Handler.runOn_pure]
    rfl
  · exact ⟨h.operation_eq, h.subscription_eq⟩

end Dispatch

end Subscription
end EventStoreClient
