import EventStoreClient.Connection.Dispatch
import EventStoreClient.Wire.Read
import EventStoreClient.Wire.ViewGrammar

/-!
# The receive path

What `async_start_receive` does with a frame the reader has handed over.  The model
watches which accessors are called on the view, on a valid view or not, and which
entries are called.
-/

namespace EventStoreClient
namespace Connection

open Foundation Wire

/-!
# Watched accessors

Every call of an accessor of a view is recorded with what the view was.  A `none` is a
read through the null pointer, except for `data()`, which gives the pointer itself and
reads nothing.
-/

inductive Accessor where
  | command
  | correlationId
  | messageOffset
  | messageSize
  | data
  deriving DecidableEq, Repr

/-- The call of an accessor, and `is_valid()` of the view it was called on. -/
structure Access where
  accessor : Accessor
  isValid : Bool
  deriving DecidableEq, Repr

/-- The accessor calls and the calls of entries so far, next to the world the entries
work on. -/
structure Watch (world : Type) where
  accesses : List Access
  called : List Guid
  inner : world

abbrev Watched (entry world : Type) := BasicTcpConnection entry (Watch world)

variable {entry world : Type}

def BasicTcpConnection.watch (c : BasicTcpConnection entry world) : Watched entry world :=
  { c with world := { accesses := [], called := [], inner := c.world } }

def BasicTcpConnection.record (access : Access) (c : Watched entry world) :
    Watched entry world :=
  { c with world := { c.world with accesses := c.world.accesses ++ [access] } }

def enter (key : Guid) (h : Handler Fault (BasicTcpConnection entry world) Unit) :
    Handler Fault (Watched entry world) Unit :=
  fun c =>
    let after := h.runOn (c.mapWorld Watch.inner)
    (after.1, { after.2 with
      world := { c.world with
        called := c.world.called ++ [key]
        inner := after.2.world } })

def access (view : TcpPackageView) (accessor : Accessor) (value : Option alpha) :
    Handler Fault (Watched entry world) alpha := do
  modify (BasicTcpConnection.record
    { accessor := accessor
      isValid := view.isValid })
  match value with
  | some a => pure a
  | none => throw Fault.nullPackage

def command (view : TcpPackageView) : Handler Fault (Watched entry world) TcpCommand :=
  access view Accessor.command view.command?

def correlationId (view : TcpPackageView) : Handler Fault (Watched entry world) Guid :=
  access view Accessor.correlationId view.correlationId?

def messageOffset (view : TcpPackageView) : Handler Fault (Watched entry world) Nat :=
  access view Accessor.messageOffset view.messageOffset?

def messageSize (view : TcpPackageView) : Handler Fault (Watched entry world) Nat :=
  access view Accessor.messageSize view.messageSize?

def data (view : TcpPackageView) : Handler Fault (Watched entry world) Unit :=
  access view Accessor.data (some ())

/-!
# The handler of a frame

The completion handler of `async_start_receive`, accessor by accessor, with the arguments
of `ES_TRACE`.
-/

/-- The view over a frame, behind which lies whatever the memory holds. -/
def frameView (beyond : Nat -> UInt8) (frame : Frame) : TcpPackageView :=
  TcpPackageView.of (place frame.bytes beyond) (UInt64.ofNat frame.size)

/-- The arguments of `ES_TRACE`, which are evaluated at every log level. -/
def trace (view : TcpPackageView) : Handler Fault (Watched entry world) Unit := do
  let _ <- command view
  let _ <- messageOffset view
  let _ <- messageSize view
  data view
  let _ <- messageOffset view
  let _ <- messageSize view

/-- The completion handler of `async_start_receive`, for a read without an error.  An
entry is called under the id it was found with. -/
def onFrame (call : Guid -> entry -> Handler Fault (BasicTcpConnection entry world) Unit)
    (newGuid : Guid) (view : TcpPackageView) : Handler Fault (Watched entry world) Unit := do
  trace view
  BasicTcpConnection.onPackageReceived
    (fun key e => enter key (call key e)) newGuid (correlationId view) (command view)

/-!
# Accesses of a view

A valid view is only accessed as a valid view, whatever the entries do; an invalid view is
read at the first accessor, which is the end of it.
-/

def Watch.AllValid (w : Watch world) : Prop :=
  forall a, a ∈ w.accesses -> a.isValid = true

section Views

variable {view : TcpPackageView}

theorem keeps_access (hvalid : view.isValid = true) (accessor : Accessor)
    (value : Option alpha) :
    Handler.Keeps (fun c : Watched entry world => c.world.AllValid)
      (access view accessor value) := by
  refine Handler.keeps_bind (Handler.keeps_modify ?_) fun _ => ?_
  · intro c hc a ha
    rcases List.mem_append.mp ha with hold | hnew
    · exact hc a hold
    · rw [List.mem_singleton.mp hnew]
      exact hvalid
  · cases value with
    | none => exact Handler.keeps_throw _
    | some a => exact Handler.keeps_pure a

theorem keeps_enter (key : Guid)
    (h : Handler Fault (BasicTcpConnection entry world) Unit) :
    Handler.Keeps (fun c : Watched entry world => c.world.AllValid) (enter key h) :=
  fun _ hc => hc

theorem keeps_onFrame (hvalid : view.isValid = true)
    (call : Guid -> entry -> Handler Fault (BasicTcpConnection entry world) Unit)
    (newGuid : Guid) :
    Handler.Keeps (fun c : Watched entry world => c.world.AllValid)
      (onFrame call newGuid view) := by
  have haccess : forall (accessor : Accessor) {alpha : Type} (value : Option alpha),
      Handler.Keeps (fun c : Watched entry world => c.world.AllValid)
        (access view accessor value) :=
    fun accessor _ value => keeps_access hvalid accessor value
  have htrace : Handler.Keeps (fun c : Watched entry world => c.world.AllValid)
      (trace view) := by
    refine Handler.keeps_bind (haccess _ _) fun _ => ?_
    refine Handler.keeps_bind (haccess _ _) fun _ => ?_
    refine Handler.keeps_bind (haccess _ _) fun _ => ?_
    refine Handler.keeps_bind (haccess _ _) fun _ => ?_
    refine Handler.keeps_bind (haccess _ _) fun _ => ?_
    exact Handler.keeps_bind (haccess _ _) fun _ => Handler.keeps_pure _
  refine Handler.keeps_bind htrace fun _ => ?_
  exact BasicTcpConnection.keeps_onPackageReceived (fun key _ => keeps_enter key _)
    (haccess _ _) (haccess _ _)

theorem onFrame_invalid (hinvalid : view.isValid = false)
    (call : Guid -> entry -> Handler Fault (BasicTcpConnection entry world) Unit)
    (newGuid : Guid) (c : Watched entry world) :
    (onFrame call newGuid view).runOn c =
      (Except.error Fault.nullPackage,
        c.record { accessor := Accessor.command, isValid := false }) := by
  have hpackage : view.package = none := by
    simpa [TcpPackageView.isValid] using hinvalid
  have hcommand : view.command? = none := by
    simp [TcpPackageView.command?, TcpPackageView.at?, hpackage]
  simp [onFrame, trace, command, access, hcommand, hinvalid]

end Views

/-!
# Frames whose view is valid

A valid view decodes to a package.
-/

/-- No accessor is called on an invalid view, and a frame with an invalid view is
dropped, or closes the connection, without the call of an entry. -/
structure OnlyValidViews (view : TcpPackageView)
    (after : Except Fault Unit × Watched entry world) : Prop where
  accesses : after.2.world.AllValid
  invalid_dropped : view.isValid = false ->
    after.1 = Except.ok () ∧ after.2.world.called = []

/-- Whatever the connection and its entries: a frame is handled as it should be exactly
if it is in the grammar of the view, because nothing asks the view whether it is valid. -/
theorem onlyValidViews_iff
    (call : Guid -> entry -> Handler Fault (BasicTcpConnection entry world) Unit)
    (newGuid : Guid) (beyond : Nat -> UInt8) (frame : Frame)
    (c : BasicTcpConnection entry world) :
    OnlyValidViews (frameView beyond frame)
        ((onFrame call newGuid (frameView beyond frame)).runOn c.watch) <->
      Grammar (place frame.bytes beyond) (UInt64.ofNat frame.size).toNat := by
  rw [← TcpPackageView.of_isValid_iff, ← frameView]
  constructor
  · intro h
    cases hvalid : (frameView beyond frame).isValid with
    | true => rfl
    | false =>
        have haccesses := h.accesses
        rw [onFrame_invalid hvalid] at haccesses
        exact absurd
          (haccesses { accessor := Accessor.command, isValid := false }
            (List.mem_append_right _ (List.mem_singleton.mpr rfl)))
          (by decide)
  · intro hvalid
    exact
      { accesses := keeps_onFrame hvalid call newGuid c.watch (by
          intro a ha
          cases ha)
        invalid_dropped := by
          intro hinvalid
          rw [hvalid] at hinvalid
          cases hinvalid }

structure Decodes (view : TcpPackageView) (p : Package) : Prop where
  valid : view.isValid = true
  command : view.command? = some p.command
  correlationId : view.correlationId? = some p.correlationId
  message : view.message? = some p.message

theorem projects_access {view : TcpPackageView} (accessor : Accessor) (a : alpha) :
    Handler.Projects (BasicTcpConnection.mapWorld Watch.inner)
      (access view accessor (some a) : Handler Fault (Watched entry world) alpha)
      (pure a) := by
  intro c
  simp only [access, Handler.runOn_bind, Handler.runOn_modify, Handler.runOn_pure]
  rfl

theorem projects_enter (key : Guid)
    (h : Handler Fault (BasicTcpConnection entry world) Unit) :
    Handler.Projects (BasicTcpConnection.mapWorld Watch.inner) (enter key h) h :=
  fun _ => rfl

/-- Apart from the watch, the handler of a frame in the grammar is the reception of the
package its view decodes to. -/
theorem projects_onFrame {view : TcpPackageView} {p : Package} (hp : Decodes view p)
    (call : Guid -> entry -> Handler Fault (BasicTcpConnection entry world) Unit)
    (newGuid : Guid) :
    Handler.Projects (BasicTcpConnection.mapWorld Watch.inner)
      (onFrame call newGuid view)
      (BasicTcpConnection.receive call newGuid p) := by
  obtain ⟨package, hpackage⟩ : exists package, view.package = some package :=
    Option.isSome_iff_exists.mp hp.valid
  have hoffset := TcpPackageView.messageOffset?_eq hpackage
  obtain ⟨size, hsize⟩ : exists size, view.messageSize? = some size := by
    simp [TcpPackageView.messageSize?, hoffset]
  have htrace : Handler.Projects (BasicTcpConnection.mapWorld Watch.inner)
      (trace view : Handler Fault (Watched entry world) Unit) (pure ()) := by
    intro c
    simp [trace, command, messageOffset, messageSize, data, access, hp.command, hoffset,
      hsize]
    rfl
  have hreceive : Handler.Projects (BasicTcpConnection.mapWorld Watch.inner)
      (BasicTcpConnection.onPackageReceived (fun key e => enter key (call key e)) newGuid
        (correlationId view) (command view))
      (BasicTcpConnection.receive call newGuid p) := by
    apply BasicTcpConnection.projects_onPackageReceived
    · exact fun key e => projects_enter key (call key e)
    · rw [correlationId, hp.correlationId]
      exact projects_access _ _
    · rw [command, hp.command]
      exact projects_access _ _
  have hframe := Handler.projects_bind htrace fun _ => hreceive
  rw [pure_bind] at hframe
  exact hframe

/-- Frames of 22 bytes: nothing but a header, with the authenticated flag. -/
def bareAuthenticatedFrame : Bytes :=
  TcpPackage.header 18 TcpCommand.heartbeatRequestCommand TcpFlags.authenticated
    (Guid.ofByte 0)

def bareAuthenticatedSocket : Socket :=
  { pieces := [bareAuthenticatedFrame]
    failure := AsioErrors.eof }

/-- The reader accepts a bare authenticated header, the view rejects it, and the receive
path reads through the null pointer. -/
theorem bareAuthenticatedFrame_read_null :
    exists frame, frame ∈
        (asyncStartReceive (DynamicBuffer.ofVector []) bareAuthenticatedSocket).frames ∧
      ¬ OnlyValidViews (frameView (fun _ => 0) frame)
        ((onFrame (fun _ (_ : Unit) => pure ()) (Guid.ofByte 1)
          (frameView (fun _ => 0) frame)).runOn
            ({ packageNo := 0
               operations := ∅
               subscriptions := ∅
               sent := []
               world := () } : BasicTcpConnection Unit Unit).watch) := by
  refine ⟨{ size := 22, bytes := bareAuthenticatedFrame }, ?_, ?_⟩
  · rw [asyncStartReceive_frame (by decide)]
    exact List.mem_cons.mpr (Or.inl (by decide))
  · intro h
    have haccess := h.accesses { accessor := Accessor.command, isValid := false }
      (by decide)
    cases haccess

end Connection
end EventStoreClient
