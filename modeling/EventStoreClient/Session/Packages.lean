import EventStoreClient.Connection.Send
import EventStoreClient.Foundation.Pipes
import EventStoreClient.Operations.Conversation

/-!
# Packages in a stream

What a reader has of a stream of packages while a part of it is still to come.
-/

namespace EventStoreClient

open Foundation Wire

namespace Connection

namespace Package

def arguments (p : Package) : Arguments :=
  { command := p.command
    flags := if p.credentials.isSome then TcpFlags.authenticated else TcpFlags.none
    correlationId := p.correlationId
    credentials := p.credentials
    message := p.message }

def bytes (p : Package) : Bytes := p.arguments.frame

theorem arguments_constructed (p : Package) : p.arguments.Constructed := by
  unfold Arguments.Constructed arguments
  cases hcred : p.credentials.isSome with
  | false => simp [TcpFlags.none]
  | true => simp [TcpFlags.authenticated]

def sendable (p : Package) : Sendable :=
  { package := p.arguments.package
    bytes := p.bytes
    owns := by
      rw [Arguments.package_of_constructed p.arguments_constructed]
      rfl }

def Framed (p : Package) : Prop := p.arguments.bodyLength ≤ kMaxPackageSize

structure Readable (p : Package) : Prop where
  login_le : forall c, c ∈ p.credentials -> c.1.length ≤ 255
  password_le : forall c, c ∈ p.credentials -> c.2.length ≤ 255
  notInRange : ¬ p.Framed -> ¬ LengthInRange (lengthPrefix p.bytes)

theorem bodyLength_eq (p : Package) :
    p.arguments.bodyLength =
      18 + (p.credentials.elim 0 fun c => 1 + c.1.length + 1 + c.2.length) +
        p.message.length := by
  unfold Arguments.bodyLength Arguments.credentialBytes arguments
  cases hcred : p.credentials with
  | none => simp
  | some c =>
      simp [TcpPackage.credentials]
      omega

def outgoing (p : Package) (hreadable : p.Readable) (hframed : p.Framed) : Outgoing :=
  { command := p.command
    correlationId := p.correlationId
    credentials := p.credentials
    message := p.message
    login_le := hreadable.login_le
    password_le := hreadable.password_le
    body_le := p.bodyLength_eq ▸ hframed }

theorem four_le_bytes (p : Package) : 4 ≤ p.bytes.length := by
  have hlength := p.arguments.frame_length
  rw [bytes]
  omega

end Package

end Connection

namespace Wire

open Connection

namespace Outgoing

theorem login_le_none :
    forall c : Bytes × Bytes, c ∈ (none : Option (Bytes × Bytes)) -> c.1.length ≤ 255 :=
  fun c h => absurd h (Option.not_mem_none c)

theorem password_le_none :
    forall c : Bytes × Bytes, c ∈ (none : Option (Bytes × Bytes)) -> c.2.length ≤ 255 :=
  fun c h => absurd h (Option.not_mem_none c)

def ofServer (command : TcpCommand) (correlationId : Guid) (message : Bytes)
    (hmessage : 18 + message.length ≤ kMaxPackageSize) : Outgoing :=
  { command := command
    correlationId := correlationId
    credentials := none
    message := message
    login_le := login_le_none
    password_le := password_le_none
    body_le := hmessage }

def received (p : Outgoing) : Package :=
  { command := p.command
    correlationId := p.correlationId
    message := p.message
    credentials := p.credentials }

theorem received_bytes (p : Outgoing) : p.received.bytes = p.package.bytes := by
  rw [p.package_eq]
  rfl

theorem received_framed (p : Outgoing) : p.received.Framed := p.bodyLength_le

theorem received_readable (p : Outgoing) : p.received.Readable where
  login_le := p.login_le
  password_le := p.password_le
  notInRange := fun h => absurd p.received_framed h

end Outgoing

end Wire

namespace Session

open Connection Operations

/-!
# Readers

A package that is cut off, or too long, is not handed over; a reader that stops at once
hands over nothing.
-/

theorem lengthPrefix_eq_of_start {bytes all : Bytes} (hstart : bytes <+: all)
    (hlong : 4 ≤ bytes.length) : lengthPrefix bytes = lengthPrefix all := by
  rcases hstart with ⟨rest, rfl⟩
  rw [lengthPrefix_append hlong]

theorem frames_of_stops (buffer : DynamicBuffer) {socket : Socket} {e : Error} {left : Bytes}
    (hstops : Stops socket.failure socket.bytes e left) :
    (asyncStartReceive buffer socket).frames = [] := by
  rw [asyncStartReceive_error (readTcpPackageOp_stops buffer hstops).left]

theorem stops_of_part {p : Package} (hreadable : p.Readable) {socket : Socket} {rest : Bytes}
    (hbytes : socket.bytes <+: p.bytes ++ rest)
    (hpart : p.Framed -> socket.bytes.length < p.bytes.length) :
    exists e left, Stops socket.failure socket.bytes e left := by
  rcases Nat.lt_or_ge socket.bytes.length 4 with hshort | hlong
  · exact ⟨_, _, Stops.truncatedPrefix hshort⟩
  · have hsame : lengthPrefix socket.bytes = lengthPrefix p.bytes := by
      rw [lengthPrefix_eq_of_start hbytes hlong, lengthPrefix_append p.four_le_bytes]
    by_cases hframed : p.Framed
    · have hlength : lengthPrefix p.bytes = (p.arguments.bodyLength : Int) :=
        Arguments.frame_lengthPrefix hframed
      have hcut := hpart hframed
      have hframe : p.bytes.length = p.arguments.bodyLength + 4 := p.arguments.frame_length
      refine ⟨_, _, Stops.truncatedBody hlong ?_ ?_⟩
      · rw [hsame, hlength]
        exact p.arguments.lengthInRange_iff.mpr hframed
      · rw [hsame, hlength]
        omega
    · refine ⟨_, _, Stops.badLengthPrefix hlong ?_⟩
      rw [hsame]
      exact hreadable.notInRange hframed

/-- Of a stream of packages that has arrived in part, a reader has the first packages, and
all of them if they have arrived and none is too long. -/
theorem frames_of_start {packages : List Package}
    (hreadable : forall p, p ∈ packages -> p.Readable) (buffer : DynamicBuffer)
    (socket : Socket) (hbytes : socket.bytes <+: packages.flatMap Package.bytes) :
    exists read : List Outgoing,
      List.Forall₂ ReadBack read (asyncStartReceive buffer socket).frames ∧
        read.map Outgoing.received <+: packages ∧
        (socket.bytes = packages.flatMap Package.bytes ->
          (forall p, p ∈ packages -> p.Framed) -> read.map Outgoing.received = packages) := by
  induction packages generalizing buffer socket with
  | nil =>
      have hempty : socket.bytes = [] := List.prefix_nil.mp hbytes
      have hshort : socket.bytes.length < 4 := by
        rw [hempty]
        exact Nat.zero_lt_succ 3
      rw [frames_of_stops buffer (Stops.truncatedPrefix hshort)]
      exact ⟨[], List.Forall₂.nil, List.prefix_rfl, fun _ _ => rfl⟩
  | cons p packages ih =>
      rw [List.flatMap_cons] at hbytes
      rw [List.forall_mem_cons] at hreadable
      by_cases hwhole : p.Framed ∧ p.bytes.length ≤ socket.bytes.length
      · rcases hwhole with ⟨hframed, hlength⟩
        rcases List.prefix_of_prefix_length_le (List.prefix_append _ _) hbytes hlength with
          ⟨rest, hrest⟩
        let q := p.outgoing hreadable.left hframed
        have hq : q.package.bytes = p.bytes := q.received_bytes.symm
        rw [← hrest, List.prefix_append_right_inj] at hbytes
        rw [← hq] at hrest
        rcases readTcpPackageOp_outgoing buffer hrest.symm with ⟨hec, hread, hleft, _⟩
        rw [← hleft] at hbytes
        rcases ih hreadable.right (readTcpPackageOp buffer socket).buffer
          (readTcpPackageOp buffer socket).socket hbytes with ⟨read, hframes, hfirst, hall⟩
        rw [asyncStartReceive_frame hec]
        refine ⟨q :: read, List.Forall₂.cons hread hframes, ?_, ?_⟩
        · rw [List.map_cons]
          exact (List.prefix_cons_inj p).mpr hfirst
        · intro hsame hframed'
          rw [List.forall_mem_cons] at hframed'
          rw [← hrest, hq, List.flatMap_cons, List.append_right_inj, ← hleft] at hsame
          rw [List.map_cons, hall hsame hframed'.right]
          rfl
      · have hpart : p.Framed -> socket.bytes.length < p.bytes.length :=
          fun hframed => Nat.lt_of_not_le fun h => hwhole ⟨hframed, h⟩
        rcases stops_of_part hreadable.left hbytes hpart with ⟨e, left, hstops⟩
        rw [frames_of_stops buffer hstops]
        refine ⟨[], List.Forall₂.nil, List.nil_prefix, ?_⟩
        intro hsame hframed
        have hcut := hpart (hframed p List.mem_cons_self)
        rw [hsame, List.flatMap_cons, List.length_append] at hcut
        omega

/-!
# What the readers make of the frames

A package as the accessors of its view give it, and the request in it.
-/

def readPackage (view : TcpPackageView) : Option Package :=
  match view.command?, view.correlationId?, readCredentials view, view.message? with
  | some command, some correlationId, some credentials, some message =>
      some
        { command := command
          correlationId := correlationId
          message := message
          credentials := credentials }
  | _, _, _, _ => none

def requestOf (p : Package) : Option ReadRequest :=
  (readMessage p.command p.message).map fun request =>
    { correlationId := p.correlationId
      credentials := p.credentials
      request := request }

theorem readPackage_decoded {p : Outgoing} {view : TcpPackageView} (h : p.Decoded view) :
    readPackage view = some p.received := by
  rw [readPackage, h.command, h.correlationId, readCredentials_decoded h, h.message]
  rfl

theorem readRequest_requestOf {p : Outgoing} {view : TcpPackageView} (h : p.Decoded view) :
    readRequest view = requestOf p.received := by
  rw [readRequest, h.command, h.correlationId, readCredentials_decoded h, h.message]
  rfl

theorem map_readBack {result : Type u} {read : List Outgoing} {frames : List Frame}
    (h : List.Forall₂ ReadBack read frames) {view : TcpPackageView -> result}
    {value : Package -> result}
    (hvalue : forall (p : Outgoing) v, p.Decoded v -> view v = value p.received)
    (beyond : Nat -> UInt8) :
    frames.map (fun frame => view (frameView beyond frame)) =
      (read.map Outgoing.received).map value := by
  induction h with
  | nil => rfl
  | cons hread _ ih =>
      have hfirst := hvalue _ _ (hread.decoded beyond)
      rw [List.map_cons, List.map_cons, List.map_cons, ih, ← hfirst]
      rfl

end Session
end EventStoreClient
