import EventStoreClient.Wire.Arguments
import EventStoreClient.Wire.ViewGrammar

/-!
# Round trip of a conversation

What the constructors write, the reader cuts into the same packages, and the view
over each frame gives back what the constructor was called with.
-/

namespace EventStoreClient
namespace Wire

open Foundation

/-!
# Packages that fit the format

Both constructors reach the allocation and write the frame.
-/

/-- The arguments of a constructor call.  `credentials` selects the constructor: the
unauthenticated one without flags, or the authenticated one with its flag. -/
structure Outgoing where
  command : TcpCommand
  correlationId : Guid
  credentials : Option (Bytes × Bytes)
  message : Bytes
  login_le : forall c, c ∈ credentials -> c.1.length ≤ 255
  password_le : forall c, c ∈ credentials -> c.2.length ≤ 255
  body_le : 18 + (credentials.elim 0 fun c => 1 + c.1.length + 1 + c.2.length) +
    message.length ≤ kMaxPackageSize

namespace Outgoing

def flags (p : Outgoing) : TcpFlags :=
  if p.credentials.isSome then TcpFlags.authenticated else TcpFlags.none

def package (p : Outgoing) : TcpPackage :=
  match p.credentials with
  | none =>
      TcpPackage.unauthenticated p.command p.flags p.correlationId p.message
  | some (login, password) =>
      TcpPackage.authenticated p.command p.flags p.correlationId login password
        p.message

/-- Login and password behind their size bytes, if the package has any. -/
def credentialBytes (p : Outgoing) : Bytes :=
  p.credentials.elim [] fun c => TcpPackage.credentials c.1 c.2

def bodyLength (p : Outgoing) : Nat :=
  18 + p.credentialBytes.length + p.message.length

def frame (p : Outgoing) : Bytes :=
  TcpPackage.header p.bodyLength p.command p.flags p.correlationId ++
    p.credentialBytes ++ p.message

theorem bodyLength_le (p : Outgoing) : p.bodyLength ≤ kMaxPackageSize := by
  have h := p.body_le
  unfold bodyLength credentialBytes
  cases hcred : p.credentials with
  | none => simpa [hcred] using h
  | some c =>
      simp [hcred] at h
      simp [TcpPackage.credentials]
      omega

def arguments (p : Outgoing) : Arguments :=
  { command := p.command
    flags := p.flags
    correlationId := p.correlationId
    credentials := p.credentials
    message := p.message }

theorem arguments_constructed (p : Outgoing) : p.arguments.Constructed := by
  unfold Arguments.Constructed arguments flags
  cases hcred : p.credentials.isSome with
  | false => simp [TcpFlags.none, TcpFlags.authenticated]
  | true => simp [TcpFlags.authenticated]

theorem package_eq (p : Outgoing) :
    p.package = { package := some p.frame, length := p.bodyLength } :=
  Arguments.package_of_constructed p.arguments_constructed

theorem frame_length (p : Outgoing) : p.frame.length = p.bodyLength + 4 :=
  p.arguments.frame_length

end Outgoing

/-!
# The frame on the wire

The prefix of a frame is the length of its body; behind the frame memory holds anything.
-/

namespace Outgoing

variable (p : Outgoing)

theorem frame_lengthPrefix : lengthPrefix p.frame = (p.bodyLength : Int) :=
  Arguments.frame_lengthPrefix (a := p.arguments) p.bodyLength_le

theorem frame_inRange : LengthInRange (lengthPrefix p.frame) := by
  rw [frame_lengthPrefix]
  exact p.arguments.lengthInRange_iff.mpr p.bodyLength_le

def memory (beyond : Nat -> UInt8) : Nat -> UInt8 := place p.frame beyond

theorem memory_command (beyond : Nat -> UInt8) :
    p.memory beyond kCommandOffset = p.command.byte := by
  have h := place_singleton (leBytes 4 p.bodyLength) p.command.byte
    ([p.flags.byte] ++ p.correlationId.data ++ p.credentialBytes ++ p.message) beyond
  simpa [memory, frame, TcpPackage.header, kCommandOffset, kLengthOffset] using h

theorem memory_flags (beyond : Nat -> UInt8) :
    p.memory beyond kFlagsOffset = p.flags.byte := by
  have h := place_singleton (leBytes 4 p.bodyLength ++ [p.command.byte]) p.flags.byte
    (p.correlationId.data ++ p.credentialBytes ++ p.message) beyond
  simpa [memory, frame, TcpPackage.header, kFlagsOffset, kCommandOffset,
    kLengthOffset] using h

theorem memory_correlationId (beyond : Nat -> UInt8) :
    slice (p.memory beyond) kCorrelationOffset 16 = p.correlationId.data := by
  have h := slice_place (leBytes 4 p.bodyLength ++ [p.command.byte] ++ [p.flags.byte])
    p.correlationId.data (p.credentialBytes ++ p.message) beyond
  simpa [memory, frame, TcpPackage.header, p.correlationId.size_eq,
    kCorrelationOffset, kFlagsOffset, kCommandOffset, kLengthOffset] using h

theorem memory_message (beyond : Nat -> UInt8) :
    slice (p.memory beyond) (kMandatorySize + p.credentialBytes.length)
      p.message.length = p.message := by
  have h := slice_place
    (TcpPackage.header p.bodyLength p.command p.flags p.correlationId ++
      p.credentialBytes) p.message [] beyond
  rw [List.length_append, TcpPackage.header_length, List.append_nil] at h
  exact h

theorem flaggedAuthenticated_iff (beyond : Nat -> UInt8) :
    FlaggedAuthenticated (p.memory beyond) <-> p.credentials.isSome = true := by
  rw [FlaggedAuthenticated, memory_flags, flags]
  cases hcred : p.credentials.isSome with
  | false => simp [TcpFlags.none, TcpFlags.authenticated]
  | true => simp

/-!
With credentials the two size bytes are the sizes, because neither exceeds a byte.
-/

section Credentials

variable {p} {login password : Bytes} (hcred : p.credentials = some (login, password))

include hcred

theorem credentialBytes_eq :
    p.credentialBytes = [UInt8.ofNat login.length] ++ login ++
      [UInt8.ofNat password.length] ++ password := by
  simp [credentialBytes, hcred, TcpPackage.credentials]

theorem memory_loginSize (beyond : Nat -> UInt8) :
    loginSizeOf (p.memory beyond) = login.length := by
  have hle := p.login_le (login, password) (by rw [hcred]; rfl)
  have h := place_singleton
    (TcpPackage.header p.bodyLength p.command p.flags p.correlationId)
    (UInt8.ofNat login.length)
    (login ++ [UInt8.ofNat password.length] ++ password ++ p.message) beyond
  rw [TcpPackage.header_length] at h
  have hbyte : p.memory beyond kAuthOffset = UInt8.ofNat login.length := by
    simpa [memory, frame, credentialBytes_eq hcred, kMandatorySize] using h
  rw [loginSizeOf, hbyte]
  exact UInt8.toNat_ofNat_of_lt' (by simpa using Nat.lt_succ_of_le hle)

theorem memory_login (beyond : Nat -> UInt8) :
    slice (p.memory beyond) TcpPackageView.loginOffset login.length = login := by
  have h := slice_place
    (TcpPackage.header p.bodyLength p.command p.flags p.correlationId ++
      [UInt8.ofNat login.length]) login
    ([UInt8.ofNat password.length] ++ password ++ p.message) beyond
  rw [List.length_append, TcpPackage.header_length] at h
  simpa [memory, frame, credentialBytes_eq hcred, kMandatorySize,
    TcpPackageView.loginOffset] using h

theorem memory_passwordSize (beyond : Nat -> UInt8) :
    passwordSizeOf (p.memory beyond) = password.length := by
  have hle := p.password_le (login, password) (by rw [hcred]; rfl)
  have h := place_singleton
    (TcpPackage.header p.bodyLength p.command p.flags p.correlationId ++
      ([UInt8.ofNat login.length] ++ login))
    (UInt8.ofNat password.length) (password ++ p.message) beyond
  have hindex : kMandatorySize + ([UInt8.ofNat login.length] ++ login).length =
      kAuthOffset + 1 + login.length := by
    simp [kMandatorySize, kAuthOffset]
    omega
  rw [List.length_append, TcpPackage.header_length, hindex] at h
  have hbyte : p.memory beyond (kAuthOffset + 1 + login.length) =
      UInt8.ofNat password.length := by
    simpa [memory, frame, credentialBytes_eq hcred] using h
  rw [passwordSizeOf, memory_loginSize hcred, hbyte]
  exact UInt8.toNat_ofNat_of_lt' (by simpa using Nat.lt_succ_of_le hle)

theorem memory_password (beyond : Nat -> UInt8) :
    slice (p.memory beyond) (TcpPackageView.loginOffset + login.length + 1)
      password.length = password := by
  have h := slice_place
    (TcpPackage.header p.bodyLength p.command p.flags p.correlationId ++
      ([UInt8.ofNat login.length] ++ login ++ [UInt8.ofNat password.length])) password
    p.message beyond
  have hindex : kMandatorySize +
      ([UInt8.ofNat login.length] ++ login ++ [UInt8.ofNat password.length]).length =
        TcpPackageView.loginOffset + login.length + 1 := by
    simp [kMandatorySize, TcpPackageView.loginOffset, kAuthOffset]
    omega
  rw [List.length_append, TcpPackage.header_length, hindex] at h
  simpa [memory, frame, credentialBytes_eq hcred] using h

end Credentials

theorem memory_messageStart (beyond : Nat -> UInt8) :
    messageStart (p.memory beyond) = kMandatorySize + p.credentialBytes.length := by
  unfold messageStart
  cases hcred : p.credentials with
  | none =>
      have hplain : ¬ FlaggedAuthenticated (p.memory beyond) := by
        rw [flaggedAuthenticated_iff, hcred]
        simp
      simp [hplain, credentialBytes, hcred]
  | some c =>
      rcases c with ⟨login, password⟩
      have hauth : FlaggedAuthenticated (p.memory beyond) := by
        rw [flaggedAuthenticated_iff, hcred]
        rfl
      rw [if_pos hauth, credentialsEnd, memory_loginSize hcred,
        memory_passwordSize hcred, credentialBytes_eq hcred]
      simp
      omega

theorem memory_grammar (beyond : Nat -> UInt8) :
    Grammar (p.memory beyond) p.frame.length := by
  have hstart := p.memory_messageStart beyond
  have hlength : p.frame.length =
      kMandatorySize + p.credentialBytes.length + p.message.length := by
    rw [frame, List.length_append, List.length_append, TcpPackage.header_length]
  constructor
  · omega
  · intro hauth
    have hend : credentialsEnd (p.memory beyond) ≤ p.frame.length := by
      rw [messageStart, if_pos hauth] at hstart
      omega
    constructor
    · simp only [credentialsEnd, kMandatorySize] at hend
      constructor <;> omega
    · exact hend

/-!
# The view over the frame

The view gives the arguments back, whatever lies in memory behind the frame.
-/

theorem frame_toNat : (UInt64.ofNat p.frame.length).toNat = p.frame.length := by
  have hmax := p.bodyLength_le
  have hlength := p.frame_length
  apply UInt64.toNat_ofNat_of_lt
  have hsmall : kMaxPackageSize + 4 < UInt64.size := by decide
  omega

theorem frame_grammar (beyond : Nat -> UInt8) :
    Grammar (p.memory beyond) (UInt64.ofNat p.frame.length).toNat := by
  rw [frame_toNat]
  exact p.memory_grammar beyond

/-- The view over a frame gives back the arguments of the constructor call. -/
structure Decoded (v : TcpPackageView) : Prop where
  valid : v.isValid = true
  command : v.command? = some p.command
  flags : v.flags? = some p.flags
  correlationId : v.correlationId? = some p.correlationId
  isAuthenticated : v.isAuthenticated? = some p.credentials.isSome
  credentials : forall c, c ∈ p.credentials ->
    v.login? = some c.1 ∧ v.password? = some c.2
  message : v.message? = some p.message
  size : v.size = UInt64.ofNat p.package.size

theorem frame_decoded (beyond : Nat -> UInt8) :
    p.Decoded (TcpPackageView.of (p.memory beyond) (UInt64.ofNat p.frame.length)) := by
  have hgood := p.frame_grammar beyond
  have hstart := p.memory_messageStart beyond
  have hpackage : (TcpPackageView.of (p.memory beyond)
      (UInt64.ofNat p.frame.length)).package = some (p.memory beyond) := by
    rw [TcpPackageView.of_package, if_pos hgood]
  have hmessageSize : p.frame.length - messageStart (p.memory beyond) =
      p.message.length := by
    rw [hstart, frame, List.length_append, List.length_append, TcpPackage.header_length]
    omega
  have hfits : p.message.length < 2 ^ 32 := by
    have hmax := p.body_le
    have hsmall : kMaxPackageSize < 2 ^ 32 := by decide
    omega
  constructor
  · exact (TcpPackageView.of_isValid_iff _ _).mpr hgood
  · simp [TcpPackageView.command?, TcpPackageView.at?, hpackage, memory_command]
  · simp [TcpPackageView.flags?, TcpPackageView.at?, hpackage, memory_flags]
  · simp [TcpPackageView.correlationId?, hpackage, memory_correlationId]
  · rw [TcpPackageView.isAuthenticated?_eq hpackage]
    simp [p.flaggedAuthenticated_iff beyond]
  · rintro ⟨login, password⟩ hcred
    have hcred' : p.credentials = some (login, password) := hcred
    constructor
    · simp [TcpPackageView.login?, TcpPackageView.loginSize?_eq hpackage,
        TcpPackageView.bytesAt?, hpackage, memory_loginSize hcred',
        memory_login hcred']
    · simp [TcpPackageView.password?, TcpPackageView.passwordOffset?_eq hpackage,
        TcpPackageView.passwordSize?_eq hpackage, TcpPackageView.bytesAt?, hpackage,
        memory_loginSize hcred', memory_passwordSize hcred', memory_password hcred']
  · have hsize := TcpPackageView.messageSize?_of hgood
    rw [frame_toNat, hmessageSize, Nat.mod_eq_of_lt hfits] at hsize
    simp [TcpPackageView.message?, TcpPackageView.messageOffset?_eq hpackage, hsize,
      TcpPackageView.bytesAt?, hpackage, hstart, memory_message]
  · rw [TcpPackageView.size, TcpPackageView.of_length, UInt64.sub_add_cancel,
      frame_length, package_eq]
    rfl

end Outgoing

/-!
# The whole conversation

One operation reads one package, and leaves the stream at the next one.
-/

/-- What the reader handed over for a package: its bytes and its size, so that the
view `async_start_receive` constructs decodes to the package. -/
structure ReadBack (p : Outgoing) (frame : Frame) : Prop where
  bytes : frame.bytes = p.package.bytes
  size : frame.size = p.package.size
  decoded : forall beyond : Nat -> UInt8,
    p.Decoded (TcpPackageView.of (place frame.bytes beyond) (UInt64.ofNat frame.size))

theorem readTcpPackageOp_outgoing (buffer : DynamicBuffer) {socket : Socket}
    {p : Outgoing} {rest : Bytes} (hbytes : socket.bytes = p.package.bytes ++ rest) :
    let read := readTcpPackageOp buffer socket
    read.ec = none ∧
      ReadBack p { size := read.count, bytes := read.buffer.data } ∧
      read.socket.bytes = rest ∧
      read.socket.failure = socket.failure := by
  have hframe : p.package.bytes = p.frame := by
    rw [p.package_eq]
    rfl
  have hlong : 4 ≤ p.frame.length := by
    rw [p.frame_length]
    omega
  have hframeLength : lengthPrefix p.frame = ((p.frame.length - 4 : Nat) : Int) := by
    rw [p.frame_lengthPrefix, p.frame_length, Nat.add_sub_cancel]
  have hsize : p.frame.length = p.package.size := by
    rw [p.package_eq, p.frame_length]
    rfl
  rw [hframe] at hbytes
  rcases readTcpPackageOp_frame buffer hbytes hlong p.frame_inRange hframeLength with
    ⟨hec, hcount, hdata, hsocket, hfailure⟩
  refine ⟨hec, ?_, hsocket, hfailure⟩
  constructor
  · exact hdata.trans hframe.symm
  · exact hcount.trans hsize
  · intro beyond
    rw [hdata, hcount]
    exact p.frame_decoded beyond

/-- Writing any packages one after another and reading them back gives the same
packages in the same order and leaves no bytes, whatever pieces the stream is cut
into and whatever the buffer held before. -/
theorem asyncStartReceive_outgoing (packages : List Outgoing) (buffer : DynamicBuffer)
    (socket : Socket)
    (hbytes : socket.bytes = packages.flatMap fun p => p.package.bytes) :
    List.Forall₂ ReadBack packages (asyncStartReceive buffer socket).frames ∧
      (asyncStartReceive buffer socket).error = Error.asio socket.failure ∧
      (asyncStartReceive buffer socket).left = [] := by
  induction packages generalizing buffer socket with
  | nil =>
      have hempty : socket.bytes.length < 4 := by
        rw [hbytes]
        simp
      rcases readInto_of_lt (buffer.consume buffer.size) hempty with
        ⟨hfail, hleft⟩
      have hop : readTcpPackageOp buffer socket =
          readInto (buffer.consume buffer.size) socket 4 := by
        rw [readTcpPackageOp, lengthCheckHandler, hfail]
      rw [asyncStartReceive_error (hop ▸ hfail), hop]
      exact ⟨List.Forall₂.nil, rfl, hleft⟩
  | cons p packages ih =>
      rw [List.flatMap_cons] at hbytes
      rcases readTcpPackageOp_outgoing buffer hbytes with
        ⟨hec, hread, hrest, hfailure⟩
      rcases ih (readTcpPackageOp buffer socket).buffer
        (readTcpPackageOp buffer socket).socket hrest with ⟨hlater, herror, hleft⟩
      rw [asyncStartReceive_frame hec]
      exact ⟨List.Forall₂.cons hread hlater, herror.trans (by rw [hfailure]), hleft⟩

/-- A heartbeat request and an identification with credentials, cut into single bytes. -/
def heartbeatThenIdentify : List Outgoing :=
  [{ command := TcpCommand.heartbeatRequestCommand
     correlationId := Guid.ofByte 1
     credentials := none
     message := []
     login_le := by simp
     password_le := by simp
     body_le := by decide },
   { command := TcpCommand.identifyClient
     correlationId := Guid.ofByte 2
     credentials := some ([97, 100], [109])
     message := [8, 1]
     login_le := by simp
     password_le := by simp
     body_le := by decide }]

theorem asyncStartReceive_heartbeatThenIdentify :
    List.Forall₂ ReadBack heartbeatThenIdentify
      (asyncStartReceive (DynamicBuffer.ofVector [])
        { pieces := (heartbeatThenIdentify.flatMap fun p => p.package.bytes).map fun b => [b]
          failure := AsioErrors.eof }).frames :=
  (asyncStartReceive_outgoing heartbeatThenIdentify (DynamicBuffer.ofVector [])
    { pieces := (heartbeatThenIdentify.flatMap fun p => p.package.bytes).map fun b => [b]
      failure := AsioErrors.eof } (by decide)).left

end Wire
end EventStoreClient
