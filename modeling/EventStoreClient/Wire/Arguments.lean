import EventStoreClient.Wire.Read

/-!
# Calls of the encoder

What a constructor of `tcp_package` is called with, and the frame that it writes if it
accepts the flags.
-/

namespace EventStoreClient
namespace Wire

open Foundation

theorem TcpPackage.header_length (length : Nat) (command : TcpCommand) (flags : TcpFlags)
    (correlationId : Guid) :
    (TcpPackage.header length command flags correlationId).length = kMandatorySize := by
  simp [TcpPackage.header, correlationId.size_eq, kMandatorySize, kAuthOffset,
    kCorrelationOffset, kFlagsOffset, kCommandOffset, kLengthOffset]

/-- The arguments of a constructor of `tcp_package`.  `credentials` selects the
overload. -/
structure Arguments where
  command : TcpCommand
  flags : TcpFlags
  correlationId : Guid
  credentials : Option (Bytes × Bytes)
  message : Bytes
  deriving DecidableEq, Repr

namespace Arguments

def package (a : Arguments) : TcpPackage :=
  match a.credentials with
  | none =>
      TcpPackage.unauthenticated a.command a.flags a.correlationId a.message
  | some (login, password) =>
      TcpPackage.authenticated a.command a.flags a.correlationId login password
        a.message

def credentialBytes (a : Arguments) : Bytes :=
  a.credentials.elim [] fun c => TcpPackage.credentials c.1 c.2

def bodyLength (a : Arguments) : Nat :=
  18 + a.credentialBytes.length + a.message.length

def frame (a : Arguments) : Bytes :=
  TcpPackage.header a.bodyLength a.command a.flags a.correlationId ++
    a.credentialBytes ++ a.message

/-- The flag each constructor asks for before it allocates anything. -/
def Constructed (a : Arguments) : Prop :=
  a.flags.byte &&& TcpFlags.authenticated.byte ≠ 0 <-> a.credentials.isSome = true

/-!
# The two constructors

What either constructor call leaves, in terms of the arguments alone.
-/

theorem package_of_constructed {a : Arguments} (h : a.Constructed) :
    a.package = { package := some a.frame, length := a.bodyLength } := by
  unfold Constructed at h
  unfold package frame bodyLength credentialBytes
  cases hcred : a.credentials with
  | none =>
      rw [hcred] at h
      have hflag : a.flags.byte &&& TcpFlags.authenticated.byte = 0 := by
        simpa using h
      simp [TcpPackage.unauthenticated, hflag]
  | some c =>
      rcases c with ⟨login, password⟩
      rw [hcred] at h
      have hflag : a.flags.byte &&& TcpFlags.authenticated.byte ≠ 0 := by
        simpa using h
      have hlength : 18 + 1 + login.length + 1 + password.length + a.message.length =
          18 + (TcpPackage.credentials login password).length + a.message.length := by
        simp [TcpPackage.credentials]
        omega
      simp [TcpPackage.authenticated, hflag, hlength]

theorem package_of_not_constructed {a : Arguments} (h : ¬ a.Constructed) :
    a.package = { package := none, length := 0 } := by
  unfold Constructed at h
  unfold package
  cases hcred : a.credentials with
  | none =>
      rw [hcred] at h
      have hflag : a.flags.byte &&& TcpFlags.authenticated.byte ≠ 0 := by
        simpa using h
      simp [TcpPackage.unauthenticated, hflag]
  | some c =>
      rcases c with ⟨login, password⟩
      rw [hcred] at h
      have hflag : a.flags.byte &&& TcpFlags.authenticated.byte = 0 := by
        simpa using h
      simp [TcpPackage.authenticated, hflag]

theorem frame_length (a : Arguments) : a.frame.length = a.bodyLength + 4 := by
  rw [frame, List.length_append, List.length_append, TcpPackage.header_length, bodyLength,
    show kMandatorySize = 22 from rfl]
  omega

theorem frame_take (a : Arguments) : a.frame.take 4 = leBytes 4 a.bodyLength := by
  simp only [frame, TcpPackage.header, List.append_assoc]
  exact List.take_left' (leBytes_length 4 a.bodyLength)

/-!
# Frames that the reader accepts

The length prefix of a frame, and the bounds of the reader, in terms of the length of the
body.
-/

theorem frame_lengthPrefix {a : Arguments} (hmax : a.bodyLength ≤ kMaxPackageSize) :
    lengthPrefix a.frame = (a.bodyLength : Int) := by
  have hsmall : a.bodyLength < 2 ^ 31 := lt_of_le_of_lt hmax (by decide)
  rw [lengthPrefix, frame_take, leNat_leBytes, Nat.mod_eq_of_lt (by omega),
    signed32_of_lt hsmall]

theorem lengthInRange_iff (a : Arguments) :
    LengthInRange (a.bodyLength : Int) <-> a.bodyLength ≤ kMaxPackageSize := by
  have hmin : 18 ≤ a.bodyLength := by
    unfold bodyLength
    omega
  have hmandatory : ((kMandatorySize - kCommandOffset : Nat) : Int) = 18 := rfl
  unfold LengthInRange
  rw [hmandatory]
  constructor
  · intro h
    exact Int.ofNat_le.mp h.right
  · intro h
    constructor
    · omega
    · exact Int.ofNat_le.mpr h

end Arguments

end Wire
end EventStoreClient
