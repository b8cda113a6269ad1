import EventStoreClient.Foundation.Bytes
import EventStoreClient.Wire.Commands

/-!
# Packages

The encoder of `tcp_package` and the decoder `tcp_package_view`, with the offsets
both take from the same constants.
-/

namespace EventStoreClient
namespace Wire

open Foundation

def kLengthOffset : Nat := 0
def kCommandOffset : Nat := kLengthOffset + 4
def kFlagsOffset : Nat := kCommandOffset + 1
def kCorrelationOffset : Nat := kFlagsOffset + 1
def kAuthOffset : Nat := kCorrelationOffset + 16
def kMandatorySize : Nat := kAuthOffset

def kMaxPackageSize : Nat := 64 * 1024 * 1024

/-!
# `tcp_package`

The two constructors, without and with credentials, and `data()` and `size()` as the write
operation uses them.
-/

/-- `tcp_package`: the allocated bytes, if the constructor got that far, and the
body length `length_`. -/
structure TcpPackage where
  package : Option Bytes
  length : Nat
  deriving DecidableEq, Repr

namespace TcpPackage

/-- The header the constructors write: the body length, which the `int` in front
of it keeps only the low 32 bits of, the command, the flags and the correlation id. -/
def header (length : Nat) (command : TcpCommand) (flags : TcpFlags)
    (correlationId : Guid) : Bytes :=
  leBytes 4 length ++ [command.byte] ++ [flags.byte] ++ correlationId.data

def unauthenticated (command : TcpCommand) (flags : TcpFlags)
    (correlationId : Guid) (message : Bytes) : TcpPackage :=
  if flags.byte &&& TcpFlags.authenticated.byte ≠ 0 then
    { package := none, length := 0 }
  else
    -- command, flag, correlation id, message
    let length := 18 + message.length
    { package := some (header length command flags correlationId ++ message)
      length := length }

/-- The login and the password, each behind one byte that holds its size. -/
def credentials (login password : Bytes) : Bytes :=
  [UInt8.ofNat login.length] ++ login ++ [UInt8.ofNat password.length] ++ password

def authenticated (command : TcpCommand) (flags : TcpFlags)
    (correlationId : Guid) (login password message : Bytes) : TcpPackage :=
  if flags.byte &&& TcpFlags.authenticated.byte = 0 then
    { package := none, length := 0 }
  else
    -- command, flag, correlation id, login_size, login, password_size, password, message
    let length := 18 + 1 + login.length + 1 + password.length + message.length
    { package := some (header length command flags correlationId ++
        credentials login password ++ message)
      length := length }

def size (p : TcpPackage) : Nat := p.length + 4

def bytes (p : TcpPackage) : Bytes := p.package.getD []

/-- `is_header_valid()`: the header read as an `int` against `length_` narrowed to one. -/
def isHeaderValid (p : TcpPackage) : Bool :=
  signed32 (leNat (p.bytes.take 4)) = signed32 (p.length % 2 ^ 32)

def isValid (p : TcpPackage) : Bool :=
  p.package.isSome && decide (18 ≤ p.length) && p.isHeaderValid

end TcpPackage

/-!
# `tcp_package_view`

The view that the constructor leaves, and the indices that the constructor reads, in
order.
-/

/-- A computation over the bytes behind `package_`, with the indices it reads. -/
abbrev Reading (alpha : Type) := StateM (List Nat) alpha

def load (package : Nat -> UInt8) (i : Nat) : Reading UInt8 := do
  modify (fun reads => reads ++ [i])
  pure (package i)

/-- `tcp_package_view`: the pointer `package_`, null once a check has failed, and
`length_`, which is four less than the frame. -/
structure TcpPackageView where
  package : Option (Nat -> UInt8)
  length : UInt64

namespace TcpPackageView

/-- The constructor.  `package` is the memory from the given address on, of which
only the first `length` bytes belong to the frame. -/
def construct (package : Nat -> UInt8) (length : UInt64) : Reading TcpPackageView := do
  let null : TcpPackageView := { package := none, length := length - 4 }
  let view : TcpPackageView := { package := some package, length := length - 4 }
  if length.toNat < kMandatorySize then
    return null
  let flags <- load package kFlagsOffset
  if flags = TcpFlags.authenticated.byte then
    let loginSize <- load package kAuthOffset
    let passwordOffset := kAuthOffset + 1 + loginSize.toNat
    let passwordSize <- load package passwordOffset
    if length.toNat < kMandatorySize + 1 + loginSize.toNat + 1 + passwordSize.toNat then
      return null
  return view

def of (package : Nat -> UInt8) (length : UInt64) : TcpPackageView :=
  ((construct package length).run []).1

def reads (package : Nat -> UInt8) (length : UInt64) : List Nat :=
  ((construct package length).run []).2

def isValid (v : TcpPackageView) : Bool := v.package.isSome

/-- A read through `package_`; `none` is a read through the null pointer. -/
def at? (v : TcpPackageView) (i : Nat) : Option UInt8 :=
  v.package.map (fun package => package i)

def bytesAt? (v : TcpPackageView) (offset size : Nat) : Option Bytes :=
  v.package.map (fun package => slice package offset size)

def command? (v : TcpPackageView) : Option TcpCommand :=
  (v.at? kCommandOffset).map TcpCommand.mk

def flags? (v : TcpPackageView) : Option TcpFlags :=
  (v.at? kFlagsOffset).map TcpFlags.mk

def correlationId? (v : TcpPackageView) : Option Guid :=
  v.package.map fun package =>
    { data := slice package kCorrelationOffset 16
      size_eq := slice_length package kCorrelationOffset 16 }

def isAuthenticated? (v : TcpPackageView) : Option Bool :=
  v.flags?.map (fun flags => flags = TcpFlags.authenticated)

def loginSize? (v : TcpPackageView) : Option Nat :=
  (v.at? kAuthOffset).map UInt8.toNat

def loginOffset : Nat := kAuthOffset + 1

def passwordOffset? (v : TcpPackageView) : Option Nat := do
  let passwordSizeOffset := loginOffset + (<- v.loginSize?)
  return passwordSizeOffset + 1

def passwordSize? (v : TcpPackageView) : Option Nat := do
  let passwordSizeOffset := loginOffset + (<- v.loginSize?)
  return (<- v.at? passwordSizeOffset).toNat

def login? (v : TcpPackageView) : Option Bytes := do
  v.bytesAt? loginOffset (<- v.loginSize?)

def password? (v : TcpPackageView) : Option Bytes := do
  v.bytesAt? (<- v.passwordOffset?) (<- v.passwordSize?)

def messageOffset? (v : TcpPackageView) : Option Nat := do
  if <- v.isAuthenticated? then
    return (<- v.passwordOffset?) + (<- v.passwordSize?)
  else
    return kMandatorySize

/-- `message_size()`: the difference is taken in `std::size_t` and then narrowed to
`unsigned int`. -/
def messageSize? (v : TcpPackageView) : Option Nat := do
  let offset <- v.messageOffset?
  return (v.length + 4 - UInt64.ofNat offset).toUInt32.toNat

/-- The bytes a handler parses: `message_size()` of them from `data() + message_offset()`. -/
def message? (v : TcpPackageView) : Option Bytes := do
  v.bytesAt? (<- v.messageOffset?) (<- v.messageSize?)

def size (v : TcpPackageView) : UInt64 := v.length + 4

end TcpPackageView

end Wire
end EventStoreClient
