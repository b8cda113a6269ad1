import EventStoreClient.Wire.Commands
import Mathlib.Data.Int.Basic

/-!
# Cluster messages

The gossip of a cluster node as it is read from JSON: the members with their states,
and the exceptions that a malformed body raises.
-/

namespace EventStoreClient
namespace Cluster

open Wire

/-!
# Faults

A call of the discovery can end with an exception of the libraries, or without a result at
all.
-/

inductive Thrown where
  | parseError
  | outOfRange (key : String)
  | typeError
  | invalidUuid
  | invalidAddress
  deriving DecidableEq, Repr

inductive Fault where
  | exception (thrown : Thrown)
  | undefinedBehaviour
  deriving DecidableEq, Repr

abbrev Result (alpha : Type) := Except Fault alpha

/-!
# `virtual_node_state`

`fromString` is `none` where the code gives the value `-1`.
-/

inductive VirtualNodeState where
  | initializing
  | unknown
  | preReplica
  | catchingUp
  | clone
  | slave
  | preMaster
  | master
  | manager
  | shuttingDown
  | shutdown
  deriving DecidableEq, Repr

namespace VirtualNodeState

/-- The value of the enumerator, which the comparisons of states go by. -/
def value : VirtualNodeState -> Nat
  | initializing => 0
  | unknown => 1
  | preReplica => 2
  | catchingUp => 3
  | clone => 4
  | slave => 5
  | preMaster => 6
  | master => 7
  | manager => 8
  | shuttingDown => 9
  | shutdown => 10

def toString : VirtualNodeState -> String
  | initializing => "Initializing"
  | unknown => "Unknown"
  | preReplica => "PreReplica"
  | catchingUp => "CatchingUp"
  | clone => "Clone"
  | slave => "Slave"
  | preMaster => "PreMaster"
  | master => "Master"
  | manager => "Manager"
  | shuttingDown => "ShuttingDown"
  | shutdown => "Shutdown"

def fromString (str : String) : Option VirtualNodeState :=
  if str = "Initializing" then some initializing
  else if str = "Unknown" then some unknown
  else if str = "PreReplica" then some preReplica
  else if str = "CatchingUp" then some catchingUp
  else if str = "Clone" then some clone
  else if str = "Slave" then some slave
  else if str = "PreMaster" then some preMaster
  else if str = "Master" then some master
  else if str = "Manager" then some manager
  else if str = "ShuttingDown" then some shuttingDown
  else if str = "Shutdown" then some shutdown
  else none

theorem fromString_toString (state : VirtualNodeState) :
    fromString state.toString = some state := by
  cases state <;> rfl

end VirtualNodeState

/-!
# `member_info`

`null` is `null()`, the value-initialized member.
-/

structure MemberInfo where
  instanceId : Guid
  dateTime : String
  state : VirtualNodeState
  isAlive : Bool
  internalTcpIp : String
  internalTcpPort : Int
  internalSecureTcpPort : Int
  externalTcpIp : String
  externalTcpPort : Int
  externalSecureTcpPort : Int
  internalHttpIp : String
  internalHttpPort : Int
  externalHttpIp : String
  externalHttpPort : Int
  lastCommitPosition : Int
  writerCheckpoint : Int
  chaserCheckpoint : Int
  epochPosition : Int
  epochNumber : Int
  epochId : Guid
  nodePriority : Int
  deriving DecidableEq, Repr

namespace MemberInfo

def null : MemberInfo :=
  { instanceId := Guid.ofByte 0
    dateTime := ""
    state := VirtualNodeState.initializing
    isAlive := false
    internalTcpIp := ""
    internalTcpPort := 0
    internalSecureTcpPort := 0
    externalTcpIp := ""
    externalTcpPort := 0
    externalSecureTcpPort := 0
    internalHttpIp := ""
    internalHttpPort := 0
    externalHttpIp := ""
    externalHttpPort := 0
    lastCommitPosition := 0
    writerCheckpoint := 0
    chaserCheckpoint := 0
    epochPosition := 0
    epochNumber := 0
    epochId := Guid.ofByte 0
    nodePriority := 0 }

/-- What the implicit move leaves behind: the strings are empty, the rest is copied. -/
def movedFrom (m : MemberInfo) : MemberInfo :=
  { m with
    dateTime := ""
    internalTcpIp := ""
    externalTcpIp := ""
    internalHttpIp := ""
    externalHttpIp := "" }

end MemberInfo

/-!
# JSON

The readers of `nlohmann::json`: `atKey` is `at(key)`, `getInt` reads an `int` (for which
the library also takes a boolean), `getInt64` a `std::int64_t`.  `guid` is
`es::guid(std::string_view)` and `fromJson` the `from_json(j, m)` of a member.
-/

/-- A parsed JSON value.  Of a number with a fraction or an exponent only its integer
part is ever read; `whole` says that it is all of the number. -/
inductive Json where
  | null
  | boolean (b : Bool)
  | integer (n : Int)
  | real (integerPart : Int) (whole : Bool)
  | string (s : String)
  | array (elements : List Json)
  | object (members : List (String × Json))

namespace Json

def isEmpty : Json -> Bool
  | null => true
  | array elements => elements.isEmpty
  | object members => members.isEmpty
  | _ => false

def atKey (j : Json) (key : String) : Result Json :=
  match j with
  | object members =>
      match members.lookup key with
      | some value => .ok value
      | none => .error (.exception (.outOfRange key))
  | _ => .error (.exception .typeError)

def getString : Json -> Result String
  | string s => .ok s
  | _ => .error (.exception .typeError)

def getBool : Json -> Result Bool
  | boolean b => .ok b
  | _ => .error (.exception .typeError)

def getInt : Json -> Result Int
  | integer n => .ok (n.bmod 0x100000000)
  | real n _ => .ok (n.bmod 0x100000000)
  | boolean b => .ok (if b then 1 else 0)
  | _ => .error (.exception .typeError)

def getInt64 : Json -> Result Int
  | integer n => .ok (n.bmod 0x10000000000000000)
  | real n _ => .ok (n.bmod 0x10000000000000000)
  | _ => .error (.exception .typeError)

def getArray : Json -> Result (List Json)
  | array elements => .ok elements
  | _ => .error (.exception .typeError)

end Json

abbrev AddressV4 := UInt32

/-- The functions of the libraries that the discovery calls, `none` where they throw,
and the member that `get<member_info>()` hands to `from_json`, whose scalars the older
versions of the library do not initialize. -/
structure Library where
  parse : String -> Option Json
  stringGenerator : String -> Option Guid
  makeAddressV4 : String -> Option AddressV4
  fresh : MemberInfo

namespace Library

def parseJson (lib : Library) (body : String) : Result Json :=
  match lib.parse body with
  | some j => .ok j
  | none => .error (.exception .parseError)

def guid (lib : Library) (str : String) : Result Guid :=
  match lib.stringGenerator str with
  | some id => .ok id
  | none => .error (.exception .invalidUuid)

def address (lib : Library) (str : String) : Result AddressV4 :=
  match lib.makeAddressV4 str with
  | some address => .ok address
  | none => .error (.exception .invalidAddress)

end Library

def MemberInfo.fromJson (lib : Library) (j : Json) : Result MemberInfo := do
  let m := lib.fresh
  if j.isEmpty then
    return m
  let instanceId <- lib.guid (<- (<- j.atKey "instanceId").getString)
  let epochId <- lib.guid (<- (<- j.atKey "epochId").getString)
  let m := { m with instanceId := instanceId, epochId := epochId }
  match VirtualNodeState.fromString (<- (<- j.atKey "state").getString) with
  | none => return m
  | some state =>
      return { m with
        state := state
        dateTime := <- (<- j.atKey "timeStamp").getString
        isAlive := <- (<- j.atKey "isAlive").getBool
        internalTcpIp := <- (<- j.atKey "internalTcpIp").getString
        internalTcpPort := <- (<- j.atKey "internalTcpPort").getInt
        internalSecureTcpPort := <- (<- j.atKey "internalSecureTcpPort").getInt
        externalTcpIp := <- (<- j.atKey "externalTcpIp").getString
        externalTcpPort := <- (<- j.atKey "externalTcpPort").getInt
        externalSecureTcpPort := <- (<- j.atKey "externalSecureTcpPort").getInt
        internalHttpIp := <- (<- j.atKey "internalHttpIp").getString
        internalHttpPort := <- (<- j.atKey "internalHttpPort").getInt
        externalHttpIp := <- (<- j.atKey "externalHttpIp").getString
        externalHttpPort := <- (<- j.atKey "externalHttpPort").getInt
        lastCommitPosition := <- (<- j.atKey "lastCommitPosition").getInt64
        writerCheckpoint := <- (<- j.atKey "writerCheckpoint").getInt64
        chaserCheckpoint := <- (<- j.atKey "chaserCheckpoint").getInt64
        epochPosition := <- (<- j.atKey "epochPosition").getInt64
        epochNumber := <- (<- j.atKey "epochNumber").getInt
        nodePriority := <- (<- j.atKey "nodePriority").getInt }

structure ClusterInfo where
  members : List MemberInfo
  deriving DecidableEq, Repr

def ClusterInfo.fromJson (lib : Library) (j : Json) : Result ClusterInfo := do
  let elements <- (<- j.atKey "members").getArray
  return { members := <- elements.mapM (MemberInfo.fromJson lib) }

end Cluster
end EventStoreClient
