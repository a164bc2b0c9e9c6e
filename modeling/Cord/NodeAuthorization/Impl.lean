import Cord.Frame.Base58
import Cord.Frame.Bounded
import Cord.Frame.Machine
import Cord.Frame.Sort
import Cord.Frame.StorageMap

/-!
This module contains the node authorization pallet: the set of well known nodes, their owners and the
connections that the owners have added. Nodes are named by text, and stored by the peer id that the
text is an encoding of.
-/

open Frame

namespace NodeAuthorization

abbrev NodeId := List UInt8

abbrev PeerId := List UInt8

/--
What the runtime provides to the pallet. `lookup` resolves the address of an account and `bs58Decode`
decodes text in base 58.
-/
structure Config where
  AccountId : Type
  [decEq : DecidableEq AccountId]
  Origin : Type
  ensureSigned : Origin → Option AccountId
  nodeAuthorizationOrigin : Origin → Option Unit
  LookupSource : Type
  lookup : LookupSource → Option AccountId
  bs58Decode : String → Option (List UInt8)
  maxWellKnownNodes : UInt32
  maxPeerIdLength : UInt32
  maxNodeIdLength : UInt32

instance (T : Config) : DecidableEq T.AccountId := T.decEq

/--
A configuration to evaluate calls in. `none` is the origin that can add and remove nodes.
-/
abbrev Config.base58 : Config where
  AccountId := Nat
  Origin := Option Nat
  ensureSigned := id
  nodeAuthorizationOrigin origin := if origin.isNone then some () else none
  LookupSource := Nat
  lookup := some
  bs58Decode := Base58.decode
  maxWellKnownNodes := 4
  maxPeerIdLength := 128
  maxNodeIdLength := 53

structure NodeInfo (T : Config) where
  id : BoundedVec UInt8 T.maxNodeIdLength.toNat
  owner : T.AccountId
  deriving DecidableEq

inductive Event (T : Config) where
  | nodeAdded (nodeId : NodeId) (who : T.AccountId)
  | nodeRemoved (nodeId : NodeId)
  | nodeSwapped (removed added : NodeId)
  | nodeTransferred (nodeId : NodeId) (target : T.AccountId)
  | connectionsAdded (nodeId connection : NodeId)
  | connectionsRemoved (nodeId connection : NodeId)
  deriving DecidableEq

/--
An error of the pallet, or the one of an address that can not be looked up.
-/
inductive Error where
  | cannotLookup
  | nodeIdTooLong
  | peerIdTooLong
  | tooManyNodes
  | alreadyJoined
  | notExist
  | alreadyClaimed
  | notOwner
  | invalidUtf8
  | invalidNodeIdentifier
  | alreadyConnected
  deriving DecidableEq, Repr

structure State (T : Config) where
  wellKnownNodes : Finset PeerId
  owners : StorageMap PeerId (NodeInfo T)
  additionalConnections : StorageMap PeerId (Finset PeerId)
  events : List (Event T)

abbrev CallM (T : Config) := DispatchM (State T) Error

variable {T : Config}

def State.connections (s : State T) (node : PeerId) : Finset PeerId :=
  s.additionalConnections.getD node ∅

def fromUtf8 (bytes : List UInt8) : Option String :=
  String.fromUTF8? ⟨bytes.toArray⟩

def generatePeerId (T : Config) (nodeIdentity : NodeId) : Except Error PeerId :=
  match fromUtf8 nodeIdentity with
  | none => .error .invalidUtf8
  | some encoded =>
    match T.bs58Decode encoded with
    | none => .error .invalidNodeIdentifier
    | some decoded => .ok decoded

def initializeOwner (owners : StorageMap PeerId (NodeInfo T)) (node : NodeId × T.AccountId)
    : StorageMap PeerId (NodeInfo T) :=
  -- A node whose owner can not be stored is well known nevertheless.
  match fromUtf8 node.1, BoundedVec.tryFrom node.1, generatePeerId T node.1 with
  | some _, some id, .ok peerId => owners.insert peerId { id, owner := node.2 }
  | _, _, _ => owners

def State.initializeNodes (nodes : List (NodeId × T.AccountId)) : State T where
  wellKnownNodes := (nodes.filterMap fun node => (generatePeerId T node.1).toOption).toFinset
  owners := nodes.foldl initializeOwner ∅
  additionalConnections := ∅
  events := []

def State.getAuthorizedNodes (s : State T) (node : PeerId) : List PeerId :=
  let nodes :=
    if node ∈ s.wellKnownNodes then
      s.connections node ∪ s.wellKnownNodes.erase node
    else
      s.connections node
  sortByBytes id Function.injective_id nodes.val

def depositEvent (event : Event T) : CallM T Unit :=
  modify fun s => { s with events := s.events ++ [event] }

def putWellKnownNodes (wellKnownNodes : Finset PeerId) : CallM T Unit :=
  modify fun s => { s with wellKnownNodes }

def insertOwner (node : PeerId) (info : NodeInfo T) : CallM T Unit :=
  modify fun s => { s with owners := s.owners.insert node info }

def removeOwner (node : PeerId) : CallM T Unit :=
  modify fun s => { s with owners := s.owners.remove node }

def insertConnections (node : PeerId) (nodes : Finset PeerId) : CallM T Unit :=
  modify fun s =>
    { s with additionalConnections := s.additionalConnections.insert node nodes }

def removeConnections (node : PeerId) : CallM T Unit :=
  modify fun s => { s with additionalConnections := s.additionalConnections.remove node }

def swapConnections (remove add : PeerId) : CallM T Unit :=
  modify fun s =>
    { s with additionalConnections := s.additionalConnections.swap remove add }

def peerIdOf (nodeId : NodeId) : CallM T PeerId := do
  let node ← mapErr id (generatePeerId T nodeId)
  ensure (node.length < T.maxPeerIdLength.toNat) .peerIdTooLong
  return node

def ensureOwner (node : PeerId) (sender : T.AccountId) : CallM T (NodeInfo T) := do
  let nodeInfo ← okOr ((← get).owners.get node) .notExist
  ensure (nodeInfo.owner = sender) .notOwner
  return nodeInfo

def addWellKnownNode (origin : T.Origin) (nodeId : NodeId) (owner : T.LookupSource)
    : CallM T Unit := do
  -- Unlike in the other calls a node id may have the maximal length.
  ensureOrigin (T.nodeAuthorizationOrigin origin)
  let owner ← okOr (T.lookup owner) .cannotLookup
  let nodeIdBytes ← okOr (BoundedVec.tryFrom nodeId) .nodeIdTooLong
  let node ← peerIdOf nodeId
  let nodes := (← get).wellKnownNodes
  ensure (node ∉ nodes) .alreadyJoined
  ensure (!(← get).owners.containsKey node) .alreadyClaimed
  ensure (nodes.card < T.maxWellKnownNodes.toNat) .tooManyNodes
  putWellKnownNodes (insert node nodes)
  insertOwner node { id := nodeIdBytes, owner }
  depositEvent (.nodeAdded nodeId owner)

def removeWellKnownNode (origin : T.Origin) (nodeId : NodeId) : CallM T Unit := do
  ensureOrigin (T.nodeAuthorizationOrigin origin)
  ensure (nodeId.length < T.maxNodeIdLength.toNat) .nodeIdTooLong
  let node ← peerIdOf nodeId
  let nodes := (← get).wellKnownNodes
  ensure (node ∈ nodes) .notExist
  putWellKnownNodes (nodes.erase node)
  removeOwner node
  removeConnections node
  depositEvent (.nodeRemoved nodeId)

def swapNodes (sender : T.AccountId) (removeId addId : NodeId) : CallM T Unit := do
  let remove ← peerIdOf removeId
  let nodeInfo ← ensureOwner remove sender
  let add ← peerIdOf addId
  let nodes := (← get).wellKnownNodes
  ensure (remove ∈ nodes) .notExist
  ensure (add ∉ nodes) .alreadyJoined
  putWellKnownNodes (insert add (nodes.erase remove))
  let nodeIdBytes ← okOr (BoundedVec.tryFrom addId) .nodeIdTooLong
  removeOwner remove
  insertOwner add { id := nodeIdBytes, owner := nodeInfo.owner }
  swapConnections remove add
  depositEvent (.nodeSwapped removeId addId)

def swapWellKnownNode (origin : T.Origin) (removeId addId : NodeId) : CallM T Unit := do
  let sender ← ensureOrigin (T.ensureSigned origin)
  ensure (removeId.length < T.maxNodeIdLength.toNat) .nodeIdTooLong
  ensure (addId.length < T.maxNodeIdLength.toNat) .nodeIdTooLong
  if removeId = addId then
    pure ()
  else
    swapNodes sender removeId addId

def transferNode (origin : T.Origin) (nodeId : NodeId) (owner : T.LookupSource)
    : CallM T Unit := do
  let sender ← ensureOrigin (T.ensureSigned origin)
  let owner ← okOr (T.lookup owner) .cannotLookup
  ensure (nodeId.length < T.maxNodeIdLength.toNat) .nodeIdTooLong
  let node ← peerIdOf nodeId
  let _ ← ensureOwner node sender
  let nodeIdBytes ← okOr (BoundedVec.tryFrom nodeId) .nodeIdTooLong
  insertOwner node { id := nodeIdBytes, owner }
  depositEvent (.nodeTransferred nodeId owner)

def addConnection (origin : T.Origin) (nodeId connectionId : NodeId) : CallM T Unit := do
  let sender ← ensureOrigin (T.ensureSigned origin)
  ensure (nodeId.length < T.maxNodeIdLength.toNat) .nodeIdTooLong
  let node ← peerIdOf nodeId
  let _ ← ensureOwner node sender
  let connection ← peerIdOf connectionId
  let nodes := (← get).connections node
  ensure (connection ∉ nodes) .alreadyConnected
  insertConnections node (insert connection nodes)
  depositEvent (.connectionsAdded nodeId connectionId)

def removeConnection (origin : T.Origin) (nodeId connectionId : NodeId) : CallM T Unit := do
  let sender ← ensureOrigin (T.ensureSigned origin)
  ensure (nodeId.length < T.maxNodeIdLength.toNat) .nodeIdTooLong
  let node ← peerIdOf nodeId
  let _ ← ensureOwner node sender
  let connection ← peerIdOf connectionId
  let nodes := (← get).connections node
  ensure (connection ∈ nodes) .notExist
  insertConnections node (nodes.erase connection)
  depositEvent (.connectionsRemoved nodeId connectionId)

inductive Call (T : Config) where
  | addWellKnownNode (nodeId : NodeId) (owner : T.LookupSource)
  | removeWellKnownNode (nodeId : NodeId)
  | swapWellKnownNode (removeId addId : NodeId)
  | transferNode (nodeId : NodeId) (owner : T.LookupSource)
  | addConnection (nodeId connectionId : NodeId)
  | removeConnection (nodeId connectionId : NodeId)

structure Extrinsic (T : Config) where
  origin : T.Origin
  call : Call T

def Extrinsic.dispatch (ext : Extrinsic T) : CallM T Unit :=
  match ext.call with
  | .addWellKnownNode nodeId owner => addWellKnownNode ext.origin nodeId owner
  | .removeWellKnownNode nodeId => removeWellKnownNode ext.origin nodeId
  | .swapWellKnownNode removeId addId => swapWellKnownNode ext.origin removeId addId
  | .transferNode nodeId owner => transferNode ext.origin nodeId owner
  | .addConnection nodeId connectionId => addConnection ext.origin nodeId connectionId
  | .removeConnection nodeId connectionId => removeConnection ext.origin nodeId connectionId

def machine (T : Config) : Machine (State T) Error (Extrinsic T) where
  dispatch := Extrinsic.dispatch

end NodeAuthorization
