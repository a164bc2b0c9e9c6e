import Cord.Frame.Bounded
import Cord.Frame.Machine
import Cord.Frame.StorageMap

/-!
This module contains the network membership pallet: members, the block at which each membership
expires, and for each block the list of the members that expire at it.
-/

open Frame

namespace NetworkMembership

/--
What the runtime provides to the pallet. Block numbers have 32 bits.
-/
structure Config where
  AccountId : Type
  [decEq : DecidableEq AccountId]
  Origin : Type
  networkMembershipOrigin : Origin → Option Unit
  membershipPeriod : UInt32
  maxMembersPerBlock : Nat

instance (T : Config) : DecidableEq T.AccountId := T.decEq

abbrev Config.plain (membershipPeriod : UInt32) (maxMembersPerBlock : Nat) : Config where
  AccountId := Nat
  Origin := Unit
  networkMembershipOrigin := some
  membershipPeriod
  maxMembersPerBlock

/--
A membership that does not expire has the block number zero.
-/
structure MemberData where
  expireOn : UInt32
  deriving DecidableEq, Repr

inductive Error where
  | membershipNotFound
  | membershipAlreadyAcquired
  | membershipRenewalAlreadyRequested
  | maxMembersExceededForTheBlock
  deriving DecidableEq, Repr

inductive Event (T : Config) where
  | membershipAcquired (member : T.AccountId)
  | membershipExpired (member : T.AccountId)
  | membershipRenewed (member : T.AccountId)
  | membershipRevoked (member : T.AccountId)
  | membershipRenewalRequested (member : T.AccountId)
  deriving DecidableEq

inductive ProviderOp where
  | inc
  | dec
  deriving DecidableEq, Repr

/--
The storage of the pallet and the number of the current block. `providers` records the calls that
are made to the system pallet to count the providers of an account.
-/
structure State (T : Config) where
  members : StorageMap T.AccountId MemberData
  membershipsExpiresOn : StorageMap UInt32 (BoundedVec T.AccountId T.maxMembersPerBlock)
  membershipsRenewsOn : StorageMap T.AccountId Unit
  blockNumber : UInt32
  providers : List (ProviderOp × T.AccountId)
  events : List (Event T)

abbrev CallM (T : Config) := DispatchM (State T) Error

variable {T : Config}

namespace State

def expiring (s : State T) (block : UInt32) : BoundedVec T.AccountId T.maxMembersPerBlock :=
  s.membershipsExpiresOn.getD block .empty

def depositEvent (event : Event T) (s : State T) : State T :=
  { s with events := s.events ++ [event] }

def scheduleExpiry (member : T.AccountId) (expireOn : UInt32) (s : State T) : State T :=
  -- The list of a block can be full already. The error is discarded.
  match (s.expiring expireOn).tryPush member with
  | some members =>
    { s with membershipsExpiresOn := s.membershipsExpiresOn.insert expireOn members }
  | none => s

def insertMember (member : T.AccountId) (expireOn : UInt32) (s : State T) : State T :=
  { s with members := s.members.insert member { expireOn } }

def countProvider (op : ProviderOp) (member : T.AccountId) (s : State T) : State T :=
  { s with providers := s.providers ++ [(op, member)] }

def addMemberAndScheduleExpiry (member : T.AccountId) (expires : Bool) (s : State T) : State T :=
  if expires then
    let expireOn := s.blockNumber + T.membershipPeriod
    s.insertMember member expireOn
      |>.countProvider .inc member
      |>.scheduleExpiry member expireOn
  else
    s.insertMember member 0
      |>.countProvider .inc member

def renewMembershipAndScheduleExpiry (member : T.AccountId) (expireOn : UInt32) (s : State T)
    : State T :=
  let scheduleExpiry := expireOn + T.membershipPeriod
  s.insertMember member scheduleExpiry
    |>.scheduleExpiry member scheduleExpiry

def doExpireOrRenewMembership (member : T.AccountId) (expireOn : UInt32) (s : State T) : State T :=
  if s.membershipsRenewsOn.containsKey member then
    let s := { s with membershipsRenewsOn := s.membershipsRenewsOn.remove member }
    (s.renewMembershipAndScheduleExpiry member expireOn).depositEvent (.membershipRenewed member)
  else
    { s with members := s.members.remove member }.depositEvent (.membershipExpired member)

def renewOrExpireMemberships (blockNumber : UInt32) (s : State T) : State T :=
  let members := (s.expiring blockNumber).toList
  let s := { s with membershipsExpiresOn := s.membershipsExpiresOn.remove blockNumber }
  members.foldl (fun s member => s.doExpireOrRenewMembership member blockNumber) s

def onInitialize (n : UInt32) (s : State T) : State T :=
  if 0 < n then s.renewOrExpireMemberships n else s

end State

/--
The members of a genesis configuration are a map, the list has its entries in the order they are
visited.
-/
structure GenesisConfig (T : Config) where
  members : List (T.AccountId × Bool)
  nodup : (members.map Prod.fst).Nodup

def State.empty (T : Config) : State T where
  members := ∅
  membershipsExpiresOn := ∅
  membershipsRenewsOn := ∅
  blockNumber := 0
  providers := []
  events := []

def State.genesis (config : GenesisConfig T) : State T :=
  config.members.foldl
    (fun s entry => s.addMemberAndScheduleExpiry entry.1 entry.2) (State.empty T)

def nominate (origin : T.Origin) (member : T.AccountId) (expires : Bool) : CallM T Unit := do
  ensureOrigin (T.networkMembershipOrigin origin)
  ensure (!(← get).members.containsKey member) .membershipAlreadyAcquired
  modify (State.addMemberAndScheduleExpiry member expires)
  modify (State.depositEvent (.membershipAcquired member))

def renew (origin : T.Origin) (member : T.AccountId) : CallM T Unit := do
  ensureOrigin (T.networkMembershipOrigin origin)
  ensure (!(← get).membershipsRenewsOn.containsKey member) .membershipRenewalAlreadyRequested
  modify fun s => { s with membershipsRenewsOn := s.membershipsRenewsOn.insert member () }
  modify (State.depositEvent (.membershipRenewalRequested member))

def revoke (origin : T.Origin) (member : T.AccountId) : CallM T Unit := do
  ensureOrigin (T.networkMembershipOrigin origin)
  let memberDetails ← okOr ((← get).members.get member) .membershipNotFound
  modify fun s => { s with members := s.members.remove member }
  let members := (← get).expiring memberDetails.expireOn
  let index ← okOr (members.toList.idxOf? member) .membershipNotFound
  modify fun s =>
    {
      s with
      membershipsExpiresOn :=
        s.membershipsExpiresOn.insert memberDetails.expireOn (members.swapRemove index)
    }
  modify (State.countProvider .dec member)
  modify (State.depositEvent (.membershipRevoked member))

def isMember (s : State T) (member : T.AccountId) : Bool :=
  s.members.containsKey member

inductive Call (T : Config) where
  | nominate (member : T.AccountId) (expires : Bool)
  | renew (member : T.AccountId)
  | revoke (member : T.AccountId)

inductive Step (T : Config) where
  | extrinsic (origin : T.Origin) (call : Call T)
  | newBlock

def newBlock (s : State T) : State T :=
  let blockNumber := s.blockNumber + 1
  { s with blockNumber }.onInitialize blockNumber

def Step.dispatch : Step T → CallM T Unit
  | .extrinsic origin (.nominate member expires) =>
    NetworkMembership.nominate origin member expires
  | .extrinsic origin (.renew member) => NetworkMembership.renew origin member
  | .extrinsic origin (.revoke member) => NetworkMembership.revoke origin member
  | .newBlock => modify NetworkMembership.newBlock

def machine (T : Config) : Machine (State T) Error (Step T) where
  dispatch := Step.dispatch

end NetworkMembership
