import Cord.Frame.BinarySearch
import Cord.Frame.Bounded
import Cord.Frame.Machine
import Cord.Frame.Sort

/-!
This module contains the membership pallet: the members of a collective as an ordered vector, and the
prime member among them. The collective is told of every change.
-/

open Frame

namespace CollectiveMembership

/--
What the runtime provides to the pallet. `lookup` resolves the address of an account.
-/
structure Config where
  AccountId : Type
  [linearOrder : LinearOrder AccountId]
  Origin : Type
  ensureSigned : Origin → Option AccountId
  addOrigin : Origin → Option Unit
  removeOrigin : Origin → Option Unit
  swapOrigin : Origin → Option Unit
  resetOrigin : Origin → Option Unit
  primeOrigin : Origin → Option Unit
  LookupSource : Type
  lookup : LookupSource → Option AccountId
  maxMembers : UInt32

instance (T : Config) : LinearOrder T.AccountId := T.linearOrder

/--
A configuration to evaluate calls in. `none` is the council, which may do everything but change the key
of a member.
-/
abbrev Config.plain : Config where
  AccountId := Nat
  Origin := Option Nat
  ensureSigned := id
  addOrigin origin := if origin.isNone then some () else none
  removeOrigin origin := if origin.isNone then some () else none
  swapOrigin origin := if origin.isNone then some () else none
  resetOrigin origin := if origin.isNone then some () else none
  primeOrigin origin := if origin.isNone then some () else none
  LookupSource := Nat
  lookup := some
  maxMembers := 4

inductive Event where
  | memberAdded
  | memberRemoved
  | membersSwapped
  | membersReset
  | keyChanged
  deriving DecidableEq, Repr

/--
An error of the pallet, or the one of an address that can not be looked up.
-/
inductive Error where
  | cannotLookup
  | alreadyMember
  | notMember
  | tooManyMembers
  deriving DecidableEq, Repr

/--
What the receivers `MembershipInitialized` and `MembershipChanged` are told.
-/
inductive Signal (T : Config) where
  | initializeMembers (members : List T.AccountId)
  | changeMembersSorted (incoming outgoing new : List T.AccountId)
  | setMembersSorted (new old : List T.AccountId)
  | setPrime (prime : Option T.AccountId)

structure State (T : Config) where
  members : BoundedVec T.AccountId T.maxMembers.toNat
  prime : Option T.AccountId
  signals : List (Signal T)
  events : List Event

abbrev CallM (T : Config) := DispatchM (State T) Error

variable {T : Config}

def GenesisConfig.build (members : BoundedVec T.AccountId T.maxMembers.toNat)
    : Option (State T) :=
  -- Duplicate accounts are a panic: the set of the members is compared with the vector by size.
  if members.toList.dedup.length = members.toList.length then
    some
      {
        members := members.sort
        prime := none
        signals := [.initializeMembers members.sort.toList]
        events := []
      }
  else
    none

def depositEvent (event : Event) : CallM T Unit :=
  modify fun s => { s with events := s.events ++ [event] }

def signal (signal : Signal T) : CallM T Unit :=
  modify fun s => { s with signals := s.signals ++ [signal] }

def putMembers (members : BoundedVec T.AccountId T.maxMembers.toNat) : CallM T Unit :=
  modify fun s => { s with members }

def putPrime (prime : Option T.AccountId) : CallM T Unit :=
  modify fun s => { s with prime }

def lookup (source : T.LookupSource) : CallM T T.AccountId :=
  okOr (T.lookup source) .cannotLookup

def binarySearch (members : BoundedVec T.AccountId T.maxMembers.toNat) (who : T.AccountId)
    : Except Nat Nat :=
  binarySearchByKey members.toList who id

def findMember (members : BoundedVec T.AccountId T.maxMembers.toNat) (who : T.AccountId)
    : CallM T Nat :=
  -- `members.binary_search(&who).ok().ok_or(NotMember)?`
  match binarySearch members who with
  | .ok location => return location
  | .error _ => throw (.module .notMember)

def findPlace (members : BoundedVec T.AccountId T.maxMembers.toNat) (who : T.AccountId)
    : CallM T Nat :=
  -- `members.binary_search(&who).err().ok_or(AlreadyMember)?`
  match binarySearch members who with
  | .ok _ => throw (.module .alreadyMember)
  | .error location => return location

def rejigPrime (members : BoundedVec T.AccountId T.maxMembers.toNat) : CallM T Unit := do
  match (← get).prime with
  | none => return ()
  | some prime =>
    match binarySearch members prime with
    | .ok _ => signal (.setPrime (some prime))
    | .error _ => putPrime none

def addMember (origin : T.Origin) (isMember : T.AccountId → Bool) (who : T.LookupSource)
    : CallM T Unit := do
  ensureOrigin (T.addOrigin origin)
  let who ← lookup who
  ensure (isMember who) .notMember
  let members := (← get).members
  let location ← findPlace members who
  let members ← okOr (members.tryInsert location who) .tooManyMembers
  putMembers members
  signal (.changeMembersSorted [who] [] members.toList)
  depositEvent .memberAdded

def removeMember (origin : T.Origin) (who : T.LookupSource) : CallM T Unit := do
  ensureOrigin (T.removeOrigin origin)
  let who ← lookup who
  let members := (← get).members
  let location ← findMember members who
  let members := members.remove location
  putMembers members
  signal (.changeMembersSorted [] [who] members.toList)
  rejigPrime members
  depositEvent .memberRemoved

def replaceMember (remove add : T.AccountId)
    : CallM T (BoundedVec T.AccountId T.maxMembers.toNat) := do
  -- What `swap_member` and `change_key` have in common.
  let members := (← get).members
  let location ← findMember members remove
  let _ ← findPlace members add
  let members := (members.set location add).sort
  putMembers members
  signal (.changeMembersSorted [add] [remove] members.toList)
  return members

def swapMember (origin : T.Origin) (isMember : T.AccountId → Bool) (remove add : T.LookupSource)
    : CallM T Unit := do
  ensureOrigin (T.swapOrigin origin)
  let remove ← lookup remove
  let add ← lookup add
  if remove = add then
    return ()
  else
    ensure (isMember add) .notMember
    let members ← replaceMember remove add
    rejigPrime members
    depositEvent .membersSwapped

def resetMembers (origin : T.Origin) (members : List T.AccountId) : CallM T Unit := do
  -- The new members are sorted, what is given twice is stored twice.
  ensureOrigin (T.resetOrigin origin)
  let members ← okOr (BoundedVec.tryFrom members) .tooManyMembers
  let members := members.sort
  signal (.setMembersSorted members.toList (← get).members.toList)
  rejigPrime members
  putMembers members
  depositEvent .membersReset

def changeKey (origin : T.Origin) (isMember : T.AccountId → Bool) (new : T.LookupSource)
    : CallM T Unit := do
  let remove ← ensureOrigin (T.ensureSigned origin)
  let new ← lookup new
  ensure (isMember new) .notMember
  if remove = new then
    return ()
  else
    let _ ← replaceMember remove new
    if (← get).prime = some remove then
      putPrime (some new)
      signal (.setPrime (some new))
    depositEvent .keyChanged

def setPrime (origin : T.Origin) (who : T.LookupSource) : CallM T Unit := do
  ensureOrigin (T.primeOrigin origin)
  let who ← lookup who
  let _ ← findMember (← get).members who
  putPrime (some who)
  signal (.setPrime (some who))

def clearPrime (origin : T.Origin) : CallM T Unit := do
  ensureOrigin (T.primeOrigin origin)
  putPrime none
  signal (.setPrime none)

inductive Call (T : Config) where
  | addMember (who : T.LookupSource)
  | removeMember (who : T.LookupSource)
  | swapMember (remove add : T.LookupSource)
  | resetMembers (members : List T.AccountId)
  | changeKey (new : T.LookupSource)
  | setPrime (who : T.LookupSource)
  | clearPrime

/--
A call, together with what the network membership pallet says of accounts at the time it is made.
-/
structure Extrinsic (T : Config) where
  origin : T.Origin
  isMember : T.AccountId → Bool
  call : Call T

def Extrinsic.dispatch (ext : Extrinsic T) : CallM T Unit :=
  match ext.call with
  | .addMember who => CollectiveMembership.addMember ext.origin ext.isMember who
  | .removeMember who => CollectiveMembership.removeMember ext.origin who
  | .swapMember remove add => CollectiveMembership.swapMember ext.origin ext.isMember remove add
  | .resetMembers members => CollectiveMembership.resetMembers ext.origin members
  | .changeKey new => CollectiveMembership.changeKey ext.origin ext.isMember new
  | .setPrime who => CollectiveMembership.setPrime ext.origin who
  | .clearPrime => CollectiveMembership.clearPrime ext.origin

def machine (T : Config) : Machine (State T) Error (Extrinsic T) where
  dispatch := Extrinsic.dispatch

end CollectiveMembership
