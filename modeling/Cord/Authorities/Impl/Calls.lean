import Cord.Authorities.Impl.Basic

/-!
This module contains the dispatchable calls of the authorities pallet, its offence handler and its
session manager.
-/

open Frame

namespace Authorities

variable {T : Config}

namespace State

def depositEvent (event : Event T) (s : State T) : State T :=
  { s with events := s.events ++ [event] }

def mutateBlackList (f : List T.ValidatorId → State T → List T.ValidatorId × State T) (s : State T)
    : State T :=
  -- `BlackList::mutate`: the value is read, the closure runs and may write storage itself, and
  -- then the value it leaves is written back.
  let (blackList, s') := f s.blackList s
  { s' with blackList }

def markForRemoval (authority : T.ValidatorId) (s : State T) : State T :=
  { s with outgoingAuthorities := s.outgoingAuthorities ++ [authority] }

def markForDisconnect (authority : T.ValidatorId) (s : State T) : State T :=
  { s with outgoingAuthorities := s.outgoingAuthorities ++ [authority] }.depositEvent
    (.memberDisconnected authority)

def markForAddition (authority : T.ValidatorId) (s : State T) : State T :=
  { s with incomingAuthorities := s.incomingAuthorities ++ [authority] }

def markForBlacklistAndRemoval (authority : T.ValidatorId) (s : State T) : State T :=
  let s := s.mutateBlackList fun v s => (v ++ [authority], s)
  { s with outgoingAuthorities := s.outgoingAuthorities ++ [authority] }.depositEvent
    (.memberBlacklistedRemoved authority)

end State

def remainingCount (authorities : List T.ValidatorId) : UInt32 :=
  (authorities.length - 1).toUInt32

def addAuthorityMember (authority : T.ValidatorId) : CallM T Unit := do
  ensure (authority ∉ (← get).members) .memberAlreadyExists
  modify fun s => { s with members := s.members ++ [authority] }
  modify (State.markForAddition authority)

def removeAuthorityMember (authority : T.ValidatorId) : CallM T Unit := do
  let authorities := (← get).members
  ensure (authority ∈ authorities) .memberNotFound
  ensure (T.minAuthorities ≤ remainingCount authorities) .tooLowAuthorityCount
  modify fun s => { s with members := authorities.filter (· ≠ authority) }
  modify (State.markForRemoval authority)

def removeFromBlacklist (authority : T.ValidatorId) : CallM T Unit :=
  modify (State.mutateBlackList fun vs s => (vs.filter (· ≠ authority), s))

def nominate (origin : T.Origin) (isMember : T.AccountId → Bool) (candidate : T.AccountId)
    : CallM T Unit := do
  -- `isMember` is the answer of the network membership pallet.
  ensureOrigin (T.authorityMembershipOrigin origin)
  ensure (isMember candidate) .networkMembershipNotFound
  let member ← okOr (T.validatorIdOf candidate) .noAssociatedValidatorId
  ensure (member ∉ (← get).blackList) .memberBlackListed
  ensure (member ∉ (← get).incomingAuthorities) .memberAlreadyIncoming
  ensure (member ∉ (← get).outgoingAuthorities) .memberAlreadyOutgoing
  addAuthorityMember member
  modify (State.depositEvent (.memberAdded candidate))

def remove (origin : T.Origin) (candidate : T.AccountId) : CallM T Unit := do
  -- The session keys of the candidate are purged as well, a failure to do so is only logged.
  ensureOrigin (T.authorityMembershipOrigin origin)
  let member ← okOr (T.validatorIdOf candidate) .noAssociatedValidatorId
  removeAuthorityMember member
  modify (State.depositEvent (.memberRemoved candidate))

def removeMemberFromBlacklist (origin : T.Origin) (candidate : T.AccountId) : CallM T Unit := do
  ensureOrigin (T.authorityMembershipOrigin origin)
  let member ← okOr (T.validatorIdOf candidate) .noAssociatedValidatorId
  ensure (member ∈ (← get).blackList) .memberNotBlackListed
  removeFromBlacklist member
  modify (State.depositEvent (.memberWhiteList candidate))

def goOffline (origin : T.Origin) : CallM T Unit := do
  let who ← ensureOrigin (T.ensureSigned origin)
  let member ← okOr (T.validatorIdOf who) .noAssociatedValidatorId
  let authorities := (← get).members
  ensure (member ∈ authorities) .memberNotFound
  ensure (T.minAuthorities ≤ remainingCount authorities) .tooLowAuthorityCount
  modify (State.markForRemoval member)
  modify (State.depositEvent (.memberGoOffline who))

def goOnline (origin : T.Origin) : CallM T Unit := do
  let who ← ensureOrigin (T.ensureSigned origin)
  let member ← okOr (T.validatorIdOf who) .noAssociatedValidatorId
  ensure (member ∉ (← get).blackList) .memberBlackListed
  ensure (member ∈ (← get).members) .memberNotFound
  modify (State.markForAddition member)
  modify (State.depositEvent (.memberGoOnline who))

def blacklistOffender (offender : T.AccountId) (s : State T) : State T :=
  s.mutateBlackList fun blackList s =>
    match T.validatorIdOf offender with
    | some member =>
      let blackList := if member ∈ blackList then blackList else blackList ++ [member]
      (blackList, s.markForBlacklistAndRemoval member)
    | none => (blackList, s)

def disconnectOffender (offender : T.AccountId) (s : State T) : State T :=
  match T.validatorIdOf offender with
  | some member => s.markForDisconnect member
  | none => s

def onOffence (offenders : List T.AccountId) (strategy : SlashStrategy) (s : State T) : State T :=
  match strategy with
  | .blackList => offenders.foldl (fun s offender => blacklistOffender offender s) s
  | .disconnect => offenders.foldl (fun s offender => disconnectOffender offender s) s

def deleteAuthority (authorities : List T.ValidatorId) (v : T.ValidatorId) : List T.ValidatorId :=
  match authorities.idxOf? v with
  | some pos => swapRemove authorities pos
  | none => authorities

def addAuthority (authorities : List T.ValidatorId) (v : T.ValidatorId) : List T.ValidatorId :=
  if v ∈ authorities then authorities else authorities ++ [v]

def newSession (s : State T) : Option (List T.ValidatorId) × State T :=
  let membersToAdd := s.incomingAuthorities
  let membersToDel := s.outgoingAuthorities
  let s := { s with incomingAuthorities := [], outgoingAuthorities := [] }
  if membersToAdd = [] ∧ membersToDel = [] then
    (none, s)
  else
    let s :=
      if membersToAdd = [] then
        s.depositEvent (.outgoingAuthorities membersToDel)
      else
        s.depositEvent (.incomingAuthorities membersToAdd)
    let authorities := membersToDel.foldl deleteAuthority s.validators
    let authorities := membersToAdd.foldl addAuthority authorities
    (some authorities, s)

def State.startSession (s : State T) : State T :=
  { s with validators := s.queued }

def rotateSession (s : State T) : State T :=
  -- The session pallet starts a session and then queues what the session manager returns for the
  -- one after it. The validators are kept if it returns nothing.
  let (nextValidators, s') := newSession s.startSession
  { s' with queued := nextValidators.getD s'.validators }

inductive Call (T : Config) where
  | nominate (candidate : T.AccountId)
  | remove (candidate : T.AccountId)
  | removeMemberFromBlacklist (candidate : T.AccountId)
  | goOffline
  | goOnline

/--
The steps of the chain: an extrinsic, together with the answers of the network membership pallet
while it is executed, a report of offences, or the end of a session.
-/
inductive Step (T : Config) where
  | extrinsic (origin : T.Origin) (isMember : T.AccountId → Bool) (call : Call T)
  | offence (offenders : List T.AccountId) (strategy : SlashStrategy)
  | rotate

def Step.dispatch : Step T → CallM T Unit
  | .extrinsic origin isMember (.nominate candidate) =>
    Authorities.nominate origin isMember candidate
  | .extrinsic origin _ (.remove candidate) => Authorities.remove origin candidate
  | .extrinsic origin _ (.removeMemberFromBlacklist candidate) =>
    Authorities.removeMemberFromBlacklist origin candidate
  | .extrinsic origin _ .goOffline => Authorities.goOffline origin
  | .extrinsic origin _ .goOnline => Authorities.goOnline origin
  | .offence offenders strategy => modify (onOffence offenders strategy)
  | .rotate => modify rotateSession

def machine (T : Config) : Machine (State T) Error (Step T) where
  dispatch := Step.dispatch

end Authorities
