import Cord.Frame.Bounded
import Cord.Frame.Machine

/-!
This module contains the data model of the authorities pallet: the members that may be validators,
the lists of those that enter and leave at the next session, and the part of the session pallet that
the pallet reads.
-/

open Frame

namespace Authorities

/--
What the runtime provides to the pallet. The offence handler asks for validators to be identified by
their accounts, so there is one type for both.
-/
structure Config where
  AccountId : Type
  [decEq : DecidableEq AccountId]
  Origin : Type
  ensureSigned : Origin → Option AccountId
  authorityMembershipOrigin : Origin → Option Unit
  validatorIdOf : AccountId → Option AccountId
  minAuthorities : UInt32

instance (T : Config) : DecidableEq T.AccountId := T.decEq

abbrev Config.ValidatorId (T : Config) : Type := T.AccountId

abbrev Config.plain (minAuthorities : UInt32) : Config where
  AccountId := Nat
  Origin := Option Nat
  ensureSigned := id
  authorityMembershipOrigin origin := if origin = none then some () else none
  validatorIdOf := some
  minAuthorities

inductive Error where
  | memberAlreadyIncoming
  | memberAlreadyExists
  | memberAlreadyOutgoing
  | memberNotFound
  | memberBlackListed
  | memberNotBlackListed
  | networkMembershipNotFound
  | tooLowAuthorityCount
  | noAssociatedValidatorId
  deriving DecidableEq, Repr

inductive Event (T : Config) where
  | incomingAuthorities (members : List T.ValidatorId)
  | outgoingAuthorities (members : List T.ValidatorId)
  | memberAdded (who : T.AccountId)
  | memberGoOffline (who : T.AccountId)
  | memberGoOnline (who : T.AccountId)
  | memberRemoved (who : T.AccountId)
  | memberWhiteList (who : T.AccountId)
  | memberDisconnected (member : T.ValidatorId)
  | memberBlacklistedRemoved (member : T.ValidatorId)
  deriving DecidableEq

inductive SlashStrategy where
  | disconnect
  | blackList
  deriving DecidableEq, Repr

/--
The storage of the pallet, the validators of the session that is running and those that are queued
for the next one.
-/
structure State (T : Config) where
  incomingAuthorities : List T.ValidatorId
  outgoingAuthorities : List T.ValidatorId
  members : List T.ValidatorId
  blackList : List T.ValidatorId
  validators : List T.ValidatorId
  queued : List T.ValidatorId
  events : List (Event T)

abbrev CallM (T : Config) := DispatchM (State T) Error

def newSessionGenesis {T : Config} (members : List T.ValidatorId) : List T.ValidatorId :=
  members

/--
The session pallet asks for the validators of the first two sessions at genesis.
-/
def State.genesis {T : Config} (initialAuthorities : List T.ValidatorId) : State T where
  incomingAuthorities := []
  outgoingAuthorities := []
  members := initialAuthorities
  blackList := []
  validators := newSessionGenesis initialAuthorities
  queued := newSessionGenesis initialAuthorities
  events := []

end Authorities
