import Cord.Frame.Bounded
import Cord.Frame.StorageMap

/-!
This module contains the identifier primitive: what an identifier can stand for, and the timeline of
activities that is kept for it. Creating an identifier from the digest of some encoded data is a
parameter, so is the encoding of an identifier.
-/

open Frame

namespace Identifier

inductive IdentifierType where
  | authorization
  | space
  | schema
  | statement
  | entity
  | template
  | asset
  | assetInstance
  | rating
  | registries
  | entries
  | registryAuthorization
  | schemaAccounts
  deriving DecidableEq, Repr

inductive IdentifierTypeOf where
  | asset
  | auth
  | chainSpace
  | did
  | rating
  | registry
  | statement
  | schema
  | template
  | registries
  | entries
  | registryAuthorization
  | schemaAccounts
  deriving DecidableEq, Repr

inductive CallTypeOf where
  | archive
  | authorization
  | capacity
  | councilRevoke
  | councilRestore
  | deauthorization
  | approved
  | genesis
  | update
  | revoke
  | restore
  | remove
  | partialRemove
  | presentationAdded
  | presentationRemoved
  | rotate
  | usage
  | transfer
  | debit
  | credit
  | issue
  | reinstate
  deriving DecidableEq, Repr

structure Timepoint where
  height : UInt32
  index : UInt32
  deriving DecidableEq, Repr

structure EventEntry where
  action : CallTypeOf
  location : Timepoint
  deriving DecidableEq, Repr

/--
What the runtime provides to the identifier pallet. A history that cannot hold the genesis event and
one more is not supported, the removal of the second event would panic.
-/
structure Config where
  Ss58Identifier : Type
  [decEqIdentifier : DecidableEq Ss58Identifier]
  encodeIdentifier : Ss58Identifier → List UInt8
  createIdentifier : List UInt8 → IdentifierType → Option Ss58Identifier
  maxEventsHistory : Nat
  two_le_maxEventsHistory : 2 ≤ maxEventsHistory

instance (T : Config) : DecidableEq T.Ss58Identifier := T.decEqIdentifier

variable (T : Config)

abbrev Identifiers := StorageMap (T.Ss58Identifier × IdentifierTypeOf)
  (BoundedVec EventEntry T.maxEventsHistory)

variable {T}

def updateTimeline (identifiers : Identifiers T) (id : T.Ss58Identifier) (idType : IdentifierTypeOf)
    (entry : EventEntry) : Option (Identifiers T) := do
  -- Append an event to the timeline of an identifier. A full timeline loses its second event
  -- first, so the genesis event always stays.
  let events := identifiers.getD (id, idType) .empty
  let events := if events.toList.length = T.maxEventsHistory then events.remove 1 else events
  let events ← events.tryPush entry
  return identifiers.insert (id, idType) events

end Identifier
