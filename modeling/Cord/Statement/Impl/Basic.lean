import Cord.ChainSpace.Impl.Calls
import Cord.Frame.Sort

/-!
This module contains the data model of the statement pallet. Its state includes that of the chain
space pallet, which is charged for the statements.
-/

open Frame Identifier

namespace Statement

inductive PresentationTypeOf where
  | other
  | pdf
  | jpeg
  | png
  | gif
  | txt
  | svg
  | json
  | docx
  | xlsx
  | pptx
  | mp3
  | mp4
  | xml
  deriving DecidableEq, Repr

/--
What the runtime provides to the statement pallet. The order in which the entries of a statement are
visited is the order of the hashed keys, of which nothing is known.
-/
structure Config extends toChainSpace : ChainSpace.Config where
  ensureStatementOrigin : Origin → Option SpaceCreatorId
  maxDigestsPerBatch : UInt16
  maxRemoveEntries : UInt16
  iterOrder : Multiset Hash → List Hash
  iterOrder_eq : ∀ digests, Multiset.ofList (iterOrder digests) = digests

section Plain

def plainOrder (digests : Multiset (List UInt8)) : List (List UInt8) :=
  Quotient.liftOn digests (List.insertionSort bytesLE) <| by
    intro a b h
    have hperm := (List.perm_insertionSort bytesLE a).trans
      (h.trans (List.perm_insertionSort bytesLE b).symm)
    apply hperm.eq_of_pairwise _ (List.pairwise_insertionSort bytesLE a)
      (List.pairwise_insertionSort bytesLE b)
    intro x y _ _
    exact bytesLE_antisymm

theorem plainOrder_eq (digests : Multiset (List UInt8)) : ↑(plainOrder digests) = digests := by
  induction digests using Quotient.inductionOn with
  | _ l => exact Quotient.sound (List.perm_insertionSort bytesLE l)

abbrev Config.plain : Config where
  toChainSpace := .plain
  ensureStatementOrigin := id
  maxDigestsPerBatch := 4
  maxRemoveEntries := 2
  iterOrder := plainOrder
  iterOrder_eq := plainOrder_eq

end Plain

structure StatementDetails (T : Config) where
  digest : T.Hash
  space : T.Ss58Identifier
  schema : Option T.Ss58Identifier
  deriving DecidableEq

structure StatementEntryStatus (T : Config) where
  creator : T.SpaceCreatorId
  revoked : Bool
  deriving DecidableEq

structure StatementPresentationDetails (T : Config) where
  creator : T.SpaceCreatorId
  presentationType : PresentationTypeOf
  digest : T.Hash
  space : T.Ss58Identifier
  deriving DecidableEq

inductive Event (T : Config) where
  | register (identifier : T.Ss58Identifier) (digest : T.Hash) (author : T.SpaceCreatorId)
  | update (identifier : T.Ss58Identifier) (digest : T.Hash) (author : T.SpaceCreatorId)
  | revoke (identifier : T.Ss58Identifier) (author : T.SpaceCreatorId)
  | restore (identifier : T.Ss58Identifier) (author : T.SpaceCreatorId)
  | remove (identifier : T.Ss58Identifier) (author : T.SpaceCreatorId)
  | partialRemoval (identifier : T.Ss58Identifier) (removed : UInt32) (author : T.SpaceCreatorId)
  | presentationAdded (identifier : T.Ss58Identifier) (digest : T.Hash) (author : T.SpaceCreatorId)
  | presentationRemoved (identifier : T.Ss58Identifier) (digest : T.Hash)
      (author : T.SpaceCreatorId)
  | registerBatch (successful failed : UInt32) (indices : List UInt16) (author : T.SpaceCreatorId)
  deriving DecidableEq

/--
An error of the pallet, or one of the chain space pallet that is passed on.
-/
inductive Error where
  | chainSpace (err : ChainSpace.Error)
  | statementAlreadyAnchored
  | statementNotFound
  | unauthorizedOperation
  | statementRevoked
  | statementNotRevoked
  | invalidIdentifierLength
  | maxDigestLimitExceeded
  | bulkTransactionFailed
  | presentationDigestAlreadyAnchored
  | presentationNotFound
  | statementDigestAlreadyAnchored
  deriving DecidableEq, Repr

structure State (T : Config) where
  chainSpace : ChainSpace.State T.toChainSpace
  statements : StorageMap T.Ss58Identifier (StatementDetails T)
  entries : StorageMap (T.Ss58Identifier × T.Hash) T.SpaceCreatorId
  presentations : StorageMap (T.Ss58Identifier × T.Hash) (StatementPresentationDetails T)
  revocationList : StorageMap (T.Ss58Identifier × T.Hash) (StatementEntryStatus T)
  identifierLookup : StorageMap (T.Hash × T.Ss58Identifier) T.Ss58Identifier
  events : List (Event T)

abbrev CallM (T : Config) := DispatchM (State T) Error

def State.genesis (T : Config) : State T where
  chainSpace := .genesis T.toChainSpace
  statements := ∅
  entries := ∅
  presentations := ∅
  revocationList := ∅
  identifierLookup := ∅
  events := []

variable {T : Config}

def chainSpace {α : Type} (x : ChainSpace.CallM T.toChainSpace α) : CallM T α :=
  zoom State.chainSpace (fun t s => { s with chainSpace := t }) .chainSpace x

def depositEvent (event : Event T) : CallM T Unit :=
  modify fun s => { s with events := s.events ++ [event] }

def updateActivity (txId : T.Ss58Identifier) (txAction : CallTypeOf) : CallM T Unit :=
  chainSpace (ChainSpace.updateActivity txId .statement txAction)

def getStatement (statementId : T.Ss58Identifier) : CallM T (StatementDetails T) := do
  okOr ((← get).statements.get statementId) .statementNotFound

def statementIdentifier (T : Config) (digest : T.Hash) (spaceId : T.Ss58Identifier)
    (creator : T.SpaceCreatorId) : Option T.Ss58Identifier :=
  let idDigest :=
    T.hash (T.encodeHash digest ++ T.encodeIdentifier spaceId ++ T.encodeCreator creator)
  T.createIdentifier (T.encodeHash idDigest) .statement

end Statement
