import Cord.Frame.Arith
import Cord.Frame.Bounded
import Cord.Frame.StorageMap

/-!
This module contains the keys of a DID: the kinds of keys and signatures, and the details that are
stored for a DID together with the functions that update them.
-/

open Frame

namespace Did

abbrev Payload := List UInt8

abbrev Bytes32 := Vector UInt8 32

abbrev Bytes33 := Vector UInt8 33

/--
The types the runtime provides to the DID pallet, and the bounds that its own types depend on.
Everything outside of the pallet that can be dispatched is an `OtherCall`, or it is a call of a
`Proxy` that dispatches another one.
-/
structure Types where
  AccountId : Type
  [decEqAccount : DecidableEq AccountId]
  DidIdentifier : Type
  [decEqDid : DecidableEq DidIdentifier]
  KeyId : Type
  [decEqKey : DecidableEq KeyId]
  OtherOrigin : Type
  OtherCall : Type
  Proxy : Type
  maxPublicKeysPerDid : Nat
  maxNewKeyAgreementKeys : Nat
  maxTotalKeyAgreementKeys : Nat
  maxServiceIdLength : Nat
  maxServiceTypeLength : Nat
  maxNumberOfTypesPerService : Nat
  maxServiceUrlLength : Nat
  maxNumberOfUrlsPerService : Nat

instance (τ : Types) : DecidableEq τ.AccountId := τ.decEqAccount

instance (τ : Types) : DecidableEq τ.DidIdentifier := τ.decEqDid

instance (τ : Types) : DecidableEq τ.KeyId := τ.decEqKey

inductive DidVerificationKey (AccountId : Type) where
  | ed25519 (key : Bytes32)
  | sr25519 (key : Bytes32)
  | ecdsa (key : Bytes33)
  | account (id : AccountId)
  deriving DecidableEq

inductive DidEncryptionKey where
  | x25519 (key : Bytes32)
  deriving DecidableEq

inductive DidPublicKey (AccountId : Type) where
  | publicVerificationKey (key : DidVerificationKey AccountId)
  | publicEncryptionKey (key : DidEncryptionKey)
  deriving DecidableEq

inductive DidVerificationKeyRelationship where
  | authentication
  | capabilityDelegation
  | capabilityInvocation
  | assertionMethod
  deriving DecidableEq, Repr

inductive DidSignature where
  | ed25519 (signature : Vector UInt8 64)
  | sr25519 (signature : Vector UInt8 64)
  | ecdsa (signature : Vector UInt8 65)
  deriving DecidableEq

inductive KeyType where
  | authentication
  | keyAgreement
  | assertionMethod
  | delegation
  deriving DecidableEq, Repr

def DidVerificationKeyRelationship.toKeyType : DidVerificationKeyRelationship → KeyType
  | .authentication => .authentication
  | .assertionMethod => .assertionMethod
  | .capabilityDelegation | .capabilityInvocation => .delegation

inductive NotFoundKind where
  | did
  | key (keyType : KeyType)
  deriving DecidableEq, Repr

inductive StorageError where
  | alreadyExists
  | notFound (kind : NotFoundKind)
  | maxPublicKeysExceeded
  | maxTotalKeyAgreementKeysExceeded
  | alreadyDeleted
  deriving DecidableEq, Repr

inductive SignatureError where
  | invalidFormat
  | invalidData
  | invalidNonce
  | transactionExpired
  deriving DecidableEq, Repr

inductive InputError where
  | maxKeyAgreementKeysLimitExceeded
  | maxServicesCountExceeded
  | maxUrlCountExceeded
  | maxTypeCountExceeded
  | maxIdLengthExceeded
  | maxUrlLengthExceeded
  | maxTypeLengthExceeded
  | invalidEncoding
  deriving DecidableEq, Repr

inductive DidError where
  | storage (err : StorageError)
  | signature (err : SignatureError)
  | input (err : InputError)
  | internal
  deriving DecidableEq, Repr

structure DidPublicKeyDetails (AccountId : Type) where
  key : DidPublicKey AccountId
  blockNumber : UInt32
  deriving DecidableEq

structure DidDetails (τ : Types) where
  authenticationKey : τ.KeyId
  keyAgreementKeys : BoundedSet τ.KeyId τ.maxTotalKeyAgreementKeys
  delegationKey : Option τ.KeyId
  assertionKey : Option τ.KeyId
  publicKeys : BoundedMap τ.KeyId (DidPublicKeyDetails τ.AccountId) τ.maxPublicKeysPerDid
  lastTxCounter : UInt64

namespace DidDetails

variable {τ : Types}

def removeKeyIfUnused (d : DidDetails τ) (keyId : τ.KeyId) : DidDetails τ :=
  if d.authenticationKey ≠ keyId ∧ d.assertionKey ≠ some keyId ∧ d.delegationKey ≠ some keyId ∧
      keyId ∉ d.keyAgreementKeys then
    { d with publicKeys := d.publicKeys.remove keyId }
  else
    d

def removeOldKey (d : DidDetails τ) (oldKeyId : Option τ.KeyId) : DidDetails τ :=
  -- The old key of an optional role is dropped if nothing else uses it, the role itself has been
  -- cleared before.
  match oldKeyId with
  | some keyId => d.removeKeyIfUnused keyId
  | none => d

def removeKeyAgreementKey (d : DidDetails τ) (keyId : τ.KeyId)
    : Except StorageError (DidDetails τ) :=
  if keyId ∈ d.keyAgreementKeys then
    .ok (removeKeyIfUnused { d with keyAgreementKeys := d.keyAgreementKeys.remove keyId } keyId)
  else
    .error (.notFound (.key .keyAgreement))

def removeAssertionKey (d : DidDetails τ) : Except StorageError (DidDetails τ) :=
  match d.assertionKey with
  | some oldKeyId => .ok (removeKeyIfUnused { d with assertionKey := none } oldKeyId)
  | none => .error (.notFound (.key .assertionMethod))

def removeDelegationKey (d : DidDetails τ) : Except StorageError (DidDetails τ) :=
  -- The error names the assertion key, as the source has it.
  match d.delegationKey with
  | some oldKeyId => .ok (removeKeyIfUnused { d with delegationKey := none } oldKeyId)
  | none => .error (.notFound (.key .assertionMethod))

def getVerificationKeyForKeyType (d : DidDetails τ) (keyType : DidVerificationKeyRelationship)
    : Option (DidVerificationKey τ.AccountId) := do
  let keyId ←
    match keyType with
    | .assertionMethod => d.assertionKey
    | .authentication => some d.authenticationKey
    | .capabilityDelegation => d.delegationKey
    | .capabilityInvocation => none
  let keyDetails ← d.publicKeys.get keyId
  match keyDetails.key with
  | .publicVerificationKey key => some key
  | .publicEncryptionKey _ => none

def increaseTxCounter (d : DidDetails τ) : DidDetails τ :=
  { d with lastTxCounter := d.lastTxCounter + 1 }

section Insert

/-
Key identifiers are the hashes of the encoded keys, `keyIdOf` stands for `calculate_key_id`.
-/
variable (keyIdOf : DidPublicKey τ.AccountId → τ.KeyId)

def insertKey (d : DidDetails τ) (key : DidPublicKey τ.AccountId) (blockNumber : UInt32)
    : Except StorageError (DidDetails τ) :=
  match d.publicKeys.tryInsert (keyIdOf key) { key, blockNumber } with
  | some publicKeys => .ok { d with publicKeys }
  | none => .error .maxPublicKeysExceeded

def new (authenticationKey : DidVerificationKey τ.AccountId) (blockNumber : UInt32)
    : Except StorageError (DidDetails τ) :=
  insertKey keyIdOf
    {
      authenticationKey := keyIdOf (.publicVerificationKey authenticationKey)
      keyAgreementKeys := .empty
      assertionKey := none
      delegationKey := none
      publicKeys := .empty
      lastTxCounter := 0
    }
    (.publicVerificationKey authenticationKey) blockNumber

def updateAuthenticationKey (d : DidDetails τ)
    (newAuthenticationKey : DidVerificationKey τ.AccountId) (blockNumber : UInt32)
    : Except StorageError (DidDetails τ) :=
  let newKeyId := keyIdOf (.publicVerificationKey newAuthenticationKey)
  let d' := removeKeyIfUnused { d with authenticationKey := newKeyId } d.authenticationKey
  d'.insertKey keyIdOf (.publicVerificationKey newAuthenticationKey) blockNumber

def addKeyAgreementKey (d : DidDetails τ) (newKeyAgreementKey : DidEncryptionKey)
    (blockNumber : UInt32) : Except StorageError (DidDetails τ) := do
  let d' ← d.insertKey keyIdOf (.publicEncryptionKey newKeyAgreementKey) blockNumber
  match d'.keyAgreementKeys.tryInsert (keyIdOf (.publicEncryptionKey newKeyAgreementKey)) with
  | some keyAgreementKeys => return { d' with keyAgreementKeys }
  | none => throw .maxTotalKeyAgreementKeysExceeded

def addKeyAgreementKeys (d : DidDetails τ) (newKeyAgreementKeys : List DidEncryptionKey)
    (blockNumber : UInt32) : Except StorageError (DidDetails τ) :=
  match newKeyAgreementKeys with
  | [] => return d
  | key :: keys => do
    let d' ← d.addKeyAgreementKey keyIdOf key blockNumber
    d'.addKeyAgreementKeys keys blockNumber

def updateAssertionKey (d : DidDetails τ) (newAssertionKey : DidVerificationKey τ.AccountId)
    (blockNumber : UInt32) : Except StorageError (DidDetails τ) :=
  let d' := removeOldKey { d with assertionKey := none } d.assertionKey
  let newKeyId := keyIdOf (.publicVerificationKey newAssertionKey)
  { d' with assertionKey := some newKeyId }.insertKey keyIdOf
    (.publicVerificationKey newAssertionKey) blockNumber

def updateDelegationKey (d : DidDetails τ) (newDelegationKey : DidVerificationKey τ.AccountId)
    (blockNumber : UInt32) : Except StorageError (DidDetails τ) :=
  let d' := removeOldKey { d with delegationKey := none } d.delegationKey
  let newKeyId := keyIdOf (.publicVerificationKey newDelegationKey)
  { d' with delegationKey := some newKeyId }.insertKey keyIdOf
    (.publicVerificationKey newDelegationKey) blockNumber

end Insert

end DidDetails

end Did
