import Cord.DidName.Impl.Basic
import Cord.Frame.Arith
import Cord.Frame.BinarySearch
import Cord.Frame.Bounded
import Cord.Frame.Machine
import Cord.Frame.StorageMap

/-!
This module contains the data model of the identity pallet: registrations with the judgements of
registrars, sub accounts, and usernames with the authorities that grant them.
-/

open Frame
open DidName (isAsciiLowercase isAsciiDigit period)

namespace Identity

/--
What the runtime provides to the pallet. `verify` checks a signature of an account on a message,
`encodeBytes` is the encoding of a vector of bytes, and `usizeMax` is the largest value of the
target's `usize`.
-/
structure Config where
  AccountId : Type
  [linearOrder : LinearOrder AccountId]
  Origin : Type
  ensureSigned : Origin → Option AccountId
  registrarOrigin : Origin → Option Unit
  usernameAuthorityOrigin : Origin → Option Unit
  LookupSource : Type
  lookup : LookupSource → Option AccountId
  IdentityInformation : Type
  defaultInformation : IdentityInformation
  FieldsIdentifier : Type
  defaultFields : FieldsIdentifier
  Hash : Type
  [decEqHash : DecidableEq Hash]
  hashOf : IdentityInformation → Hash
  OffchainSignature : Type
  verify : OffchainSignature → List UInt8 → AccountId → Bool
  encodeBytes : List UInt8 → List UInt8
  maxSubAccounts : UInt32
  maxRegistrars : UInt32
  pendingUsernameExpiration : UInt32
  maxSuffixLength : UInt32
  maxUsernameLength : UInt32
  usizeMax : Nat

instance (T : Config) : LinearOrder T.AccountId := T.linearOrder

instance (T : Config) : DecidableEq T.Hash := T.decEqHash

/--
A configuration to evaluate calls in. `none` is the origin that manages registrars and authorities,
and a signature is the account that has signed together with the message.
-/
abbrev Config.plain : Config where
  AccountId := Nat
  Origin := Option Nat
  ensureSigned := id
  registrarOrigin origin := if origin.isNone then some () else none
  usernameAuthorityOrigin origin := if origin.isNone then some () else none
  LookupSource := Nat
  lookup := some
  IdentityInformation := Nat
  defaultInformation := 0
  FieldsIdentifier := Nat
  defaultFields := 0
  Hash := Nat
  hashOf := id
  OffchainSignature := Nat × List UInt8
  verify signature message signer := signature = (signer, message)
  encodeBytes bytes := (4 * bytes.length).toUInt8 :: bytes
  maxSubAccounts := 2
  maxRegistrars := 3
  pendingUsernameExpiration := 100
  maxSuffixLength := 7
  maxUsernameLength := 32
  usizeMax := 2 ^ 32 - 1

inductive Data where
  | none
  | raw (bytes : BoundedVec UInt8 32)
  | blakeTwo256 (hash : Vector UInt8 32)
  | sha256 (hash : Vector UInt8 32)
  | keccak256 (hash : Vector UInt8 32)
  | shaThree256 (hash : Vector UInt8 32)
  deriving DecidableEq

inductive Judgement where
  | unknown
  | requested
  | reasonable
  | knownGood
  | outOfDate
  | lowQuality
  | erroneous
  deriving DecidableEq, Repr

def Judgement.hasRequested (judgement : Judgement) : Bool :=
  judgement = .requested

def Judgement.isSticky : Judgement → Bool
  | .requested | .erroneous => true
  | _ => false

structure Registration (T : Config) where
  judgements : BoundedVec (T.AccountId × Judgement) T.maxRegistrars.toNat
  info : T.IdentityInformation

structure RegistrarInfo (T : Config) where
  account : T.AccountId
  fields : T.FieldsIdentifier

abbrev Suffix (T : Config) := BoundedVec UInt8 T.maxSuffixLength.toNat

abbrev Username (T : Config) := BoundedVec UInt8 T.maxUsernameLength.toNat

structure AuthorityProperties (T : Config) where
  suffix : Suffix T
  allocation : UInt32

/--
An error of the pallet, or the one of an address that can not be looked up.
-/
inductive Error where
  | cannotLookup
  | tooManySubAccounts
  | notFound
  | registrarNotFound
  | registrarAlreadyExists
  | noIdentity
  | stickyJudgement
  | judgementGiven
  | invalidJudgement
  | invalidTarget
  | tooManyRegistrars
  | alreadyClaimed
  | notSub
  | notOwned
  | judgementForDifferentIdentity
  | invalidSuffix
  | notUsernameAuthority
  | noAllocation
  | invalidSignature
  | invalidUsername
  | usernameTaken
  | noUsername
  | notExpired
  deriving DecidableEq, Repr

inductive Event (T : Config) where
  | identitySet (who : T.AccountId)
  | identityCleared (who : T.AccountId)
  | identityKilled (who : T.AccountId)
  | judgementRequested (who registrar : T.AccountId)
  | judgementUnrequested (who registrar : T.AccountId)
  | judgementGiven (target registrar : T.AccountId)
  | registrarAdded (registrarIndex : UInt32)
  | registrarRemoved (registrar : T.AccountId)
  | subIdentityAdded (sub main : T.AccountId)
  | subIdentityRemoved (sub main : T.AccountId)
  | subIdentityRevoked (sub main : T.AccountId)
  | authorityAdded (authority : T.AccountId)
  | authorityRemoved (authority : T.AccountId)
  | usernameSet (who : T.AccountId) (username : Username T)
  | usernameQueued (who : T.AccountId) (username : Username T) (expiration : UInt32)
  | preapprovalExpired (whose : T.AccountId)
  | primaryUsernameSet (who : T.AccountId) (username : Username T)
  | danglingUsernameRemoved (who : T.AccountId) (username : Username T)

structure State (T : Config) where
  identityOf : StorageMap T.AccountId (Registration T × Option (Username T))
  superOf : StorageMap T.AccountId (T.AccountId × Data)
  subsOf : StorageMap T.AccountId (BoundedVec T.AccountId T.maxSubAccounts.toNat)
  registrars : BoundedVec (Option (RegistrarInfo T)) T.maxRegistrars.toNat
  usernameAuthorities : StorageMap T.AccountId (AuthorityProperties T)
  accountOfUsername : StorageMap (Username T) T.AccountId
  pendingUsernames : StorageMap (Username T) (T.AccountId × UInt32)
  blockNumber : UInt32
  events : List (Event T)

abbrev CallM (T : Config) := DispatchM (State T) Error

def State.genesis (T : Config) : State T where
  identityOf := ∅
  superOf := ∅
  subsOf := ∅
  registrars := .empty
  usernameAuthorities := ∅
  accountOfUsername := ∅
  pendingUsernames := ∅
  blockNumber := 0
  events := []

variable {T : Config}

def State.subs (s : State T) (who : T.AccountId)
    : BoundedVec T.AccountId T.maxSubAccounts.toNat :=
  s.subsOf.getD who .empty

def hasAccount (account : T.AccountId) (registrar : Option (RegistrarInfo T)) : Bool :=
  match registrar with
  | some info => info.account = account
  | none => false

section Usernames

def delimiter : UInt8 := 0x40

def fullUsername (username suffix : List UInt8) : List UInt8 :=
  username ++ delimiter :: suffix

def usernameLength (T : Config) (username suffix : List UInt8) : UInt32 :=
  -- `username.len().saturating_add(suffix.len()) as u32`
  (min (username.length + suffix.length) T.usizeMax).toUInt32

def checkCharacter (state : Bool × Option UInt8) (curChar : UInt8) : Bool × Option UInt8 :=
  let (valid, lastChar) := state
  (
    valid && (isAsciiLowercase curChar || isAsciiDigit curChar || curChar = period) &&
      !(lastChar = some period && curChar = period),
    some curChar
  )

def isValidUsername (input : List UInt8) : Bool :=
  match input.head?, input.getLast? with
  | some first, some last =>
    if !isAsciiLowercase first || last = period then
      false
    else
      (input.foldl checkCharacter (true, none)).1
  | _, _ => false

def validateUsername (T : Config) (username : List UInt8) (length : Option UInt32)
    : Except Error Unit :=
  if length.any fun l => !(l < T.maxUsernameLength) then
    .error .invalidUsername
  else if username.isEmpty then
    .error .invalidUsername
  else if isValidUsername username then
    .ok ()
  else
    .error .invalidUsername

def validateSuffix (suffix : List UInt8) : Except Error Unit :=
  if suffix.isEmpty then
    .error .invalidSuffix
  else if suffix.all isAsciiLowercase then
    .ok ()
  else
    .error .invalidSuffix

def wrapBytes (data : List UInt8) : List UInt8 :=
  -- `<Bytes>` and `</Bytes>` around the data
  [60, 66, 121, 116, 101, 115, 62] ++ data ++ [60, 47, 66, 121, 116, 101, 115, 62]

def validateSignature (data : List UInt8) (signature : T.OffchainSignature) (signer : T.AccountId)
    : Except Error Unit :=
  if T.verify signature data signer then
    .ok ()
  else if T.verify signature (wrapBytes data) signer then
    .ok ()
  else
    .error .invalidSignature

end Usernames

end Identity
