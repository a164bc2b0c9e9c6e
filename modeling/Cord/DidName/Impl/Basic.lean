import Cord.Frame.Bounded
import Cord.Frame.Machine
import Cord.Frame.StorageMap

/-!
This module contains the data model of the DID name pallet: the names that are accepted, their owners
and the names that are banned.
-/

open Frame

namespace DidName

inductive Error where
  | alreadyExists
  | ownerAlreadyExists
  | ownerNotFound
  | banned
  | notBanned
  | alreadyBanned
  | nameTooShort
  | nameExceedsMaxLength
  | invalidSuffix
  | invalidFormat
  deriving DecidableEq, Repr

/--
How a call of the pallet can end other than with success: `unwrap` of `None` is a panic, not an error.
-/
inductive Failure where
  | error (err : Error)
  | panic
  deriving DecidableEq, Repr

section AsciiDidName

abbrev AsciiDidName (maxNameLength : UInt32) := BoundedVec UInt8 maxNameLength.toNat

def nameSeparator : UInt8 := 0x40

def networkSuffix : List UInt8 := [0x63, 0x6f, 0x72, 0x64]

def period : UInt8 := 0x2e

def isAsciiLowercase (c : UInt8) : Bool :=
  0x61 ≤ c ∧ c ≤ 0x7a

def isAsciiDigit (c : UInt8) : Bool :=
  0x30 ≤ c ∧ c ≤ 0x39

def checkCharacters (isValid : Bool) (prevChar : Option UInt8) : List UInt8 → Option Bool
  -- The loop of `is_valid_did_name_prefix`, `none` is its `return false`.
  | [] => some isValid
  | c :: rest =>
    if isAsciiLowercase c ∨ isAsciiDigit c then
      checkCharacters true (some c) rest
    else if c = period then
      if prevChar = some period then none else checkCharacters isValid (some c) rest
    else
      none

def isValidDidNamePrefix (input : List UInt8) : Bool :=
  match input with
  | [] => false
  | first :: rest =>
    if isAsciiLowercase first then
      match checkCharacters false none rest with
      | none => false
      | some isValid => if input.getLast? = some period then false else isValid
    else
      false

def splitName (input : List UInt8) : List UInt8 × Option (List UInt8) :=
  -- What `splitn(2, ..)` yields: everything up to the first separator, and if there is one the
  -- rest of the input.
  (input.takeWhile (· ≠ nameSeparator), (input.dropWhile (· ≠ nameSeparator)).tail?)

def AsciiDidName.tryFrom (minNameLength maxNameLength maxPrefixLength : UInt32)
    (value : List UInt8) : Except Error (AsciiDidName maxNameLength) :=
  if value.length < minNameLength.toNat then
    .error .nameTooShort
  else if h : value.length ≤ maxNameLength.toNat then
    match splitName value with
    | (namePrefix, some suffix) =>
      if suffix ≠ networkSuffix then
        .error .invalidSuffix
      else if namePrefix.length < minNameLength.toNat then
        .error .nameTooShort
      else if maxPrefixLength.toNat < namePrefix.length then
        .error .nameExceedsMaxLength
      else if isValidDidNamePrefix namePrefix then
        .ok ⟨value, h⟩
      else
        .error .invalidFormat
    | (_, none) => .error .invalidFormat
  else
    .error .nameExceedsMaxLength

end AsciiDidName

/--
What the runtime provides to the pallet. The pallet is generic in what a name is, `tryFrom` decodes it
from what a user has entered.
-/
structure Config where
  Origin : Type
  DidNameOwner : Type
  [decEqOwner : DecidableEq DidNameOwner]
  Name : Type
  [decEqName : DecidableEq Name]
  maxNameLength : UInt32
  tryFrom : List UInt8 → Except Error Name
  ensureOrigin : Origin → Option DidNameOwner
  banOrigin : Origin → Option Unit

instance (T : Config) : DecidableEq T.DidNameOwner := T.decEqOwner

instance (T : Config) : DecidableEq T.Name := T.decEqName

/--
The names of the runtimes with their bounds. Owners are single bytes and `none` is root.
-/
abbrev Config.ascii : Config where
  Origin := Option UInt8
  DidNameOwner := UInt8
  Name := AsciiDidName 64
  maxNameLength := 64
  tryFrom := AsciiDidName.tryFrom 3 64 54
  ensureOrigin := id
  banOrigin origin := if origin = none then some () else none

structure DidNameOwnership (T : Config) where
  owner : T.DidNameOwner
  registeredAt : UInt32
  deriving DecidableEq

inductive Event (T : Config) where
  | didNameRegistered (owner : T.DidNameOwner) (name : T.Name)
  | didNameReleased (owner : T.DidNameOwner) (name : T.Name)
  | didNameBanned (name : T.Name)
  | didNameUnbanned (name : T.Name)
  deriving DecidableEq

structure State (T : Config) where
  owner : StorageMap T.Name (DidNameOwnership T)
  names : StorageMap T.DidNameOwner T.Name
  banned : StorageMap T.Name Unit
  blockNumber : UInt32
  events : List (Event T)

def State.genesis (T : Config) : State T where
  owner := ∅
  names := ∅
  banned := ∅
  blockNumber := 0
  events := []

abbrev CallM (T : Config) := DispatchM (State T) Failure

end DidName
