import Cord.Frame.Base58
import Cord.Identifier.Timeline

/-!
This module contains the text of an identifier: the code of its type in one or two bytes, the data and two
bytes of their hash, written in base 58. The hash and the codec of the text are parameters.
-/

open Frame

namespace Identifier

inductive IdentifierError where
  | invalidFormat
  | invalidPrefix
  | invalidIdentifier
  | invalidIdentifierLength
  deriving DecidableEq, Repr

namespace IdentifierType

def identValue (idType : IdentifierType) : UInt16 :=
  match idType with
  | .authorization => 2092
  | .space => 3390
  | .schema => 7366
  | .statement => 8902
  | .entity => 6480
  | .template => 8911
  | .asset => 2348
  | .assetInstance => 11380
  | .rating => 6077
  | .registries => 9274
  | .entries => 9944
  | .registryAuthorization => 10001
  | .schemaAccounts => 10501

def fromU16 (value : UInt16) : Option IdentifierType :=
  match value with
  | 2092 => some .authorization
  | 3390 => some .space
  | 7366 => some .schema
  | 8902 => some .statement
  | 6480 => some .entity
  | 8911 => some .template
  | 2348 => some .asset
  | 6077 => some .assetInstance
  | 11380 => some .rating
  | 9274 => some .registries
  | 9944 => some .entries
  | 10001 => some .registryAuthorization
  | 10501 => some .schemaAccounts
  | _ => none

end IdentifierType

def minimumIdentifierLength : Nat := 2

def maximumIdentifierLength : Nat := 49

/--
What the crates provide to an identifier. The text of bytes is decoded to these bytes, and it has one
character for every digit of their number in base 58.
-/
structure Codec where
  blake2b : List UInt8 → Vector UInt8 64
  bs58Encode : List UInt8 → String
  bs58Decode : String → Option (List UInt8)
  bs58Decode_bs58Encode : ∀ bytes, bs58Decode (bs58Encode bytes) = some bytes
  utf8ByteSize_bs58Encode : ∀ bytes,
    (bs58Encode bytes).utf8ByteSize = (Base58.encodedDigits bytes).length

abbrev Ss58Identifier := BoundedVec UInt8 maximumIdentifierLength

def encodeIdent (ident : UInt16) : List UInt8 :=
  if ident ≤ 63 then
    [ident.toUInt8]
  else
    -- The upper two bits are masked out.
    let first := (ident &&& 0b0000000011111100).toUInt8 >>> 2
    let second := (ident >>> 8).toUInt8 ||| (ident &&& 0b0000000000000011).toUInt8 <<< 6
    [first ||| 0b01000000, second]

def decodeIdent (first second : UInt8) : Except IdentifierError UInt16 :=
  if first ≤ 63 then
    .ok first.toUInt16
  else if first ≤ 127 then
    let lower := first <<< 2 ||| second >>> 6
    let upper := second &&& 0b00111111
    .ok (lower.toUInt16 ||| upper.toUInt16 <<< 8)
  else
    .error .invalidPrefix

namespace Codec

variable (C : Codec)

def ss58hash (data : List UInt8) : Vector UInt8 64 :=
  -- The hash of `CRDIDFR` and the data.
  C.blake2b ([67, 82, 68, 73, 68, 70, 82] ++ data)

def fromEncoded (data : List UInt8) (idIdent : UInt16) : Except IdentifierError Ss58Identifier :=
  if minimumIdentifierLength < data.length ∧ data.length < maximumIdentifierLength then
    let v := encodeIdent (idIdent &&& 0b0011111111111111) ++ data
    let r := C.ss58hash v
    let v := v ++ r.toList.take 2
    match BoundedVec.tryFrom (C.bs58Encode v).toUTF8.data.toList with
    | some identifier => .ok identifier
    | none => .error .invalidIdentifier
  else
    .error .invalidIdentifierLength

def createIdentifier (data : List UInt8) (idType : IdentifierType)
    : Except IdentifierError Ss58Identifier :=
  C.fromEncoded data idType.identValue

def getIdentifierType (self : Ss58Identifier) : Except IdentifierError UInt16 :=
  match String.fromUTF8? ⟨self.toList.toArray⟩ with
  | none => .error .invalidFormat
  | some identifier =>
    match C.bs58Decode identifier with
    | none => .error .invalidIdentifier
    | some (first :: second :: _) =>
      if 2 < identifier.utf8ByteSize ∧ identifier.utf8ByteSize < 50 then
        decodeIdent first second
      else
        .error .invalidIdentifierLength
    | some _ => .error .invalidIdentifierLength

def getType (self : Ss58Identifier) : Except IdentifierError IdentifierType := do
  let identifierTypeU16 ← C.getIdentifierType self
  match IdentifierType.fromU16 identifierTypeU16 with
  | some idType => return idType
  | none => throw .invalidIdentifier

end Codec

end Identifier
