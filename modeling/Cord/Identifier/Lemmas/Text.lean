import Cord.Identifier.Lemmas.Curi

/-!
This module contains what the text of an identifier determines and how long it is: no two pairs of a type
and data have one text, and the text of a digest always fits.
-/

open Frame

namespace Identifier

namespace Codec

variable {C : Codec} {data : List UInt8} {idIdent : UInt16} {identifier : Ss58Identifier}

theorem bs58Encode_injective : Function.Injective C.bs58Encode := by
  intro bytes bytes' h
  have hdecode := congrArg C.bs58Decode h
  rw [C.bs58Decode_bs58Encode, C.bs58Decode_bs58Encode] at hdecode
  injection hdecode

theorem toUTF8_data_toList_injective : Function.Injective fun text : String => text.toUTF8.data.toList := by
  intro text text' h
  have hread := congrArg (fun bytes : List UInt8 => String.fromUTF8? ⟨bytes.toArray⟩) h
  dsimp only at hread
  rw [fromUTF8?_toUTF8, fromUTF8?_toUTF8] at hread
  injection hread

theorem checkedBytes_of_fromEncoded {data' : List UInt8} {idIdent' : UInt16}
    (h : C.fromEncoded data idIdent = .ok identifier)
    (h' : C.fromEncoded data' idIdent' = .ok identifier)
    : C.checkedBytes data' idIdent' = C.checkedBytes data idIdent := by
  have htext := (fromEncoded_iff.mp h).2
  have htext' := (fromEncoded_iff.mp h').2
  apply bs58Encode_injective
  apply toUTF8_data_toList_injective
  exact htext'.symm.trans htext

/--
The type of an identifier is read back from its text without the two bits that are masked out, and the text
determines the type and the data that it was made of.
-/
theorem fromEncoded_determined (C : Codec) (data : List UInt8) (idIdent : UInt16)
    (identifier : Ss58Identifier) (h : C.fromEncoded data idIdent = .ok identifier)
    : C.getIdentifierType identifier = .ok (idIdent &&& 0b0011111111111111) ∧
        ∀ data' idIdent', C.fromEncoded data' idIdent' = .ok identifier →
          idIdent' &&& 0b0011111111111111 = idIdent &&& 0b0011111111111111 ∧ data' = data := by
  have hread := getIdentifierType_fromEncoded h
  refine ⟨hread, ?_⟩
  intro data' idIdent' h'
  have hident : idIdent' &&& 0b0011111111111111 = idIdent &&& 0b0011111111111111 := by
    have hread' := getIdentifierType_fromEncoded h'
    rw [hread, Except.ok.injEq] at hread'
    exact hread'.symm
  have hbytes := checkedBytes_of_fromEncoded h h'
  unfold checkedBytes at hbytes
  dsimp only at hbytes
  -- The two bytes at the end and the code at the start are as long in both.
  rw [hident] at hbytes
  have hdata := (List.append_inj' hbytes (by rw [length_check, length_check])).1
  exact ⟨hident, List.append_cancel_left hdata⟩

theorem spaceIdentifier_determined
    : plain.fromEncoded [1, 2, 3] 3390 = .ok spaceIdentifier ∧
        plain.getIdentifierType spaceIdentifier = .ok (3390 &&& 0b0011111111111111) ∧
        ∀ data' idIdent', plain.fromEncoded data' idIdent' = .ok spaceIdentifier →
          idIdent' &&& 0b0011111111111111 = 3390 &&& 0b0011111111111111 ∧ data' = [1, 2, 3] := by
  have hencoded : plain.fromEncoded [1, 2, 3] 3390 = .ok spaceIdentifier := by
    decide +kernel
  exact ⟨hencoded, fromEncoded_determined plain [1, 2, 3] 3390 spaceIdentifier hencoded⟩

section Digest

theorem encodeIdent_identValue (idType : IdentifierType)
    : ∃ first second, encodeIdent (idType.identValue &&& 0b0011111111111111) = [first, second] ∧
        first.toNat ≠ 0 ∧ first.toNat < 128 := by
  have hvalue : 63 < idType.identValue.toNat ∧ idType.identValue.toNat < 2 ^ 14 := by
    cases idType <;> decide
  rw [identValue_masked]
  obtain ⟨first, second, hencode, hfirst, _⟩ := encodeIdent_of_lt hvalue.1 hvalue.2
  refine ⟨first, second, hencode, ?_, ?_⟩
  . omega
  . omega

/-
A first byte of 255 would need one more digit: 58 ^ 49 is just above 2 ^ 287.
-/
theorem utf8ByteSize_bs58Encode_digest (digest : Vector UInt8 32) (check : Vector UInt8 2)
    (idType : IdentifierType)
    : (C.bs58Encode (encodeIdent (idType.identValue &&& 0b0011111111111111) ++ digest.toList ++
        check.toList)).utf8ByteSize ≤ maximumIdentifierLength := by
  obtain ⟨first, second, hencode, hzero, hlt⟩ := encodeIdent_identValue idType
  rw [C.utf8ByteSize_bs58Encode, hencode]
  apply Base58.length_encodedDigits_cons_le _ hzero
  have hlength : (second :: (digest.toList ++ check.toList)).length = 35 := by
    rw [List.length_cons, List.length_append, Vector.length_toList, Vector.length_toList]
  calc 256 ^ (second :: (digest.toList ++ check.toList)).length * (first.toNat + 1)
    _ ≤ 256 ^ 35 * 128 := by
      rw [hlength]
      exact Nat.mul_le_mul_left _ hlt
    _ ≤ 58 ^ maximumIdentifierLength := by decide

/--
An identifier is made of every digest and type, since their text fits whatever the two bytes of the hash
are.
-/
theorem createIdentifier_digest (C : Codec) (digest : Vector UInt8 32) (idType : IdentifierType)
    : (∃ identifier, C.createIdentifier digest.toList idType = .ok identifier) ∧
        ∀ check : Vector UInt8 2,
          (C.bs58Encode (encodeIdent (idType.identValue &&& 0b0011111111111111) ++ digest.toList ++
            check.toList)).utf8ByteSize ≤ maximumIdentifierLength := by
  have hsize : ∀ check : Vector UInt8 2, _ :=
    fun check => @utf8ByteSize_bs58Encode_digest C digest check idType
  refine ⟨?_, hsize⟩
  let bytes := encodeIdent (idType.identValue &&& 0b0011111111111111) ++ digest.toList
  have hfits := hsize ⟨((C.ss58hash bytes).toList.take 2).toArray, length_check bytes⟩
  let identifier : Ss58Identifier :=
    ⟨(C.bs58Encode (C.checkedBytes digest.toList idType.identValue)).toUTF8.data.toList, hfits⟩
  refine ⟨identifier, ?_⟩
  unfold createIdentifier
  rw [fromEncoded_iff, Vector.length_toList]
  exact ⟨by decide, rfl⟩

end Digest

end Codec

end Identifier
