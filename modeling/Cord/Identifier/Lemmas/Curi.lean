import Cord.Identifier.Curi

/-!
This module contains the type that is read back from the text of an identifier. The bytes of the code and
the text are read back as they were written, only the two tables of codes differ.
-/

open Frame

namespace Identifier

section Ident

variable {ident : UInt16} {first second : UInt8}

theorem encodeIdent_of_le (h : ident ≤ 63) : encodeIdent ident = [ident.toUInt8] := by
  unfold encodeIdent
  rw [if_pos h]

theorem encodeIdent_of_lt (h : 63 < ident.toNat) (hlt : ident.toNat < 2 ^ 14)
    : ∃ first second, encodeIdent ident = [first, second] ∧
        first.toNat = 64 + ident.toNat % 256 / 4 ∧
        second.toNat = 64 * (ident.toNat % 4) + ident.toNat / 256 := by
  unfold encodeIdent
  rw [if_neg (by rw [UInt16.le_iff_toNat_le]; exact Nat.not_le_of_lt h)]
  refine ⟨_, _, rfl, ?_, ?_⟩
  . have hand : (ident.toNat &&& 252) % 2 ^ 8 = ident.toNat &&& 252 :=
      Nat.mod_eq_of_lt (Nat.lt_of_le_of_lt Nat.and_le_right (by decide))
    have hmod : ident.toNat / 4 &&& 63 = ident.toNat / 4 % 64 :=
      Nat.and_two_pow_sub_one_eq_mod _ 6
    have hor : 64 ||| ident.toNat / 4 % 64 = 64 + ident.toNat / 4 % 64 :=
      (Nat.two_pow_add_eq_or_of_lt (i := 6) (Nat.mod_lt _ (by decide)) 1).symm
    simp only [UInt8.toNat_or, UInt8.toNat_shiftRight, UInt16.toNat_toUInt8, UInt16.toNat_and,
      UInt8.reduceToNat, UInt16.reduceToNat]
    rw [hand, Nat.shiftRight_and_distrib, Nat.shiftRight_eq_div_pow]
    dsimp only [Nat.reduceMod, Nat.reducePow, Nat.reduceShiftRight]
    rw [hmod, Nat.or_comm, hor]
    omega
  . have hmod : ident.toNat &&& 3 = ident.toNat % 4 := Nat.and_two_pow_sub_one_eq_mod _ 2
    have hor : 64 * (ident.toNat % 4) ||| ident.toNat / 256 =
        64 * (ident.toNat % 4) + ident.toNat / 256 :=
      (Nat.two_pow_add_eq_or_of_lt (i := 6) (by omega) _).symm
    simp only [UInt8.toNat_or, UInt8.toNat_shiftLeft, UInt16.toNat_toUInt8, UInt16.toNat_and,
      UInt16.toNat_shiftRight, UInt8.reduceToNat, UInt16.reduceToNat]
    rw [hmod, Nat.shiftRight_eq_div_pow, Nat.shiftLeft_eq, Nat.or_comm]
    dsimp only [Nat.reduceMod, Nat.reducePow]
    rw [← hor]
    congr 1
    . omega
    . omega

theorem decodeIdent_of_le (h : first ≤ 63) : decodeIdent first second = .ok first.toUInt16 := by
  unfold decodeIdent
  rw [if_pos h]

theorem decodeIdent_of_lt (h : 63 < first.toNat) (hlt : first.toNat < 128)
    : ∃ ident, decodeIdent first second = .ok ident ∧
        ident.toNat = 256 * (second.toNat % 64) + (4 * (first.toNat % 64) + second.toNat / 64) := by
  unfold decodeIdent
  rw [if_neg (by rw [UInt8.le_iff_toNat_le]; exact Nat.not_le_of_lt h)]
  rw [if_pos (by rw [UInt8.le_iff_toNat_le]; exact Nat.le_of_lt_succ hlt)]
  refine ⟨_, rfl, ?_⟩
  have hsecond := second.toNat_lt
  have hmod : second.toNat &&& 63 = second.toNat % 64 := Nat.and_two_pow_sub_one_eq_mod _ 6
  have hlower : 4 * (first.toNat % 64) ||| second.toNat / 64 =
      4 * (first.toNat % 64) + second.toNat / 64 :=
    (Nat.two_pow_add_eq_or_of_lt (i := 2) (by omega) _).symm
  have hupper : 256 * (second.toNat % 64) ||| (4 * (first.toNat % 64) + second.toNat / 64) =
      256 * (second.toNat % 64) + (4 * (first.toNat % 64) + second.toNat / 64) :=
    (Nat.two_pow_add_eq_or_of_lt (i := 8) (by omega) _).symm
  simp only [UInt8.toNat_or, UInt16.toNat_or, UInt8.toNat_and, UInt8.toNat_shiftRight,
    UInt8.toNat_shiftLeft, UInt8.toNat_toUInt16, UInt16.toNat_shiftLeft, UInt8.reduceToNat,
    UInt16.reduceToNat]
  rw [hmod, Nat.shiftRight_eq_div_pow, Nat.shiftLeft_eq, Nat.shiftLeft_eq, Nat.or_comm]
  dsimp only [Nat.reduceMod, Nat.reducePow]
  rw [← hupper, ← hlower]
  congr 1
  . omega
  . congr 1
    omega

/-
Two bytes of an identifier are enough to read the code of its type, also when the second one is not part
of it.
-/
theorem decodeIdent_encodeIdent {rest : List UInt8} (h : ident.toNat < 2 ^ 14) (hrest : rest ≠ [])
    : ∃ first second tail, encodeIdent ident ++ rest = first :: second :: tail ∧
        decodeIdent first second = .ok ident := by
  by_cases hle : ident ≤ 63
  . obtain ⟨second, tail, rfl⟩ := List.exists_cons_of_ne_nil hrest
    refine ⟨ident.toUInt8, second, tail, ?_, ?_⟩
    . rw [encodeIdent_of_le hle]
      rfl
    . rw [UInt16.le_iff_toNat_le] at hle
      have hmod : ident.toNat % 2 ^ 8 = ident.toNat := by
        apply Nat.mod_eq_of_lt
        exact Nat.lt_of_le_of_lt hle (by decide)
      rw [decodeIdent_of_le]
      . congr 1
        apply UInt16.toNat_inj.mp
        rw [UInt8.toNat_toUInt16, UInt16.toNat_toUInt8, hmod]
      . rw [UInt8.le_iff_toNat_le, UInt16.toNat_toUInt8, hmod]
        exact hle
  . rw [UInt16.le_iff_toNat_le, Nat.not_le] at hle
    obtain ⟨first, second, hencode, hfirst, hsecond⟩ := encodeIdent_of_lt hle h
    obtain ⟨ident', hdecode, hident'⟩ :=
      @decodeIdent_of_lt first second (by omega) (by omega)
    refine ⟨first, second, rest, ?_, ?_⟩
    . rw [hencode]
      rfl
    . have heq : ident' = ident := by
        apply UInt16.toNat_inj.mp
        have hlow : first.toNat % 64 = ident.toNat % 256 / 4 := by omega
        have htop : second.toNat % 64 = ident.toNat / 256 := by omega
        have hbits : second.toNat / 64 = ident.toNat % 4 := by omega
        rw [hident', hlow, htop, hbits]
        omega
      rw [hdecode, heq]

end Ident

namespace Codec

variable {C : Codec} {data : List UInt8} {idIdent : UInt16} {identifier : Ss58Identifier}

/- The bytes that are written in base 58. -/
def checkedBytes (C : Codec) (data : List UInt8) (idIdent : UInt16) : List UInt8 :=
  let v := encodeIdent (idIdent &&& 0b0011111111111111) ++ data
  v ++ (C.ss58hash v).toList.take 2

theorem length_check (bytes : List UInt8) : ((C.ss58hash bytes).toList.take 2).length = 2 := by
  rw [List.length_take, Vector.length_toList]
  rfl

theorem fromEncoded_iff
    : C.fromEncoded data idIdent = .ok identifier ↔
        (minimumIdentifierLength < data.length ∧ data.length < maximumIdentifierLength) ∧
          identifier.toList = (C.bs58Encode (C.checkedBytes data idIdent)).toUTF8.data.toList := by
  unfold fromEncoded
  split
  . next hlength =>
    rw [and_iff_right hlength, ← BoundedVec.tryFrom_eq_some]
    unfold checkedBytes
    dsimp only
    split
    . next identifier' hbounded =>
      rw [hbounded, Except.ok.injEq, Option.some.injEq]
    . next hbounded =>
      rw [hbounded]
      simp
  . next hlength => simp [hlength]

theorem fromUTF8?_toUTF8 (text : String)
    : String.fromUTF8? ⟨text.toUTF8.data.toList.toArray⟩ = some text := by
  rw [Array.toArray_toList]
  exact dif_pos text.isValidUTF8

theorem getIdentifierType_of_text {first second : UInt8} {rest : List UInt8} (hrest : rest ≠ [])
    (h : identifier.toList = (C.bs58Encode (first :: second :: rest)).toUTF8.data.toList)
    : C.getIdentifierType identifier = decodeIdent first second := by
  have hmin : 2 < (C.bs58Encode (first :: second :: rest)).utf8ByteSize := by
    have hle := Base58.length_le_length_encodedDigits (first :: second :: rest)
    rw [← C.utf8ByteSize_bs58Encode] at hle
    have hpos := List.length_pos_of_ne_nil hrest
    simp only [List.length_cons] at hle
    omega
  have hmax : (C.bs58Encode (first :: second :: rest)).utf8ByteSize < 50 := by
    have hle := identifier.length_le
    rw [h] at hle
    exact Nat.lt_succ_of_le hle
  unfold getIdentifierType
  rw [h, fromUTF8?_toUTF8]
  dsimp only
  rw [C.bs58Decode_bs58Encode]
  dsimp only
  rw [if_pos ⟨hmin, hmax⟩]

/-
The code of the type is read back without the two bits that are masked out.
-/
theorem getIdentifierType_fromEncoded (h : C.fromEncoded data idIdent = .ok identifier)
    : C.getIdentifierType identifier = .ok (idIdent &&& 0b0011111111111111) := by
  obtain ⟨hlength, htext⟩ := fromEncoded_iff.mp h
  unfold checkedBytes at htext
  dsimp only at htext
  generalize (C.ss58hash _).toList.take 2 = check at htext
  have hlt : (idIdent &&& 0b0011111111111111).toNat < 2 ^ 14 := by
    rw [UInt16.toNat_and]
    exact Nat.and_lt_two_pow _ (by decide)
  have hdata : 2 < (data ++ check).length := by
    rw [List.length_append]
    exact Nat.lt_add_right _ hlength.1
  obtain ⟨first, second, rest, hbytes, hdecode⟩ :=
    decodeIdent_encodeIdent hlt (List.ne_nil_of_length_pos (Nat.zero_lt_of_lt hdata))
  have hrest : rest ≠ [] := by
    have hlengths := congrArg List.length hbytes
    rw [List.length_append, List.length_cons, List.length_cons] at hlengths
    apply List.ne_nil_of_length_pos
    omega
  rw [List.append_assoc, hbytes] at htext
  rw [getIdentifierType_of_text hrest htext, hdecode]

theorem fromU16_identValue (idType : IdentifierType)
    : IdentifierType.fromU16 idType.identValue = some idType ↔
        idType ≠ .rating ∧ idType ≠ .assetInstance := by
  cases idType <;> decide

theorem identValue_masked (idType : IdentifierType)
    : idType.identValue &&& 0b0011111111111111 = idType.identValue := by
  cases idType <;> rfl

theorem getType_iff {value : UInt16} {idType : IdentifierType}
    (h : C.getIdentifierType identifier = .ok value)
    : C.getType identifier = .ok idType ↔ IdentifierType.fromU16 value = some idType := by
  unfold getType
  rw [h]
  cases hvalue : IdentifierType.fromU16 value with
  | none => simp [bind, Except.bind, hvalue]
  | some idType' => simp [bind, Except.bind, pure, Except.pure, hvalue]

/--
The type of an identifier is read back for all types but two: the codes of a rating and of an asset
instance are swapped when they are read.
-/
theorem getType_createIdentifier_iff {idType : IdentifierType}
    (h : C.createIdentifier data idType = .ok identifier)
    : C.getType identifier = .ok idType ↔ idType ≠ .rating ∧ idType ≠ .assetInstance := by
  have hvalue := getIdentifierType_fromEncoded h
  rw [identValue_masked] at hvalue
  rw [getType_iff hvalue, fromU16_identValue]

section Plain

def plainBlake2b (bytes : List UInt8) : Vector UInt8 64 :=
  -- The hashes of the two identifiers below.
  if bytes = [67, 82, 68, 73, 68, 70, 82, 79, 141, 1, 2, 3] then
    #v[200, 111, 55, 176, 16, 100, 237, 43, 160, 211, 221, 200, 5, 26, 99, 155, 47, 69, 47, 99, 71,
      230, 173, 75, 28, 200, 226, 127, 35, 216, 234, 147, 101, 175, 193, 37, 113, 169, 120, 213, 49,
      187, 44, 63, 94, 84, 233, 60, 92, 212, 36, 151, 155, 183, 158, 187, 198, 23, 179, 60, 73, 136,
      196, 186]
  else if bytes = [67, 82, 68, 73, 68, 70, 82, 111, 87, 1, 2, 3] then
    #v[33, 130, 123, 172, 202, 197, 167, 69, 180, 182, 164, 30, 98, 7, 225, 131, 197, 113, 244, 130,
      90, 135, 39, 122, 26, 37, 214, 70, 255, 177, 4, 95, 3, 177, 116, 85, 186, 153, 227, 103, 227,
      31, 127, 128, 101, 224, 68, 19, 189, 75, 131, 14, 98, 144, 198, 232, 141, 87, 254, 27, 58, 78,
      125, 7]
  else
    .replicate 64 0

def plain : Codec where
  blake2b := plainBlake2b
  bs58Encode := Base58.encode
  bs58Decode := Base58.decode
  bs58Decode_bs58Encode := Base58.decode_encode
  utf8ByteSize_bs58Encode := Base58.utf8ByteSize_encode

def spaceIdentifier : Ss58Identifier := ⟨"41rBGzhpxn".toUTF8.data.toList, by decide⟩

def ratingIdentifier : Ss58Identifier := ⟨"5DifUxxNfB".toUTF8.data.toList, by decide⟩

theorem spaceIdentifier_getType
    : plain.createIdentifier [1, 2, 3] .space = .ok spaceIdentifier ∧
        plain.getType spaceIdentifier = .ok .space := by
  have hcreate : plain.createIdentifier [1, 2, 3] .space = .ok spaceIdentifier := by
    decide +kernel
  refine ⟨hcreate, ?_⟩
  rw [getType_createIdentifier_iff hcreate]
  decide

theorem ratingIdentifier_not_getType
    : plain.createIdentifier [1, 2, 3] .rating = .ok ratingIdentifier ∧
        plain.getType ratingIdentifier ≠ .ok .rating := by
  decide +kernel

end Plain

end Codec

end Identifier
