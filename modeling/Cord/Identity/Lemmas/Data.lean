import Cord.Identity.Impl.Data

/-!
This module contains the round trips of the encoding of identity data: what is decoded is exactly what
was encoded, whatever follows it in the input.
-/

open Frame

namespace Identity

namespace Data

variable {I : Input} {d : Data} {input rest : List UInt8}

theorem toNat_length_succ (x : BoundedVec UInt8 32)
    : (x.toList.length.toUInt8 + 1).toNat = x.toList.length + 1 := by
  have hle := x.length_le
  have hlength : x.toList.length.toUInt8.toNat = x.toList.length :=
    UInt8.toNat_ofNat_of_lt' (by rw [UInt8.size]; omega)
  rw [UInt8.toNat_add, hlength]
  exact Nat.mod_eq_of_lt (by rw [UInt8.toNat_one]; omega)

theorem encode_raw (x : BoundedVec UInt8 32)
    : encode (.raw x) = (x.toList.length.toUInt8 + 1) :: x.toList := by
  simp only [encode]
  rw [Nat.min_eq_left x.length_le, List.take_length, List.replicate_succ, List.take_succ_cons,
    List.take_zero, List.singleton_append]

theorem reads_hash_iff {f : Vector UInt8 32 → Data}
    : Reads (do return f (← I.read 32)) input d rest
        ↔
      ∃ hash, d = f hash ∧ input = hash.toList ++ rest := by
  simp only [Reads.bind_iff, Input.read_iff, Reads.pure_iff]
  constructor
  . rintro ⟨hash, _, rfl, rfl, rfl⟩
    exact ⟨hash, rfl, rfl⟩
  . rintro ⟨hash, rfl, rfl⟩
    exact ⟨hash, rest, rfl, rfl, rfl⟩

theorem encode_append_of_hash {f : Vector UInt8 32 → Data} {tag b : UInt8}
    (hf : ∀ hash, (f hash).encode = tag :: hash.toList) (hb : b = tag)
    (h : Reads (do return f (← I.read 32)) input d rest) : b :: input = d.encode ++ rest := by
  obtain ⟨hash, rfl, rfl⟩ := reads_hash_iff.mp h
  rw [hf, hb, List.cons_append]

theorem encode_append_of_decode (h : Reads (decode I) input d rest) : input = d.encode ++ rest := by
  unfold decode at h
  obtain ⟨b, input', hinput, h⟩ := Reads.bind_iff.mp h
  rw [Input.readByte_iff] at hinput
  rw [hinput]
  split at h
  . next hb =>
    rw [Reads.pure_iff] at h
    rw [h.1, h.2, hb]
    rfl
  split at h
  . next _ hb =>
    -- The leading byte is one more than the length of the raw data.
    obtain ⟨r, input'', hr, h⟩ := Reads.bind_iff.mp h
    rw [Input.read_iff] at hr
    rw [Reads.pure_iff] at h
    obtain ⟨rfl, rfl⟩ := h
    have hone : 1 ≤ b.toNat := UInt8.le_iff_toNat_le.mp hb.1
    have hlength : r.toList.length = b.toNat - 1 := r.length_toList
    rw [encode_raw, hr, List.cons_append]
    congr 1
    apply UInt8.toNat_inj.mp
    rw [toNat_length_succ, hlength, Nat.sub_add_cancel hone]
  split at h
  . next hb => exact encode_append_of_hash (fun _ => rfl) hb h
  split at h
  . next hb => exact encode_append_of_hash (fun _ => rfl) hb h
  split at h
  . next hb => exact encode_append_of_hash (fun _ => rfl) hb h
  split at h
  . next hb => exact encode_append_of_hash (fun _ => rfl) hb h
  . exact absurd h Reads.throw_iff.mp

theorem decode_encode_append (d : Data) (rest : List UInt8)
    : Reads (decode I) (d.encode ++ rest) d rest := by
  unfold decode
  rw [Reads.bind_iff]
  cases d with
  | none =>
    refine ⟨0, rest, Input.readByte_iff.mpr rfl, ?_⟩
    rw [if_pos rfl, Reads.pure_iff]
    exact ⟨rfl, rfl⟩
  | raw x =>
    have htag := toNat_length_succ x
    have hle := x.length_le
    have hzero : x.toList.length.toUInt8 + 1 ≠ 0 := by
      intro h
      rw [h] at htag
      exact absurd htag (Nat.succ_ne_zero _).symm
    have hbounds : 1 ≤ x.toList.length.toUInt8 + 1 ∧ x.toList.length.toUInt8 + 1 ≤ 33 := by
      rw [UInt8.le_iff_toNat_le, UInt8.le_iff_toNat_le, htag]
      exact ⟨Nat.le_add_left _ _, Nat.succ_le_succ hle⟩
    refine ⟨x.toList.length.toUInt8 + 1, x.toList ++ rest, ?_, ?_⟩
    . rw [Input.readByte_iff, encode_raw, List.cons_append]
    . rw [if_neg hzero, dif_pos hbounds, Reads.bind_iff]
      refine ⟨⟨x.toList.toArray, ?_⟩, rest, ?_, ?_⟩
      . rw [List.size_toArray, htag, Nat.add_sub_cancel]
      . rw [Input.read_iff]
        rfl
      . rw [Reads.pure_iff]
        exact ⟨rfl, rfl⟩
  | blakeTwo256 hash =>
    refine ⟨34, hash.toList ++ rest, Input.readByte_iff.mpr rfl, ?_⟩
    rw [if_neg (by decide), dif_neg (by decide), if_pos rfl]
    exact reads_hash_iff.mpr ⟨hash, rfl, rfl⟩
  | sha256 hash =>
    refine ⟨35, hash.toList ++ rest, Input.readByte_iff.mpr rfl, ?_⟩
    rw [if_neg (by decide), dif_neg (by decide), if_neg (by decide), if_pos rfl]
    exact reads_hash_iff.mpr ⟨hash, rfl, rfl⟩
  | keccak256 hash =>
    refine ⟨36, hash.toList ++ rest, Input.readByte_iff.mpr rfl, ?_⟩
    rw [if_neg (by decide), dif_neg (by decide), if_neg (by decide), if_neg (by decide), if_pos rfl]
    exact reads_hash_iff.mpr ⟨hash, rfl, rfl⟩
  | shaThree256 hash =>
    refine ⟨37, hash.toList ++ rest, Input.readByte_iff.mpr rfl, ?_⟩
    rw [if_neg (by decide), dif_neg (by decide), if_neg (by decide), if_neg (by decide),
      if_neg (by decide), if_pos rfl]
    exact reads_hash_iff.mpr ⟨hash, rfl, rfl⟩

/--
Decoding reads exactly the encoding of the data it returns, and it leaves what comes after it.
-/
theorem decode_iff_encode (I : Input) (input : List UInt8) (d : Data) (rest : List UInt8)
    : (decode I).run input = .ok (d, rest) ↔ input = d.encode ++ rest := by
  constructor
  . exact encode_append_of_decode
  . rintro rfl
    exact decode_encode_append d rest

example : (decode .slice).run [3, 7, 8, 9] = .ok (.raw ⟨[7, 8], by decide⟩, [9]) := by
  rfl

end Data

end Identity
