import Cord.Frame.Codec
import Cord.Identity.Impl.Basic

/-!
This module contains the encoding of the data in an identity field. Its first byte tells the variants
apart, and it is the length of raw data as well.
-/

open Frame

namespace Identity

namespace Data

def decode (I : Input) : Decoder Data := do
  let b ← I.readByte
  if b = 0 then
    return .none
  else if h : 1 ≤ b ∧ b ≤ 33 then
    let r ← I.read (b.toNat - 1)
    return .raw ⟨r.toList, by
      have hle := UInt8.le_iff_toNat_le.mp h.2
      rw [Vector.length_toList]
      exact Nat.sub_le_of_le_add hle⟩
  else if b = 34 then
    return .blakeTwo256 (← I.read 32)
  else if b = 35 then
    return .sha256 (← I.read 32)
  else if b = 36 then
    return .keccak256 (← I.read 32)
  else if b = 37 then
    return .shaThree256 (← I.read 32)
  else
    throw ⟨"invalid leading byte"⟩

def encode (self : Data) : List UInt8 :=
  match self with
  | .none => List.replicate 1 0
  | .raw x =>
    -- All bytes but the first one are overwritten.
    let l := min x.toList.length 32
    let r := List.replicate (l + 1) (l.toUInt8 + 1)
    r.take 1 ++ x.toList.take l
  | .blakeTwo256 h => 34 :: h.toList
  | .sha256 h => 35 :: h.toList
  | .keccak256 h => 36 :: h.toList
  | .shaThree256 h => 37 :: h.toList

end Data

end Identity
