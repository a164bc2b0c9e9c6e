import Mathlib.Data.List.TakeWhile
import Mathlib.Data.Nat.Digits.Lemmas

/-!
This module contains the base 58 text of a byte string: its big-endian number is written in base 58, and
every zero byte at its start is one zero digit.
-/

namespace Frame

def changeBase (b c : Nat) (digits : List Nat) : List Nat :=
  -- The most significant digit is the first one.
  digits.takeWhile (· == 0) ++ (Nat.digits c (Nat.ofDigits b digits.reverse)).reverse

section ChangeBase

variable {b c : Nat} {digits : List Nat}

theorem changeBase_zero_cons : changeBase b c (0 :: digits) = 0 :: changeBase b c digits := by
  unfold changeBase
  rw [Nat.ofDigits_reverse_zero_cons, List.takeWhile_cons_of_pos rfl, List.cons_append]

theorem head?_cons_ne {digit : Nat} (digits : List Nat) (h : digit ≠ 0)
    : (digit :: digits).head? ≠ some 0 := by
  rw [List.head?_cons]
  intro hzero
  injection hzero with hzero
  exact h hzero

theorem changeBase_of_head? (h : digits.head? ≠ some 0)
    : changeBase b c digits = (Nat.digits c (Nat.ofDigits b digits.reverse)).reverse := by
  have hzeros : digits.takeWhile (· == 0) = [] := by
    cases digits with
    | nil => rfl
    | cons digit digits =>
      apply List.takeWhile_cons_of_neg
      intro hzero
      rw [beq_iff_eq] at hzero
      exact h (congrArg some hzero)
  unfold changeBase
  rw [hzeros, List.nil_append]

theorem head?_reverse_digits_ne (n : Nat) : (Nat.digits c n).reverse.head? ≠ some 0 := by
  rw [List.head?_reverse]
  by_cases hn : n = 0
  . rw [hn, Nat.digits_zero]
    nofun
  . rw [List.getLast?_eq_some_getLast (Nat.digits_ne_nil_iff_ne_zero.mpr hn)]
    intro hzero
    injection hzero with hzero
    exact Nat.getLast_digit_ne_zero c hn hzero

theorem digits_ofDigits_reverse (hb : 1 < b) (hlt : ∀ digit ∈ digits, digit < b)
    (h : digits.head? ≠ some 0) : Nat.digits b (Nat.ofDigits b digits.reverse) = digits.reverse := by
  apply Nat.digits_ofDigits b hb
  . intro digit hmem
    exact hlt digit (List.mem_reverse.mp hmem)
  . intro hne hzero
    apply h
    rw [← List.getLast?_reverse, List.getLast?_eq_some_getLast hne, hzero]

theorem changeBase_changeBase (hb : 1 < b) (hlt : ∀ digit ∈ digits, digit < b)
    : changeBase c b (changeBase b c digits) = digits := by
  induction digits with
  | nil => simp [changeBase]
  | cons digit digits ih =>
    by_cases hzero : digit = 0
    . subst hzero
      rw [changeBase_zero_cons, changeBase_zero_cons]
      rw [ih fun digit hmem => hlt digit (List.mem_cons_of_mem 0 hmem)]
    . have hhead := head?_cons_ne digits hzero
      rw [changeBase_of_head? hhead, changeBase_of_head? (head?_reverse_digits_ne _)]
      rw [List.reverse_reverse, Nat.ofDigits_digits, digits_ofDigits_reverse hb hlt hhead]
      rw [List.reverse_reverse]

theorem length_digits_le (hc : 1 < c) (hcb : c ≤ b) (n : Nat)
    : (Nat.digits b n).length ≤ (Nat.digits c n).length := by
  rw [Nat.digits_length_le_iff (hc.trans_le hcb)]
  calc n
    _ < c ^ (Nat.digits c n).length := Nat.lt_base_pow_length_digits hc
    _ ≤ b ^ (Nat.digits c n).length := Nat.pow_le_pow_left hcb _

theorem length_le_length_changeBase (hc : 1 < c) (hcb : c ≤ b) (hlt : ∀ digit ∈ digits, digit < b)
    : digits.length ≤ (changeBase b c digits).length := by
  induction digits with
  | nil => exact Nat.zero_le _
  | cons digit digits ih =>
    by_cases hzero : digit = 0
    . subst hzero
      rw [changeBase_zero_cons, List.length_cons, List.length_cons]
      exact Nat.succ_le_succ (ih fun digit hmem => hlt digit (List.mem_cons_of_mem 0 hmem))
    . have hhead := head?_cons_ne digits hzero
      rw [changeBase_of_head? hhead, List.length_reverse]
      have hle := length_digits_le hc hcb (Nat.ofDigits b (digit :: digits).reverse)
      rw [digits_ofDigits_reverse (hc.trans_le hcb) hlt hhead, List.length_reverse] at hle
      exact hle

theorem length_changeBase_cons_le {digit n : Nat} (hb : 1 < b) (hc : 1 < c)
    (hlt : ∀ digit ∈ digits, digit < b) (hdigit : digit ≠ 0)
    (h : b ^ digits.length * (digit + 1) ≤ c ^ n) : (changeBase b c (digit :: digits)).length ≤ n := by
  rw [changeBase_of_head? (head?_cons_ne digits hdigit), List.length_reverse]
  rw [Nat.digits_length_le_iff hc]
  -- All digits after the first one are less than one unit of it.
  have hrest : Nat.ofDigits b digits.reverse < b ^ digits.length := by
    rw [← List.length_reverse]
    apply Nat.ofDigits_lt_base_pow_length hb
    intro digit hmem
    exact hlt digit (List.mem_reverse.mp hmem)
  calc Nat.ofDigits b (digit :: digits).reverse
    _ = Nat.ofDigits b digits.reverse + b ^ digits.length * digit := by
      rw [List.reverse_cons, Nat.ofDigits_append, Nat.ofDigits_singleton, List.length_reverse]
    _ < b ^ digits.length + b ^ digits.length * digit := Nat.add_lt_add_right hrest _
    _ = b ^ digits.length * (digit + 1) := by rw [Nat.mul_succ, Nat.add_comm]
    _ ≤ c ^ n := h

theorem changeBase_lt (hc : 1 < c) : ∀ digit ∈ changeBase b c digits, digit < c := by
  intro digit hmem
  unfold changeBase at hmem
  rw [List.mem_append, List.mem_reverse] at hmem
  rcases hmem with hzero | hdigit
  . have hbeq := List.mem_takeWhile_imp hzero
    rw [beq_iff_eq] at hbeq
    omega
  . exact Nat.digits_lt_base hc hdigit

end ChangeBase

namespace Base58

def alphabet : List Char := [
    '1', '2', '3', '4', '5', '6', '7', '8', '9', 'A', 'B', 'C', 'D', 'E', 'F', 'G', 'H', 'J', 'K',
    'L', 'M', 'N', 'P', 'Q', 'R', 'S', 'T', 'U', 'V', 'W', 'X', 'Y', 'Z', 'a', 'b', 'c', 'd', 'e',
    'f', 'g', 'h', 'i', 'j', 'k', 'm', 'n', 'o', 'p', 'q', 'r', 's', 't', 'u', 'v', 'w', 'x', 'y',
    'z'
  ]

def encodedDigits (bytes : List UInt8) : List Nat := changeBase 256 58 (bytes.map UInt8.toNat)

def encode (bytes : List UInt8) : String :=
  .ofList ((encodedDigits bytes).map fun digit => alphabet.getD digit '1')

def decode (text : String) : Option (List UInt8) := do
  let digits ← text.toList.mapM fun char => alphabet.idxOf? char
  return (changeBase 58 256 digits).map Nat.toUInt8

variable (bytes : List UInt8)

theorem toNat_lt_of_mem : ∀ digit ∈ bytes.map UInt8.toNat, digit < 256 := by
  intro digit hmem
  obtain ⟨byte, _, rfl⟩ := List.mem_map.mp hmem
  exact byte.toNat_lt

theorem length_le_length_encodedDigits : bytes.length ≤ (encodedDigits bytes).length := by
  have hle : (bytes.map UInt8.toNat).length ≤ (encodedDigits bytes).length :=
    length_le_length_changeBase (by decide) (by decide) (toNat_lt_of_mem bytes)
  rwa [List.length_map] at hle

theorem length_encodedDigits_cons_le {byte : UInt8} {n : Nat} (hbyte : byte.toNat ≠ 0)
    (h : 256 ^ bytes.length * (byte.toNat + 1) ≤ 58 ^ n)
    : (encodedDigits (byte :: bytes)).length ≤ n := by
  apply length_changeBase_cons_le (by decide) (by decide) (toNat_lt_of_mem bytes) hbyte
  rwa [List.length_map]

theorem idxOf?_alphabet : ∀ digit < 58, alphabet.idxOf? (alphabet.getD digit '1') = some digit := by
  decide +kernel

theorem mapM_alphabet {digits : List Nat} (h : ∀ digit ∈ digits, digit < 58)
    : (digits.map fun digit => alphabet.getD digit '1').mapM (fun char => alphabet.idxOf? char) =
        some digits := by
  induction digits with
  | nil => rfl
  | cons digit digits ih =>
    have hdigit := idxOf?_alphabet digit (h digit (List.mem_cons_self ..))
    have hdigits := ih fun digit hmem => h digit (List.mem_cons_of_mem _ hmem)
    rw [List.map_cons, List.mapM_cons, hdigit, hdigits]
    rfl

theorem decode_encode : decode (encode bytes) = some bytes := by
  have hlt : ∀ digit ∈ encodedDigits bytes, digit < 58 := changeBase_lt (by decide)
  have hbytes : changeBase 58 256 (encodedDigits bytes) = bytes.map UInt8.toNat :=
    changeBase_changeBase (by decide) (toNat_lt_of_mem bytes)
  unfold decode encode
  rw [String.toList_ofList, mapM_alphabet hlt]
  have hmap : (bytes.map UInt8.toNat).map Nat.toUInt8 = bytes := by
    rw [List.map_map]
    apply List.map_id''
    intro byte
    exact UInt8.ofNat_toNat
  rw [← hbytes] at hmap
  exact congrArg some hmap

theorem utf8ByteSize_ofList {chars : List Char} (h : ∀ char ∈ chars, char.utf8Size = 1)
    : (String.ofList chars).utf8ByteSize = chars.length := by
  induction chars with
  | nil => rfl
  | cons char chars ih =>
    have hchars := ih fun char hmem => h char (List.mem_cons_of_mem _ hmem)
    rw [String.ofList_cons, String.utf8ByteSize_append, String.utf8ByteSize_singleton, hchars]
    rw [h char (List.mem_cons_self ..), List.length_cons, Nat.add_comm]

theorem utf8Size_alphabet : ∀ digit < 58, (alphabet.getD digit '1').utf8Size = 1 := by
  decide +kernel

theorem utf8ByteSize_encode : (encode bytes).utf8ByteSize = (encodedDigits bytes).length := by
  unfold encode
  rw [utf8ByteSize_ofList, List.length_map]
  intro char hmem
  obtain ⟨digit, hdigit, rfl⟩ := List.mem_map.mp hmem
  exact utf8Size_alphabet digit (changeBase_lt (by decide) digit hdigit)

end Base58

end Frame
