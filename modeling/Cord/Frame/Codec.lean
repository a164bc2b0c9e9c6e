import Mathlib.Data.Vector.Basic
import Cord.Frame.Dispatch

/-!
This module contains decoders: they read bytes from the front of an input and leave the rest of it.
`Reads` is the relation between the input, what is read and the rest. Its lemmas turn a successful read of
a whole `do` block into the bytes that its statements take.
-/

namespace Frame

structure CodecError where
  desc : String
  deriving DecidableEq, Repr

abbrev Decoder (α : Type) := StateT (List UInt8) (Except CodecError) α

def Reads {α : Type} (d : Decoder α) (input : List UInt8) (a : α) (rest : List UInt8) : Prop :=
  -- `d` reads `a` from the front of `input` and leaves `rest`.
  d.run input = .ok (a, rest)

namespace Reads

variable {α β : Type} {input rest : List UInt8} {a : α} {b : β}

@[simp]
theorem pure_iff {v : α} : Reads (pure v) input a rest ↔ a = v ∧ input = rest := by
  unfold Reads
  constructor
  . intro h
    injection h with h
    injection h with h1 h2
    exact ⟨h1.symm, h2⟩
  . rintro ⟨rfl, rfl⟩
    rfl

@[simp]
theorem bind_iff {d : Decoder α} {f : α → Decoder β}
    : Reads (d >>= f) input b rest ↔ ∃ a input', Reads d input a input' ∧ Reads (f a) input' b rest := by
  unfold Reads
  rw [StateT.run_bind, bind_eq_ok]
  constructor
  . rintro ⟨⟨a, input'⟩, hd, hf⟩
    exact ⟨a, input', hd, hf⟩
  . rintro ⟨a, input', hd, hf⟩
    exact ⟨⟨a, input'⟩, hd, hf⟩

@[simp]
theorem throw_iff {err : CodecError} : Reads (throw err) input a rest ↔ False := by
  constructor
  . intro h
    cases h
  . exact False.elim

end Reads

/--
An input from which a buffer of `n` bytes can be filled with the bytes at its front. Filling it fails
exactly if there are too few bytes.
-/
structure Input where
  read (n : Nat) : Decoder (Vector UInt8 n)
  read_iff (n : Nat) (input : List UInt8) (bytes : Vector UInt8 n) (rest : List UInt8)
    : Reads (read n) input bytes rest ↔ input = bytes.toList ++ rest

namespace Input

def readByte (I : Input) : Decoder UInt8 := do
  let buf ← I.read 1
  return buf[0]

def slice : Input where
  read n input :=
    if h : n ≤ input.length then
      .ok (⟨(input.take n).toArray, by rw [List.size_toArray, List.length_take_of_le h]⟩, input.drop n)
    else
      .error ⟨"Not enough data to fill buffer"⟩
  read_iff n input bytes rest := by
    unfold Reads StateT.run
    dsimp only
    constructor
    . intro h
      split at h
      . injection h with h
        injection h with h1 h2
        rw [← h1, ← h2]
        exact (List.take_append_drop n input).symm
      . cases h
    . rintro rfl
      have hlength : bytes.toList.length = n := bytes.length_toList
      rw [dif_pos (by rw [List.length_append]; omega)]
      congr 2
      . apply Vector.toList_inj.mp
        exact List.take_left' hlength
      . exact List.drop_left' hlength

@[simp]
theorem readByte_iff {I : Input} {input rest : List UInt8} {byte : UInt8}
    : Reads I.readByte input byte rest ↔ input = byte :: rest := by
  simp only [readByte, Reads.bind_iff, read_iff, Reads.pure_iff]
  constructor
  . rintro ⟨buf, _, rfl, rfl, rfl⟩
    have hbuf : buf.toList = [buf[0]] := by
      match buf with
      | ⟨⟨[_]⟩, _⟩ => rfl
    rw [hbuf, List.singleton_append]
  . rintro rfl
    exact ⟨#v[byte], rest, rfl, rfl, rfl⟩

end Input

end Frame
