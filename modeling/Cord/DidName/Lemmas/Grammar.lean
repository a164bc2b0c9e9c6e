import Cord.DidName.Impl.Basic
import Cord.Frame.Grammar

/-!
This module contains the grammar of DID names: which inputs the loop over their characters and the checks
of their lengths accept.
-/

open Frame
open scoped Computability

namespace DidName

def isAsciiAlphanumeric (c : UInt8) : Prop := isAsciiLowercase c ∨ isAsciiDigit c

/--
The expression `[a-z][a-z0-9]*(\.[a-z0-9]+)*`.
-/
def prefixGrammar : Language UInt8 :=
  symbol (fun c => isAsciiLowercase c) * (symbol isAsciiAlphanumeric)∗ *
    (symbol (· = period) * (symbol isAsciiAlphanumeric * (symbol isAsciiAlphanumeric)∗))∗

section Prefix

variable {isValid isValid' : Bool} {prevChar : Option UInt8} {c first : UInt8} {rest input : List UInt8}

theorem not_isAsciiAlphanumeric_period : ¬isAsciiAlphanumeric period := by
  unfold isAsciiAlphanumeric
  decide

/- The words that may follow a character. -/
def continuations (prevChar : Option UInt8) : Language UInt8 :=
  if prevChar = some period then
    symbol isAsciiAlphanumeric * groups isAsciiAlphanumeric (· = period)
  else
    groups isAsciiAlphanumeric (· = period)

theorem continuations_of_ne (h : prevChar ≠ some period)
    : continuations prevChar = groups isAsciiAlphanumeric (· = period) := if_neg h

theorem continuations_period
    : continuations (some period) =
        symbol isAsciiAlphanumeric * groups isAsciiAlphanumeric (· = period) := if_pos rfl

theorem cons_mem_continuations_of_alphanumeric (h : isAsciiAlphanumeric c)
    : c :: rest ∈ continuations prevChar ↔ rest ∈ groups isAsciiAlphanumeric (· = period) := by
  have hperiod : c ≠ period := by
    rintro rfl
    exact not_isAsciiAlphanumeric_period h
  unfold continuations
  split
  . rw [cons_mem_symbol_mul]
    exact and_iff_right h
  . rw [cons_mem_groups, or_iff_right fun hsep => hperiod hsep.1]
    exact and_iff_right h

theorem cons_mem_continuations_of_not_alphanumeric (h : ¬isAsciiAlphanumeric c)
    : c :: rest ∈ continuations prevChar ↔
        prevChar ≠ some period ∧ c = period ∧ rest ∈ continuations (some period) := by
  unfold continuations
  split
  . next hprev =>
    rw [cons_mem_symbol_mul]
    simp [h, hprev]
  . next hprev =>
    rw [cons_mem_groups, if_pos rfl]
    simp [h, hprev]

theorem getLast?_cons_or : (c :: rest).getLast?.or prevChar = rest.getLast?.or (some c) := by
  rw [List.getLast?_cons]
  cases rest.getLast? <;> rfl

/-
The flag of the loop only tells whether there was a character after the first one, everything else is the
language that is left to be read.
-/
theorem checkCharacters_iff
    : checkCharacters isValid prevChar rest = some isValid' ∧
          rest.getLast?.or prevChar ≠ some period ↔
        rest ∈ continuations prevChar ∧ isValid' = (isValid || !rest.isEmpty) := by
  induction rest generalizing isValid prevChar with
  | nil =>
    unfold checkCharacters continuations
    split
    . next hprev => simp [hprev, nil_notMem_symbol_mul]
    . next hprev => simp [hprev, nil_mem_groups, eq_comm]
  | cons c rest ih =>
    rw [getLast?_cons_or]
    unfold checkCharacters
    split
    . next halnum =>
      have hne : some c ≠ some period := by
        rintro heq
        injection heq with heq
        rw [heq] at halnum
        exact not_isAsciiAlphanumeric_period halnum
      rw [ih, cons_mem_continuations_of_alphanumeric halnum, continuations_of_ne hne]
      simp
    . next halnum =>
      rw [cons_mem_continuations_of_not_alphanumeric halnum]
      split
      . next hperiod =>
        subst hperiod
        split
        . next hprev => simp [hprev]
        . next hprev =>
          rw [ih]
          constructor
          . rintro ⟨hmem, hflag⟩
            refine ⟨⟨hprev, rfl, hmem⟩, ?_⟩
            -- A period is followed by another character.
            cases rest with
            | nil => exact absurd (continuations_period ▸ hmem) nil_notMem_symbol_mul
            | cons d rest => exact hflag
          . rintro ⟨⟨_, _, hmem⟩, hflag⟩
            refine ⟨hmem, ?_⟩
            cases rest with
            | nil => exact absurd (continuations_period ▸ hmem) nil_notMem_symbol_mul
            | cons d rest => exact hflag
      . next hperiod => simp [hperiod]

theorem cons_mem_prefixGrammar
    : first :: rest ∈ prefixGrammar ↔
        isAsciiLowercase first ∧ rest ∈ groups isAsciiAlphanumeric (· = period) := by
  unfold prefixGrammar
  rw [mul_assoc]
  exact cons_mem_symbol_mul

theorem getLast?_cons_ne_period (h : isAsciiLowercase first)
    : (first :: rest).getLast? ≠ some period ↔ rest.getLast?.or none ≠ some period := by
  have hne : some first ≠ some period := by
    intro heq
    injection heq with heq
    rw [heq] at h
    exact absurd h (by decide)
  rw [List.getLast?_cons]
  cases rest.getLast? with
  | none => simpa using hne
  | some last => simp

theorem isValidDidNamePrefix_cons_iff
    : isValidDidNamePrefix (first :: rest) ↔
        isAsciiLowercase first ∧ checkCharacters false none rest = some true ∧
          (first :: rest).getLast? ≠ some period := by
  unfold isValidDidNamePrefix
  dsimp only
  split
  . next hfirst =>
    cases checkCharacters false none rest with
    | none => simp
    | some isValid => simp [hfirst, and_comm]
  . next hfirst => simp [hfirst]

theorem isValidDidNamePrefix_iff
    : isValidDidNamePrefix input ↔ input ∈ prefixGrammar ∧ 2 ≤ input.length := by
  cases input with
  | nil => simp [isValidDidNamePrefix]
  | cons first rest =>
    rw [isValidDidNamePrefix_cons_iff, cons_mem_prefixGrammar, and_assoc]
    apply and_congr_right
    intro hfirst
    rw [getLast?_cons_ne_period hfirst, checkCharacters_iff]
    rw [continuations_of_ne (Option.some_ne_none period).symm]
    apply and_congr_right'
    cases rest with
    | nil => simp
    | cons c rest => simp

theorem forall_mem_of_checkCharacters (h : checkCharacters isValid prevChar rest = some isValid')
    : ∀ c ∈ rest, isAsciiAlphanumeric c ∨ c = period := by
  induction rest generalizing isValid prevChar with
  | nil => simp
  | cons c rest ih =>
    rw [List.forall_mem_cons]
    unfold checkCharacters at h
    split at h
    . next halnum => exact ⟨Or.inl halnum, ih h⟩
    . split at h
      . next hperiod =>
        split at h
        . cases h
        . exact ⟨Or.inr hperiod, ih h⟩
      . cases h

theorem nameSeparator_notMem_of_isValidDidNamePrefix (h : isValidDidNamePrefix input)
    : nameSeparator ∉ input := by
  cases input with
  | nil => exact List.not_mem_nil
  | cons first rest =>
    obtain ⟨hfirst, hloop, _⟩ := isValidDidNamePrefix_cons_iff.mp h
    rw [List.mem_cons, not_or]
    constructor
    . rintro rfl
      exact absurd hfirst (by decide)
    . intro hmem
      have hclass := forall_mem_of_checkCharacters hloop nameSeparator hmem
      unfold isAsciiAlphanumeric at hclass
      exact absurd hclass (by decide)

end Prefix

theorem splitName_append {namePrefix suffix : List UInt8} (h : nameSeparator ∉ namePrefix)
    : splitName (namePrefix ++ nameSeparator :: suffix) = (namePrefix, some suffix) := by
  have hpos : ∀ c ∈ namePrefix, decide (c ≠ nameSeparator) = true := by
    intro c hmem
    rw [decide_eq_true_iff]
    rintro rfl
    exact h hmem
  unfold splitName
  rw [List.takeWhile_append_of_pos hpos, List.dropWhile_append_of_pos hpos]
  simp

theorem eq_append_of_splitName {value namePrefix suffix : List UInt8}
    (h : splitName value = (namePrefix, some suffix))
    : value = namePrefix ++ nameSeparator :: suffix := by
  unfold splitName at h
  rw [Prod.mk.injEq] at h
  obtain ⟨rfl, htail⟩ := h
  have hsplit := @List.takeWhile_append_dropWhile _ (· ≠ nameSeparator) value
  have hstop := List.head?_dropWhile_not (· ≠ nameSeparator) value
  cases hdrop : value.dropWhile (· ≠ nameSeparator) with
  | nil =>
    rw [hdrop] at htail
    cases htail
  | cons c rest =>
    rw [hdrop] at htail hstop hsplit
    injection htail with htail
    have hc : c = nameSeparator := by simpa using hstop
    rw [hc, htail] at hsplit
    exact hsplit.symm

variable (minNameLength maxNameLength maxPrefixLength : UInt32) (value : List UInt8)

theorem tryFrom_iff {name : AsciiDidName maxNameLength}
    : AsciiDidName.tryFrom minNameLength maxNameLength maxPrefixLength value = .ok name ↔
        name.toList = value ∧ minNameLength.toNat ≤ value.length ∧
          ∃ namePrefix, splitName value = (namePrefix, some networkSuffix) ∧
            minNameLength.toNat ≤ namePrefix.length ∧ namePrefix.length ≤ maxPrefixLength.toNat ∧
            isValidDidNamePrefix namePrefix := by
  have hfits := name.length_le
  unfold AsciiDidName.tryFrom
  split
  . next hshort => simp [Nat.not_le_of_lt hshort]
  . next hshort =>
    rw [Nat.not_lt] at hshort
    split
    . next hlong =>
      cases hname : splitName value with
      | mk namePrefix suffix =>
        cases suffix with
        | none => simp
        | some suffix =>
          have hname' : (⟨value, hlong⟩ : AsciiDidName maxNameLength) = name ↔ name.toList = value := by
            rw [← BoundedVec.toList_injective.eq_iff]
            exact eq_comm
          dsimp only
          split
          . next hsuffix => simp [hsuffix]
          . next hsuffix =>
            rw [Classical.not_not] at hsuffix
            split
            . next hmin => simp [Nat.not_le_of_lt hmin]
            . next hmin =>
              split
              . next hmax => simp [Nat.not_le_of_lt hmax]
              . next hmax =>
                rw [Nat.not_lt] at hmin hmax
                split
                . next hvalid => simp [hshort, hsuffix, hmin, hmax, hvalid, hname']
                . next hvalid => simp [hvalid]
    . next hlong =>
      simp only [reduceCtorEq, false_iff]
      rintro ⟨rfl, _⟩
      exact hlong hfits

/--
A name is accepted if and only if it is a word of the grammar and the suffix within the bounds of the
runtime, whatever these are, and it is stored as it was entered.
-/
theorem tryFrom_grammar
    : ((∃ name,
          AsciiDidName.tryFrom minNameLength maxNameLength maxPrefixLength value = .ok name) ↔
        ∃ namePrefix, value = namePrefix ++ nameSeparator :: networkSuffix ∧
          namePrefix ∈ prefixGrammar ∧ max 2 minNameLength.toNat ≤ namePrefix.length ∧
          namePrefix.length ≤ maxPrefixLength.toNat ∧ value.length ≤ maxNameLength.toNat) ∧
      ∀ name,
        AsciiDidName.tryFrom minNameLength maxNameLength maxPrefixLength value = .ok name →
          name.toList = value := by
  constructor
  . constructor
    . rintro ⟨name, h⟩
      obtain ⟨rfl, _, namePrefix, hname, hmin, hmax, hvalid⟩ := (tryFrom_iff ..).mp h
      obtain ⟨hgrammar, htwo⟩ := isValidDidNamePrefix_iff.mp hvalid
      exact ⟨namePrefix, eq_append_of_splitName hname, hgrammar, max_le htwo hmin, hmax, name.length_le⟩
    . rintro ⟨namePrefix, rfl, hgrammar, hmin, hmax, hfits⟩
      obtain ⟨htwo, hmin⟩ := max_le_iff.mp hmin
      have hvalid := isValidDidNamePrefix_iff.mpr ⟨hgrammar, htwo⟩
      have hname : splitName (namePrefix ++ nameSeparator :: networkSuffix) = (namePrefix, some _) :=
        splitName_append (nameSeparator_notMem_of_isValidDidNamePrefix hvalid)
      have hvalue : minNameLength.toNat ≤ (namePrefix ++ nameSeparator :: networkSuffix).length := by
        rw [List.length_append]
        exact Nat.le_add_right_of_le hmin
      refine ⟨⟨_, hfits⟩, (tryFrom_iff ..).mpr ?_⟩
      exact ⟨rfl, hvalue, namePrefix, hname, hmin, hmax, hvalid⟩
  . intro name h
    exact ((tryFrom_iff ..).mp h).1

/- Two periods in a row, one at the end and a second separator. -/
example
    : (∃ name, AsciiDidName.tryFrom 3 64 54 "ab.c1@cord".toUTF8.data.toList = .ok name) ∧
        AsciiDidName.tryFrom 3 64 54 "a..b@cord".toUTF8.data.toList = .error .invalidFormat ∧
        AsciiDidName.tryFrom 3 64 54 "ab.@cord".toUTF8.data.toList = .error .invalidFormat ∧
        AsciiDidName.tryFrom 3 64 54 "abc@@cord".toUTF8.data.toList = .error .invalidSuffix :=
  ⟨⟨_, rfl⟩, rfl, rfl, rfl⟩

end DidName
