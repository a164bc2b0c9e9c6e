import Cord.NetworkScore.Lemmas.Calls

/-!
This module contains how the entries of the ledger refer to each other: a debit entry to the entry it
takes back, and the credit entry of a revision to the entry it replaces. Nothing is recorded with an
entry that was revoked or revised.
-/

open Frame Identifier
open ChainSpace (Client)

namespace NetworkScore

variable {T : Config} {s s' : State T} {p p' : Storage T} {origin : T.Origin} {call : Call T}
  {messageId : EncodedValue T} {identifier : T.Ss58Identifier} {record : RatingEntry T}

namespace Storage

def Refers (p : Storage T) (entryType : EntryTypeOf) (ref id : T.Ss58Identifier) : Prop :=
  ∃ r, p.ratingEntries.get id = some r ∧ r.entryType = entryType ∧ r.referenceId = some ref

structure UniqueRefs (p : Storage T) : Prop where
  debit : ∀ id r, p.ratingEntries.get id = some r → r.entryType = .debit →
    ∃ target details, r.referenceId = some target ∧ p.ratingEntries.get target = some details ∧
      details.entryType = .credit
  unique : ∀ entryType ref id id', p.Refers entryType ref id → p.Refers entryType ref id' → id = id'

end Storage

section Anchors

variable (h : Anchors p origin messageId record identifier p')

include h

theorem Anchors.refers_iff {entryType : EntryTypeOf} {ref id : T.Ss58Identifier}
    : p'.Refers entryType ref id ↔
        (id = identifier ∧ record.entryType = entryType ∧ record.referenceId = some ref) ∨
          p.Refers entryType ref id := by
  constructor
  . rintro ⟨r, hget, htype, href⟩
    rcases h.get_cases hget with ⟨hid, rfl⟩ | hget
    . exact .inl ⟨hid, htype, href⟩
    . exact .inr ⟨r, hget, htype, href⟩
  . rintro (⟨rfl, htype, href⟩ | ⟨r, hget, htype, href⟩)
    . exact ⟨record, h.get_self, htype, href⟩
    . exact ⟨r, h.get_of_get hget, htype, href⟩

theorem Anchors.not_refers {entryType : EntryTypeOf} {ref : T.Ss58Identifier}
    : ¬ p.Refers entryType ref identifier := by
  rintro ⟨r, hget, _⟩
  rw [h.fresh] at hget
  cases hget

theorem Anchors.unique_iff (hp : p.UniqueRefs)
    : (∀ entryType ref id id', p'.Refers entryType ref id → p'.Refers entryType ref id' → id = id') ↔
        ∀ ref ∈ record.referenceId, ∀ id, ¬ p.Refers record.entryType ref id := by
  constructor
  . intro hunique ref href id hrefers
    have heq := hunique record.entryType ref identifier id
      (h.refers_iff.mpr (.inl ⟨rfl, rfl, href⟩)) (h.refers_iff.mpr (.inr hrefers))
    rw [← heq] at hrefers
    exact h.not_refers hrefers
  . intro hnew entryType ref id id' hid hid'
    rw [h.refers_iff] at hid hid'
    rcases hid with ⟨rfl, rfl, href⟩ | hid
    . rcases hid' with ⟨rfl, _⟩ | hid'
      . rfl
      . exact absurd hid' (hnew ref href id')
    . rcases hid' with ⟨rfl, rfl, href⟩ | hid'
      . exact absurd hid (hnew ref href id)
      . exact hp.unique entryType ref id id' hid hid'

theorem Anchors.debit_of_credit (hp : p.UniqueRefs) (hcredit : record.entryType = .credit)
    : ∀ id r, p'.ratingEntries.get id = some r → r.entryType = .debit →
        ∃ target details, r.referenceId = some target ∧ p'.ratingEntries.get target = some details ∧
          details.entryType = .credit := by
  intro id r hget hdebit
  rcases h.get_cases hget with ⟨_, rfl⟩ | hget
  . rw [hcredit] at hdebit
    cases hdebit
  . obtain ⟨target, details, href, htarget, htype⟩ := hp.debit id r hget hdebit
    exact ⟨target, details, href, h.get_of_get htarget, htype⟩

theorem Anchors.debit_iff {target : T.Ss58Identifier} {details : RatingEntry T} (hp : p.UniqueRefs)
    (hget : p.ratingEntries.get target = some details) (hdebit : record.entryType = .debit)
    (href : record.referenceId = some target)
    : (∀ id r, p'.ratingEntries.get id = some r → r.entryType = .debit →
        ∃ target details, r.referenceId = some target ∧ p'.ratingEntries.get target = some details ∧
          details.entryType = .credit) ↔
      details.entryType = .credit := by
  constructor
  . intro h'
    obtain ⟨target', details', href', hget', htype⟩ := h' identifier record h.get_self hdebit
    rw [href] at href'
    injection href' with href'
    rw [← href', h.get_of_get hget] at hget'
    injection hget' with hget'
    rw [hget']
    exact htype
  . intro hcredit id r hgetr hdebitr
    rcases h.get_cases hgetr with ⟨_, rfl⟩ | hgetr
    . exact ⟨target, details, href, h.get_of_get hget, hcredit⟩
    . obtain ⟨target', details', href', htarget, htype⟩ := hp.debit id r hgetr hdebitr
      exact ⟨target', details', href', h.get_of_get htarget, htype⟩

end Anchors

def RefersOnce (s : State T) (_ : T.Origin) (call : Call T) : Prop :=
  -- What is revoked is a credit entry that was not revoked yet, and what is revised was not
  -- revised yet.
  match call with
  | .registerRating .. => True
  | .revokeRating entryIdentifier .. =>
    ∀ details ∈ s.pallet.ratingEntries.get entryIdentifier,
      details.entryType = .credit ∧ ∀ id, ¬ s.pallet.Refers .debit entryIdentifier id
  | .reviseRating _ _ _ debitRefId _ =>
    ∀ details ∈ s.pallet.ratingEntries.get debitRefId, ∀ ref ∈ details.referenceId,
      ∀ id, ¬ s.pallet.Refers .credit ref id

theorem Storage.uniqueRefs_iff
    : p.UniqueRefs ↔
        (∀ id r, p.ratingEntries.get id = some r → r.entryType = .debit →
          ∃ target details, r.referenceId = some target ∧
            p.ratingEntries.get target = some details ∧ details.entryType = .credit) ∧
        ∀ entryType ref id id', p.Refers entryType ref id → p.Refers entryType ref id' → id = id' :=
  ⟨fun h => ⟨h.debit, h.unique⟩, fun h => ⟨h.1, h.2⟩⟩

theorem Effect.uniqueRefs_iff (hs : s.pallet.UniqueRefs) (h : Effect s.pallet origin call p')
    : p'.UniqueRefs ↔ RefersOnce s origin call := by
  rw [Storage.uniqueRefs_iff]
  cases h with
  | register anchors entry_eq message credit reference =>
    rw [anchors.unique_iff hs, reference]
    apply iff_of_true _ trivial
    refine ⟨anchors.debit_of_credit hs credit, ?_⟩
    intro ref href
    cases href
  | revoke get anchors entry_eq message debit reference =>
    rw [anchors.debit_iff hs get debit reference, anchors.unique_iff hs, reference, debit]
    simp [RefersOnce, get]
  | revise get debit anchors entry_eq message credit reference =>
    rw [anchors.unique_iff hs, reference, credit, and_iff_right (anchors.debit_of_credit hs credit)]
    simp [RefersOnce, get]

theorem genesis_uniqueRefs : (State.genesis T).pallet.UniqueRefs := by
  constructor
  . intro id r hget
    cases hget
  . rintro entryType ref id id' ⟨r, hget, _⟩
    cases hget

/--
Every rating is debited at most once and revised at most once in every state of exactly those runs
that revoke only credit entries, each of them once, and revise them once.
-/
theorem run_uniqueRefs_iff (exts : List (Extrinsic T))
    : (machine T).Always (fun s => s.pallet.UniqueRefs) (State.genesis T) exts ↔
        (machine T).Meets (Client.Extrinsic.Meets RefersOnce) (State.genesis T) exts := by
  apply Client.always_iff_meets (J := fun _ => True)
  . intros
    trivial
  . intro s origin call s' _ hs h
    exact (dispatch_effect h).uniqueRefs_iff hs
  . trivial
  . exact genesis_uniqueRefs

section Plain

/--
Both debit entries of `revokeTwice`. They only differ in their identifier.
-/
def twiceDebit : RatingEntry .plain where
  entry := plainEntry 1
  digest := [20]
  messageId := plainValue 30
  space := ChainSpace.plainSpace 10 1
  creatorId := 1
  entryType := .debit
  referenceId := some (plainRating 20 30 1)
  createdAt := 1

theorem revokeTwice_not_uniqueRefs
    : ¬ ∀ exts : List (Extrinsic .plain),
        ((machine .plain).run (State.genesis .plain) exts).pallet.UniqueRefs := by
  intro h
  have heq := (h revokeTwice).unique .debit (plainRating 20 30 1) (plainRating 21 31 1)
    (plainRating 22 32 1) ⟨twiceDebit, by decide +kernel, rfl, rfl⟩
    ⟨twiceDebit, by decide +kernel, rfl, rfl⟩
  revert heq
  decide

end Plain

end NetworkScore
