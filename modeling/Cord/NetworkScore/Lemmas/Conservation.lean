import Cord.NetworkScore.Lemmas.Calls

/-!
This module contains the agreement of the aggregated scores with the ledger they are aggregated from.
The aggregate is adjusted with saturating arithmetic, so it agrees as long as no adjustment
saturates.
-/

open Frame Identifier
open ChainSpace (Client)

namespace NetworkScore

variable {T : Config} {s s' : State T} {p p' : Storage T} {origin : T.Origin} {call : Call T}
  {messageId : EncodedValue T} {identifier : T.Ss58Identifier} {record : RatingEntry T}

inductive Quantity where
  | countOfTxn
  | totalEncodedRating

def RatingInputEntry.get (entry : RatingInputEntry T) : Quantity → UInt64
  | .countOfTxn => entry.countOfTxn
  | .totalEncodedRating => entry.totalEncodedRating

def AggregatedEntry.get (aggregate : AggregatedEntry) : Quantity → UInt64
  | .countOfTxn => aggregate.countOfTxn
  | .totalEncodedRating => aggregate.totalEncodedRating

def AggregatedEntry.Covers (aggregate : AggregatedEntry) (entry : RatingInputEntry T)
    (entryType : EntryTypeOf) (q : Quantity) : Prop :=
  match entryType with
  | .credit => (aggregate.get q).toNat + (entry.get q).toNat < 2 ^ 64
  | .debit => (entry.get q).toNat ≤ (aggregate.get q).toNat

instance (aggregate : AggregatedEntry) (entry : RatingInputEntry T)
    : (entryType : EntryTypeOf) → (q : Quantity) → Decidable (aggregate.Covers entry entryType q)
  | .credit, q =>
    inferInstanceAs (Decidable ((aggregate.get q).toNat + (entry.get q).toNat < 2 ^ 64))
  | .debit, q => inferInstanceAs (Decidable ((entry.get q).toNat ≤ (aggregate.get q).toNat))

namespace Storage

def sumEntries (p : Storage T) (entryType : EntryTypeOf) (entityId : EncodedValue T)
    (ratingType : RatingTypeOf) (q : Quantity) : Nat :=
  p.ratingEntries.sum fun _ r =>
    if r.entryType = entryType ∧ r.entry.entityId = entityId ∧ r.entry.ratingType = ratingType then
      (r.entry.get q).toNat
    else
      0

def Conserved (p : Storage T) : Prop :=
  ∀ entityId ratingType q,
    (((p.aggregate entityId ratingType).get q).toNat : Int) =
      p.sumEntries .credit entityId ratingType q - p.sumEntries .debit entityId ratingType q

def Balanced (p : Storage T) (entry : RatingInputEntry T) (entryType : EntryTypeOf) : Prop :=
  ∀ q, (p.aggregate entry.entityId entry.ratingType).Covers entry entryType q

instance (p : Storage T) (entry : RatingInputEntry T) (entryType : EntryTypeOf)
    : Decidable (p.Balanced entry entryType) :=
  let aggregate := p.aggregate entry.entityId entry.ratingType
  decidable_of_iff (aggregate.Covers entry entryType .countOfTxn ∧
      aggregate.Covers entry entryType .totalEncodedRating) <| by
    constructor
    . rintro ⟨hcount, hrating⟩ q
      cases q with
      | countOfTxn => exact hcount
      | totalEncodedRating => exact hrating
    . intro h
      exact ⟨h _, h _⟩

end Storage

@[simp]
theorem adjust_get_credit (aggregate : AggregatedEntry) (entry : RatingInputEntry T) (q : Quantity)
    : (aggregate.adjust entry .credit).get q = saturatingAdd (aggregate.get q) (entry.get q) := by
  cases q <;> rfl

@[simp]
theorem adjust_get_debit (aggregate : AggregatedEntry) (entry : RatingInputEntry T) (q : Quantity)
    : (aggregate.adjust entry .debit).get q = saturatingSub (aggregate.get q) (entry.get q) := by
  cases q <;> rfl

theorem toNat_adjusted_credit (h : record.entryType = .credit) (q : Quantity)
    : ((p.adjusted record).get q).toNat =
        min (((p.aggregate record.entry.entityId record.entry.ratingType).get q).toNat +
          (record.entry.get q).toNat) (2 ^ 64 - 1) := by
  unfold Storage.adjusted Storage.aggregate StorageMap.getD
  rw [h]
  match p.aggregateScores.get (record.entry.entityId, record.entry.ratingType) with
  | some aggregate =>
    dsimp only [Option.getD_some]
    rw [adjust_get_credit, toNat_saturatingAdd]
  | none =>
    have hlt := UInt64.toNat_lt (record.entry.get q)
    cases q with
    | countOfTxn =>
      simp only [AggregatedEntry.get, RatingInputEntry.get, Option.getD_none, UInt64.toNat_zero]
        at hlt ⊢
      omega
    | totalEncodedRating =>
      simp only [AggregatedEntry.get, RatingInputEntry.get, Option.getD_none, UInt64.toNat_zero]
        at hlt ⊢
      omega

theorem toNat_adjusted_debit (h : record.entryType = .debit)
    (hsome : (p.aggregateScores.get (record.entry.entityId, record.entry.ratingType)).isSome = true)
    (q : Quantity)
    : ((p.adjusted record).get q).toNat =
        ((p.aggregate record.entry.entityId record.entry.ratingType).get q).toNat -
          (record.entry.get q).toNat := by
  obtain ⟨aggregate, hget⟩ := Option.isSome_iff_exists.mp hsome
  unfold Storage.adjusted Storage.aggregate StorageMap.getD
  rw [h, hget]
  dsimp only [Option.getD_some]
  rw [adjust_get_debit, toNat_saturatingSub]

section Anchors

variable (h : Anchors p origin messageId record identifier p')

include h

theorem Anchors.aggregate (entityId : EncodedValue T) (ratingType : RatingTypeOf)
    : p'.aggregate entityId ratingType =
        if entityId = record.entry.entityId ∧ ratingType = record.entry.ratingType then
          p.adjusted record
        else
          p.aggregate entityId ratingType := by
  unfold Storage.aggregate
  rw [h.aggregateScores, StorageMap.getD_insert]
  simp only [Prod.mk.injEq]

theorem Anchors.sumEntries (entryType : EntryTypeOf) (entityId : EncodedValue T)
    (ratingType : RatingTypeOf) (q : Quantity)
    : p'.sumEntries entryType entityId ratingType q =
        p.sumEntries entryType entityId ratingType q +
          if record.entryType = entryType ∧ record.entry.entityId = entityId ∧
            record.entry.ratingType = ratingType then (record.entry.get q).toNat else 0 := by
  unfold Storage.sumEntries
  rw [h.ratingEntries, StorageMap.sum_insert_of_get_none _ _ h.fresh, Nat.add_comm]

theorem Anchors.conserved_iff_adjusted (hp : p.Conserved)
    : p'.Conserved ↔ ∀ q,
        (((p.adjusted record).get q).toNat : Int) =
          p'.sumEntries .credit record.entry.entityId record.entry.ratingType q -
            p'.sumEntries .debit record.entry.entityId record.entry.ratingType q := by
  -- Only the aggregate of the entity that is rated is at stake.
  constructor
  . intro hp' q
    rw [← hp', h.aggregate, if_pos ⟨rfl, rfl⟩]
  . intro hadjusted entityId ratingType q
    rw [h.aggregate]
    split
    . next heq =>
      rw [heq.1, heq.2]
      exact hadjusted q
    . next hne =>
      have hother : ∀ entryType, p'.sumEntries entryType entityId ratingType q =
          p.sumEntries entryType entityId ratingType q := by
        intro entryType
        rw [h.sumEntries, if_neg, Nat.add_zero]
        rintro ⟨_, hentity, htype⟩
        exact hne ⟨hentity.symm, htype.symm⟩
      rw [hother, hother]
      exact hp entityId ratingType q

theorem Anchors.conserved_iff (hp : p.Conserved)
    (hsome : record.entryType = .debit →
      (p.aggregateScores.get (record.entry.entityId, record.entry.ratingType)).isSome = true)
    : p'.Conserved ↔ p.Balanced record.entry record.entryType := by
  rw [h.conserved_iff_adjusted hp]
  apply forall_congr'
  intro q
  have hkey := hp record.entry.entityId record.entry.ratingType q
  simp only [h.sumEntries, and_true]
  match htype : record.entryType with
  | .credit =>
    rw [toNat_adjusted_credit htype]
    simp only [AggregatedEntry.Covers, reduceCtorEq, if_true, if_false]
    omega
  | .debit =>
    rw [toNat_adjusted_debit htype (hsome htype)]
    simp only [AggregatedEntry.Covers, reduceCtorEq, if_true, if_false]
    omega

end Anchors

def CreditsFit (s : State T) (_ : T.Origin) (call : Call T) : Prop :=
  -- The scores that are added fit into the aggregate.
  match call with
  | .registerRating entry .. | .reviseRating entry .. => s.pallet.Balanced entry .credit
  | .revokeRating .. => True

instance (s : State T) (origin : T.Origin) : (call : Call T) → Decidable (CreditsFit s origin call)
  | .registerRating entry .. | .reviseRating entry .. =>
    inferInstanceAs (Decidable (s.pallet.Balanced entry .credit))
  | .revokeRating .. => inferInstanceAs (Decidable True)

def DebitsCovered (s : State T) (_ : T.Origin) (call : Call T) : Prop :=
  -- The scores that are taken back are still part of the aggregate.
  match call with
  | .registerRating .. | .reviseRating .. => True
  | .revokeRating entryIdentifier .. =>
    ∀ details ∈ s.pallet.ratingEntries.get entryIdentifier, s.pallet.Balanced details.entry .debit

theorem Effect.conserved_iff (hrecorded : Recorded s.pallet) (hs : s.pallet.Conserved)
    (h : Effect s.pallet origin call p')
    : p'.Conserved ↔ CreditsFit s origin call ∧ DebitsCovered s origin call := by
  cases h with
  | register anchors entry_eq message credit reference =>
    rw [anchors.conserved_iff hs (by rw [credit]; simp), entry_eq, credit]
    exact (and_iff_left trivial).symm
  | revoke get anchors entry_eq message debit reference =>
    rw [anchors.conserved_iff hs]
    . rw [entry_eq, debit]
      simp [CreditsFit, DebitsCovered, get]
    . intro _
      rw [entry_eq]
      exact hrecorded.aggregated _ _ get
  | revise get debit anchors entry_eq message credit reference =>
    rw [anchors.conserved_iff hs (by rw [credit]; simp), entry_eq, credit]
    exact (and_iff_left trivial).symm

theorem genesis_conserved : (State.genesis T).pallet.Conserved := by
  intro entityId ratingType q
  cases q <;> rfl

/--
The aggregates agree with the ledger in every state of exactly those runs in which no aggregate
saturates.
-/
theorem run_conserved_iff (exts : List (Extrinsic T))
    : (machine T).Always (fun s => s.pallet.Conserved) (State.genesis T) exts ↔
        (machine T).Meets
          (Client.Extrinsic.Meets fun s origin call =>
            CreditsFit s origin call ∧ DebitsCovered s origin call)
          (State.genesis T) exts := by
  apply Client.always_iff_meets (J := Recorded)
  . intro s origin call s' hs h
    exact hs.dispatch h
  . intro s origin call s' hrecorded hs h
    exact (dispatch_effect h).conserved_iff hrecorded hs
  . exact genesis_recorded
  . exact genesis_conserved

section Plain

theorem revokeTwice_not_conserved
    : ¬ ∀ exts : List (Extrinsic .plain),
        (machine .plain).Meets (Client.Extrinsic.Meets CreditsFit) (State.genesis .plain) exts →
          ((machine .plain).run (State.genesis .plain) exts).pallet.Conserved := by
  intro h
  have hconserved := h revokeTwice (by decide +kernel) (plainValue 7) .overall .countOfTxn
  revert hconserved
  decide +kernel

end Plain

end NetworkScore
