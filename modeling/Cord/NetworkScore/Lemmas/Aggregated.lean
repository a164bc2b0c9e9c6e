import Cord.NetworkScore.Lemmas.Calls

/-!
This module contains that a debit entry always meets an aggregate: whatever stands in the place of the
branch that would count it as a credit, the calls do the same.
-/

open Frame Identifier
open ChainSpace (Client)
open ChainSpace.Client (getPallet getPallet_iff ensureAuthorizationOrigin_iff)

namespace NetworkScore

variable {T : Config} {s : State T} {origin : T.Origin} {call : Call T} {ext : Extrinsic T}
  {entry : RatingInputEntry T} {digest : T.Hash} {messageId : EncodedValue T}
  {authorization : T.Ss58Identifier} {aggregate : RatingInputEntry T → EntryTypeOf → CallM T Unit}
  {fresh : RatingInputEntry T → CallM T Unit}

/--
`aggregateScore` with `fresh` in the place of its second branch when the entry is a debit entry.
-/
def aggregateScoreElse (fresh : RatingInputEntry T → CallM T Unit) (entry : RatingInputEntry T)
    (rtype : EntryTypeOf) : CallM T Unit := do
  match (← getPallet).aggregateScores.get (entry.entityId, entry.ratingType), rtype with
  | none, .debit => fresh entry
  | _, _ => aggregateScore entry rtype

def machineElse (fresh : RatingInputEntry T → CallM T Unit) : Machine (State T) Error (Extrinsic T) :=
  Client.machine .chainSpace (dispatchWith (aggregateScoreElse fresh))

theorem run_anchorRatingWith {provider : T.SpaceCreatorId} {spaceId : T.Ss58Identifier}
    {record : UInt64 → RatingEntry T} {entryType : EntryTypeOf}
    (h : (aggregate entry entryType).run s = (aggregateScore entry entryType).run s)
    : (anchorRatingWith aggregate provider spaceId digest messageId record entry entryType).run s =
        (anchorRatingWith aggregateScore provider spaceId digest messageId record entry entryType).run
          s := by
  unfold anchorRatingWith
  apply Succeeds.run_bind_congr rfl
  intro p t hp
  obtain ⟨_, rfl⟩ := getPallet_iff.mp hp
  apply Succeeds.run_bind_congr rfl
  intro _ t hunused
  obtain ⟨_, rfl⟩ := Succeeds.ensure_iff.mp hunused
  apply Succeeds.run_bind_congr rfl
  intro identifier t hidentifier
  obtain ⟨_, rfl⟩ := Succeeds.okOr_iff.mp hidentifier
  apply Succeeds.run_bind_congr rfl
  intro p t hp
  obtain ⟨_, rfl⟩ := getPallet_iff.mp hp
  apply Succeeds.run_bind_congr rfl
  intro _ t hfresh
  obtain ⟨_, rfl⟩ := Succeeds.ensure_iff.mp hfresh
  exact Succeeds.run_bind_congr h fun _ _ _ => rfl

theorem run_registerRatingWith
    (h : ∀ t, (aggregate entry .credit).run t = (aggregateScore entry .credit).run t)
    : (registerRatingWith aggregate origin entry digest messageId authorization).run s =
        (registerRating origin entry digest messageId authorization).run s := by
  unfold registerRating registerRatingWith
  apply Succeeds.run_bind_congr rfl
  intro caller t _
  apply Succeeds.run_bind_congr rfl
  intro spaceId t _
  apply Succeeds.run_bind_congr rfl
  intro _ t _
  exact Succeeds.run_bind_congr (run_anchorRatingWith (h t)) fun _ _ _ => rfl

theorem run_revokeRatingWith {entryIdentifier : T.Ss58Identifier}
    (h : ∀ details t, s.pallet.ratingEntries.get entryIdentifier = some details →
      t.pallet = s.pallet →
      (aggregate details.entry .debit).run t = (aggregateScore details.entry .debit).run t)
    : (revokeRatingWith aggregate origin entryIdentifier messageId digest authorization).run s =
        (revokeRating origin entryIdentifier messageId digest authorization).run s := by
  unfold revokeRating revokeRatingWith
  apply Succeeds.run_bind_congr rfl
  intro caller t hcaller
  obtain ⟨_, rfl⟩ := Succeeds.ensureOrigin_iff.mp hcaller
  apply Succeeds.run_bind_congr rfl
  intro spaceId t hspace
  obtain ⟨d, _, _, _, rfl⟩ := ensureAuthorizationOrigin_iff.mp hspace
  apply Succeeds.run_bind_congr rfl
  intro p t hp
  obtain ⟨rfl, rfl⟩ := getPallet_iff.mp hp
  apply Succeeds.run_bind_congr rfl
  intro details t hdetails
  obtain ⟨hget, rfl⟩ := Succeeds.okOr_iff.mp hdetails
  apply Succeeds.run_bind_congr rfl
  intro _ t hspace
  obtain ⟨_, rfl⟩ := Succeeds.ensure_iff.mp hspace
  -- Up to here the call has only charged the space.
  have haggregate := h details (t.setSpace spaceId d.charge) hget rfl
  exact Succeeds.run_bind_congr (run_anchorRatingWith haggregate) fun _ _ _ => rfl

theorem run_reviseRatingWith {debitRefId : T.Ss58Identifier}
    (h : ∀ t, (aggregate entry .credit).run t = (aggregateScore entry .credit).run t)
    : (reviseRatingWith aggregate origin entry digest messageId debitRefId authorization).run s =
        (reviseRating origin entry digest messageId debitRefId authorization).run s := by
  unfold reviseRating reviseRatingWith
  apply Succeeds.run_bind_congr rfl
  intro caller t _
  apply Succeeds.run_bind_congr rfl
  intro spaceId t _
  apply Succeeds.run_bind_congr rfl
  intro _ t _
  apply Succeeds.run_bind_congr rfl
  intro p t _
  apply Succeeds.run_bind_congr rfl
  intro details t _
  apply Succeeds.run_bind_congr rfl
  intro _ t _
  apply Succeeds.run_bind_congr rfl
  intro _ t _
  apply Succeeds.run_bind_congr rfl
  intro _ t _
  exact Succeeds.run_bind_congr (run_anchorRatingWith (h t)) fun _ _ _ => rfl

theorem run_aggregateScoreElse {rtype : EntryTypeOf}
    (h : rtype = .debit →
      (s.pallet.aggregateScores.get (entry.entityId, entry.ratingType)).isSome = true)
    : (aggregateScoreElse fresh entry rtype).run s = (aggregateScore entry rtype).run s := by
  have hget : Succeeds (ε := Error) Client.getPallet s s.pallet s := getPallet_iff.mpr ⟨rfl, rfl⟩
  unfold aggregateScoreElse
  rw [Succeeds.run_bind hget]
  split
  . next hnone =>
    have hsome := h rfl
    rw [hnone] at hsome
    cases hsome
  . rfl

theorem run_dispatch (hs : Recorded s.pallet)
    : (dispatchWith (aggregateScoreElse fresh) origin call).run s =
        (dispatch origin call).run s := by
  have hcredit (entry : RatingInputEntry T) (t : State T)
      : (aggregateScoreElse fresh entry .credit).run t = (aggregateScore entry .credit).run t := by
    apply run_aggregateScoreElse
    intro h
    cases h
  cases call with
  | registerRating entry digest messageId authorization => exact run_registerRatingWith (hcredit entry)
  | revokeRating entryIdentifier messageId digest authorization =>
    apply run_revokeRatingWith
    intro details t hget ht
    apply run_aggregateScoreElse
    intro _
    rw [ht]
    exact hs.aggregated entryIdentifier details hget
  | reviseRating entry digest messageId debitRefId authorization =>
    exact run_reviseRatingWith (hcredit entry)

theorem run_machine (hs : Recorded s.pallet)
    : ((machineElse fresh).dispatch ext).run s =
        ((machine T).dispatch ext).run s := by
  cases ext with
  | chainSpace ext => rfl
  | pallet origin timepoint call =>
    apply Succeeds.run_bind_congr rfl
    intro _ t ht
    rw [Succeeds.modify_iff] at ht
    rw [ht]
    exact run_dispatch (s := s.atTime timepoint) hs

/--
In every state that a run reaches each entry has an aggregate under its entity and its type. Therefore
the next extrinsic does what it does without the branch that would create one for a debit entry, whatever
stands in its place, and so does the whole run.
-/
theorem debit_aggregated (exts : List (Extrinsic T))
    : (∀ id record, ((machine T).run (.genesis T) exts).pallet.ratingEntries.get id = some record →
        ∃ aggregate, ((machine T).run (.genesis T) exts).pallet.aggregateScores.get
          (record.entry.entityId, record.entry.ratingType) = some aggregate) ∧
      ∀ fresh : RatingInputEntry T → CallM T Unit,
        (∀ ext, ((machineElse fresh).dispatch ext).run
            ((machine T).run (.genesis T) exts) =
          ((machine T).dispatch ext).run ((machine T).run (.genesis T) exts)) ∧
        (machineElse fresh).run (.genesis T) exts =
          (machine T).run (.genesis T) exts := by
  have hrun : Recorded ((machine T).run (.genesis T) exts).pallet :=
    Machine.run_invariant (fun _ _ _ => Recorded.step) genesis_recorded
  constructor
  . intro id record hget
    exact Option.isSome_iff_exists.mp (hrun.aggregated id record hget)
  intro fresh
  constructor
  . intro ext
    exact run_machine hrun
  . apply Machine.run_congr (I := fun s : State T => Recorded s.pallet)
    . intro s ext s' hs h
      exact hs.step h
    . intro s ext hs
      exact run_machine hs
    . exact genesis_recorded

end NetworkScore
