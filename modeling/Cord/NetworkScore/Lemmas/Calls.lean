import Cord.NetworkScore.Impl.Calls
import Cord.ChainSpace.Lemmas.Client

/-!
This module contains what a successful call of the network score pallet has done to its storage: all
of them add one entry to the ledger. It also contains what holds in every run, whoever makes the
calls.
-/

open Frame Identifier
open ChainSpace (Client)
open ChainSpace.Client (getPallet_iff modifyPallet_iff blockNumber_iff updateActivity_iff
  ensureAuthorizationOrigin_iff)

namespace NetworkScore

variable {T : Config} {s s' : State T} {p p' : Storage T} {origin : T.Origin} {call : Call T}
  {entry : RatingInputEntry T} {digest : T.Hash} {messageId : EncodedValue T}
  {authorization identifier : T.Ss58Identifier} {record : RatingEntry T}

namespace Storage

def aggregate (p : Storage T) (entityId : EncodedValue T) (ratingType : RatingTypeOf)
    : AggregatedEntry :=
  p.aggregateScores.getD (entityId, ratingType) ⟨0, 0⟩

def adjusted (p : Storage T) (record : RatingEntry T) : AggregatedEntry :=
  match p.aggregateScores.get (record.entry.entityId, record.entry.ratingType) with
  | some aggregate => aggregate.adjust record.entry record.entryType
  | none => ⟨record.entry.countOfTxn, record.entry.totalEncodedRating⟩

end Storage

/--
`record` is added to the ledger under `identifier`, for the message `messageId`.
-/
structure Anchors (p : Storage T) (origin : T.Origin) (messageId : EncodedValue T)
    (record : RatingEntry T) (identifier : T.Ss58Identifier) (p' : Storage T) : Prop where
  unused : ∃ provider creator, T.ensureScoreOrigin origin = some (provider, creator) ∧
    p.messageIdentifiers.get (messageId, provider) = none
  fresh : p.ratingEntries.get identifier = none
  ratingEntries : p'.ratingEntries = p.ratingEntries.insert identifier record
  messageIdentifiers : p'.messageIdentifiers =
    p.messageIdentifiers.insert (messageId, record.entry.providerDid) identifier
  aggregateScores : p'.aggregateScores =
    p.aggregateScores.insert (record.entry.entityId, record.entry.ratingType) (p.adjusted record)

inductive Effect (p : Storage T) (origin : T.Origin) : Call T → Storage T → Prop where
  | register {entry : RatingInputEntry T} {digest : T.Hash} {messageId : EncodedValue T}
    {authorization identifier : T.Ss58Identifier} {record : RatingEntry T} {p' : Storage T}
    (anchors : Anchors p origin messageId record identifier p') (entry_eq : record.entry = entry)
    (message : record.messageId = messageId) (credit : record.entryType = .credit)
    (reference : record.referenceId = none)
    : Effect p origin (.registerRating entry digest messageId authorization) p'
  | revoke {entryIdentifier authorization identifier : T.Ss58Identifier}
    {messageId : EncodedValue T} {digest : T.Hash} {details record : RatingEntry T} {p' : Storage T}
    (get : p.ratingEntries.get entryIdentifier = some details)
    (anchors : Anchors p origin messageId record identifier p')
    (entry_eq : record.entry = details.entry) (message : record.messageId = details.messageId)
    (debit : record.entryType = .debit) (reference : record.referenceId = some entryIdentifier)
    : Effect p origin (.revokeRating entryIdentifier messageId digest authorization) p'
  | revise {entry : RatingInputEntry T} {digest : T.Hash} {messageId : EncodedValue T}
    {debitRefId authorization identifier : T.Ss58Identifier} {details record : RatingEntry T}
    {p' : Storage T} (get : p.ratingEntries.get debitRefId = some details)
    (debit : details.entryType = .debit)
    (anchors : Anchors p origin messageId record identifier p') (entry_eq : record.entry = entry)
    (message : record.messageId = messageId) (credit : record.entryType = .credit)
    (reference : record.referenceId = details.referenceId)
    : Effect p origin (.reviseRating entry digest messageId debitRefId authorization) p'

@[simp]
theorem depositEvent_iff {event : Event T} {u : Unit}
    : Succeeds (depositEvent event) s u s'
        ↔
      s' = { s with pallet.events := s.pallet.events ++ [event] } := by
  apply modifyPallet_iff

theorem aggregateScore_spec (h : Succeeds (aggregateScore record.entry record.entryType) s () s')
    : ∃ events, s' = {
        s with
        pallet.aggregateScores := s.pallet.aggregateScores.insert
          (record.entry.entityId, record.entry.ratingType) (s.pallet.adjusted record)
        pallet.events := events
      } := by
  simp only [aggregateScore, Succeeds.bind_iff, getPallet_iff, and_assoc, exists_and_left,
    exists_eq_left] at h
  cases hget : s.pallet.aggregateScores.get (record.entry.entityId, record.entry.ratingType) with
  | some aggregate =>
    have hadjusted : s.pallet.adjusted record = aggregate.adjust record.entry record.entryType := by
      unfold Storage.adjusted
      rw [hget]
    simp only [hget, Succeeds.bind_iff, modifyPallet_iff, depositEvent_iff, exists_eq_left,
      exists_const] at h
    rw [hadjusted, h]
    exact ⟨_, rfl⟩
  | none =>
    have hadjusted : s.pallet.adjusted record =
        ⟨record.entry.countOfTxn, record.entry.totalEncodedRating⟩ := by
      unfold Storage.adjusted
      rw [hget]
    simp only [hget, Succeeds.bind_iff, modifyPallet_iff, depositEvent_iff, exists_eq_left,
      exists_const] at h
    rw [hadjusted, h]
    exact ⟨_, rfl⟩

theorem Anchors.events {events : List (Event T)}
    (h : Anchors p origin messageId record identifier p')
    : Anchors p origin messageId record identifier { p' with events } :=
  ⟨h.unused, h.fresh, h.ratingEntries, h.messageIdentifiers, h.aggregateScores⟩

theorem anchorRating_spec {provider : T.SpaceCreatorId} {creator : T.AccountId}
    {spaceId : T.Ss58Identifier} {record : UInt64 → RatingEntry T} {entryType : EntryTypeOf}
    (h : Succeeds (anchorRatingWith aggregateScore provider spaceId digest messageId record entry
      entryType) s identifier s')
    (hcaller : T.ensureScoreOrigin origin = some (provider, creator))
    (hentry : ∀ createdAt, (record createdAt).entry = entry)
    (htype : ∀ createdAt, (record createdAt).entryType = entryType)
    : ∃ createdAt, Anchors s.pallet origin messageId (record createdAt) identifier s'.pallet := by
  simp only [anchorRatingWith, getCurrentTime, updateActivity, Succeeds.bind_iff, getPallet_iff,
    Succeeds.ensure_iff, Succeeds.okOr_iff, blockNumber_iff, Succeeds.pure_iff, modifyPallet_iff,
    updateActivity_iff, Bool.not_eq_true', StorageMap.containsKey_eq_false_iff, and_assoc,
    exists_and_left, exists_eq_left, exists_const] at h
  obtain ⟨hunused, _, _, hfresh, _, t, haggregate, rfl, rfl⟩ := h
  refine ⟨T.timestamp t.chainSpace.timepoint.height, ?_⟩
  generalize T.timestamp t.chainSpace.timepoint.height = createdAt
  rw [← hentry createdAt, ← htype createdAt] at haggregate
  obtain ⟨events, rfl⟩ := aggregateScore_spec haggregate
  constructor
  . exact ⟨provider, creator, hcaller, hunused⟩
  . exact hfresh
  . rfl
  . rw [hentry]
  . rfl

theorem ensureRatingValue_iff {u : Unit}
    : Succeeds (ensureRatingValue entry) s u s'
        ↔
      (entry.totalEncodedRating > 0 ∧ entry.countOfTxn > 0 ∧
        entry.totalEncodedRating ≤ entry.countOfTxn * T.maxRatingValue.toUInt64) ∧
      entry.ratingType.isValidRatingType = true ∧ s' = s := by
  simp only [ensureRatingValue, Succeeds.bind_iff, Succeeds.ensure_iff, and_assoc, exists_and_left,
    exists_eq_left, exists_const]

theorem registerRating_effect
    (h : Succeeds (registerRating origin entry digest messageId authorization) s () s')
    : Effect s.pallet origin (.registerRating entry digest messageId authorization) s'.pallet := by
  simp only [registerRating, registerRatingWith, ensureAuthorizationOrigin, Succeeds.bind_iff,
    Succeeds.ensureOrigin_iff, ensureAuthorizationOrigin_iff, ensureRatingValue_iff,
    depositEvent_iff, and_assoc, exists_and_left, exists_eq_left, exists_const] at h
  obtain ⟨⟨provider, creator⟩, hcaller, spaceId, _, _, ⟨d, _, _, rfl⟩, _, _, _, _, identifier, t,
    hanchor, rfl⟩ := h
  obtain ⟨createdAt, hanchors⟩ := anchorRating_spec hanchor hcaller (fun _ => rfl) (fun _ => rfl)
  rw [Client.setSpace_pallet] at hanchors
  exact .register hanchors.events rfl rfl rfl rfl

theorem revokeRating_effect {entryIdentifier : T.Ss58Identifier}
    (h : Succeeds (revokeRating origin entryIdentifier messageId digest authorization) s () s')
    : Effect s.pallet origin (.revokeRating entryIdentifier messageId digest authorization)
        s'.pallet := by
  simp only [revokeRating, revokeRatingWith, ensureAuthorizationOrigin, updateActivity,
    Succeeds.bind_iff, Succeeds.ensureOrigin_iff, ensureAuthorizationOrigin_iff, getPallet_iff,
    Succeeds.okOr_iff, Succeeds.ensure_iff, updateActivity_iff, depositEvent_iff, and_assoc,
    exists_and_left, exists_eq_left, exists_const] at h
  obtain ⟨⟨provider, creator⟩, hcaller, spaceId, _, _, ⟨d, _, _, rfl⟩, details, hget, _, identifier, t,
    hanchor, rfl⟩ := h
  obtain ⟨createdAt, hanchors⟩ := anchorRating_spec hanchor hcaller (fun _ => rfl) (fun _ => rfl)
  rw [Client.setSpace_pallet] at hanchors
  exact .revoke hget hanchors.events rfl rfl rfl rfl

theorem reviseRating_effect {debitRefId : T.Ss58Identifier}
    (h : Succeeds (reviseRating origin entry digest messageId debitRefId authorization) s () s')
    : Effect s.pallet origin (.reviseRating entry digest messageId debitRefId authorization)
        s'.pallet := by
  simp only [reviseRating, reviseRatingWith, ensureAuthorizationOrigin, Succeeds.bind_iff,
    Succeeds.ensureOrigin_iff, ensureAuthorizationOrigin_iff, ensureRatingValue_iff, getPallet_iff,
    Succeeds.okOr_iff, Succeeds.ensure_iff, and_assoc, exists_and_left, exists_eq_left,
    exists_const] at h
  obtain ⟨⟨provider, creator⟩, hcaller, spaceId, _, _, ⟨d, _, _, rfl⟩, _, _, _, _, details, hget, _, _,
    hdebit, identifier, t, hanchor, hrest⟩ := h
  obtain ⟨createdAt, hanchors⟩ := anchorRating_spec hanchor hcaller (fun _ => rfl) (fun _ => rfl)
  rw [Client.setSpace_pallet] at hanchors
  have hevents : ∃ events, s'.pallet = { t.pallet with events } := by
    split at hrest
    . simp only [updateActivity, Succeeds.bind_iff, updateActivity_iff, depositEvent_iff,
        exists_eq_left, exists_const] at hrest
      rw [hrest]
      exact ⟨_, rfl⟩
    . rw [depositEvent_iff] at hrest
      rw [hrest]
      exact ⟨_, rfl⟩
  obtain ⟨events, hevents⟩ := hevents
  rw [hevents]
  exact .revise hget hdebit hanchors.events rfl rfl rfl rfl

theorem dispatch_effect (h : Succeeds (dispatch origin call) s () s')
    : Effect s.pallet origin call s'.pallet := by
  cases call with
  | registerRating entry digest messageId authorization => exact registerRating_effect h
  | revokeRating entryIdentifier messageId digest authorization => exact revokeRating_effect h
  | reviseRating entry digest messageId debitRefId authorization => exact reviseRating_effect h

theorem Effect.anchors (h : Effect p origin call p')
    : ∃ messageId record identifier, Anchors p origin messageId record identifier p' := by
  cases h with
  | register anchors => exact ⟨_, _, _, anchors⟩
  | revoke _ anchors => exact ⟨_, _, _, anchors⟩
  | revise _ _ anchors => exact ⟨_, _, _, anchors⟩

section Anchors

variable (h : Anchors p origin messageId record identifier p')

include h

theorem Anchors.get_self : p'.ratingEntries.get identifier = some record := by
  rw [h.ratingEntries, StorageMap.get_insert_self]

theorem Anchors.get_of_get {id : T.Ss58Identifier} {r : RatingEntry T}
    (hget : p.ratingEntries.get id = some r) : p'.ratingEntries.get id = some r := by
  rw [h.ratingEntries, StorageMap.get_insert_of_ne]
  . exact hget
  . exact StorageMap.ne_of_get h.fresh hget

theorem Anchors.get_cases {id : T.Ss58Identifier} {r : RatingEntry T}
    (hget : p'.ratingEntries.get id = some r)
    : (id = identifier ∧ r = record) ∨ p.ratingEntries.get id = some r := by
  rw [h.ratingEntries, StorageMap.get_insert] at hget
  split at hget
  . next heq =>
    injection hget with hget
    exact .inl ⟨heq, hget.symm⟩
  . exact .inr hget

end Anchors

/--
The index only holds identifiers of entries, and every entry has been aggregated.
-/
structure Recorded (p : Storage T) : Prop where
  indexed : ∀ key id, p.messageIdentifiers.get key = some id →
    (p.ratingEntries.get id).isSome = true
  aggregated : ∀ id r, p.ratingEntries.get id = some r →
    (p.aggregateScores.get (r.entry.entityId, r.entry.ratingType)).isSome = true

theorem Recorded.anchors (hp : Recorded p) (h : Anchors p origin messageId record identifier p')
    : Recorded p' := by
  constructor
  . intro key id hget
    rw [h.messageIdentifiers, StorageMap.get_insert] at hget
    split at hget
    . injection hget with hget
      rw [← hget, h.get_self]
      rfl
    . obtain ⟨r, hr⟩ := Option.isSome_iff_exists.mp (hp.indexed key id hget)
      rw [h.get_of_get hr]
      rfl
  . intro id r hget
    rw [h.aggregateScores, StorageMap.get_insert]
    split
    . rfl
    . next hne =>
      rcases h.get_cases hget with ⟨_, heq⟩ | hget
      . rw [heq] at hne
        exact absurd rfl hne
      . exact hp.aggregated id r hget

theorem Recorded.dispatch (hs : Recorded s.pallet) (h : Succeeds (dispatch origin call) s () s')
    : Recorded s'.pallet := by
  obtain ⟨messageId, record, identifier, hanchors⟩ := (dispatch_effect h).anchors
  exact hs.anchors hanchors

theorem Recorded.step {ext : Extrinsic T} (hs : Recorded s.pallet)
    (h : Succeeds ((machine T).dispatch ext) s () s') : Recorded s'.pallet := by
  apply Client.step_invariant _ ext hs h
  intro s origin call s' hs h
  exact hs.dispatch h

theorem genesis_recorded : Recorded (State.genesis T).pallet := by
  constructor
  . intro key id hget
    cases hget
  . intro id r hget
    cases hget

end NetworkScore
