import Cord.Asset.Lemmas.Calls
import Cord.ChainSpace.Lemmas.Archived
import Cord.NetworkScore.Lemmas.Calls
import Cord.Runtime.Impl
import Cord.Statement.Lemmas.Capacity

/-!
This module contains which runs of the pallets that charge spaces leave archived spaces alone.
-/

open Frame Identifier
open ChainSpace (Client ArchivedKept)
open ChainSpace.Client (KeepsArchived respects_getPallet respects_blockNumber respects_modifyPallet
  respects_updateActivity respects_ensureAuthorizationOrigin)

namespace Asset

variable {T : Config} {origin : T.Origin} {k : AssetKind}

theorem respects_getAsset {assetId : T.Ss58Identifier}
    : Respects KeepsArchived (getAsset (T := T) k assetId) :=
  .bind respects_getPallet fun _ => .okOr

theorem respects_getInstance {assetId instanceId : T.Ss58Identifier}
    : Respects KeepsArchived (getInstance (T := T) k assetId instanceId) :=
  .bind respects_getPallet fun _ => .okOr

theorem respects_anchorAsset {digest : T.Hash} {spaceId : T.Ss58Identifier}
    {creator : T.SpaceCreatorId} {asset : UInt32 → AssetOf T k}
    : Respects KeepsArchived (anchorAsset k digest spaceId creator asset) := by
  unfold anchorAsset
  refine .bind .okOr fun identifier => ?_
  refine .bind respects_getPallet fun p => .bind .ensure fun _ => ?_
  refine .bind respects_blockNumber fun createdAt => ?_
  refine .bind respects_modifyPallet fun _ => ?_
  exact .bind respects_updateActivity fun _ => respects_modifyPallet

theorem respects_create {entry : AssetInputEntry T} {digest : T.Hash}
    {authorization : T.Ss58Identifier}
    : Respects KeepsArchived (create origin entry digest authorization) := by
  unfold create
  refine .bind .ensureOrigin fun creator => ?_
  refine .bind respects_ensureAuthorizationOrigin fun spaceId => ?_
  refine .bind .ensure fun _ => .bind .ensure fun _ => ?_
  exact respects_anchorAsset

theorem respects_vcCreate {assetQty : UInt64} {digest : T.Hash} {authorization : T.Ss58Identifier}
    : Respects KeepsArchived (vcCreate origin assetQty digest authorization) := by
  unfold vcCreate
  refine .bind .ensureOrigin fun creator => ?_
  refine .bind respects_ensureAuthorizationOrigin fun spaceId => ?_
  exact .bind .ensure fun _ => respects_anchorAsset

theorem respects_issueOf {entry : AssetIssuanceEntry T} {digest : T.Hash}
    {authorization : T.Ss58Identifier}
    : Respects KeepsArchived (issueOf k origin entry digest authorization) := by
  unfold issueOf
  refine .bind .ensureOrigin fun issuer => ?_
  refine .bind respects_ensureAuthorizationOrigin fun spaceId => ?_
  refine .bind respects_getAsset fun asset => ?_
  refine .bind .ensure fun _ => .bind .ensure fun _ => .bind .ensure fun _ => ?_
  refine .bind .okOr fun instanceId => ?_
  refine .bind respects_blockNumber fun createdAt => ?_
  refine .bind respects_getPallet fun p => .bind .okOr fun dist => ?_
  refine .bind respects_modifyPallet fun _ => ?_
  refine .bind respects_updateActivity fun _ => .bind respects_updateActivity fun _ => ?_
  exact respects_modifyPallet

theorem respects_transferOf {entry : AssetTransferEntry T} {digest : T.Hash}
    : Respects KeepsArchived (transferOf k origin entry digest) := by
  unfold transferOf
  refine .bind .ensureOrigin fun owner => ?_
  refine .bind respects_getAsset fun asset => .bind respects_getInstance fun inst => ?_
  refine .bind .ensure fun _ => .bind .ensure fun _ => ?_
  refine .bind .ensure fun _ => .bind .ensure fun _ => ?_
  refine .bind respects_blockNumber fun createdAt => ?_
  refine .bind respects_modifyPallet fun _ => ?_
  exact .bind respects_updateActivity fun _ => respects_modifyPallet

theorem respects_statusChangeOf {assetId : T.Ss58Identifier} {instanceId : Option T.Ss58Identifier}
    {newStatus : AssetStatusOf}
    : Respects KeepsArchived (statusChangeOf k origin assetId instanceId newStatus) := by
  unfold statusChangeOf
  refine .bind .ensureOrigin fun issuer => ?_
  refine .bind respects_getAsset fun asset => ?_
  refine .bind .ensure fun _ => .bind .ensure fun _ => ?_
  cases instanceId with
  | some instId =>
    refine .bind respects_getInstance fun inst => .bind .ensure fun _ => ?_
    refine .bind respects_modifyPallet fun _ => ?_
    exact .bind respects_updateActivity fun _ => respects_modifyPallet
  | none =>
    refine .bind .ensure fun _ => .bind respects_modifyPallet fun _ => ?_
    exact .bind respects_updateActivity fun _ => respects_modifyPallet

theorem respects_dispatch {call : Call T} : Respects KeepsArchived (dispatch origin call) := by
  cases call with
  | create => exact respects_create
  | issue => exact respects_issueOf
  | transfer => exact respects_transferOf
  | statusChange => exact respects_statusChangeOf
  | vcCreate => exact respects_vcCreate
  | vcIssue => exact respects_issueOf
  | vcTransfer => exact respects_transferOf
  | vcStatusChange => exact respects_statusChangeOf

end Asset

namespace NetworkScore

variable {T : Config} {origin : T.Origin} {entry : RatingInputEntry T} {digest : T.Hash}
  {messageId : EncodedValue T} {authorization : T.Ss58Identifier}

theorem respects_ensureRatingValue : Respects KeepsArchived (ensureRatingValue entry) :=
  .bind .ensure fun _ => .ensure

theorem respects_aggregateScore {rtype : EntryTypeOf}
    : Respects KeepsArchived (aggregateScore entry rtype) := by
  unfold aggregateScore
  refine .bind respects_getPallet fun p => ?_
  split
  . exact .bind respects_modifyPallet fun _ => respects_modifyPallet
  . exact .bind respects_modifyPallet fun _ => respects_modifyPallet

theorem respects_anchorRating {provider : T.SpaceCreatorId} {spaceId : T.Ss58Identifier}
    {record : UInt64 → RatingEntry T} {entryType : EntryTypeOf}
    : Respects KeepsArchived
        (anchorRatingWith aggregateScore provider spaceId digest messageId record entry entryType) := by
  unfold anchorRatingWith
  refine .bind respects_getPallet fun p => .bind .ensure fun _ => ?_
  refine .bind .okOr fun identifier => ?_
  refine .bind respects_getPallet fun p => .bind .ensure fun _ => ?_
  refine .bind respects_aggregateScore fun _ => ?_
  refine .bind (.bind respects_blockNumber fun _ => .pure) fun createdAt => ?_
  refine .bind respects_modifyPallet fun _ => ?_
  exact .bind respects_updateActivity fun _ => .pure

theorem respects_registerRating
    : Respects KeepsArchived (registerRating origin entry digest messageId authorization) := by
  unfold registerRating registerRatingWith
  refine .bind .ensureOrigin fun (provider, creator) => ?_
  refine .bind respects_ensureAuthorizationOrigin fun spaceId => ?_
  refine .bind respects_ensureRatingValue fun _ => ?_
  exact .bind respects_anchorRating fun _ => respects_modifyPallet

theorem respects_revokeRating {entryIdentifier : T.Ss58Identifier}
    : Respects KeepsArchived
        (revokeRating origin entryIdentifier messageId digest authorization) := by
  unfold revokeRating revokeRatingWith
  refine .bind .ensureOrigin fun (provider, creator) => ?_
  refine .bind respects_ensureAuthorizationOrigin fun spaceId => ?_
  refine .bind respects_getPallet fun p => .bind .okOr fun ratingDetails => ?_
  refine .bind .ensure fun _ => .bind respects_anchorRating fun identifier => ?_
  exact .bind respects_updateActivity fun _ => respects_modifyPallet

theorem respects_reviseRating {debitRefId : T.Ss58Identifier}
    : Respects KeepsArchived
        (reviseRating origin entry digest messageId debitRefId authorization) := by
  unfold reviseRating reviseRatingWith
  refine .bind .ensureOrigin fun (provider, creator) => ?_
  refine .bind respects_ensureAuthorizationOrigin fun spaceId => ?_
  refine .bind respects_ensureRatingValue fun _ => ?_
  refine .bind respects_getPallet fun p => .bind .okOr fun ratingDetails => ?_
  refine .bind .ensure fun _ => .bind .ensure fun _ => .bind .ensure fun _ => ?_
  refine .bind respects_anchorRating fun identifier => ?_
  split
  . exact .bind respects_updateActivity fun _ => respects_modifyPallet
  . exact respects_modifyPallet

theorem respects_dispatch {call : Call T} : Respects KeepsArchived (dispatch origin call) := by
  cases call with
  | registerRating => exact respects_registerRating
  | revokeRating => exact respects_revokeRating
  | reviseRating => exact respects_reviseRating

end NetworkScore

namespace Runtime

variable {T : Config} {s s' : State T}

def State.spaces (s : State T)
    : StorageMap T.Ss58Identifier (ChainSpace.SpaceDetails T.toChainSpace) :=
  s.statement.chainSpace.spaces

def Extrinsic.restored? : Extrinsic T → Option T.Ss58Identifier
  | .statement (.chainSpace ext) => ext.call.restored?
  | _ => none

def Extrinsic.KeepsArchived (spaces : StorageMap T.Ss58Identifier
    (ChainSpace.SpaceDetails T.toChainSpace)) : Extrinsic T → Prop
  | .statement (.chainSpace ext) => ext.call.KeepsArchived spaces
  | _ => True

theorem dispatch_archivedKept_iff {ext : Extrinsic T} (h : Succeeds ext.dispatch s () s')
    : ArchivedKept ext.restored? s.spaces s'.spaces ↔ ext.KeepsArchived s.spaces := by
  cases ext with
  | statement ext =>
    obtain ⟨t, ht, rfl⟩ := Succeeds.zoom_iff.mp h
    cases ext with
    | chainSpace ext =>
      obtain ⟨u, hcall, rfl⟩ := Statement.chainSpace_iff.mp ht
      have hiff :=
        ChainSpace.dispatch_archivedKept_iff (ChainSpace.Extrinsic.dispatch_iff.mp hcall)
      exact hiff
    | statement origin timepoint call =>
      obtain ⟨_, _, _, _, hbills⟩ := Statement.dispatch_bills (Statement.machine_statement.mp ht)
      refine iff_of_true ?_ trivial
      show ArchivedKept none _ t.chainSpace.spaces
      rw [hbills.spaces]
      exact (ArchivedKept.refl _ _).insert_of_active hbills.charges.space
        hbills.charges.canTransact.1
  | asset origin timepoint call =>
    obtain ⟨_, t, ht, hcall⟩ := Succeeds.bind_iff.mp h
    obtain rfl := Succeeds.modify_iff.mp ht
    obtain ⟨u, hu, rfl⟩ := Succeeds.zoom_iff.mp hcall
    exact iff_of_true (Asset.respects_dispatch _ _ _ hu) trivial
  | score origin timepoint call =>
    obtain ⟨_, t, ht, hcall⟩ := Succeeds.bind_iff.mp h
    obtain rfl := Succeeds.modify_iff.mp ht
    obtain ⟨u, hu, rfl⟩ := Succeeds.zoom_iff.mp hcall
    exact iff_of_true (NetworkScore.respects_dispatch _ _ _ hu) trivial

/--
No step of a run changes a space that is archived, other than by restoring it, exactly if no capacity
that an archived space has reserved for a sub space is changed.
-/
theorem run_archivedKept_iff (exts : List (Extrinsic T))
    : (machine T).EveryStep (fun s ext s' => ArchivedKept ext.restored? s.spaces s'.spaces)
        (State.genesis T) exts
        ↔
      (machine T).Meets (fun s ext => ext.KeepsArchived s.spaces) (State.genesis T) exts := by
  apply Machine.everyStep_iff_meets (J := fun _ => True)
  . intro s ext _
    exact ArchivedKept.refl _ _
  . intros
    trivial
  . intro s ext s' _ h
    exact dispatch_archivedKept_iff h
  . trivial

section Plain

def plainSpaceCall (origin : Option UInt8) (call : ChainSpace.Call .plain) : Extrinsic .plain :=
  .statement (.chainSpace (ChainSpace.plainExtrinsic origin call))

def archivedParent : List (Extrinsic .plain) := [
    -- A space with capacity 10 is archived after it has allotted 4 to a sub space.
    plainSpaceCall (some 1) (.create [10]),
    plainSpaceCall none (.approve (ChainSpace.plainSpace 10 1) 10),
    plainSpaceCall (some 1) (.subspaceCreate [11] (some 4) (ChainSpace.plainSpace 10 1)),
    plainSpaceCall (some 1) (.archive (ChainSpace.plainSpace 10 1)
      (ChainSpace.plainAuthorization (ChainSpace.plainSpace 10 1) 1 1))
  ]

def reallotCapacity : Extrinsic .plain :=
  plainSpaceCall (some 1) (.updateTransactionCapacitySub (ChainSpace.plainSpace 11 1) 6)

theorem reallotCapacity_not_archivedKept
    : ¬ (machine .plain).EveryStep
        (fun s ext s' => ArchivedKept ext.restored? s.spaces s'.spaces) (State.genesis .plain)
        (archivedParent ++ [reallotCapacity]) := by
  intro h
  have hlast := Machine.EveryStep.last h (ChainSpace.plainSpace 10 1)
    ⟨[10], 1, 10, 4, 2, true, true, ChainSpace.plainSpace 10 1⟩ (by decide +kernel) rfl nofun
  have hreserve : ((machine .plain).run (State.genesis .plain)
      (archivedParent ++ [reallotCapacity])).spaces.get (ChainSpace.plainSpace 10 1) =
      some ⟨[10], 1, 10, 6, 2, true, true, ChainSpace.plainSpace 10 1⟩ := by
    decide +kernel
  rw [hreserve] at hlast
  revert hlast
  decide

end Plain

end Runtime
