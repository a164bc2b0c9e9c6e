import Cord.ChainSpace.Lemmas.Basic

/-!
This module contains one lemma for each call of the chain space pallet that says what follows from
its success: the checks that passed and the storage maps it leaves behind. Nothing outside of this
module looks into the calls.
-/

open Frame Identifier

namespace ChainSpace

variable {T : Config} {s s' : State T} {origin : T.Origin}

structure State.UpdatesSpace (s : State T) (spaceId : T.Ss58Identifier) (details : SpaceDetails T)
    (s' : State T) : Prop where
  spaces : s'.spaces = s.spaces.insert spaceId details
  authorizations : s'.authorizations = s.authorizations
  delegates : s'.delegates = s.delegates

structure State.AddsDelegate (s : State T) (spaceId authorization : T.Ss58Identifier)
    (creator delegate : T.SpaceCreatorId) (permissions required : Permissions)
    (details : SpaceDetails T) (authorizationId : T.Ss58Identifier)
    (delegates : BoundedVec T.SpaceCreatorId T.maxSpaceDelegates) (s' : State T) : Prop where
  authorizes : s.Authorizes required authorization creator spaceId
  space : s.spaces.get spaceId = some details
  canTransact : details.charge.CanTransact
  authIdentifier : authorizationIdentifier T spaceId delegate creator = some authorizationId
  fresh : s.authorizations.get authorizationId = none
  pushed : (s.delegatesOf spaceId).tryPush delegate = some delegates
  spaces : s'.spaces = s.spaces.insert spaceId details.charge
  authorizations : s'.authorizations =
    s.authorizations.insert authorizationId { spaceId, delegate, permissions, delegator := creator }
  delegates : s'.delegates = s.delegates.insert spaceId delegates

theorem addDelegateWith_spec {required permissions : Permissions}
    {ensureAuth : T.Ss58Identifier → T.SpaceCreatorId → CallM T T.Ss58Identifier}
    {spaceId authorization : T.Ss58Identifier} {delegate : T.SpaceCreatorId}
    (hauth : ∀ (delegate) (spaceId) (t t' : State T),
      Succeeds (ensureAuth authorization delegate) t spaceId t' ↔
        ∃ d, t.Authorizes required authorization delegate spaceId ∧
          t.spaces.get spaceId = some d ∧ d.charge.CanTransact ∧
          t' = { t with spaces := t.spaces.insert spaceId d.charge })
    (h : Succeeds (addDelegateWith ensureAuth permissions origin spaceId delegate authorization)
      s () s')
    : ∃ creator d authorizationId delegates, T.ensureOrigin origin = some creator ∧
        s.AddsDelegate spaceId authorization creator delegate permissions required d authorizationId
          delegates s' := by
  simp only [addDelegateWith, spaceDelegateAddition, Succeeds.bind_iff, Succeeds.ensureOrigin_iff,
    hauth, Succeeds.ensure_iff, Succeeds.okOr_iff, Succeeds.get_iff, insertDelegates_iff,
    insertAuthorization_iff, updateActivity_iff, depositEvent_iff, Bool.not_eq_true',
    StorageMap.containsKey_eq_false_iff, and_assoc, exists_and_left, exists_eq_left,
    exists_const] at h
  obtain ⟨creator, horigin, _, hauthorizes, _, ⟨d, hd, hvalid, rfl⟩, rfl, authorizationId, hid,
    hfresh, delegates, hpush, rfl⟩ := h
  exact ⟨creator, d, authorizationId, delegates, horigin,
    ⟨hauthorizes, hd, hvalid, hid, hfresh, hpush, rfl, rfl, rfl⟩⟩

theorem addDelegate_spec {spaceId authorization : T.Ss58Identifier} {delegate : T.SpaceCreatorId}
    (h : Succeeds (addDelegate origin spaceId delegate authorization) s () s')
    : ∃ creator d authorizationId delegates, T.ensureOrigin origin = some creator ∧
        s.AddsDelegate spaceId authorization creator delegate .assert
          (Permissions.union .delegate .admin) d authorizationId delegates s' := by
  apply addDelegateWith_spec _ h
  intros
  apply ensureAuthorizationDelegatorOrigin_iff

theorem addAdminDelegate_spec {spaceId authorization : T.Ss58Identifier}
    {delegate : T.SpaceCreatorId}
    (h : Succeeds (addAdminDelegate origin spaceId delegate authorization) s () s')
    : ∃ creator d authorizationId delegates, T.ensureOrigin origin = some creator ∧
        s.AddsDelegate spaceId authorization creator delegate .admin .admin d authorizationId
          delegates s' := by
  apply addDelegateWith_spec _ h
  intros
  apply ensureAuthorizationAdminOrigin_iff

theorem addDelegator_spec {spaceId authorization : T.Ss58Identifier} {delegate : T.SpaceCreatorId}
    (h : Succeeds (addDelegator origin spaceId delegate authorization) s () s')
    : ∃ creator d authorizationId delegates, T.ensureOrigin origin = some creator ∧
        s.AddsDelegate spaceId authorization creator delegate .delegate .admin d authorizationId
          delegates s' := by
  apply addDelegateWith_spec _ h
  intros
  apply ensureAuthorizationAdminOrigin_iff

/--
What a removal has done: it erased the delegate of the removed authorization from the list of the
space and the authorization from the map, wherever that authorization belongs to.
-/
structure State.RemovesDelegate (s : State T)
    (spaceId removeAuthorizationId authorization : T.Ss58Identifier) (creator : T.SpaceCreatorId)
    (details : SpaceDetails T) (removed : SpaceAuthorization T) (index : Nat) (s' : State T)
    : Prop where
  authorizes : s.Authorizes .admin authorization creator spaceId
  space : s.spaces.get spaceId = some details
  canTransact : details.CanTransact
  stored : s.authorizations.get removeAuthorizationId = some removed
  position : (s.delegatesOf spaceId).toList.idxOf? removed.delegate = some index
  spaces : s'.spaces =
    s.spaces.insert spaceId { details with txnCount := saturatingSub details.txnCount 1 }
  authorizations : s'.authorizations = s.authorizations.remove removeAuthorizationId
  delegates : s'.delegates = s.delegates.insert spaceId ((s.delegatesOf spaceId).remove index)

theorem removeDelegate_spec {spaceId removeAuthorizationId authorization : T.Ss58Identifier}
    (h : Succeeds (removeDelegate origin spaceId removeAuthorizationId authorization) s () s')
    : ∃ creator d removed index, T.ensureOrigin origin = some creator ∧
        s.RemovesDelegate spaceId removeAuthorizationId authorization creator d removed index
          s' := by
  simp only [removeDelegate, decrementUsage, Succeeds.bind_iff, Succeeds.ensureOrigin_iff,
    ensureAuthorizationAdminRemoveOrigin_iff, Succeeds.ensure_iff, Succeeds.okOr_iff,
    Succeeds.get_iff, insertDelegates_iff, removeAuthorization_iff, mutateUsage_iff,
    updateActivity_iff, depositEvent_iff, and_assoc, exists_and_left, exists_eq_left,
    exists_const] at h
  obtain ⟨creator, horigin, _, hauthorizes, _, ⟨d, hd, hvalid, rfl⟩, rfl, removed, hremoved, index,
    hindex, _, ⟨d', hd', rfl⟩, rfl⟩ := h
  rw [hd] at hd'
  injection hd' with hd'
  subst hd'
  exact ⟨creator, d, removed, index, horigin,
    ⟨hauthorizes, hd, hvalid, hremoved, hindex, rfl, rfl, rfl⟩⟩

structure State.AnchorsSpace (s : State T) (creator : T.SpaceCreatorId)
    (identifier authorizationId : T.Ss58Identifier)
    (delegates : BoundedVec T.SpaceCreatorId T.maxSpaceDelegates) (s' : State T) : Prop where
  authIdentifier : authorizationIdentifier T identifier creator creator = some authorizationId
  fresh : s.spaces.get identifier = none
  pushed : delegates.toList = [creator]
  authorizations : s'.authorizations = s.authorizations.insert authorizationId
    { spaceId := identifier, delegate := creator, permissions := .all, delegator := creator }
  delegates : s'.delegates = s.delegates.insert identifier delegates

theorem anchorSpace_spec {spaceCode : T.Hash} {creator : T.SpaceCreatorId}
    {ids : T.Ss58Identifier × T.Ss58Identifier}
    (h : Succeeds (anchorSpace spaceCode creator) s ids s')
    : ∃ delegates, s.AnchorsSpace creator ids.1 ids.2 delegates s' ∧ s'.spaces = s.spaces := by
  simp only [anchorSpace, Succeeds.bind_iff, Succeeds.ensure_iff, Succeeds.okOr_iff,
    Succeeds.get_iff, insertDelegates_iff, insertAuthorization_iff, Succeeds.pure_iff,
    Bool.not_eq_true', StorageMap.containsKey_eq_false_iff, and_assoc, exists_and_left,
    exists_eq_left, exists_const] at h
  obtain ⟨identifier, _, hfresh, authorizationId, hid, delegates, hpush, rfl, rfl⟩ := h
  have hlist := (BoundedVec.tryPush_eq_some hpush).1
  exact ⟨delegates, ⟨hid, hfresh, hlist, rfl, rfl⟩, rfl⟩

def SpaceDetails.new (spaceCode : T.Hash) (creator : T.SpaceCreatorId) (txnCapacity : UInt64)
    (approved : Bool) (parent : T.Ss58Identifier) : SpaceDetails T where
  code := spaceCode
  creator
  txnCapacity
  txnReserve := 0
  txnCount := 0
  approved
  archive := false
  parent

theorem create_spec {spaceCode : T.Hash} (h : Succeeds (create origin spaceCode) s () s')
    : ∃ creator identifier authorizationId delegates,
        s.AnchorsSpace creator identifier authorizationId delegates s' ∧
        s'.spaces = s.spaces.insert identifier
          (.new spaceCode creator 0 (!T.isPermissioned) identifier) := by
  simp only [create, Succeeds.bind_iff, Succeeds.ensureOrigin_iff, insertSpace_iff,
    updateActivity_iff, depositEvent_iff, and_assoc, exists_and_left, exists_eq_left,
    exists_const] at h
  obtain ⟨creator, _, ⟨identifier, authorizationId⟩, t, hanchor, rfl⟩ := h
  obtain ⟨delegates, ⟨hid, hfresh, hpush, hauth, hdel⟩, hspaces⟩ := anchorSpace_spec hanchor
  refine ⟨creator, identifier, authorizationId, delegates, ⟨hid, hfresh, hpush, hauth, hdel⟩, ?_⟩
  rw [← hspaces]
  rfl

theorem subspaceCreate_spec {spaceCode : T.Hash} {count : Option UInt64}
    {spaceId : T.Ss58Identifier} (h : Succeeds (subspaceCreate origin spaceCode count spaceId) s () s')
    : ∃ creator d value identifier authorizationId delegates,
        s.spaces.get spaceId = some d ∧ d.archive = false ∧ d.approved = true ∧
        subspaceCapacity T count = some value ∧
        value ≤ d.txnCapacity - (d.txnCount + d.txnReserve) ∧
        s.AnchorsSpace creator identifier authorizationId delegates s' ∧
        s'.spaces =
          (s.spaces.insert spaceId
            { d with txnCount := d.txnCount + 1, txnReserve := d.txnReserve + value }).insert
            identifier (.new spaceCode creator value true spaceId) := by
  simp only [subspaceCreate, Succeeds.bind_iff, Succeeds.ensureOrigin_iff, getSpace_iff,
    Succeeds.ensure_iff, Succeeds.okOr_iff, insertSpace_iff, updateActivity_iff, depositEvent_iff,
    Bool.not_eq_true', and_assoc, exists_and_left, exists_eq_left, exists_const] at h
  obtain ⟨creator, _, d, hd, harchive, happroved, _, value, hvalue, hle,
    ⟨identifier, authorizationId⟩, t, hanchor, rfl⟩ := h
  obtain ⟨delegates, ⟨hid, hfresh, hpush, hauth, hdel⟩, hspaces⟩ := anchorSpace_spec hanchor
  refine ⟨creator, d, value, identifier, authorizationId, delegates, hd, harchive, happroved,
    hvalue, hle, ⟨hid, hfresh, hpush, hauth, hdel⟩, ?_⟩
  rw [← hspaces]
  rfl

theorem approve_spec {spaceId : T.Ss58Identifier} {txnCapacity : UInt64}
    (h : Succeeds (approve origin spaceId txnCapacity) s () s')
    : ∃ d, s.spaces.get spaceId = some d ∧ d.archive = false ∧ d.approved = false ∧
        s.UpdatesSpace spaceId { d with txnCapacity, approved := true } s' := by
  simp only [approve, Succeeds.bind_iff, Succeeds.ensureOrigin_iff, getSpace_iff,
    Succeeds.ensure_iff, insertSpace_iff, updateActivity_iff, depositEvent_iff,
    Bool.not_eq_true', and_assoc, exists_and_left, exists_eq_left, exists_const] at h
  obtain ⟨_, _, d, hd, harchive, happroved, rfl⟩ := h
  exact ⟨d, hd, harchive, happroved, ⟨rfl, rfl, rfl⟩⟩

theorem archive_spec {spaceId authorization : T.Ss58Identifier}
    (h : Succeeds (archive origin spaceId authorization) s () s')
    : ∃ creator d, T.ensureOrigin origin = some creator ∧
        s.Authorizes .admin authorization creator spaceId ∧
        s.spaces.get spaceId = some d ∧ d.charge.CanTransact ∧
        s.UpdatesSpace spaceId { d.charge with archive := true } s' := by
  simp only [archive, Succeeds.bind_iff, Succeeds.ensureOrigin_iff, getSpace_iff,
    ensureAuthorizationAdminOrigin_iff, Succeeds.ensure_iff, insertSpace_iff, updateActivity_iff,
    depositEvent_iff, Bool.not_eq_true', and_assoc, exists_and_left, exists_eq_left,
    exists_const] at h
  obtain ⟨creator, horigin, _, hauthorizes, _, ⟨d, hd, hvalid, rfl⟩, rfl, d', hd', _, _, rfl⟩ := h
  rw [StorageMap.get_insert_self] at hd'
  injection hd' with hd'
  subst hd'
  refine ⟨creator, d, horigin, hauthorizes, hd, hvalid, ⟨?_, rfl, rfl⟩⟩
  apply StorageMap.insert_insert_self

theorem restore_spec {spaceId authorization : T.Ss58Identifier}
    (h : Succeeds (restore origin spaceId authorization) s () s')
    : ∃ creator d, T.ensureOrigin origin = some creator ∧
        s.Authorizes .assert authorization creator spaceId ∧
        s.spaces.get spaceId = some d ∧ d.charge.CanRestore ∧
        s.UpdatesSpace spaceId { d.charge with archive := false } s' := by
  simp only [restore, Succeeds.bind_iff, Succeeds.ensureOrigin_iff, getSpace_iff,
    ensureAuthorizationRestoreOrigin_iff, Succeeds.ensure_iff, insertSpace_iff, updateActivity_iff,
    depositEvent_iff, and_assoc, exists_and_left, exists_eq_left, exists_const] at h
  obtain ⟨creator, horigin, _, hauthorizes, _, ⟨d, hd, hvalid, rfl⟩, rfl, d', hd', _, _, rfl⟩ := h
  rw [StorageMap.get_insert_self] at hd'
  injection hd' with hd'
  subst hd'
  refine ⟨creator, d, horigin, hauthorizes, hd, hvalid, ⟨?_, rfl, rfl⟩⟩
  apply StorageMap.insert_insert_self

theorem approvalRevoke_spec {spaceId : T.Ss58Identifier}
    (h : Succeeds (approvalRevoke origin spaceId) s () s')
    : ∃ d, s.spaces.get spaceId = some d ∧ d.archive = false ∧ d.approved = true ∧
        s.UpdatesSpace spaceId { d with approved := false } s' := by
  simp only [approvalRevoke, Succeeds.bind_iff, Succeeds.ensureOrigin_iff, getSpace_iff,
    Succeeds.ensure_iff, insertSpace_iff, updateActivity_iff, depositEvent_iff,
    Bool.not_eq_true', and_assoc, exists_and_left, exists_eq_left, exists_const] at h
  obtain ⟨_, _, d, hd, harchive, happroved, rfl⟩ := h
  exact ⟨d, hd, harchive, happroved, ⟨rfl, rfl, rfl⟩⟩

theorem approvalRestore_spec {spaceId : T.Ss58Identifier}
    (h : Succeeds (approvalRestore origin spaceId) s () s')
    : ∃ d, s.spaces.get spaceId = some d ∧ d.archive = false ∧ d.approved = false ∧
        s.UpdatesSpace spaceId { d with approved := true } s' := by
  simp only [approvalRestore, Succeeds.bind_iff, Succeeds.ensureOrigin_iff, getSpace_iff,
    Succeeds.ensure_iff, insertSpace_iff, updateActivity_iff, depositEvent_iff,
    Bool.not_eq_true', and_assoc, exists_and_left, exists_eq_left, exists_const] at h
  obtain ⟨_, _, d, hd, harchive, happroved, rfl⟩ := h
  exact ⟨d, hd, harchive, happroved, ⟨rfl, rfl, rfl⟩⟩

theorem resetTransactionCount_spec {spaceId : T.Ss58Identifier}
    (h : Succeeds (resetTransactionCount origin spaceId) s () s')
    : ∃ d, s.spaces.get spaceId = some d ∧ d.archive = false ∧ d.approved = true ∧
        s.UpdatesSpace spaceId { d with txnCount := 0 } s' := by
  simp only [resetTransactionCount, Succeeds.bind_iff, Succeeds.ensureOrigin_iff, getSpace_iff,
    Succeeds.ensure_iff, Succeeds.ite_iff, insertSpace_iff, updateActivity_iff, depositEvent_iff,
    Bool.not_eq_true', and_assoc, exists_and_left, exists_eq_left, exists_const] at h
  obtain ⟨d, hd, harchive, happroved, hrest⟩ := h
  rcases hrest with ⟨_, _, _, _, _, _, rfl⟩ | ⟨_, _, _, rfl⟩
  . exact ⟨d, hd, harchive, happroved, ⟨rfl, rfl, rfl⟩⟩
  . exact ⟨d, hd, harchive, happroved, ⟨rfl, rfl, rfl⟩⟩

structure State.MovesReserve (s : State T) (spaceId : T.Ss58Identifier) (newTxnCapacity : UInt64)
    (d p : SpaceDetails T) (s' : State T) : Prop where
  isSub : spaceId ≠ d.parent
  parent : s.spaces.get d.parent = some p
  guard : p.txnCount + p.txnReserve + newTxnCapacity - d.txnCapacity ≤ p.txnCapacity
  spaces : s'.spaces =
    (s.spaces.insert d.parent
      { p with txnReserve := p.txnReserve - d.txnCapacity + newTxnCapacity }).insert spaceId
      { d with txnCapacity := newTxnCapacity }
  authorizations : s'.authorizations = s.authorizations
  delegates : s'.delegates = s.delegates

theorem updateTransactionCapacity_spec {spaceId : T.Ss58Identifier} {newTxnCapacity : UInt64}
    (h : Succeeds (updateTransactionCapacity origin spaceId newTxnCapacity) s () s')
    : ∃ d, s.spaces.get spaceId = some d ∧ d.archive = false ∧ d.approved = true ∧
        d.txnCount + d.txnReserve ≤ newTxnCapacity ∧
        ((spaceId = d.parent ∧
            s.UpdatesSpace spaceId { d with txnCapacity := newTxnCapacity } s') ∨
          ∃ p, s.MovesReserve spaceId newTxnCapacity d p s') := by
  simp only [updateTransactionCapacity, updateParentReserve, Succeeds.bind_iff,
    Succeeds.ensureOrigin_iff, getSpace_iff, Succeeds.ensure_iff, Succeeds.ite_iff, insertSpace_iff,
    updateActivity_iff, depositEvent_iff, Bool.not_eq_true', and_assoc, exists_and_left,
    exists_eq_left, exists_const] at h
  obtain ⟨_, _, d, hd, harchive, happroved, husage, hrest⟩ := h
  refine ⟨d, hd, harchive, happroved, husage, ?_⟩
  rcases hrest with ⟨hsub, p, hp, hguard, rfl⟩ | ⟨hsub, rfl⟩
  . right
    exact ⟨p, ⟨hsub, hp, hguard, rfl, rfl, rfl⟩⟩
  . left
    exact ⟨not_not.mp hsub, ⟨rfl, rfl, rfl⟩⟩

theorem updateTransactionCapacitySub_spec {spaceId : T.Ss58Identifier} {newTxnCapacity : UInt64}
    (h : Succeeds (updateTransactionCapacitySub origin spaceId newTxnCapacity) s () s')
    : ∃ d p, s.spaces.get spaceId = some d ∧ d.archive = false ∧ d.approved = true ∧
        d.txnCount + d.txnReserve ≤ newTxnCapacity ∧
        s.MovesReserve spaceId newTxnCapacity d p s' := by
  simp only [updateTransactionCapacitySub, updateParentReserve, Succeeds.bind_iff,
    Succeeds.ensureOrigin_iff, getSpace_iff, Succeeds.ensure_iff, insertSpace_iff,
    updateActivity_iff, depositEvent_iff, Bool.not_eq_true', and_assoc, exists_and_left,
    exists_eq_left, exists_const] at h
  obtain ⟨_, _, d, hd, harchive, happroved, husage, hsub, p, hp, _, hguard, rfl⟩ := h
  exact ⟨d, p, hd, harchive, happroved, husage, ⟨hsub.symm, hp, hguard, rfl, rfl, rfl⟩⟩

end ChainSpace
