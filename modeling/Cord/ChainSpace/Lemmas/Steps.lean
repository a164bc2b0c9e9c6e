import Cord.ChainSpace.Lemmas.Calls

/-!
This module sums up the calls of the chain space pallet from two sides: what a successful call does
to the budgets of the spaces, and what it does to the delegates. Every invariant of the pallet is a
case analysis over one of the two.
-/

open Frame Identifier

namespace ChainSpace

variable {T : Config} {s s' : State T} {origin : T.Origin} {call : Call T}

def Call.authorization? : Call T → Option T.Ss58Identifier
  | .addDelegate _ _ authorization => some authorization
  | .addAdminDelegate _ _ authorization => some authorization
  | .addDelegator _ _ authorization => some authorization
  | .removeDelegate _ _ authorization => some authorization
  | .archive _ authorization => some authorization
  | .restore _ authorization => some authorization
  | _ => none

def Call.removed? : Call T → Option T.Ss58Identifier
  | .removeDelegate _ removeAuthorization _ => some removeAuthorization
  | _ => none

def Call.charged? : Call T → Option T.Ss58Identifier
  | .addDelegate spaceId _ _ => some spaceId
  | .addAdminDelegate spaceId _ _ => some spaceId
  | .addDelegator spaceId _ _ => some spaceId
  | .archive spaceId _ => some spaceId
  | .restore spaceId _ => some spaceId
  | _ => none

/--
What a successful call has done to the spaces. All calls but the last five keep the capacity, the
reserve and the parent of the one space they write.
-/
inductive SpacesStep (spaces : StorageMap T.Ss58Identifier (SpaceDetails T))
    : Call T → StorageMap T.Ss58Identifier (SpaceDetails T) → Prop where
  | write {call : Call T} {spaceId : T.Ss58Identifier} {d d' : SpaceDetails T}
      (stored : spaces.get spaceId = some d)
      (capacity : d'.txnCapacity = d.txnCapacity)
      (reserve : d'.txnReserve = d.txnReserve)
      (parent : d'.parent = d.parent)
      (count : d'.txnCount.toNat ≤ d.txnCount.toNat ∨
        call.charged? = some spaceId ∧ d'.txnCount.toNat ≤ d.txnCount.toNat + 1)
      : SpacesStep spaces call (spaces.insert spaceId d')
  | create {spaceCode : T.Hash} {creator : T.SpaceCreatorId} {identifier : T.Ss58Identifier}
      (fresh : spaces.get identifier = none)
      : SpacesStep spaces (.create spaceCode)
          (spaces.insert identifier (.new spaceCode creator 0 (!T.isPermissioned) identifier))
  | approve {spaceId : T.Ss58Identifier} {txnCapacity : UInt64} {d : SpaceDetails T}
      (stored : spaces.get spaceId = some d)
      : SpacesStep spaces (.approve spaceId txnCapacity)
          (spaces.insert spaceId { d with txnCapacity, approved := true })
  | subspace {spaceCode : T.Hash} {count : Option UInt64} {spaceId identifier : T.Ss58Identifier}
      {creator : T.SpaceCreatorId} {d : SpaceDetails T} {value : UInt64}
      (stored : spaces.get spaceId = some d)
      (capacity : subspaceCapacity T count = some value)
      (guard : value ≤ d.txnCapacity - (d.txnCount + d.txnReserve))
      (fresh : spaces.get identifier = none)
      : SpacesStep spaces (.subspaceCreate spaceCode count spaceId)
          ((spaces.insert spaceId
            { d with txnCount := d.txnCount + 1, txnReserve := d.txnReserve + value }).insert
            identifier (.new spaceCode creator value true spaceId))
  | update {call : Call T} {spaceId : T.Ss58Identifier} {newTxnCapacity : UInt64}
      {d : SpaceDetails T}
      (hcall : call = .updateTransactionCapacity spaceId newTxnCapacity)
      (stored : spaces.get spaceId = some d)
      (usage : d.txnCount + d.txnReserve ≤ newTxnCapacity)
      (isTop : spaceId = d.parent)
      : SpacesStep spaces call (spaces.insert spaceId { d with txnCapacity := newTxnCapacity })
  | updateSub {call : Call T} {spaceId : T.Ss58Identifier} {newTxnCapacity : UInt64}
      {d p : SpaceDetails T}
      (hcall : call = .updateTransactionCapacity spaceId newTxnCapacity ∨
        call = .updateTransactionCapacitySub spaceId newTxnCapacity)
      (stored : spaces.get spaceId = some d)
      (usage : d.txnCount + d.txnReserve ≤ newTxnCapacity)
      (isSub : spaceId ≠ d.parent)
      (parent : spaces.get d.parent = some p)
      (guard : p.txnCount + p.txnReserve + newTxnCapacity - d.txnCapacity ≤ p.txnCapacity)
      : SpacesStep spaces call
          ((spaces.insert d.parent
            { p with txnReserve := p.txnReserve - d.txnCapacity + newTxnCapacity }).insert spaceId
            { d with txnCapacity := newTxnCapacity })

theorem SpaceDetails.charge_count_le (d : SpaceDetails T)
    : d.charge.txnCount.toNat ≤ d.txnCount.toNat + 1 := by
  unfold charge
  rw [toNat_saturatingAdd]
  exact Nat.min_le_left _ _

theorem State.AddsDelegate.spacesStep {spaceId authorization authorizationId : T.Ss58Identifier}
    {creator delegate : T.SpaceCreatorId} {permissions required : Permissions}
    {d : SpaceDetails T} {delegates : BoundedVec T.SpaceCreatorId T.maxSpaceDelegates}
    (hcall : call.charged? = some spaceId)
    (h : s.AddsDelegate spaceId authorization creator delegate permissions required d
      authorizationId delegates s')
    : SpacesStep s.spaces call s'.spaces := by
  rw [h.spaces]
  exact .write h.space rfl rfl rfl (.inr ⟨hcall, d.charge_count_le⟩)

theorem State.MovesReserve.spacesStep {spaceId : T.Ss58Identifier} {newTxnCapacity : UInt64}
    {d p : SpaceDetails T}
    (hcall : call = .updateTransactionCapacity spaceId newTxnCapacity ∨
      call = .updateTransactionCapacitySub spaceId newTxnCapacity)
    (hd : s.spaces.get spaceId = some d) (husage : d.txnCount + d.txnReserve ≤ newTxnCapacity)
    (h : s.MovesReserve spaceId newTxnCapacity d p s')
    : SpacesStep s.spaces call s'.spaces := by
  rw [h.spaces]
  exact .updateSub hcall hd husage h.isSub h.parent h.guard

theorem dispatch_spaces (h : Succeeds (call.dispatch origin) s () s')
    : SpacesStep s.spaces call s'.spaces := by
  cases call with
  | addDelegate spaceId delegate authorization =>
    obtain ⟨_, _, _, _, _, hadd⟩ := addDelegate_spec h
    exact hadd.spacesStep rfl
  | addAdminDelegate spaceId delegate authorization =>
    obtain ⟨_, _, _, _, _, hadd⟩ := addAdminDelegate_spec h
    exact hadd.spacesStep rfl
  | addDelegator spaceId delegate authorization =>
    obtain ⟨_, _, _, _, _, hadd⟩ := addDelegator_spec h
    exact hadd.spacesStep rfl
  | removeDelegate spaceId removeAuthorization authorization =>
    obtain ⟨_, d, _, _, _, hremove⟩ := removeDelegate_spec h
    rw [hremove.spaces]
    refine .write hremove.space rfl rfl rfl (.inl ?_)
    dsimp only
    rw [toNat_saturatingSub]
    exact Nat.sub_le _ _
  | create spaceCode =>
    obtain ⟨creator, identifier, _, _, hanchor, hspaces⟩ := create_spec h
    rw [hspaces]
    exact .create hanchor.fresh
  | approve spaceId txnCapacity =>
    obtain ⟨d, hd, _, _, hupdate⟩ := approve_spec h
    rw [hupdate.spaces]
    exact .approve hd
  | archive spaceId authorization =>
    obtain ⟨_, d, _, _, hd, _, hupdate⟩ := archive_spec h
    rw [hupdate.spaces]
    exact .write hd rfl rfl rfl (.inr ⟨rfl, d.charge_count_le⟩)
  | restore spaceId authorization =>
    obtain ⟨_, d, _, _, hd, _, hupdate⟩ := restore_spec h
    rw [hupdate.spaces]
    exact .write hd rfl rfl rfl (.inr ⟨rfl, d.charge_count_le⟩)
  | updateTransactionCapacity spaceId newTxnCapacity =>
    obtain ⟨d, hd, _, _, husage, hrest⟩ := updateTransactionCapacity_spec h
    rcases hrest with ⟨htop, hupdate⟩ | ⟨p, hmove⟩
    . rw [hupdate.spaces]
      exact .update rfl hd husage htop
    . exact hmove.spacesStep (.inl rfl) hd husage
  | resetTransactionCount spaceId =>
    obtain ⟨d, hd, _, _, hupdate⟩ := resetTransactionCount_spec h
    rw [hupdate.spaces]
    exact .write hd rfl rfl rfl (.inl (Nat.zero_le _))
  | approvalRevoke spaceId =>
    obtain ⟨d, hd, _, _, hupdate⟩ := approvalRevoke_spec h
    rw [hupdate.spaces]
    exact .write hd rfl rfl rfl (.inl (Nat.le_refl _))
  | approvalRestore spaceId =>
    obtain ⟨d, hd, _, _, hupdate⟩ := approvalRestore_spec h
    rw [hupdate.spaces]
    exact .write hd rfl rfl rfl (.inl (Nat.le_refl _))
  | subspaceCreate spaceCode count spaceId =>
    obtain ⟨creator, d, value, identifier, _, _, hd, _, _, hvalue, hguard, hanchor, hspaces⟩ :=
      subspaceCreate_spec h
    rw [hspaces]
    exact .subspace hd hvalue hguard hanchor.fresh
  | updateTransactionCapacitySub spaceId newTxnCapacity =>
    obtain ⟨d, p, hd, _, _, husage, hmove⟩ := updateTransactionCapacitySub_spec h
    exact hmove.spacesStep (.inr rfl) hd husage

theorem SpacesStep.isSome {spaces spaces' : StorageMap T.Ss58Identifier (SpaceDetails T)}
    (h : SpacesStep spaces call spaces') {spaceId : T.Ss58Identifier}
    (hsome : (spaces.get spaceId).isSome) : (spaces'.get spaceId).isSome := by
  have hinsert : ∀ (m : StorageMap T.Ss58Identifier (SpaceDetails T)) (k) (v),
      (m.get spaceId).isSome → ((m.insert k v).get spaceId).isSome := by
    intro m k v hm
    rw [StorageMap.get_insert]
    split
    . rfl
    . exact hm
  cases h with
  | write => exact hinsert _ _ _ hsome
  | create => exact hinsert _ _ _ hsome
  | approve => exact hinsert _ _ _ hsome
  | subspace => exact hinsert _ _ _ (hinsert _ _ _ hsome)
  | update => exact hinsert _ _ _ hsome
  | updateSub => exact hinsert _ _ _ (hinsert _ _ _ hsome)

inductive DelegatesStep (s : State T) : Call T → State T → Prop where
  | keep {call : Call T} {s' : State T}
      (hcall : call.removed? = none)
      (authorizations : s'.authorizations = s.authorizations)
      (delegates : s'.delegates = s.delegates)
      : DelegatesStep s call s'
  | add {call : Call T} {s' : State T} {spaceId authorization authorizationId : T.Ss58Identifier}
      {creator delegate : T.SpaceCreatorId} {permissions required : Permissions}
      {d : SpaceDetails T} {delegates : BoundedVec T.SpaceCreatorId T.maxSpaceDelegates}
      (hcall : call.removed? = none)
      (hauth : call.authorization? = some authorization)
      (hadd : s.AddsDelegate spaceId authorization creator delegate permissions required d
        authorizationId delegates s')
      : DelegatesStep s call s'
  | remove {s' : State T} {spaceId removeAuthorization authorization : T.Ss58Identifier}
      {creator : T.SpaceCreatorId} {d : SpaceDetails T} {removed : SpaceAuthorization T}
      {index : Nat}
      (hremove : s.RemovesDelegate spaceId removeAuthorization authorization creator d removed index
        s')
      : DelegatesStep s (.removeDelegate spaceId removeAuthorization authorization) s'
  | anchor {call : Call T} {s' : State T} {creator : T.SpaceCreatorId}
      {identifier authorizationId : T.Ss58Identifier}
      {delegates : BoundedVec T.SpaceCreatorId T.maxSpaceDelegates}
      (hcall : call.removed? = none)
      (hauth : call.authorization? = none)
      (hanchor : s.AnchorsSpace creator identifier authorizationId delegates s')
      (stored : (s'.spaces.get identifier).isSome)
      : DelegatesStep s call s'

theorem dispatch_delegates (h : Succeeds (call.dispatch origin) s () s')
    : DelegatesStep s call s' := by
  cases call with
  | addDelegate spaceId delegate authorization =>
    obtain ⟨_, _, _, _, _, hadd⟩ := addDelegate_spec h
    exact .add rfl rfl hadd
  | addAdminDelegate spaceId delegate authorization =>
    obtain ⟨_, _, _, _, _, hadd⟩ := addAdminDelegate_spec h
    exact .add rfl rfl hadd
  | addDelegator spaceId delegate authorization =>
    obtain ⟨_, _, _, _, _, hadd⟩ := addDelegator_spec h
    exact .add rfl rfl hadd
  | removeDelegate spaceId removeAuthorization authorization =>
    obtain ⟨_, _, _, _, _, hremove⟩ := removeDelegate_spec h
    exact .remove hremove
  | create spaceCode =>
    obtain ⟨_, _, _, _, hanchor, hspaces⟩ := create_spec h
    refine .anchor rfl rfl hanchor ?_
    rw [hspaces, StorageMap.get_insert_self]
    rfl
  | approve spaceId txnCapacity =>
    obtain ⟨_, _, _, _, hupdate⟩ := approve_spec h
    exact .keep rfl hupdate.authorizations hupdate.delegates
  | archive spaceId authorization =>
    obtain ⟨_, _, _, _, _, _, hupdate⟩ := archive_spec h
    exact .keep rfl hupdate.authorizations hupdate.delegates
  | restore spaceId authorization =>
    obtain ⟨_, _, _, _, _, _, hupdate⟩ := restore_spec h
    exact .keep rfl hupdate.authorizations hupdate.delegates
  | updateTransactionCapacity spaceId newTxnCapacity =>
    obtain ⟨_, _, _, _, _, ⟨_, hupdate⟩ | ⟨_, hmove⟩⟩ := updateTransactionCapacity_spec h
    . exact .keep rfl hupdate.authorizations hupdate.delegates
    . exact .keep rfl hmove.authorizations hmove.delegates
  | resetTransactionCount spaceId =>
    obtain ⟨_, _, _, _, hupdate⟩ := resetTransactionCount_spec h
    exact .keep rfl hupdate.authorizations hupdate.delegates
  | approvalRevoke spaceId =>
    obtain ⟨_, _, _, _, hupdate⟩ := approvalRevoke_spec h
    exact .keep rfl hupdate.authorizations hupdate.delegates
  | approvalRestore spaceId =>
    obtain ⟨_, _, _, _, hupdate⟩ := approvalRestore_spec h
    exact .keep rfl hupdate.authorizations hupdate.delegates
  | subspaceCreate spaceCode count spaceId =>
    obtain ⟨_, _, _, _, _, _, _, _, _, _, _, hanchor, hspaces⟩ := subspaceCreate_spec h
    refine .anchor rfl rfl hanchor ?_
    rw [hspaces, StorageMap.get_insert_self]
    rfl
  | updateTransactionCapacitySub spaceId newTxnCapacity =>
    obtain ⟨_, _, _, _, _, _, hmove⟩ := updateTransactionCapacitySub_spec h
    exact .keep rfl hmove.authorizations hmove.delegates

theorem Extrinsic.dispatch_iff {ext : Extrinsic T}
    : Succeeds ext.dispatch s () s'
        ↔
      Succeeds (ext.call.dispatch ext.origin) { s with timepoint := ext.timepoint } () s' := by
  simp only [Extrinsic.dispatch, Succeeds.bind_iff, Succeeds.modify_iff, exists_eq_left,
    exists_const]

end ChainSpace
