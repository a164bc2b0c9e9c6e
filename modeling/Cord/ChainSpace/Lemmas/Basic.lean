import Cord.ChainSpace.Impl.Calls

/-!
This module contains when the building blocks of the chain space calls succeed and what they leave
behind.
-/

open Frame Identifier

namespace ChainSpace

variable {T : Config} {s s' : State T} {u : Unit}

@[simp]
theorem getSpace_iff {spaceId : T.Ss58Identifier} {d : SpaceDetails T}
    : Succeeds (getSpace spaceId) s d s' ↔ s.spaces.get spaceId = some d ∧ s' = s := by
  simp [getSpace, and_comm]

@[simp]
theorem insertSpace_iff {spaceId : T.Ss58Identifier} {d : SpaceDetails T}
    : Succeeds (insertSpace spaceId d) s u s'
        ↔
      s' = { s with spaces := s.spaces.insert spaceId d } := by
  simp [insertSpace]

@[simp]
theorem insertDelegates_iff {spaceId : T.Ss58Identifier}
    {delegates : BoundedVec T.SpaceCreatorId T.maxSpaceDelegates}
    : Succeeds (insertDelegates spaceId delegates) s u s'
        ↔
      s' = { s with delegates := s.delegates.insert spaceId delegates } := by
  simp [insertDelegates]

@[simp]
theorem insertAuthorization_iff {authorizationId : T.Ss58Identifier} {a : SpaceAuthorization T}
    : Succeeds (insertAuthorization authorizationId a) s u s'
        ↔
      s' = { s with authorizations := s.authorizations.insert authorizationId a } := by
  simp [insertAuthorization]

@[simp]
theorem removeAuthorization_iff {authorizationId : T.Ss58Identifier}
    : Succeeds (removeAuthorization authorizationId) s u s'
        ↔
      s' = { s with authorizations := s.authorizations.remove authorizationId } := by
  simp [removeAuthorization]

@[simp]
theorem depositEvent_iff {event : Event T}
    : Succeeds (depositEvent event) s u s' ↔ s' = s.deposit event := by
  simp [depositEvent]

@[simp]
theorem updateActivity_iff {txId : T.Ss58Identifier} {txType : IdentifierTypeOf}
    {txAction : CallTypeOf}
    : Succeeds (updateActivity txId txType txAction) s u s'
        ↔
      s' = s.logActivity txId txType txAction := by
  simp [updateActivity]

@[simp]
theorem logActivity_spaces (txId : T.Ss58Identifier) (txType : IdentifierTypeOf)
    (txAction : CallTypeOf) : (s.logActivity txId txType txAction).spaces = s.spaces := rfl

@[simp]
theorem mutateUsage_iff {txId : T.Ss58Identifier} {f : UInt64 → UInt64}
    : Succeeds (mutateUsage txId f) s u s'
        ↔
      ∃ d, s.spaces.get txId = some d ∧
        s' = { s with spaces := s.spaces.insert txId { d with txnCount := f d.txnCount } } := by
  simp [mutateUsage]

def SpaceDetails.CanTransact (d : SpaceDetails T) : Prop :=
  d.archive = false ∧ d.approved = true ∧ (d.txnCapacity = 0 ∨ d.txnCount < d.txnCapacity)

def SpaceDetails.CanRestore (d : SpaceDetails T) : Prop :=
  d.archive = true ∧ d.approved = true ∧ (d.txnCapacity = 0 ∨ d.txnCount < d.txnCapacity)

def SpaceDetails.charge (d : SpaceDetails T) : SpaceDetails T :=
  { d with txnCount := saturatingAdd d.txnCount 1 }

section LastUnit

variable {d : SpaceDetails T}

def SpaceDetails.LastUnit (d : SpaceDetails T) : Prop :=
  d.txnCount.toNat + 1 = d.txnCapacity.toNat

theorem charge_remaining_iff (h : d.txnCapacity = 0 ∨ d.txnCount < d.txnCapacity)
    : (d.charge.txnCapacity = 0 ∨ d.charge.txnCount < d.charge.txnCapacity) ↔ ¬ d.LastUnit := by
  unfold SpaceDetails.charge SpaceDetails.LastUnit
  dsimp only
  rw [UInt64.lt_iff_toNat_lt, toNat_saturatingAdd]
  rw [UInt64.lt_iff_toNat_lt] at h
  rw [← UInt64.toNat_inj] at h ⊢
  have hlt := d.txnCapacity.toNat_lt
  simp only [UInt64.toNat_zero, UInt64.toNat_one] at *
  omega

theorem charge_canTransact_iff (hactive : d.archive = false) (happroved : d.approved = true)
    (h : d.txnCapacity = 0 ∨ d.txnCount < d.txnCapacity)
    : d.charge.CanTransact ↔ ¬ d.LastUnit := by
  rw [← charge_remaining_iff h]
  exact ⟨fun hvalid => hvalid.2.2, fun hremaining => ⟨hactive, happroved, hremaining⟩⟩

theorem charge_canRestore_iff (harchive : d.archive = true) (happroved : d.approved = true)
    (h : d.txnCapacity = 0 ∨ d.txnCount < d.txnCapacity)
    : d.charge.CanRestore ↔ ¬ d.LastUnit := by
  rw [← charge_remaining_iff h]
  exact ⟨fun hvalid => hvalid.2.2, fun hremaining => ⟨harchive, happroved, hremaining⟩⟩

end LastUnit

@[simp]
theorem validateSpaceForTransaction_iff {spaceId : T.Ss58Identifier}
    : Succeeds (validateSpaceForTransaction spaceId) s u s'
        ↔
      (∃ d, s.spaces.get spaceId = some d ∧ d.CanTransact) ∧ s' = s := by
  simp only [validateSpaceForTransaction, SpaceDetails.CanTransact, Succeeds.bind_iff,
    getSpace_iff, Succeeds.ensure_iff, Bool.not_eq_true']
  constructor
  . rintro ⟨d, _, ⟨hd, rfl⟩, _, _, ⟨harchive, rfl⟩, _, _, ⟨happroved, rfl⟩, hcapacity, rfl⟩
    exact ⟨⟨d, hd, harchive, happroved, hcapacity⟩, rfl⟩
  . rintro ⟨⟨d, hd, harchive, happroved, hcapacity⟩, rfl⟩
    exact ⟨d, _, ⟨hd, rfl⟩, (), _, ⟨harchive, rfl⟩, (), _, ⟨happroved, rfl⟩, hcapacity, rfl⟩

@[simp]
theorem validateSpaceForRestoreTransaction_iff {spaceId : T.Ss58Identifier}
    : Succeeds (validateSpaceForRestoreTransaction spaceId) s u s'
        ↔
      (∃ d, s.spaces.get spaceId = some d ∧ d.CanRestore) ∧ s' = s := by
  simp only [validateSpaceForRestoreTransaction, SpaceDetails.CanRestore, Succeeds.bind_iff,
    getSpace_iff, Succeeds.ensure_iff]
  constructor
  . rintro ⟨d, _, ⟨hd, rfl⟩, _, _, ⟨harchive, rfl⟩, _, _, ⟨happroved, rfl⟩, hcapacity, rfl⟩
    exact ⟨⟨d, hd, harchive, happroved, hcapacity⟩, rfl⟩
  . rintro ⟨⟨d, hd, harchive, happroved, hcapacity⟩, rfl⟩
    exact ⟨d, _, ⟨hd, rfl⟩, (), _, ⟨harchive, rfl⟩, (), _, ⟨happroved, rfl⟩, hcapacity, rfl⟩

def State.Authorizes (s : State T) (required : Permissions) (authorizationId : T.Ss58Identifier)
    (delegate : T.SpaceCreatorId) (spaceId : T.Ss58Identifier) : Prop :=
  ∃ a, s.authorizations.get authorizationId = some a ∧ a.delegate = delegate ∧
    a.spaceId = spaceId ∧ a.permissions.contains required = true

theorem authorizes_iff {required : Permissions} {authorizationId spaceId : T.Ss58Identifier}
    {delegate : T.SpaceCreatorId} {a : SpaceAuthorization T}
    (ha : s.authorizations.get authorizationId = some a)
    : s.Authorizes required authorizationId delegate spaceId ↔
        a.delegate = delegate ∧ a.spaceId = spaceId ∧ a.permissions.contains required = true := by
  simp [State.Authorizes, ha]

theorem ensureAuthorization_iff {validate : T.Ss58Identifier → CallM T Unit}
    {Valid : SpaceDetails T → Prop} {required : Permissions} {authorizationId : T.Ss58Identifier}
    {delegate : T.SpaceCreatorId} {spaceId : T.Ss58Identifier}
    (hvalidate : ∀ (spaceId) (u) (t t' : State T), Succeeds (validate spaceId) t u t' ↔
      (∃ d, t.spaces.get spaceId = some d ∧ Valid d) ∧ t' = t)
    : Succeeds (ensureAuthorization validate required authorizationId delegate) s spaceId s'
        ↔
      ∃ d, s.Authorizes required authorizationId delegate spaceId ∧
        s.spaces.get spaceId = some d ∧ Valid d.charge ∧
        s' = { s with spaces := s.spaces.insert spaceId d.charge } := by
  simp only [ensureAuthorization, incrementUsage, Succeeds.bind_iff, Succeeds.get_iff,
    Succeeds.okOr_iff, Succeeds.ensure_iff, mutateUsage_iff, hvalidate, Succeeds.pure_iff]
  constructor
  . rintro ⟨_, _, ⟨rfl, rfl⟩, a, _, ⟨ha, rfl⟩, _, _, ⟨hdelegate, rfl⟩, _, _, ⟨d, hd, rfl⟩, _, _,
      ⟨⟨d', hd', hvalid⟩, rfl⟩, _, _, ⟨hperm, rfl⟩, rfl, rfl⟩
    rw [StorageMap.get_insert_self] at hd'
    injection hd' with hd'
    subst hd'
    exact ⟨d, ⟨a, ha, hdelegate, rfl, hperm⟩, hd, hvalid, rfl⟩
  . rintro ⟨d, ⟨a, ha, hdelegate, rfl, hperm⟩, hd, hvalid, rfl⟩
    refine ⟨s, s, ⟨rfl, rfl⟩, a, s, ⟨ha, rfl⟩, (), s, ⟨hdelegate, rfl⟩, (), _, ⟨d, hd, rfl⟩, (), _,
      ⟨⟨d.charge, ?_, hvalid⟩, rfl⟩, (), _, ⟨hperm, rfl⟩, rfl, rfl⟩
    apply StorageMap.get_insert_self

section Authorization

variable {authorizationId spaceId : T.Ss58Identifier} {delegate : T.SpaceCreatorId}

@[simp]
theorem ensureAuthorizationOrigin_iff
    : Succeeds (ensureAuthorizationOrigin authorizationId delegate) s spaceId s'
        ↔
      ∃ d, s.Authorizes .assert authorizationId delegate spaceId ∧
        s.spaces.get spaceId = some d ∧ d.charge.CanTransact ∧
        s' = { s with spaces := s.spaces.insert spaceId d.charge } := by
  apply ensureAuthorization_iff
  intros
  apply validateSpaceForTransaction_iff

@[simp]
theorem ensureAuthorizationRestoreOrigin_iff
    : Succeeds (ensureAuthorizationRestoreOrigin authorizationId delegate) s spaceId s'
        ↔
      ∃ d, s.Authorizes .assert authorizationId delegate spaceId ∧
        s.spaces.get spaceId = some d ∧ d.charge.CanRestore ∧
        s' = { s with spaces := s.spaces.insert spaceId d.charge } := by
  apply ensureAuthorization_iff
  intros
  apply validateSpaceForRestoreTransaction_iff

@[simp]
theorem ensureAuthorizationAdminOrigin_iff
    : Succeeds (ensureAuthorizationAdminOrigin authorizationId delegate) s spaceId s'
        ↔
      ∃ d, s.Authorizes .admin authorizationId delegate spaceId ∧
        s.spaces.get spaceId = some d ∧ d.charge.CanTransact ∧
        s' = { s with spaces := s.spaces.insert spaceId d.charge } := by
  apply ensureAuthorization_iff
  intros
  apply validateSpaceForTransaction_iff

@[simp]
theorem ensureAuthorizationDelegatorOrigin_iff
    : Succeeds (ensureAuthorizationDelegatorOrigin authorizationId delegate) s spaceId s'
        ↔
      ∃ d, s.Authorizes (Permissions.union .delegate .admin) authorizationId delegate spaceId ∧
        s.spaces.get spaceId = some d ∧ d.charge.CanTransact ∧
        s' = { s with spaces := s.spaces.insert spaceId d.charge } := by
  apply ensureAuthorization_iff
  intros
  apply validateSpaceForTransaction_iff

@[simp]
theorem ensureAuthorizationAdminRemoveOrigin_iff
    : Succeeds (ensureAuthorizationAdminRemoveOrigin authorizationId delegate) s spaceId s'
        ↔
      ∃ d, s.Authorizes .admin authorizationId delegate spaceId ∧
        s.spaces.get spaceId = some d ∧ d.CanTransact ∧ s' = s := by
  simp only [ensureAuthorizationAdminRemoveOrigin, Succeeds.bind_iff, Succeeds.get_iff,
    Succeeds.okOr_iff, Succeeds.ensure_iff, validateSpaceForTransaction_iff, Succeeds.pure_iff]
  constructor
  . rintro ⟨_, _, ⟨rfl, rfl⟩, a, _, ⟨ha, rfl⟩, _, _, ⟨hdelegate, rfl⟩, _, _,
      ⟨⟨d, hd, hvalid⟩, rfl⟩, _, _, ⟨hperm, rfl⟩, rfl, rfl⟩
    exact ⟨d, ⟨a, ha, hdelegate, rfl, hperm⟩, hd, hvalid, rfl⟩
  . rintro ⟨d, ⟨a, ha, hdelegate, rfl, hperm⟩, hd, hvalid, rfl⟩
    exact ⟨_, _, ⟨rfl, rfl⟩, a, _, ⟨ha, rfl⟩, (), _, ⟨hdelegate, rfl⟩, (), _,
      ⟨⟨d, hd, hvalid⟩, rfl⟩, (), _, ⟨hperm, rfl⟩, rfl, rfl⟩

end Authorization

end ChainSpace
