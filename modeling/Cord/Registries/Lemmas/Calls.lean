import Cord.Registries.Impl.Calls

/-!
This module contains what a successful call of the registries pallet has checked, and what it has done
to the registries and the authorizations.
-/

open Frame Identifier

namespace Registries

variable {T : Config} {s s' : State T} {u : Unit} {origin : T.Origin}

@[simp]
theorem getRegistry_iff {registryId : T.Ss58Identifier} {d : RegistryDetails T}
    : Succeeds (getRegistry registryId) s d s' ↔
        s.registryInfo.get registryId = some d ∧ s' = s := by
  simp [getRegistry, and_comm]

@[simp]
theorem insertRegistry_iff {registryId : T.Ss58Identifier} {d : RegistryDetails T}
    : Succeeds (insertRegistry registryId d) s u s'
        ↔
      s' = { s with registryInfo := s.registryInfo.insert registryId d } := by
  simp [insertRegistry]

@[simp]
theorem insertDelegates_iff {registryId : T.Ss58Identifier}
    {delegates : BoundedVec T.AccountId T.maxRegistryDelegates}
    : Succeeds (insertDelegates registryId delegates) s u s'
        ↔
      s' = { s with delegates := s.delegates.insert registryId delegates } := by
  simp [insertDelegates]

@[simp]
theorem insertAuthorization_iff {authorizationId : T.Ss58Identifier} {a : RegistryAuthorization T}
    : Succeeds (insertAuthorization authorizationId a) s u s'
        ↔
      s' = { s with authorizations := s.authorizations.insert authorizationId a } := by
  simp [insertAuthorization]

@[simp]
theorem removeAuthorization_iff {authorizationId : T.Ss58Identifier}
    : Succeeds (removeAuthorization authorizationId) s u s'
        ↔
      s' = { s with authorizations := s.authorizations.remove authorizationId } := by
  simp [removeAuthorization]

@[simp]
theorem depositEvent_iff {event : Event T}
    : Succeeds (depositEvent event) s u s' ↔ s' = { s with events := s.events ++ [event] } := by
  simp [depositEvent]

@[simp]
theorem updateActivity_iff {txId : T.Ss58Identifier} {txType : IdentifierTypeOf}
    {txAction : CallTypeOf}
    : Succeeds (updateActivity txId txType txAction) s u s'
        ↔
      s' =
        {
          s with
          identifiers := (updateTimeline s.identifiers txId txType
            { action := txAction, location := s.timepoint }).getD s.identifiers
        } := by
  simp [updateActivity]

/--
The registry is neither archived nor revoked.
-/
structure State.Open (s : State T) (registryId : T.Ss58Identifier) (d : RegistryDetails T)
    : Prop where
  stored : s.registryInfo.get registryId = some d
  archived : d.archived = false
  revoked : d.revoked = false

theorem State.Open.of_get {registryId : T.Ss58Identifier} {d d' : RegistryDetails T}
    (h : s.Open registryId d) (hd' : s.registryInfo.get registryId = some d')
    : s.Open registryId d' := by
  rw [h.stored, Option.some.injEq] at hd'
  rw [← hd']
  exact h

section Authorize

variable {required : Permissions} {authorization registryId : T.Ss58Identifier} {who : T.AccountId}

theorem validateRegistryForTransaction_spec
    (h : Succeeds (validateRegistryForTransaction registryId) s u s')
    : s' = s ∧ ∃ d, s.Open registryId d := by
  simp only [validateRegistryForTransaction, Succeeds.bind_iff, Succeeds.ensure_iff,
    getRegistry_iff, Bool.not_eq_true', and_assoc, exists_and_left, exists_eq_left,
    exists_const] at h
  obtain ⟨d, hd, harchived, hrevoked, rfl⟩ := h
  exact ⟨rfl, d, hd, harchived, hrevoked⟩

theorem ensureAuthorizationWith_spec {validate : T.Ss58Identifier → CallM T Unit}
    (h : Succeeds (ensureAuthorizationWith validate required authorization who) s registryId s')
    : Succeeds (validate registryId) s () s' ∧
        ∃ a, s.authorizations.get authorization = some a ∧ a.registryId = registryId ∧
          a.permissions.contains required = true := by
  simp only [ensureAuthorizationWith, Succeeds.bind_iff, Succeeds.get_iff, Succeeds.okOr_iff,
    Succeeds.ensure_iff, Succeeds.pure_iff, and_assoc, exists_and_left, exists_eq_left,
    exists_const] at h
  obtain ⟨a, ha, _, _, _, hvalid, hpermissions, rfl, rfl⟩ := h
  exact ⟨hvalid, a, ha, rfl, hpermissions⟩

theorem ensureAuthorizationWith_open
    (h : Succeeds (ensureAuthorizationWith validateRegistryForTransaction required authorization who)
      s registryId s')
    : s' = s ∧ (∃ d, s.Open registryId d) ∧
        ∃ a, s.authorizations.get authorization = some a ∧ a.registryId = registryId ∧
          a.permissions.contains required = true := by
  obtain ⟨hvalid, ha⟩ := ensureAuthorizationWith_spec h
  obtain ⟨hs, hopen⟩ := validateRegistryForTransaction_spec hvalid
  exact ⟨hs, hopen, ha⟩

theorem ensureAuthorizationRestoreOrigin_spec
    (h : Succeeds (ensureAuthorizationRestoreOrigin authorization who) s registryId s') : s' = s := by
  have hvalid := (ensureAuthorizationWith_spec h).1
  simp only [validateRegistryForRestoreTransaction, Succeeds.bind_iff, Succeeds.ensure_iff,
    getRegistry_iff, and_assoc, exists_and_left, exists_eq_left] at hvalid
  obtain ⟨_, _, _, hs⟩ := hvalid
  exact hs

theorem ensureAuthorizationReinstateOrigin_spec
    (h : Succeeds (ensureAuthorizationReinstateOrigin authorization who) s registryId s')
    : s' = s := by
  have hvalid := (ensureAuthorizationWith_spec h).1
  simp only [validateRegistryForReinstateTransaction, Succeeds.bind_iff, Succeeds.ensure_iff,
    getRegistry_iff, and_assoc, exists_and_left, exists_eq_left] at hvalid
  obtain ⟨_, _, _, hs⟩ := hvalid
  exact hs

end Authorize

/--
What a successful call has done to the registries and the authorizations, with the conditions under
which it did.
-/
inductive RegistriesStep (s : State T) (origin : T.Origin) (s' : State T) : Call T → Prop where
  | add {call : Call T} {registryId authorization authorizationId : T.Ss58Identifier}
      {delegate creator : T.AccountId} {permissions : Permissions} {d : RegistryDetails T}
      (hcall : call = .addDelegate registryId delegate authorization ∨
        call = .addAdminDelegate registryId delegate authorization ∨
        call = .addDelegator registryId delegate authorization)
      (hopen : s.Open registryId d)
      (hfresh : s.authorizations.get authorizationId = none)
      (hinfo : s'.registryInfo = s.registryInfo)
      (hauthorizations : s'.authorizations = s.authorizations.insert authorizationId
        { registryId, delegate, permissions, delegator := creator })
      : RegistriesStep s origin s' call
  | remove {registryId removeAuthorization authorization : T.Ss58Identifier}
      {a removed : RegistryAuthorization T}
      (ha : s.authorizations.get authorization = some a)
      (hregistry : a.registryId = registryId)
      (hadmin : a.permissions.contains .admin = true)
      (hne : authorization ≠ removeAuthorization)
      (hremoved : s.authorizations.get removeAuthorization = some removed)
      (hinfo : s'.registryInfo = s.registryInfo)
      (hauthorizations : s'.authorizations = s.authorizations.remove removeAuthorization)
      : RegistriesStep s origin s' (.removeDelegate registryId removeAuthorization authorization)
  | create {registryId identifier authorizationId : T.Ss58Identifier} {digest : T.Hash}
      {schemaId : Option T.Ss58Identifier} {blob : Option (BoundedVec UInt8 T.maxRegistryBlobSize)}
      {creator : T.AccountId}
      (hcreator : T.ensureSigned origin = some creator)
      (hidentifier : registryIdentifier T digest creator = some identifier)
      (hauthorizationId : authorizationIdentifier T identifier creator creator =
        some authorizationId)
      (hfresh : s.registryInfo.get identifier = none)
      (hinfo : s'.registryInfo = s.registryInfo.insert identifier
        { creator, revoked := false, archived := false, digest, schemaId })
      (hauthorizations : s'.authorizations = s.authorizations.insert authorizationId
        { registryId := identifier, delegate := creator, permissions := .all, delegator := creator })
      : RegistriesStep s origin s' (.create registryId digest schemaId blob)
  | update {registryId authorization : T.Ss58Identifier} {digest : T.Hash}
      {blob : Option (BoundedVec UInt8 T.maxRegistryBlobSize)} {d : RegistryDetails T}
      (hopen : s.Open registryId d)
      (hinfo : s'.registryInfo = s.registryInfo.insert registryId { d with digest })
      (hauthorizations : s'.authorizations = s.authorizations)
      : RegistriesStep s origin s' (.update registryId digest blob authorization)
  | revoke {registryId authorization : T.Ss58Identifier} {d : RegistryDetails T}
      (hopen : s.Open registryId d)
      (hinfo : s'.registryInfo = s.registryInfo.insert registryId { d with revoked := true })
      (hauthorizations : s'.authorizations = s.authorizations)
      : RegistriesStep s origin s' (.revoke registryId authorization)
  | reinstate {registryId authorization : T.Ss58Identifier} {d : RegistryDetails T}
      (hd : s.registryInfo.get registryId = some d)
      (hrevoked : d.revoked = true)
      (hinfo : s'.registryInfo = s.registryInfo.insert registryId { d with revoked := false })
      (hauthorizations : s'.authorizations = s.authorizations)
      : RegistriesStep s origin s' (.reinstate registryId authorization)
  | archive {registryId authorization : T.Ss58Identifier} {d : RegistryDetails T}
      (hopen : s.Open registryId d)
      (hinfo : s'.registryInfo = s.registryInfo.insert registryId { d with archived := true })
      (hauthorizations : s'.authorizations = s.authorizations)
      : RegistriesStep s origin s' (.archive registryId authorization)
  | restore {registryId authorization : T.Ss58Identifier} {d : RegistryDetails T}
      (hd : s.registryInfo.get registryId = some d)
      (harchived : d.archived = true)
      (hinfo : s'.registryInfo = s.registryInfo.insert registryId { d with archived := false })
      (hauthorizations : s'.authorizations = s.authorizations)
      : RegistriesStep s origin s' (.restore registryId authorization)

theorem addDelegateWith_step {required permissions : Permissions} {call : Call T}
    {registryId authorization : T.Ss58Identifier} {delegate : T.AccountId}
    (hcall : call = .addDelegate registryId delegate authorization ∨
      call = .addAdminDelegate registryId delegate authorization ∨
      call = .addDelegator registryId delegate authorization)
    (h : Succeeds (addDelegateWith
      (ensureAuthorizationWith validateRegistryForTransaction required) permissions origin registryId
      delegate authorization) s () s')
    : RegistriesStep s origin s' call := by
  simp only [addDelegateWith, registryDelegateAddition, Succeeds.bind_iff,
    Succeeds.ensureOrigin_iff, Succeeds.ensure_iff, Succeeds.okOr_iff, Succeeds.get_iff,
    insertDelegates_iff, insertAuthorization_iff, updateActivity_iff, depositEvent_iff,
    Bool.not_eq_true', StorageMap.containsKey_eq_false_iff, and_assoc, exists_and_left,
    exists_eq_left, exists_const] at h
  obtain ⟨creator, _, _, _, hauth, rfl, authorizationId, _, hfresh, delegates, _, rfl⟩ := h
  obtain ⟨rfl, ⟨d, hopen⟩, _⟩ := ensureAuthorizationWith_open hauth
  exact .add hcall hopen hfresh rfl rfl

theorem removeDelegate_step {registryId removeAuthorizationId authorization : T.Ss58Identifier}
    (h : Succeeds (removeDelegate origin registryId removeAuthorizationId authorization) s () s')
    : RegistriesStep s origin s' (.removeDelegate registryId removeAuthorizationId authorization) := by
  simp only [removeDelegate, Succeeds.bind_iff, Succeeds.ensureOrigin_iff, Succeeds.ensure_iff,
    Succeeds.okOr_iff, Succeeds.get_iff, insertDelegates_iff, removeAuthorization_iff,
    updateActivity_iff, depositEvent_iff, and_assoc, exists_and_left, exists_eq_left,
    exists_const] at h
  obtain ⟨creator, _, _, _, hauth, hne, rfl, removed, hremoved, index, _, rfl⟩ := h
  obtain ⟨rfl, _, a, ha, hregistry, hadmin⟩ := ensureAuthorizationWith_open hauth
  exact .remove ha hregistry hadmin hne hremoved rfl rfl

theorem create_step {registryId : T.Ss58Identifier} {digest : T.Hash}
    {schemaId : Option T.Ss58Identifier} {blob : Option (BoundedVec UInt8 T.maxRegistryBlobSize)}
    (h : Succeeds (create origin registryId digest schemaId blob) s () s')
    : RegistriesStep s origin s' (.create registryId digest schemaId blob) := by
  simp only [create, Succeeds.bind_iff, Succeeds.ensureOrigin_iff, Succeeds.ensure_iff,
    Succeeds.okOr_iff, Succeeds.get_iff, insertDelegates_iff, insertAuthorization_iff,
    insertRegistry_iff, updateActivity_iff, depositEvent_iff, Bool.not_eq_true',
    StorageMap.containsKey_eq_false_iff, and_assoc, exists_and_left, exists_eq_left,
    exists_const] at h
  obtain ⟨creator, hcreator, identifier, hidentifier, hfresh, authorizationId, hauthorizationId, _,
    _, rfl⟩ := h
  exact .create hcreator hidentifier hauthorizationId hfresh rfl rfl

theorem update_step {registryId authorization : T.Ss58Identifier} {digest : T.Hash}
    {blob : Option (BoundedVec UInt8 T.maxRegistryBlobSize)}
    (h : Succeeds (update origin registryId digest blob authorization) s () s')
    : RegistriesStep s origin s' (.update registryId digest blob authorization) := by
  simp only [update, Succeeds.bind_iff, Succeeds.ensureOrigin_iff, Succeeds.ensure_iff,
    getRegistry_iff, insertRegistry_iff, updateActivity_iff, depositEvent_iff, and_assoc,
    exists_and_left, exists_eq_left, exists_const] at h
  obtain ⟨creator, _, d, hd, _, _, hauth, rfl, rfl⟩ := h
  obtain ⟨rfl, ⟨_, hopen⟩, _⟩ := ensureAuthorizationWith_open hauth
  exact .update (hopen.of_get hd) rfl rfl

theorem changeStatusWith_spec
    {ensureAuthorization : T.Ss58Identifier → T.AccountId → CallM T T.Ss58Identifier}
    {allowed : RegistryDetails T → Bool} {err : Error}
    {change : RegistryDetails T → RegistryDetails T} {txAction : CallTypeOf}
    {event : T.Ss58Identifier → T.AccountId → Event T}
    {registryId authorization : T.Ss58Identifier}
    (h : Succeeds (changeStatusWith ensureAuthorization allowed err change txAction event origin
      registryId authorization) s () s')
    : ∃ who t d, Succeeds (ensureAuthorization authorization who) s registryId t ∧
        t.registryInfo.get registryId = some d ∧ allowed d = true ∧
        s'.registryInfo = t.registryInfo.insert registryId (change d) ∧
        s'.authorizations = t.authorizations := by
  simp only [changeStatusWith, Succeeds.bind_iff, Succeeds.ensureOrigin_iff, Succeeds.ensure_iff,
    getRegistry_iff, insertRegistry_iff, updateActivity_iff, depositEvent_iff, and_assoc,
    exists_and_left, exists_eq_left, exists_const] at h
  obtain ⟨who, _, _, t, hauth, rfl, d, hd, hallowed, rfl⟩ := h
  exact ⟨who, t, d, hauth, hd, hallowed, rfl, rfl⟩

section Status

variable {registryId authorization : T.Ss58Identifier}

theorem revoke_step (h : Succeeds (revoke origin registryId authorization) s () s')
    : RegistriesStep s origin s' (.revoke registryId authorization) := by
  obtain ⟨who, t, d, hauth, hd, _, hinfo, hauthorizations⟩ := changeStatusWith_spec h
  obtain ⟨rfl, ⟨_, hopen⟩, _⟩ := ensureAuthorizationWith_open hauth
  exact .revoke (hopen.of_get hd) hinfo hauthorizations

theorem reinstate_step (h : Succeeds (reinstate origin registryId authorization) s () s')
    : RegistriesStep s origin s' (.reinstate registryId authorization) := by
  obtain ⟨who, t, d, hauth, hd, hrevoked, hinfo, hauthorizations⟩ := changeStatusWith_spec h
  cases ensureAuthorizationReinstateOrigin_spec hauth
  exact .reinstate hd hrevoked hinfo hauthorizations

theorem archive_step (h : Succeeds (archive origin registryId authorization) s () s')
    : RegistriesStep s origin s' (.archive registryId authorization) := by
  obtain ⟨who, t, d, hauth, hd, _, hinfo, hauthorizations⟩ := changeStatusWith_spec h
  obtain ⟨rfl, ⟨_, hopen⟩, _⟩ := ensureAuthorizationWith_open hauth
  exact .archive (hopen.of_get hd) hinfo hauthorizations

theorem restore_step (h : Succeeds (restore origin registryId authorization) s () s')
    : RegistriesStep s origin s' (.restore registryId authorization) := by
  obtain ⟨who, t, d, hauth, hd, harchived, hinfo, hauthorizations⟩ := changeStatusWith_spec h
  cases ensureAuthorizationRestoreOrigin_spec hauth
  exact .restore hd harchived hinfo hauthorizations

end Status

theorem Call.dispatch_step {call : Call T} (h : Succeeds (call.dispatch origin) s () s')
    : RegistriesStep s origin s' call := by
  cases call with
  | addDelegate _ _ _ => exact addDelegateWith_step (.inl rfl) h
  | addAdminDelegate _ _ _ => exact addDelegateWith_step (.inr (.inl rfl)) h
  | addDelegator _ _ _ => exact addDelegateWith_step (.inr (.inr rfl)) h
  | removeDelegate _ _ _ => exact removeDelegate_step h
  | create _ _ _ _ => exact create_step h
  | revoke _ _ => exact revoke_step h
  | reinstate _ _ => exact reinstate_step h
  | update _ _ _ _ => exact update_step h
  | archive _ _ => exact archive_step h
  | restore _ _ => exact restore_step h

theorem Extrinsic.dispatch_iff {ext : Extrinsic T}
    : Succeeds ext.dispatch s () s' ↔
        Succeeds (ext.call.dispatch ext.origin) (s.atTime ext.timepoint) () s' := by
  simp [Extrinsic.dispatch]

theorem Extrinsic.dispatch_step {ext : Extrinsic T} (h : Succeeds ext.dispatch s () s')
    : RegistriesStep (s.atTime ext.timepoint) ext.origin s' ext.call :=
  Call.dispatch_step (dispatch_iff.mp h)

end Registries
