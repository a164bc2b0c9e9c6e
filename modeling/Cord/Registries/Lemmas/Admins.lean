import Cord.Registries.Lemmas.Calls

/-!
This module contains when a registry keeps an administrator. The authorization that `remove_delegate`
takes away does not have to be one for the registry it is called for, so the administrators of one
registry can take the last administrator from another.
-/

open Frame Identifier

namespace Registries

variable {T : Config} {s s' : State T} {origin : T.Origin} {call : Call T}

namespace State

def IsAdmin (s : State T) (id registryId : T.Ss58Identifier) : Prop :=
  ∃ a, s.authorizations.get id = some a ∧ a.registryId = registryId ∧
    a.permissions.contains .admin = true

def Administered (s : State T) : Prop :=
  ∀ registryId, s.registryInfo.containsKey registryId = true → ∃ id, s.IsAdmin id registryId

def Spares (s : State T) (id : T.Ss58Identifier) : Prop :=
  -- The authorization is not the last one of an administrator.
  ∀ registryId, s.IsAdmin id registryId → ∃ other, other ≠ id ∧ s.IsAdmin other registryId

def Anchored (s : State T) : Prop :=
  ∀ id a, s.authorizations.get id = some a → s.registryInfo.containsKey a.registryId = true

end State

/--
The calls that leave every registry with an administrator: `remove_delegate` takes the authorization
away from the registry it is called for or spares the last one of another, and what `create` writes
does not replace the last one of another registry.
-/
def Call.SparesAdmins (s : State T) (origin : T.Origin) : Call T → Prop
  | .removeDelegate registryId removeAuthorization _ =>
    ∀ a, s.authorizations.get removeAuthorization = some a → a.registryId ≠ registryId →
      s.Spares removeAuthorization
  | .create _ digest _ _ =>
    ∀ creator identifier authorizationId, T.ensureSigned origin = some creator →
      registryIdentifier T digest creator = some identifier →
      authorizationIdentifier T identifier creator creator = some authorizationId →
      s.Spares authorizationId
  | _ => True

theorem RegistriesStep.containsKey (h : RegistriesStep s origin s' call) {registryId : T.Ss58Identifier}
    (hs : s.registryInfo.containsKey registryId = true)
    : s'.registryInfo.containsKey registryId = true := by
  have hinsert : ∀ (identifier : T.Ss58Identifier) (d : RegistryDetails T),
      (s.registryInfo.insert identifier d).containsKey registryId = true := by
    intro identifier d
    rw [StorageMap.containsKey_insert]
    exact .inr hs
  cases h with
  | add _ _ _ hinfo _ => rwa [hinfo]
  | remove _ _ _ _ _ hinfo _ => rwa [hinfo]
  | create _ _ _ _ hinfo _ =>
    rw [hinfo]
    apply hinsert
  | update _ hinfo _ =>
    rw [hinfo]
    apply hinsert
  | revoke _ hinfo _ =>
    rw [hinfo]
    apply hinsert
  | reinstate _ _ hinfo _ =>
    rw [hinfo]
    apply hinsert
  | archive _ hinfo _ =>
    rw [hinfo]
    apply hinsert
  | restore _ _ hinfo _ =>
    rw [hinfo]
    apply hinsert

theorem RegistriesStep.anchored (h : RegistriesStep s origin s' call) (hs : s.Anchored)
    : s'.Anchored := by
  intro id a ha
  have hkeep : s.authorizations.get id = some a → s'.registryInfo.containsKey a.registryId = true :=
    fun hold => h.containsKey (hs id a hold)
  cases h with
  | add _ hopen _ hinfo hauthorizations =>
    rw [hauthorizations, StorageMap.get_insert] at ha
    split at ha
    . injection ha with ha
      rw [← ha, hinfo]
      exact Option.isSome_iff_exists.mpr ⟨_, hopen.stored⟩
    . exact hkeep ha
  | remove _ _ _ _ _ hinfo hauthorizations =>
    rw [hauthorizations, StorageMap.get_remove] at ha
    split at ha
    . cases ha
    . exact hkeep ha
  | create _ _ _ _ hinfo hauthorizations =>
    rw [hauthorizations, StorageMap.get_insert] at ha
    split at ha
    . injection ha with ha
      rw [← ha, hinfo]
      exact (StorageMap.containsKey_insert ..).mpr (.inl rfl)
    . exact hkeep ha
  | update _ _ hauthorizations => exact hkeep (hauthorizations ▸ ha)
  | revoke _ _ hauthorizations => exact hkeep (hauthorizations ▸ ha)
  | reinstate _ _ _ hauthorizations => exact hkeep (hauthorizations ▸ ha)
  | archive _ _ hauthorizations => exact hkeep (hauthorizations ▸ ha)
  | restore _ _ _ hauthorizations => exact hkeep (hauthorizations ▸ ha)

theorem isAdmin_congr (hauthorizations : s'.authorizations = s.authorizations)
    {id registryId : T.Ss58Identifier} : s'.IsAdmin id registryId ↔ s.IsAdmin id registryId := by
  unfold State.IsAdmin
  rw [hauthorizations]

theorem isAdmin_remove {removeAuthorization id registryId : T.Ss58Identifier}
    (hauthorizations : s'.authorizations = s.authorizations.remove removeAuthorization)
    : s'.IsAdmin id registryId ↔ id ≠ removeAuthorization ∧ s.IsAdmin id registryId := by
  unfold State.IsAdmin
  rw [hauthorizations, StorageMap.get_remove]
  split
  . next h => simp [h]
  . next h => simp [h]

theorem isAdmin_insert {authorizationId id registryId : T.Ss58Identifier}
    {a : RegistryAuthorization T}
    (hauthorizations : s'.authorizations = s.authorizations.insert authorizationId a)
    : s'.IsAdmin id registryId ↔
        (id = authorizationId ∧ a.registryId = registryId ∧ a.permissions.contains .admin = true) ∨
          (id ≠ authorizationId ∧ s.IsAdmin id registryId) := by
  unfold State.IsAdmin
  rw [hauthorizations, StorageMap.get_insert]
  split
  . next h => simp [h]
  . next h => simp [h]

theorem State.Administered.of_isAdmin (hs : s.Administered)
    (hinfo : ∀ registryId, s'.registryInfo.containsKey registryId = true →
      s.registryInfo.containsKey registryId = true)
    (hadmin : ∀ id registryId, s.IsAdmin id registryId → s'.IsAdmin id registryId)
    : s'.Administered := by
  intro registryId hregistry
  obtain ⟨id, hid⟩ := hs registryId (hinfo registryId hregistry)
  exact ⟨id, hadmin id registryId hid⟩

theorem State.Administered.update (hs : s.Administered) {registryId : T.Ss58Identifier}
    {d d' : RegistryDetails T} (hd : s.registryInfo.get registryId = some d)
    (hinfo : s'.registryInfo = s.registryInfo.insert registryId d')
    (hauthorizations : s'.authorizations = s.authorizations) : s'.Administered := by
  apply hs.of_isAdmin
  . intro other hother
    rwa [hinfo, StorageMap.containsKey_insert_of_get hd] at hother
  . intro id other hid
    exact (isAdmin_congr hauthorizations).mpr hid

theorem removeDelegate_administered_iff
    {registryId removeAuthorization authorization : T.Ss58Identifier} (hs : s.Administered)
    (hanchored : s.Anchored) (ha : s.IsAdmin authorization registryId) (hne : authorization ≠ removeAuthorization)
    (hinfo : s'.registryInfo = s.registryInfo)
    (hauthorizations : s'.authorizations = s.authorizations.remove removeAuthorization)
    : s'.Administered ↔
        (Call.removeDelegate registryId removeAuthorization authorization).SparesAdmins s origin := by
  constructor
  . intro hs' removed _ _ other ⟨admin, hadmin⟩
    have hstored := hanchored removeAuthorization admin hadmin.1
    rw [hadmin.2.1, ← hinfo] at hstored
    obtain ⟨id, hid⟩ := hs' other hstored
    exact ⟨id, (isAdmin_remove hauthorizations).mp hid⟩
  . intro hspares other hother
    rw [hinfo] at hother
    obtain ⟨id, hid⟩ := hs other hother
    simp only [isAdmin_remove hauthorizations]
    by_cases hremoved : id = removeAuthorization
    . subst hremoved
      by_cases hown : other = registryId
      . -- The caller is an administrator of the registry, and keeps its own authorization.
        subst hown
        exact ⟨authorization, hne, ha⟩
      . obtain ⟨removed, hget, hregistry, hadmin⟩ := hid
        exact hspares removed hget (hregistry ▸ hown) other ⟨removed, hget, hregistry, hadmin⟩
    . exact ⟨id, hremoved, hid⟩

theorem create_administered_iff {registryId identifier authorizationId : T.Ss58Identifier}
    {digest : T.Hash} {schemaId : Option T.Ss58Identifier}
    {blob : Option (BoundedVec UInt8 T.maxRegistryBlobSize)} {creator : T.AccountId}
    {d : RegistryDetails T} (hs : s.Administered) (hanchored : s.Anchored)
    (hcreator : T.ensureSigned origin = some creator)
    (hidentifier : registryIdentifier T digest creator = some identifier)
    (hauthorizationId : authorizationIdentifier T identifier creator creator = some authorizationId)
    (hfresh : s.registryInfo.get identifier = none)
    (hinfo : s'.registryInfo = s.registryInfo.insert identifier d)
    (hauthorizations : s'.authorizations = s.authorizations.insert authorizationId
      { registryId := identifier, delegate := creator, permissions := .all, delegator := creator })
    : s'.Administered ↔ (Call.create registryId digest schemaId blob).SparesAdmins s origin := by
  have hall : Permissions.all.contains .admin = true := by decide
  have hnew : s'.IsAdmin authorizationId identifier := by
    rw [isAdmin_insert hauthorizations]
    exact .inl ⟨rfl, rfl, hall⟩
  constructor
  . intro hs' creator' identifier' authorizationId' h1 h2 h3 other hother
    rw [hcreator, Option.some.injEq] at h1
    subst h1
    rw [hidentifier, Option.some.injEq] at h2
    subst h2
    rw [hauthorizationId, Option.some.injEq] at h3
    subst h3
    obtain ⟨admin, hadmin⟩ := hother
    have hstored := hanchored authorizationId admin hadmin.1
    rw [hadmin.2.1] at hstored
    have hne : identifier ≠ other := by
      rintro rfl
      rw [StorageMap.containsKey, hfresh] at hstored
      cases hstored
    have hstored' : s'.registryInfo.containsKey other = true := by
      rw [hinfo, StorageMap.containsKey_insert]
      exact .inr hstored
    obtain ⟨id, hid⟩ := hs' other hstored'
    rcases (isAdmin_insert hauthorizations).mp hid with ⟨_, heq, _⟩ | hold
    . exact absurd heq hne
    . exact ⟨id, hold⟩
  . intro hspares other hother
    rw [hinfo, StorageMap.containsKey_insert] at hother
    rcases hother with rfl | hother
    . exact ⟨authorizationId, hnew⟩
    . obtain ⟨id, hid⟩ := hs other hother
      by_cases hid' : id = authorizationId
      . subst hid'
        obtain ⟨id', hold⟩ := hspares creator identifier id hcreator hidentifier hauthorizationId
          other hid
        exact ⟨id', (isAdmin_insert hauthorizations).mpr (.inr hold)⟩
      . exact ⟨id, (isAdmin_insert hauthorizations).mpr (.inr ⟨hid', hid⟩)⟩

theorem RegistriesStep.administered_iff (h : RegistriesStep s origin s' call) (hs : s.Administered)
    (hanchored : s.Anchored) : s'.Administered ↔ call.SparesAdmins s origin := by
  cases h with
  | add hcall hopen hfresh hinfo hauthorizations =>
    have hspares : call.SparesAdmins s origin := by
      rcases hcall with rfl | rfl | rfl <;> trivial
    refine iff_of_true (hs.of_isAdmin ?_ ?_) hspares
    . intro other hother
      rwa [hinfo] at hother
    . intro id other hid
      rw [isAdmin_insert hauthorizations]
      right
      refine ⟨?_, hid⟩
      rintro rfl
      obtain ⟨a, ha, _⟩ := hid
      rw [hfresh] at ha
      cases ha
  | remove ha hregistry hadmin hne hremoved hinfo hauthorizations =>
    exact removeDelegate_administered_iff hs hanchored ⟨_, ha, hregistry, hadmin⟩ hne hinfo
      hauthorizations
  | create hcreator hidentifier hauthorizationId hfresh hinfo hauthorizations =>
    exact create_administered_iff hs hanchored hcreator hidentifier hauthorizationId hfresh hinfo
      hauthorizations
  | update hopen hinfo hauthorizations =>
    exact iff_of_true (hs.update hopen.stored hinfo hauthorizations) trivial
  | revoke hopen hinfo hauthorizations =>
    exact iff_of_true (hs.update hopen.stored hinfo hauthorizations) trivial
  | reinstate hd _ hinfo hauthorizations =>
    exact iff_of_true (hs.update hd hinfo hauthorizations) trivial
  | archive hopen hinfo hauthorizations =>
    exact iff_of_true (hs.update hopen.stored hinfo hauthorizations) trivial
  | restore hd _ hinfo hauthorizations =>
    exact iff_of_true (hs.update hd hinfo hauthorizations) trivial

/--
Every registry has an administrator in every state of a run if and only if its calls spare the last
administrators of the other registries.
-/
theorem run_administered_iff (exts : List (Extrinsic T))
    : (machine T).Always State.Administered (State.genesis T) exts ↔
        (machine T).Meets (fun s ext => ext.call.SparesAdmins s ext.origin) (State.genesis T) exts := by
  apply Machine.always_iff_meets (J := State.Anchored)
  . intro s ext s' hanchored hsucc
    exact (Extrinsic.dispatch_step hsucc).anchored hanchored
  . intro s ext s' hanchored hs hsucc
    exact (Extrinsic.dispatch_step hsucc).administered_iff hs hanchored
  . intro id a ha
    cases ha
  . intro registryId h
    cases h

section Plain

def plainRegistry (digest creator : UInt8) : List UInt8 := [0, digest, creator]

def plainAuthorization (registryId : List UInt8) (delegate creator : UInt8) : List UInt8 :=
  1 :: (registryId ++ [delegate, creator])

/-
1 creates a registry, 2 another one. Then 1 makes 2 a delegate of the first registry, and removes the
authorization that 2 holds for the second one.
-/
def lockoutRun : List (Extrinsic .plain) :=
  let first := plainRegistry 10 1
  let second := plainRegistry 20 2
  [
    ⟨some 1, ⟨1, 0⟩, .create [] [10] none none⟩,
    ⟨some 2, ⟨1, 1⟩, .create [] [20] none none⟩,
    ⟨some 1, ⟨2, 0⟩, .addDelegate first 2 (plainAuthorization first 1 1)⟩,
    ⟨some 1, ⟨2, 1⟩, .removeDelegate first (plainAuthorization second 2 2)
      (plainAuthorization first 1 1)⟩
  ]

theorem lockoutRun_not_administered
    : ¬ ((machine .plain).run (State.genesis .plain) lockoutRun).Administered := by
  intro h
  have hstored : ((machine .plain).run (State.genesis .plain) lockoutRun).registryInfo.containsKey
      (plainRegistry 20 2) = true := by
    decide +kernel
  obtain ⟨id, a, ha, hregistry, _⟩ := h _ hstored
  -- No authorization for the second registry is left.
  have hcount : ((machine .plain).run (State.genesis .plain) lockoutRun).authorizations.sum
      (fun _ a => if a.registryId = plainRegistry 20 2 then 1 else 0) = 0 := by
    decide +kernel
  have hle := StorageMap.le_sum (fun _ a => if a.registryId = plainRegistry 20 2 then 1 else 0) ha
  rw [hcount, if_pos hregistry] at hle
  exact absurd hle (by decide)

end Plain

end Registries
