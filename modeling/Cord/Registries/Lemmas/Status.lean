import Cord.Registries.Lemmas.Calls

/-!
This module contains how the two flags of a registry interact: at most one of them is set, and while
one is set only the call that clears it can write the registry.
-/

open Frame Identifier

namespace Registries

variable {T : Config} {s s' : State T} {origin : T.Origin} {call : Call T}
  {registryId : T.Ss58Identifier} {d : RegistryDetails T}

def State.Exclusive (s : State T) : Prop :=
  ∀ registryId d, s.registryInfo.get registryId = some d → ¬ (d.archived = true ∧ d.revoked = true)

def Call.Restores (registryId : T.Ss58Identifier) : Call T → Prop
  | .restore id _ => id = registryId
  | _ => False

def Call.Reinstates (registryId : T.Ss58Identifier) : Call T → Prop
  | .reinstate id _ => id = registryId
  | _ => False

def Call.flagChange? : Call T → Option (T.Ss58Identifier × (RegistryDetails T → RegistryDetails T))
  | .archive id _ => some (id, fun d => { d with archived := true })
  | .restore id _ => some (id, fun d => { d with archived := false })
  | .revoke id _ => some (id, fun d => { d with revoked := true })
  | .reinstate id _ => some (id, fun d => { d with revoked := false })
  | _ => none

theorem State.Exclusive.insert (hs : s.Exclusive) {d' : RegistryDetails T}
    (hinfo : s'.registryInfo = s.registryInfo.insert registryId d')
    (hd' : ¬ (d'.archived = true ∧ d'.revoked = true)) : s'.Exclusive := by
  intro other e he
  rw [hinfo, StorageMap.get_insert] at he
  split at he
  . injection he with he
    rw [← he]
    exact hd'
  . exact hs other e he

theorem RegistriesStep.exclusive (h : RegistriesStep s origin s' call) (hs : s.Exclusive)
    : s'.Exclusive := by
  cases h with
  | add _ _ _ hinfo _ =>
    unfold State.Exclusive
    rw [hinfo]
    exact hs
  | remove _ _ _ _ _ hinfo _ =>
    unfold State.Exclusive
    rw [hinfo]
    exact hs
  | create _ _ _ _ hinfo _ => exact hs.insert hinfo (by simp)
  | update hopen hinfo _ => exact hs.insert hinfo (by simp [hopen.archived])
  | revoke hopen hinfo _ => exact hs.insert hinfo (by simp [hopen.archived])
  | reinstate _ _ hinfo _ => exact hs.insert hinfo (by simp)
  | archive hopen hinfo _ => exact hs.insert hinfo (by simp [hopen.revoked])
  | restore _ _ hinfo _ => exact hs.insert hinfo (by simp)

/--
The registry is archived and the call does not restore it, or it is revoked and the call does not
reinstate it.
-/
def Call.Frozen (call : Call T) (registryId : T.Ss58Identifier) (d : RegistryDetails T) : Prop :=
  (d.archived = true ∧ ¬ call.Restores registryId) ∨ (d.revoked = true ∧ ¬ call.Reinstates registryId)

theorem State.Open.ne_of_frozen {id : T.Ss58Identifier} {d' : RegistryDetails T}
    (hopen : s.Open id d') (hd : s.registryInfo.get registryId = some d)
    (hfrozen : d.archived = true ∨ d.revoked = true) : registryId ≠ id := by
  rintro rfl
  have hopen' := hopen.of_get hd
  simp [hopen'.archived, hopen'.revoked] at hfrozen

theorem Call.Frozen.flag (h : call.Frozen registryId d) : d.archived = true ∨ d.revoked = true :=
  h.imp And.left And.left

theorem RegistriesStep.frozen (h : RegistriesStep s origin s' call) (hs : s.Exclusive)
    (hd : s.registryInfo.get registryId = some d) (hfrozen : call.Frozen registryId d)
    : s'.registryInfo.get registryId = some d := by
  have hother : ∀ {id d'}, registryId ≠ id → s'.registryInfo = s.registryInfo.insert id d' →
      s'.registryInfo.get registryId = some d := by
    intro id d' hne hinfo
    rw [hinfo, StorageMap.get_insert_of_ne _ _ hne, hd]
  cases h with
  | add _ _ _ hinfo _ => rw [hinfo, hd]
  | remove _ _ _ _ _ hinfo _ => rw [hinfo, hd]
  | create _ _ _ hfresh hinfo _ =>
    apply hother _ hinfo
    exact StorageMap.ne_of_get hfresh hd
  | update hopen hinfo _ => exact hother (hopen.ne_of_frozen hd hfrozen.flag) hinfo
  | revoke hopen hinfo _ => exact hother (hopen.ne_of_frozen hd hfrozen.flag) hinfo
  | archive hopen hinfo _ => exact hother (hopen.ne_of_frozen hd hfrozen.flag) hinfo
  | reinstate hd' hrevoked hinfo _ =>
    apply hother _ hinfo
    rintro rfl
    rw [hd, Option.some.injEq] at hd'
    subst hd'
    rcases hfrozen with ⟨harchived, _⟩ | ⟨_, hcall⟩
    . exact hs _ _ hd ⟨harchived, hrevoked⟩
    . exact hcall rfl
  | restore hd' harchived hinfo _ =>
    apply hother _ hinfo
    rintro rfl
    rw [hd, Option.some.injEq] at hd'
    subst hd'
    rcases hfrozen with ⟨_, hcall⟩ | ⟨hrevoked, _⟩
    . exact hcall rfl
    . exact hs _ _ hd ⟨harchived, hrevoked⟩

theorem RegistriesStep.flagChange (h : RegistriesStep s origin s' call)
    {change : RegistryDetails T → RegistryDetails T}
    (hcall : call.flagChange? = some (registryId, change))
    : ∃ d, s.registryInfo.get registryId = some d ∧ change d ≠ d ∧
        s'.registryInfo = s.registryInfo.insert registryId (change d) := by
  cases h with
  | add hcall' _ _ _ _ => rcases hcall' with rfl | rfl | rfl <;> cases hcall
  | remove _ _ _ _ _ _ _ => cases hcall
  | create _ _ _ _ _ _ => cases hcall
  | update _ _ _ => cases hcall
  | revoke hopen hinfo _ =>
    cases hcall
    refine ⟨_, hopen.stored, ?_, hinfo⟩
    apply ne_of_apply_ne RegistryDetails.revoked
    simp [hopen.revoked]
  | reinstate hd hrevoked hinfo _ =>
    cases hcall
    refine ⟨_, hd, ?_, hinfo⟩
    apply ne_of_apply_ne RegistryDetails.revoked
    simp [hrevoked]
  | archive hopen hinfo _ =>
    cases hcall
    refine ⟨_, hopen.stored, ?_, hinfo⟩
    apply ne_of_apply_ne RegistryDetails.archived
    simp [hopen.archived]
  | restore hd harchived hinfo _ =>
    cases hcall
    refine ⟨_, hd, ?_, hinfo⟩
    apply ne_of_apply_ne RegistryDetails.archived
    simp [harchived]

end Registries
