import Cord.Frame.Delegation
import Cord.Registries.Lemmas.Calls

/-!
This module contains where the authorizations of a registry come from: each one that is stored goes back to
the creator of the registry, who alone can let others assert.
-/

open Frame Identifier

namespace Registries

variable {T : Config} {s s' : State T} {origin : T.Origin} {call : Call T}
  {a b : RegistryAuthorization T} {creator : T.AccountId} {registryId : T.Ss58Identifier}

section Creators

def CreatorsKept (s s' : State T) : Prop :=
  ∀ registryId d, s.registryInfo.get registryId = some d →
    ∃ d', s'.registryInfo.get registryId = some d' ∧ d'.creator = d.creator

theorem creatorsKept_of_eq (h : s'.registryInfo = s.registryInfo) : CreatorsKept s s' := by
  intro registryId d hd
  rw [h]
  exact ⟨d, hd, rfl⟩

theorem creatorsKept_of_insert {d d' : RegistryDetails T} (hd : s.registryInfo.get registryId = some d)
    (h : s'.registryInfo = s.registryInfo.insert registryId d') (hcreator : d'.creator = d.creator)
    : CreatorsKept s s' := by
  intro other e he
  rw [h, StorageMap.get_insert]
  split
  . next heq =>
    subst heq
    obtain rfl := Option.some.inj (hd.symm.trans he)
    exact ⟨d', rfl, hcreator⟩
  . exact ⟨e, he, rfl⟩

theorem RegistriesStep.creatorsKept (h : RegistriesStep s origin s' call) : CreatorsKept s s' := by
  cases h with
  | add _ _ _ hinfo => exact creatorsKept_of_eq hinfo
  | remove _ _ _ _ _ hinfo => exact creatorsKept_of_eq hinfo
  | create _ _ _ hfresh hinfo =>
    intro other e he
    rw [hinfo, StorageMap.get_insert_of_ne _ _ (StorageMap.ne_of_get hfresh he)]
    exact ⟨e, he, rfl⟩
  | update hopen hinfo => exact creatorsKept_of_insert hopen.stored hinfo rfl
  | revoke hopen hinfo => exact creatorsKept_of_insert hopen.stored hinfo rfl
  | reinstate hd _ hinfo => exact creatorsKept_of_insert hd hinfo rfl
  | archive hopen hinfo => exact creatorsKept_of_insert hopen.stored hinfo rfl
  | restore hd _ hinfo => exact creatorsKept_of_insert hd hinfo rfl

end Creators

section Grants

def Call.grantBy? (call : Call T) (creator : T.AccountId) : Option (RegistryAuthorization T) :=
  -- The authorization that the call stores in case it succeeds.
  match call with
  | .addDelegate registryId delegate _ => some ⟨registryId, delegate, .assert, creator⟩
  | .addAdminDelegate registryId delegate _ => some ⟨registryId, delegate, .admin, creator⟩
  | .addDelegator registryId delegate _ => some ⟨registryId, delegate, .delegate, creator⟩
  | .create _ digest _ _ =>
    (registryIdentifier T digest creator).map fun identifier => ⟨identifier, creator, .all, creator⟩
  | _ => none

def Call.grant? (call : Call T) (origin : T.Origin) : Option (RegistryAuthorization T) :=
  (T.ensureSigned origin).bind call.grantBy?

theorem grant?_of_signed (h : T.ensureSigned origin = some creator)
    : call.grant? origin = call.grantBy? creator := by
  rw [Call.grant?, h, Option.bind_some]

theorem grant?_eq_none (h : ∀ creator, call.grantBy? creator = none) : call.grant? origin = none :=
  Option.bind_eq_none_iff.mpr fun creator _ => h creator

def RegistryAuthorization.ofCreator (registryId : T.Ss58Identifier) (creator : T.AccountId)
    : RegistryAuthorization T :=
  ⟨registryId, creator, .all, creator⟩

def Permissions.required (p : Permissions) : Permissions :=
  if p = .assert then .union .delegate .admin else .admin

structure RegistryAuthorization.Licenses (b a : RegistryAuthorization T) : Prop where
  registry : b.registryId = a.registryId
  delegator : b.delegate = a.delegator
  granted : a.permissions ∈ [.assert, .admin, .delegate]
  contains : b.permissions.contains a.permissions.required = true

def delegation (T : Config) : Delegation T.Ss58Identifier (RegistryAuthorization T) where
  address a := authorizationIdentifier T a.registryId a.delegate a.delegator
  licenses := RegistryAuthorization.Licenses

def State.RootOf (s : State T) (a r : RegistryAuthorization T) : Prop :=
  ∃ d, s.registryInfo.get a.registryId = some d ∧ r = .ofCreator a.registryId d.creator

theorem State.RootOf.kept {r : RegistryAuthorization T} (h : s.RootOf a r)
    (hkept : CreatorsKept s s') : s'.RootOf a r := by
  obtain ⟨d, hd, rfl⟩ := h
  obtain ⟨d', hd', hcreator⟩ := hkept _ _ hd
  refine ⟨d', hd', ?_⟩
  rw [hcreator]

theorem State.RootOf.licensed {r : RegistryAuthorization T} (h : s.RootOf b r)
    (hlicensed : b.Licenses a) : s.RootOf a r := by
  obtain ⟨d, hd, rfl⟩ := h
  rw [hlicensed.registry] at hd ⊢
  exact ⟨d, hd, rfl⟩

/--
What a successful call does to the authorizations, by what it grants.
-/
abbrev AuthorizationsStep (s : State T) (grant? : Option (RegistryAuthorization T)) (s' : State T)
    : Prop :=
  (delegation T).Step (fun a => s'.RootOf a a) s.authorizations grant? s'.authorizations

theorem ensureAuthorizationWith_authorizes {validate : T.Ss58Identifier → CallM T Unit}
    {required : Permissions} {authorization : T.Ss58Identifier} {who : T.AccountId}
    (h : Succeeds (ensureAuthorizationWith validate required authorization who) s registryId s')
    : ∃ a, s.authorizations.get authorization = some a ∧ a.delegate = who ∧
        a.registryId = registryId ∧ a.permissions.contains required = true := by
  simp only [ensureAuthorizationWith, Succeeds.bind_iff, Succeeds.get_iff, Succeeds.okOr_iff,
    Succeeds.ensure_iff, Succeeds.pure_iff, and_assoc, exists_and_left, exists_eq_left,
    exists_const] at h
  obtain ⟨a, ha, hdelegate, _, _, _, hpermissions, rfl, _⟩ := h
  exact ⟨a, ha, hdelegate, rfl, hpermissions⟩

theorem addDelegateWith_authorizations {required permissions : Permissions}
    {authorization : T.Ss58Identifier} {delegate : T.AccountId}
    (hrequired : permissions.required = required)
    (hgranted : permissions ∈ [.assert, .admin, .delegate])
    (hcall : ∀ creator, call.grantBy? creator = some ⟨registryId, delegate, permissions, creator⟩)
    (h : Succeeds (addDelegateWith
      (ensureAuthorizationWith validateRegistryForTransaction required) permissions origin registryId
      delegate authorization) s () s')
    : AuthorizationsStep s (call.grant? origin) s' := by
  simp only [addDelegateWith, registryDelegateAddition, Succeeds.bind_iff,
    Succeeds.ensureOrigin_iff, Succeeds.ensure_iff, Succeeds.okOr_iff, Succeeds.get_iff,
    insertDelegates_iff, insertAuthorization_iff, updateActivity_iff, depositEvent_iff, and_assoc,
    exists_and_left, exists_eq_left, exists_const] at h
  obtain ⟨creator, hsigned, _, t, hauth, rfl, authorizationId, hid, _, delegates, _, rfl⟩ := h
  obtain ⟨b, hb, hdelegate, hregistry, hcontains⟩ := ensureAuthorizationWith_authorizes hauth
  obtain ⟨rfl, _⟩ := ensureAuthorizationWith_open hauth
  rw [grant?_of_signed hsigned, hcall]
  apply Delegation.Step.grant hid hb
  refine ⟨hregistry, hdelegate, hgranted, ?_⟩
  rw [hrequired]
  exact hcontains

theorem authorizationsStep_of_eq (hcall : ∀ creator, call.grantBy? creator = none)
    (h : s'.authorizations = s.authorizations) : AuthorizationsStep s (call.grant? origin) s' := by
  rw [grant?_eq_none hcall, AuthorizationsStep, h]
  exact .keep

theorem dispatch_authorizations (h : Succeeds (call.dispatch origin) s () s')
    : AuthorizationsStep s (call.grant? origin) s' := by
  have hstep := Call.dispatch_step h
  cases call with
  | addDelegate registryId delegate authorization =>
    exact addDelegateWith_authorizations rfl (by decide) (fun _ => rfl) h
  | addAdminDelegate registryId delegate authorization =>
    exact addDelegateWith_authorizations rfl (by decide) (fun _ => rfl) h
  | addDelegator registryId delegate authorization =>
    exact addDelegateWith_authorizations rfl (by decide) (fun _ => rfl) h
  | removeDelegate registryId removeAuthorization authorization =>
    cases hstep with
    | add hcall => simp at hcall
    | remove _ _ _ _ _ _ hauthorizations =>
      rw [grant?_eq_none fun _ => rfl, AuthorizationsStep, hauthorizations]
      exact .remove
  | create registryId digest schemaId blob =>
    cases hstep with
    | add hcall => simp at hcall
    | @create _ identifier _ _ _ _ _ hcreator hidentifier hauthorizationId _ hinfo hauthorizations =>
      have hstored := (congrArg (fun info => info.get identifier) hinfo).trans
        (StorageMap.get_insert_self _ _ _)
      rw [grant?_of_signed hcreator, Call.grantBy?, hidentifier, AuthorizationsStep, hauthorizations]
      exact .root hauthorizationId ⟨_, hstored, rfl⟩
  | revoke | reinstate | update | archive | restore =>
    apply authorizationsStep_of_eq fun _ => rfl
    cases hstep with
    | add hcall => simp at hcall
    | _ => assumption

end Grants

section Traced

variable {record : List (RegistryAuthorization T)}

def State.Traced (s : State T) (record : List (RegistryAuthorization T)) : Prop :=
  (delegation T).Traced s.RootOf s.authorizations record

theorem State.Traced.step {ext : Extrinsic T} (h : s.Traced record)
    (hs : Succeeds ext.dispatch s () s')
    : s'.Traced (record ++ (ext.call.grant? ext.origin).toList) := by
  have hcall := Extrinsic.dispatch_iff.mp hs
  have hstep := dispatch_authorizations (s := s.atTime ext.timepoint) hcall
  have hkept := (Call.dispatch_step (s := s.atTime ext.timepoint) hcall).creatorsKept
  apply Delegation.Traced.step h hstep
  . intro a r hr
    exact hr.kept hkept
  . intro b a r hlicensed hr
    exact hr.licensed hlicensed

theorem State.Traced.congr (h : s.Traced record) (hauthorizations : s'.authorizations = s.authorizations)
    (hinfo : s'.registryInfo = s.registryInfo) : s'.Traced record := by
  have hroot : s'.RootOf = s.RootOf := by
    unfold State.RootOf
    rw [hinfo]
  rw [State.Traced, hroot, hauthorizations]
  exact h

/--
The authorization is that of the creator of the registry, or it is one to assert which the creator has
granted.
-/
def RegistryAuthorization.Asserts (a : RegistryAuthorization T) (creator : T.AccountId)
    (record : List (RegistryAuthorization T)) : Prop :=
  a = .ofCreator a.registryId creator ∨
    a ∈ record ∧ a.permissions = .assert ∧ a.delegator = creator

theorem RegistryAuthorization.Asserts.append (h : a.Asserts creator record)
    (later : List (RegistryAuthorization T)) : a.Asserts creator (record ++ later) := by
  rcases h with hroot | ⟨hmem, hassert⟩
  . exact .inl hroot
  . exact .inr ⟨List.mem_append_left later hmem, hassert⟩

/-
The flags one needs to grant the permission to assert are those of the creator alone.
-/
theorem eq_ofCreator_of_contains
    (h : GoesBackTo (.ofCreator registryId creator) RegistryAuthorization.Licenses record b)
    (hcontains : b.permissions.contains (.union .delegate .admin) = true)
    : b = .ofCreator registryId creator := by
  cases h with
  | root => rfl
  | granted _ licensed =>
    have hgranted := licensed.granted
    generalize b.permissions = p at hgranted hcontains
    simp only [List.mem_cons, List.not_mem_nil, or_false] at hgranted
    rcases hgranted with rfl | rfl | rfl <;> cases hcontains

theorem asserts_of_goesBackTo
    (h : GoesBackTo (.ofCreator a.registryId creator) RegistryAuthorization.Licenses record a)
    (hcontains : a.permissions.contains .assert = true) : a.Asserts creator record := by
  generalize hregistry : a.registryId = registryId at h
  cases h with
  | root =>
    left
    rw [hregistry]
  | @granted _ b mem licensed back =>
    right
    have hgranted := licensed.granted
    have hassert : a.permissions = .assert := by
      generalize a.permissions = p at hgranted hcontains
      simp only [List.mem_cons, List.not_mem_nil, or_false] at hgranted
      rcases hgranted with rfl | rfl | rfl
      . rfl
      . cases hcontains
      . cases hcontains
    have hrequired := licensed.contains
    rw [hassert] at hrequired
    refine ⟨mem, hassert, ?_⟩
    rw [← licensed.delegator, eq_ofCreator_of_contains back hrequired]
    rfl

end Traced

end Registries
