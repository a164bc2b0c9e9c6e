import Cord.ChainSpace.Lemmas.Permissions
import Cord.ChainSpace.Lemmas.Trail
import Cord.Frame.Delegation

/-!
This module contains where authorizations come from: each one that is stored goes back to the creator of
its space, and what a space is created as never changes.
-/

open Frame Identifier

namespace ChainSpace

variable {T : Config} {s s' : State T} {origin : T.Origin} {call : Call T} {ext : Extrinsic T}
  {spaceId id : T.Ss58Identifier} {d d' : SpaceDetails T} {a b : SpaceAuthorization T}

section Identity

def SpaceDetails.SameIdentity (d d' : SpaceDetails T) : Prop :=
  d'.code = d.code ∧ d'.creator = d.creator ∧ d'.parent = d.parent

def IdentityKept (spaces spaces' : StorageMap T.Ss58Identifier (SpaceDetails T)) : Prop :=
  ∀ spaceId d, spaces.get spaceId = some d →
    ∃ d', spaces'.get spaceId = some d' ∧ d.SameIdentity d'

namespace IdentityKept

variable {spaces spaces' : StorageMap T.Ss58Identifier (SpaceDetails T)}

theorem refl (spaces : StorageMap T.Ss58Identifier (SpaceDetails T)) : IdentityKept spaces spaces := by
  intro spaceId d hd
  exact ⟨d, hd, rfl, rfl, rfl⟩

theorem insert (h : IdentityKept spaces spaces') (hd : spaces.get spaceId = some d)
    (hsame : d.SameIdentity d') : IdentityKept spaces (spaces'.insert spaceId d') := by
  intro other e he
  rw [StorageMap.get_insert]
  split
  . next heq =>
    subst heq
    obtain rfl : d = e := Option.some.inj (hd.symm.trans he)
    exact ⟨d', rfl, hsame⟩
  . exact h other e he

theorem insert_of_fresh (h : IdentityKept spaces spaces') (hfresh : spaces.get spaceId = none)
    : IdentityKept spaces (spaces'.insert spaceId d') := by
  intro other e he
  rw [StorageMap.get_insert_of_ne _ _ (StorageMap.ne_of_get hfresh he)]
  exact h other e he

end IdentityKept

theorem State.MovesReserve.identityKept {newTxnCapacity : UInt64} {p : SpaceDetails T}
    (h : s.MovesReserve spaceId newTxnCapacity d p s') (hd : s.spaces.get spaceId = some d)
    : IdentityKept s.spaces s'.spaces := by
  rw [h.spaces]
  refine .insert (.insert (.refl _) h.parent ?_) hd ?_
  . exact ⟨rfl, rfl, rfl⟩
  . exact ⟨rfl, rfl, rfl⟩

theorem dispatch_identityKept (h : Succeeds (call.dispatch origin) s () s')
    : IdentityKept s.spaces s'.spaces := by
  have hrefl := IdentityKept.refl s.spaces
  cases call with
  | addDelegate spaceId delegate authorization =>
    obtain ⟨_, _, _, _, _, hadd⟩ := addDelegate_spec h
    rw [hadd.spaces]
    exact hrefl.insert hadd.space ⟨rfl, rfl, rfl⟩
  | addAdminDelegate spaceId delegate authorization =>
    obtain ⟨_, _, _, _, _, hadd⟩ := addAdminDelegate_spec h
    rw [hadd.spaces]
    exact hrefl.insert hadd.space ⟨rfl, rfl, rfl⟩
  | addDelegator spaceId delegate authorization =>
    obtain ⟨_, _, _, _, _, hadd⟩ := addDelegator_spec h
    rw [hadd.spaces]
    exact hrefl.insert hadd.space ⟨rfl, rfl, rfl⟩
  | removeDelegate spaceId removeAuthorization authorization =>
    obtain ⟨_, _, _, _, _, hremove⟩ := removeDelegate_spec h
    rw [hremove.spaces]
    exact hrefl.insert hremove.space ⟨rfl, rfl, rfl⟩
  | create spaceCode =>
    obtain ⟨_, _, _, _, hanchor, hspaces⟩ := create_spec h
    rw [hspaces]
    exact hrefl.insert_of_fresh hanchor.fresh
  | approve spaceId txnCapacity =>
    obtain ⟨_, hd, _, _, hupdate⟩ := approve_spec h
    rw [hupdate.spaces]
    exact hrefl.insert hd ⟨rfl, rfl, rfl⟩
  | archive spaceId authorization =>
    obtain ⟨_, _, _, _, hd, _, hupdate⟩ := archive_spec h
    rw [hupdate.spaces]
    exact hrefl.insert hd ⟨rfl, rfl, rfl⟩
  | restore spaceId authorization =>
    obtain ⟨_, _, _, _, hd, _, hupdate⟩ := restore_spec h
    rw [hupdate.spaces]
    exact hrefl.insert hd ⟨rfl, rfl, rfl⟩
  | updateTransactionCapacity spaceId newTxnCapacity =>
    obtain ⟨_, hd, _, _, _, ⟨_, hupdate⟩ | ⟨_, hmove⟩⟩ := updateTransactionCapacity_spec h
    . rw [hupdate.spaces]
      exact hrefl.insert hd ⟨rfl, rfl, rfl⟩
    . exact hmove.identityKept hd
  | resetTransactionCount spaceId =>
    obtain ⟨_, hd, _, _, hupdate⟩ := resetTransactionCount_spec h
    rw [hupdate.spaces]
    exact hrefl.insert hd ⟨rfl, rfl, rfl⟩
  | approvalRevoke spaceId =>
    obtain ⟨_, hd, _, _, hupdate⟩ := approvalRevoke_spec h
    rw [hupdate.spaces]
    exact hrefl.insert hd ⟨rfl, rfl, rfl⟩
  | approvalRestore spaceId =>
    obtain ⟨_, hd, _, _, hupdate⟩ := approvalRestore_spec h
    rw [hupdate.spaces]
    exact hrefl.insert hd ⟨rfl, rfl, rfl⟩
  | subspaceCreate spaceCode count spaceId =>
    obtain ⟨_, _, _, _, _, _, hd, _, _, _, _, hanchor, hspaces⟩ := subspaceCreate_spec h
    rw [hspaces]
    refine .insert_of_fresh (.insert hrefl hd ?_) hanchor.fresh
    exact ⟨rfl, rfl, rfl⟩
  | updateTransactionCapacitySub spaceId newTxnCapacity =>
    obtain ⟨_, _, hd, _, _, _, hmove⟩ := updateTransactionCapacitySub_spec h
    exact hmove.identityKept hd

end Identity

section Grants

def Call.grantBy? (call : Call T) (creator : T.SpaceCreatorId) : Option (SpaceAuthorization T) :=
  -- The authorization that the call stores in case it succeeds.
  match call with
  | .addDelegate spaceId delegate _ => some ⟨spaceId, delegate, .assert, creator⟩
  | .addAdminDelegate spaceId delegate _ => some ⟨spaceId, delegate, .admin, creator⟩
  | .addDelegator spaceId delegate _ => some ⟨spaceId, delegate, .delegate, creator⟩
  | .create spaceCode =>
    (spaceIdentifier T spaceCode creator).map fun identifier => ⟨identifier, creator, .all, creator⟩
  | .subspaceCreate spaceCode _ _ =>
    (spaceIdentifier T spaceCode creator).map fun identifier => ⟨identifier, creator, .all, creator⟩
  | _ => none

def Call.grant? (call : Call T) (origin : T.Origin) : Option (SpaceAuthorization T) :=
  (T.ensureOrigin origin).bind call.grantBy?

theorem grant?_of_origin {creator : T.SpaceCreatorId} (h : T.ensureOrigin origin = some creator)
    : call.grant? origin = call.grantBy? creator := by
  rw [Call.grant?, h, Option.bind_some]

theorem grant?_eq_none (h : ∀ creator, call.grantBy? creator = none) : call.grant? origin = none :=
  Option.bind_eq_none_iff.mpr fun creator _ => h creator

def SpaceAuthorization.identifier? (a : SpaceAuthorization T) : Option T.Ss58Identifier :=
  authorizationIdentifier T a.spaceId a.delegate a.delegator

def SpaceAuthorization.ofCreator (spaceId : T.Ss58Identifier) (creator : T.SpaceCreatorId)
    : SpaceAuthorization T :=
  ⟨spaceId, creator, .all, creator⟩

/-
Which permissions one needs to grant others. All of them are only held by who creates a space.
-/
def Permissions.grantors (p : Permissions) : List Permissions :=
  if p = .assert then
    [.all]
  else if p = .all then
    []
  else
    [.all, .admin]

structure SpaceAuthorization.Licenses (b a : SpaceAuthorization T) : Prop where
  space : b.spaceId = a.spaceId
  delegator : b.delegate = a.delegator
  permissions : b.permissions ∈ a.permissions.grantors

def delegation (T : Config) : Delegation T.Ss58Identifier (SpaceAuthorization T) where
  address := SpaceAuthorization.identifier?
  licenses := SpaceAuthorization.Licenses

def State.RootOf (s : State T) (a r : SpaceAuthorization T) : Prop :=
  ∃ d, s.spaces.get a.spaceId = some d ∧ r = .ofCreator a.spaceId d.creator

theorem State.RootOf.kept {r : SpaceAuthorization T} (h : s.RootOf a r)
    (hspaces : IdentityKept s.spaces s'.spaces) : s'.RootOf a r := by
  obtain ⟨d, hd, rfl⟩ := h
  obtain ⟨d', hd', _, hcreator, _⟩ := hspaces _ _ hd
  refine ⟨d', hd', ?_⟩
  rw [hcreator]

theorem State.RootOf.licensed {r : SpaceAuthorization T} (h : s.RootOf b r) (hlicensed : b.Licenses a)
    : s.RootOf a r := by
  obtain ⟨d, hd, rfl⟩ := h
  rw [hlicensed.space] at hd ⊢
  exact ⟨d, hd, rfl⟩

/--
What a successful call does to the authorizations, by what it grants.
-/
abbrev AuthorizationsStep (s : State T) (grant? : Option (SpaceAuthorization T)) (s' : State T) : Prop :=
  (delegation T).Step (fun a => s'.RootOf a a) s.authorizations grant? s'.authorizations

/-
The flags a call asks for leave only few of the permissions that are ever granted.
-/
theorem grantors_of_contains {p q required : Permissions} (hp : p ∈ Permissions.granted)
    (h : p.contains required = true)
    (hq : (q, required) ∈ [(.assert, Permissions.union .delegate .admin), (.admin, .admin),
      (.delegate, .admin)])
    : p ∈ q.grantors := by
  simp only [Permissions.granted, List.mem_cons, List.not_mem_nil, or_false, Prod.mk.injEq] at hp hq
  rcases hq with ⟨rfl, rfl⟩ | ⟨rfl, rfl⟩ | ⟨rfl, rfl⟩ <;>
    rcases hp with rfl | rfl | rfl | rfl <;> revert h <;> decide

theorem State.AddsDelegate.authorizationsStep {authorization authorizationId : T.Ss58Identifier}
    {creator delegate : T.SpaceCreatorId} {permissions required : Permissions}
    {delegates : BoundedVec T.SpaceCreatorId T.maxSpaceDelegates} (hgranted : s.Granted)
    (hrequired : (permissions, required) ∈ [(.assert, Permissions.union .delegate .admin),
      (.admin, .admin), (.delegate, .admin)])
    (h : s.AddsDelegate spaceId authorization creator delegate permissions required d
      authorizationId delegates s')
    : AuthorizationsStep s (some ⟨spaceId, delegate, permissions, creator⟩) s' := by
  obtain ⟨b, hb, hdelegate, hspace, hcontains⟩ := h.authorizes
  rw [AuthorizationsStep, h.authorizations]
  apply Delegation.Step.grant h.authIdentifier hb
  exact ⟨hspace, hdelegate, grantors_of_contains (hgranted _ _ hb) hcontains hrequired⟩

theorem State.UpdatesSpace.authorizationsStep (h : s.UpdatesSpace spaceId d s')
    (hcall : ∀ creator, call.grantBy? creator = none)
    : AuthorizationsStep s (call.grant? origin) s' := by
  rw [grant?_eq_none hcall, AuthorizationsStep, h.authorizations]
  exact .keep

theorem State.MovesReserve.authorizationsStep {newTxnCapacity : UInt64} {p : SpaceDetails T}
    (h : s.MovesReserve spaceId newTxnCapacity d p s')
    (hcall : ∀ creator, call.grantBy? creator = none)
    : AuthorizationsStep s (call.grant? origin) s' := by
  rw [grant?_eq_none hcall, AuthorizationsStep, h.authorizations]
  exact .keep

theorem dispatch_authorizations (hgranted : s.Granted) (h : Succeeds (call.dispatch origin) s () s')
    : AuthorizationsStep s (call.grant? origin) s' := by
  cases call with
  | addDelegate spaceId delegate authorization =>
    obtain ⟨_, _, _, _, horigin, hadd⟩ := addDelegate_spec h
    rw [grant?_of_origin horigin]
    exact hadd.authorizationsStep hgranted (by decide)
  | addAdminDelegate spaceId delegate authorization =>
    obtain ⟨_, _, _, _, horigin, hadd⟩ := addAdminDelegate_spec h
    rw [grant?_of_origin horigin]
    exact hadd.authorizationsStep hgranted (by decide)
  | addDelegator spaceId delegate authorization =>
    obtain ⟨_, _, _, _, horigin, hadd⟩ := addDelegator_spec h
    rw [grant?_of_origin horigin]
    exact hadd.authorizationsStep hgranted (by decide)
  | removeDelegate spaceId removeAuthorization authorization =>
    obtain ⟨_, _, _, _, _, hremove⟩ := removeDelegate_spec h
    rw [grant?_eq_none fun _ => rfl, AuthorizationsStep, hremove.authorizations]
    exact .remove
  | create spaceCode =>
    obtain ⟨_, identifier, _, _, horigin, hid, hanchor, hspaces⟩ := create_anchors h
    have hspace := (congrArg (fun spaces => spaces.get identifier) hspaces).trans
      (StorageMap.get_insert_self _ _ _)
    rw [grant?_of_origin horigin, Call.grantBy?, hid, AuthorizationsStep, hanchor.authorizations]
    exact .root hanchor.authIdentifier ⟨_, hspace, rfl⟩
  | subspaceCreate spaceCode count spaceId =>
    obtain ⟨_, _, _, identifier, _, _, horigin, hid, _, hanchor, hspaces⟩ :=
      subspaceCreate_anchors h
    have hspace := (congrArg (fun spaces => spaces.get identifier) hspaces).trans
      (StorageMap.get_insert_self _ _ _)
    rw [grant?_of_origin horigin, Call.grantBy?, hid, AuthorizationsStep, hanchor.authorizations]
    exact .root hanchor.authIdentifier ⟨_, hspace, rfl⟩
  | approve spaceId txnCapacity =>
    obtain ⟨_, _, _, _, hupdate⟩ := approve_spec h
    exact hupdate.authorizationsStep fun _ => rfl
  | archive spaceId authorization =>
    obtain ⟨_, _, _, _, _, _, hupdate⟩ := archive_spec h
    exact hupdate.authorizationsStep fun _ => rfl
  | restore spaceId authorization =>
    obtain ⟨_, _, _, _, _, _, hupdate⟩ := restore_spec h
    exact hupdate.authorizationsStep fun _ => rfl
  | updateTransactionCapacity spaceId newTxnCapacity =>
    obtain ⟨_, _, _, _, _, ⟨_, hupdate⟩ | ⟨_, hmove⟩⟩ := updateTransactionCapacity_spec h
    . exact hupdate.authorizationsStep fun _ => rfl
    . exact hmove.authorizationsStep fun _ => rfl
  | resetTransactionCount spaceId =>
    obtain ⟨_, _, _, _, hupdate⟩ := resetTransactionCount_spec h
    exact hupdate.authorizationsStep fun _ => rfl
  | approvalRevoke spaceId =>
    obtain ⟨_, _, _, _, hupdate⟩ := approvalRevoke_spec h
    exact hupdate.authorizationsStep fun _ => rfl
  | approvalRestore spaceId =>
    obtain ⟨_, _, _, _, hupdate⟩ := approvalRestore_spec h
    exact hupdate.authorizationsStep fun _ => rfl
  | updateTransactionCapacitySub spaceId newTxnCapacity =>
    obtain ⟨_, _, _, _, _, _, hmove⟩ := updateTransactionCapacitySub_spec h
    exact hmove.authorizationsStep fun _ => rfl

end Grants

section Runs

variable {record : List (SpaceAuthorization T)}

def Granting (spaceId : T.Ss58Identifier) (creator : T.SpaceCreatorId)
    (grants : List (SpaceAuthorization T)) : SpaceAuthorization T → Prop :=
  GoesBackTo (.ofCreator spaceId creator) SpaceAuthorization.Licenses grants

def granted (s : State T) (ext : Extrinsic T) : List (SpaceAuthorization T) :=
  if (machine T).accepts s ext then (ext.call.grant? ext.origin).toList else []

structure Provenance (s : State T) (record : List (SpaceAuthorization T)) : Prop where
  granted : s.Granted
  traced : (delegation T).Traced s.RootOf s.authorizations record

theorem Provenance.step (h : Provenance s record) (hs : Succeeds ((machine T).dispatch ext) s () s')
    : Provenance s' (record ++ ChainSpace.granted s ext) := by
  have hcall := Extrinsic.dispatch_iff.mp hs
  have hkept := dispatch_identityKept (s := { s with timepoint := ext.timepoint }) hcall
  have hgranted := dispatch_granted (s := { s with timepoint := ext.timepoint }) h.granted hcall
  have hstep := dispatch_authorizations (s := { s with timepoint := ext.timepoint }) h.granted hcall
  rw [ChainSpace.granted, if_pos (Machine.Succeeds.accepts hs)]
  refine ⟨hgranted, h.traced.step hstep ?_ ?_⟩
  . intro a r hr
    exact hr.kept hkept
  . intro b a r hlicensed hr
    exact hr.licensed hlicensed

theorem granted_of_rejected (h : (machine T).accepts s ext = false)
    : ChainSpace.granted s ext = [] := by
  rw [ChainSpace.granted, h]
  rfl

def grants (T : Config) (exts : List (Extrinsic T)) : List (SpaceAuthorization T) :=
  (machine T).collect ChainSpace.granted (State.genesis T) exts

theorem run_provenance (exts : List (Extrinsic T))
    : Provenance ((machine T).run (State.genesis T) exts) (grants T exts) := by
  have hgenesis : Provenance (State.genesis T) [] := ⟨nofun, nofun, nofun⟩
  exact Machine.collect_invariant (fun _ _ => granted_of_rejected)
    (fun _ _ _ _ => Provenance.step) hgenesis

theorem Granting.eq_ofCreator {creator : T.SpaceCreatorId} (h : Granting spaceId creator record a)
    (hall : a.permissions = .all) : a = .ofCreator spaceId creator := by
  cases h with
  | root => rfl
  | granted mem licensed back =>
    have hgrantor := licensed.permissions
    rw [hall] at hgrantor
    cases hgrantor

theorem Granting.delegator_eq {creator : T.SpaceCreatorId} (h : Granting spaceId creator record a)
    (hassert : a.permissions = .assert) : a.delegator = creator := by
  cases h with
  | root => cases hassert
  | @granted _ b mem licensed back =>
    have hgrantor := licensed.permissions
    rw [hassert] at hgrantor
    have hall : b.permissions = .all := List.mem_singleton.mp hgrantor
    rw [← licensed.delegator, Granting.eq_ofCreator back hall]
    rfl

/--
Each authorization goes back to the creator of its space over grants that were accepted. To assert is
granted by the creator alone, and nobody else ever holds all of the permissions.
-/
theorem run_authorizations (exts : List (Extrinsic T))
    (ha : ((machine T).run (State.genesis T) exts).authorizations.get id = some a)
    : ∃ d, ((machine T).run (State.genesis T) exts).spaces.get a.spaceId = some d ∧
        authorizationIdentifier T a.spaceId a.delegate a.delegator = some id ∧
        Granting a.spaceId d.creator (grants T exts) a ∧
        (a.permissions = .assert → a.delegator = d.creator) ∧
        (a.permissions = .all → a.delegate = d.creator) := by
  have htraced := (run_provenance exts).traced
  obtain ⟨_, ⟨d, hd, rfl⟩, hback⟩ := htraced.goesBack id a ha
  have hgranting : Granting a.spaceId d.creator (grants T exts) a := hback
  refine ⟨d, hd, htraced.address id a ha, hgranting, hgranting.delegator_eq, ?_⟩
  intro hall
  rw [hgranting.eq_ofCreator hall]
  rfl

end Runs

section Plain

def adminChain : List (Extrinsic .plain) := [
    -- `1` creates a space and makes `2` an admin, who makes `3` one.
    plainExtrinsic (some 1) (.create [10]),
    plainExtrinsic none (.approve (plainSpace 10 1) 10),
    plainExtrinsic (some 1) (.addAdminDelegate (plainSpace 10 1) 2
      (plainAuthorization (plainSpace 10 1) 1 1)),
    plainExtrinsic (some 2) (.addAdminDelegate (plainSpace 10 1) 3
      (plainAuthorization (plainSpace 10 1) 2 1))
  ]

def chainedGrant : SpaceAuthorization .plain :=
  ⟨plainSpace 10 1, 3, .admin, 2⟩

theorem adminChain_authorizations
    : ∃ d, ((machine .plain).run (State.genesis .plain) adminChain).spaces.get (plainSpace 10 1) =
          some d ∧
        authorizationIdentifier .plain (plainSpace 10 1) 3 2 =
          some (plainAuthorization (plainSpace 10 1) 3 2) ∧
        Granting (plainSpace 10 1) d.creator (grants .plain adminChain) chainedGrant ∧
        (chainedGrant.permissions = .assert → chainedGrant.delegator = d.creator) ∧
        (chainedGrant.permissions = .all → chainedGrant.delegate = d.creator) := by
  have hstored : ((machine .plain).run (State.genesis .plain) adminChain).authorizations.get
      (plainAuthorization (plainSpace 10 1) 3 2) = some chainedGrant := by
    decide +kernel
  exact run_authorizations adminChain hstored

end Plain

end ChainSpace
