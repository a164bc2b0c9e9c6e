import Cord.ChainSpace.Lemmas.Steps

/-!
This module contains which permissions a delegate needs for which call. `Call.Allows` is the intended
matrix, `Call.required?` is what the checks ask for. The two differ because `contains` of a union asks
for all of the flags and because restoring a space asks for the flag of its entries.
-/

open Frame Identifier

namespace ChainSpace

variable {T : Config} {s s' : State T} {origin : T.Origin} {call : Call T} {id : T.Ss58Identifier}
  {authorization : T.Ss58Identifier} {a : SpaceAuthorization T} {d : SpaceDetails T}

def Call.Allows (call : Call T) (p : Permissions) : Prop :=
  match call with
  | .addDelegate .. => p.contains .delegate = true ∨ p.contains .admin = true
  | .addAdminDelegate .. | .addDelegator .. | .removeDelegate .. | .archive .. | .restore .. =>
    p.contains .admin = true
  | _ => True

def Call.delegateSpace? : Call T → Option T.Ss58Identifier
  | .addDelegate spaceId _ _ => some spaceId
  | .addAdminDelegate spaceId _ _ => some spaceId
  | .addDelegator spaceId _ _ => some spaceId
  | .removeDelegate spaceId _ _ => some spaceId
  | .archive spaceId _ => some spaceId
  | .restore spaceId _ => some spaceId
  | _ => none

def Call.isRestore : Call T → Bool
  | .restore .. => true
  | _ => false

def State.CanAdd (s : State T) (spaceId : T.Ss58Identifier) (delegate creator : T.SpaceCreatorId)
    : Prop :=
  ∃ id delegates, authorizationIdentifier T spaceId delegate creator = some id ∧
    s.authorizations.get id = none ∧ (s.delegatesOf spaceId).tryPush delegate = some delegates

def Call.Acceptable (call : Call T) (s : State T) (creator : T.SpaceCreatorId) : Prop :=
  match call with
  | .addDelegate spaceId delegate _ => s.CanAdd spaceId delegate creator
  | .addAdminDelegate spaceId delegate _ => s.CanAdd spaceId delegate creator
  | .addDelegator spaceId delegate _ => s.CanAdd spaceId delegate creator
  | .removeDelegate spaceId removeAuthorization _ =>
    ∃ removed, s.authorizations.get removeAuthorization = some removed ∧
      removed.delegate ∈ (s.delegatesOf spaceId).toList
  | _ => True

/--
Nothing but the permissions of the authorization `a` stands in the way of the call: it is made by the
delegate that `a` names, on the space of `a`, which is approved and has capacity left, and its other
arguments are acceptable.
-/
structure Admissible (s : State T) (ext : Extrinsic T) (a : SpaceAuthorization T)
    (d : SpaceDetails T) : Prop where
  origin : T.ensureOrigin ext.origin = some a.delegate
  named : ∃ id, ext.call.authorization? = some id ∧ s.authorizations.get id = some a
  own : ext.call.delegateSpace? = some a.spaceId
  stored : s.spaces.get a.spaceId = some d
  approved : d.approved = true
  archive : d.archive = ext.call.isRestore
  remaining : d.txnCapacity = 0 ∨ d.txnCount < d.txnCapacity
  acceptable : ext.call.Acceptable s a.delegate

def FollowsMatrix (s : State T) (ext : Extrinsic T) : Prop :=
  ∀ a d, Admissible s ext a d →
    ((machine T).accepts s ext = true ↔ ext.call.Allows a.permissions)

def Call.MatchesMatrix (call : Call T) (p : Permissions) (d : SpaceDetails T) : Prop :=
  match call with
  | .addDelegate .. => p = .assert ∨ p = .all ∧ ¬ d.LastUnit
  | .addAdminDelegate .. | .addDelegator .. | .archive .. =>
    p = .assert ∨ p = .delegate ∨ ¬ d.LastUnit
  | .restore .. => p = .delegate ∨ p = .assert ∧ d.LastUnit ∨ p = .all ∧ ¬ d.LastUnit
  | _ => True

def MatchesMatrix (s : State T) (ext : Extrinsic T) : Prop :=
  ∀ a d, Admissible s ext a d → ext.call.MatchesMatrix a.permissions d

section Granted

def Permissions.granted : List Permissions := [.all, .assert, .admin, .delegate]

theorem Permissions.all_granted : Permissions.all ∈ granted := by
  decide

theorem Permissions.assert_granted : Permissions.assert ∈ granted := by
  decide

theorem Permissions.admin_granted : Permissions.admin ∈ granted := by
  decide

theorem Permissions.delegate_granted : Permissions.delegate ∈ granted := by
  decide

def State.Granted (s : State T) : Prop :=
  ∀ id a, s.authorizations.get id = some a → a.permissions ∈ Permissions.granted

theorem granted_insert (h : s.Granted) (hpermissions : a.permissions ∈ Permissions.granted)
    (hauthorizations : s'.authorizations = s.authorizations.insert id a) : s'.Granted := by
  intro other b hb
  rw [hauthorizations, StorageMap.get_insert] at hb
  split at hb
  . injection hb with hb
    rw [← hb]
    exact hpermissions
  . exact h other b hb

theorem granted_remove (h : s.Granted)
    (hauthorizations : s'.authorizations = s.authorizations.remove id) : s'.Granted := by
  intro other b hb
  rw [hauthorizations, StorageMap.get_remove] at hb
  split at hb
  . cases hb
  . exact h other b hb

theorem granted_keep (h : s.Granted) (hauthorizations : s'.authorizations = s.authorizations)
    : s'.Granted := by
  intro other b hb
  rw [hauthorizations] at hb
  exact h other b hb

theorem dispatch_granted (hs : s.Granted) (h : Succeeds (call.dispatch origin) s () s')
    : s'.Granted := by
  cases call with
  | addDelegate spaceId delegate authorization =>
    obtain ⟨_, _, _, _, _, hadd⟩ := addDelegate_spec h
    exact granted_insert hs Permissions.assert_granted hadd.authorizations
  | addAdminDelegate spaceId delegate authorization =>
    obtain ⟨_, _, _, _, _, hadd⟩ := addAdminDelegate_spec h
    exact granted_insert hs Permissions.admin_granted hadd.authorizations
  | addDelegator spaceId delegate authorization =>
    obtain ⟨_, _, _, _, _, hadd⟩ := addDelegator_spec h
    exact granted_insert hs Permissions.delegate_granted hadd.authorizations
  | removeDelegate spaceId removeAuthorization authorization =>
    obtain ⟨_, _, _, _, _, hremove⟩ := removeDelegate_spec h
    exact granted_remove hs hremove.authorizations
  | create spaceCode =>
    obtain ⟨_, _, _, _, hanchor, _⟩ := create_spec h
    exact granted_insert hs Permissions.all_granted hanchor.authorizations
  | approve spaceId txnCapacity =>
    obtain ⟨_, _, _, _, hupdate⟩ := approve_spec h
    exact granted_keep hs hupdate.authorizations
  | archive spaceId authorization =>
    obtain ⟨_, _, _, _, _, _, hupdate⟩ := archive_spec h
    exact granted_keep hs hupdate.authorizations
  | restore spaceId authorization =>
    obtain ⟨_, _, _, _, _, _, hupdate⟩ := restore_spec h
    exact granted_keep hs hupdate.authorizations
  | updateTransactionCapacity spaceId newTxnCapacity =>
    obtain ⟨_, _, _, _, _, ⟨_, hupdate⟩ | ⟨_, hmove⟩⟩ := updateTransactionCapacity_spec h
    . exact granted_keep hs hupdate.authorizations
    . exact granted_keep hs hmove.authorizations
  | resetTransactionCount spaceId =>
    obtain ⟨_, _, _, _, hupdate⟩ := resetTransactionCount_spec h
    exact granted_keep hs hupdate.authorizations
  | approvalRevoke spaceId =>
    obtain ⟨_, _, _, _, hupdate⟩ := approvalRevoke_spec h
    exact granted_keep hs hupdate.authorizations
  | approvalRestore spaceId =>
    obtain ⟨_, _, _, _, hupdate⟩ := approvalRestore_spec h
    exact granted_keep hs hupdate.authorizations
  | subspaceCreate spaceCode count spaceId =>
    obtain ⟨_, _, _, _, _, _, _, _, _, _, _, hanchor, _⟩ := subspaceCreate_spec h
    exact granted_insert hs Permissions.all_granted hanchor.authorizations
  | updateTransactionCapacitySub spaceId newTxnCapacity =>
    obtain ⟨_, _, _, _, _, _, hmove⟩ := updateTransactionCapacitySub_spec h
    exact granted_keep hs hmove.authorizations

end Granted

section Required

def Call.required? : Call T → Option Permissions
  | .addDelegate .. => some (Permissions.union .delegate .admin)
  | .addAdminDelegate .. => some .admin
  | .addDelegator .. => some .admin
  | .removeDelegate .. => some .admin
  | .archive .. => some .admin
  | .restore .. => some .assert
  | _ => none

theorem addDelegateWith_accepts_iff {required permissions : Permissions}
    {ensureAuth : T.Ss58Identifier → T.SpaceCreatorId → CallM T T.Ss58Identifier}
    {delegate : T.SpaceCreatorId}
    (hauth : ∀ (delegate) (spaceId) (t t' : State T),
      Succeeds (ensureAuth authorization delegate) t spaceId t' ↔
        ∃ d, t.Authorizes required authorization delegate spaceId ∧
          t.spaces.get spaceId = some d ∧ d.charge.CanTransact ∧
          t' = { t with spaces := t.spaces.insert spaceId d.charge })
    (horigin : T.ensureOrigin origin = some a.delegate)
    (ha : s.authorizations.get authorization = some a) (hd : s.spaces.get a.spaceId = some d)
    (hadd : s.CanAdd a.spaceId delegate a.delegate)
    : (∃ s', Succeeds
          (addDelegateWith ensureAuth permissions origin a.spaceId delegate authorization) s () s')
        ↔
      a.permissions.contains required = true ∧ d.charge.CanTransact := by
  constructor
  . rintro ⟨s', h⟩
    obtain ⟨_, d', _, _, _, hadds⟩ := addDelegateWith_spec hauth h
    have hspace := hadds.space
    rw [hd, Option.some.injEq] at hspace
    subst hspace
    exact ⟨((authorizes_iff ha).mp hadds.authorizes).2.2, hadds.canTransact⟩
  . rintro ⟨hpermissions, hvalid⟩
    obtain ⟨id, delegates, hid, hfresh, hpush⟩ := hadd
    simp only [addDelegateWith, spaceDelegateAddition, Succeeds.bind_iff,
      Succeeds.ensureOrigin_iff, hauth, Succeeds.ensure_iff, Succeeds.okOr_iff, Succeeds.get_iff,
      insertDelegates_iff, insertAuthorization_iff, updateActivity_iff, depositEvent_iff,
      Bool.not_eq_true', StorageMap.containsKey_eq_false_iff, and_assoc, exists_and_left,
      exists_eq_left, exists_const]
    have hauthorizes : s.Authorizes required authorization a.delegate a.spaceId :=
      (authorizes_iff ha).mpr ⟨rfl, rfl, hpermissions⟩
    exact ⟨_, a.delegate, horigin, a.spaceId, hauthorizes, _, ⟨d, hd, hvalid, rfl⟩, rfl, id, hid,
      hfresh, delegates, hpush, rfl⟩

theorem removeDelegate_accepts_iff {removeAuthorization : T.Ss58Identifier}
    {removed : SpaceAuthorization T} (horigin : T.ensureOrigin origin = some a.delegate)
    (ha : s.authorizations.get authorization = some a) (hd : s.spaces.get a.spaceId = some d)
    (hvalid : d.CanTransact) (hremoved : s.authorizations.get removeAuthorization = some removed)
    (hmem : removed.delegate ∈ (s.delegatesOf a.spaceId).toList)
    : (∃ s', Succeeds (removeDelegate origin a.spaceId removeAuthorization authorization) s () s')
        ↔
      a.permissions.contains .admin = true := by
  constructor
  . rintro ⟨s', h⟩
    obtain ⟨_, _, _, _, _, hremoves⟩ := removeDelegate_spec h
    exact ((authorizes_iff ha).mp hremoves.authorizes).2.2
  . intro hpermissions
    obtain ⟨index, hindex⟩ := Option.isSome_iff_exists.mp (List.isSome_idxOf?.mpr hmem)
    simp only [removeDelegate, decrementUsage, Succeeds.bind_iff, Succeeds.ensureOrigin_iff,
      ensureAuthorizationAdminRemoveOrigin_iff, Succeeds.ensure_iff, Succeeds.okOr_iff,
      Succeeds.get_iff, insertDelegates_iff, removeAuthorization_iff, mutateUsage_iff,
      updateActivity_iff, depositEvent_iff, and_assoc, exists_and_left, exists_eq_left,
      exists_const]
    have hauthorizes : s.Authorizes .admin authorization a.delegate a.spaceId :=
      (authorizes_iff ha).mpr ⟨rfl, rfl, hpermissions⟩
    exact ⟨_, a.delegate, horigin, a.spaceId, hauthorizes, _, ⟨d, hd, hvalid, rfl⟩, rfl, removed,
      hremoved, index, hindex, _, ⟨d, hd, rfl⟩, rfl⟩

theorem archive_accepts_iff (horigin : T.ensureOrigin origin = some a.delegate)
    (ha : s.authorizations.get authorization = some a) (hd : s.spaces.get a.spaceId = some d)
    : (∃ s', Succeeds (archive origin a.spaceId authorization) s () s')
        ↔
      a.permissions.contains .admin = true ∧ d.charge.CanTransact := by
  constructor
  . rintro ⟨s', h⟩
    obtain ⟨_, d', _, hauthorizes, hspace, hvalid, _⟩ := archive_spec h
    rw [hd, Option.some.injEq] at hspace
    subst hspace
    exact ⟨((authorizes_iff ha).mp hauthorizes).2.2, hvalid⟩
  . rintro ⟨hpermissions, hvalid⟩
    simp only [archive, Succeeds.bind_iff, Succeeds.ensureOrigin_iff, getSpace_iff,
      ensureAuthorizationAdminOrigin_iff, Succeeds.ensure_iff, insertSpace_iff, updateActivity_iff,
      depositEvent_iff, Bool.not_eq_true', and_assoc, exists_and_left, exists_eq_left, exists_const]
    have hauthorizes : s.Authorizes .admin authorization a.delegate a.spaceId :=
      (authorizes_iff ha).mpr ⟨rfl, rfl, hpermissions⟩
    exact ⟨_, a.delegate, horigin, a.spaceId, hauthorizes, _, ⟨d, hd, hvalid, rfl⟩, rfl, d.charge,
      StorageMap.get_insert_self .., hvalid.1, hvalid.2.1, rfl⟩

theorem restore_accepts_iff (horigin : T.ensureOrigin origin = some a.delegate)
    (ha : s.authorizations.get authorization = some a) (hd : s.spaces.get a.spaceId = some d)
    : (∃ s', Succeeds (restore origin a.spaceId authorization) s () s')
        ↔
      a.permissions.contains .assert = true ∧ d.charge.CanRestore := by
  constructor
  . rintro ⟨s', h⟩
    obtain ⟨_, d', _, hauthorizes, hspace, hvalid, _⟩ := restore_spec h
    rw [hd, Option.some.injEq] at hspace
    subst hspace
    exact ⟨((authorizes_iff ha).mp hauthorizes).2.2, hvalid⟩
  . rintro ⟨hpermissions, hvalid⟩
    simp only [restore, Succeeds.bind_iff, Succeeds.ensureOrigin_iff, getSpace_iff,
      ensureAuthorizationRestoreOrigin_iff, Succeeds.ensure_iff, insertSpace_iff,
      updateActivity_iff, depositEvent_iff, and_assoc, exists_and_left, exists_eq_left,
      exists_const]
    have hauthorizes : s.Authorizes .assert authorization a.delegate a.spaceId :=
      (authorizes_iff ha).mpr ⟨rfl, rfl, hpermissions⟩
    exact ⟨_, a.delegate, horigin, a.spaceId, hauthorizes, _, ⟨d, hd, hvalid, rfl⟩, rfl, d.charge,
      StorageMap.get_insert_self .., hvalid.1, hvalid.2.1, rfl⟩

theorem decided_iff_of_charged {required : Permissions} (hrequired : call.required? = some required)
    (hcharged : call.charged?.isSome = true)
    : ((∀ p ∈ call.required?, a.permissions.contains p = true) ∧
          (call.charged?.isSome = true → ¬ d.LastUnit))
        ↔
      a.permissions.contains required = true ∧ ¬ d.LastUnit := by
  simp [hrequired, hcharged]

theorem dispatch_accepts_iff (horigin : T.ensureOrigin origin = some a.delegate)
    (hid : call.authorization? = some id) (ha : s.authorizations.get id = some a)
    (hown : call.delegateSpace? = some a.spaceId) (hd : s.spaces.get a.spaceId = some d)
    (happroved : d.approved = true) (harchive : d.archive = call.isRestore)
    (hremaining : d.txnCapacity = 0 ∨ d.txnCount < d.txnCapacity)
    (hacceptable : call.Acceptable s a.delegate)
    : (∃ s', Succeeds (call.dispatch origin) s () s')
        ↔
      (∀ p ∈ call.required?, a.permissions.contains p = true) ∧
        (call.charged?.isSome = true → ¬ d.LastUnit) := by
  cases call with
  | addDelegate spaceId delegate authorization =>
    cases hown
    cases hid
    rw [decided_iff_of_charged rfl rfl, ← charge_canTransact_iff harchive happroved hremaining]
    exact addDelegateWith_accepts_iff (fun _ _ _ _ => ensureAuthorizationDelegatorOrigin_iff)
      horigin ha hd hacceptable
  | addAdminDelegate spaceId delegate authorization =>
    cases hown
    cases hid
    rw [decided_iff_of_charged rfl rfl, ← charge_canTransact_iff harchive happroved hremaining]
    exact addDelegateWith_accepts_iff (fun _ _ _ _ => ensureAuthorizationAdminOrigin_iff)
      horigin ha hd hacceptable
  | addDelegator spaceId delegate authorization =>
    cases hown
    cases hid
    rw [decided_iff_of_charged rfl rfl, ← charge_canTransact_iff harchive happroved hremaining]
    exact addDelegateWith_accepts_iff (fun _ _ _ _ => ensureAuthorizationAdminOrigin_iff)
      horigin ha hd hacceptable
  | removeDelegate spaceId removeAuthorization authorization =>
    cases hown
    cases hid
    obtain ⟨removed, hremoved, hmem⟩ := hacceptable
    apply Iff.trans
    . exact removeDelegate_accepts_iff horigin ha hd ⟨harchive, happroved, hremaining⟩ hremoved hmem
    . simp [Call.required?, Call.charged?]
  | archive spaceId authorization =>
    cases hown
    cases hid
    rw [decided_iff_of_charged rfl rfl, ← charge_canTransact_iff harchive happroved hremaining]
    exact archive_accepts_iff horigin ha hd
  | restore spaceId authorization =>
    cases hown
    cases hid
    rw [decided_iff_of_charged rfl rfl, ← charge_canRestore_iff harchive happroved hremaining]
    exact restore_accepts_iff horigin ha hd
  | _ => cases hid

/--
What decides about an admissible call: the flags that its check asks for and, unless it is a removal,
whether there is more than one unit of capacity left.
-/
theorem Admissible.accepts_iff {ext : Extrinsic T} (h : Admissible s ext a d)
    : (machine T).accepts s ext = true
        ↔
      (∀ p ∈ ext.call.required?, a.permissions.contains p = true) ∧
        (ext.call.charged?.isSome = true → ¬ d.LastUnit) := by
  obtain ⟨horigin, ⟨id, hid, ha⟩, hown, hd, happroved, harchive, hremaining, hacceptable⟩ := h
  rw [Machine.accepts_iff_exists]
  simp only [machine, Extrinsic.dispatch_iff]
  exact dispatch_accepts_iff horigin hid ha hown hd happroved harchive hremaining hacceptable

end Required

section Matrix

theorem allows_iff_matchesMatrix (hid : call.authorization? = some id)
    {p : Permissions} (hp : p ∈ Permissions.granted)
    : (((∀ q ∈ call.required?, p.contains q = true) ∧
          (call.charged?.isSome = true → ¬ d.LastUnit)) ↔ call.Allows p)
        ↔
      call.MatchesMatrix p d := by
  simp only [Permissions.granted, List.mem_cons, List.not_mem_nil, or_false] at hp
  cases call with
  | addDelegate | addAdminDelegate | addDelegator | removeDelegate | archive | restore =>
    rcases hp with rfl | rfl | rfl | rfl <;>
    simp +decide [Call.required?, Call.charged?, Call.Allows, Call.MatchesMatrix]
  | _ => cases hid

theorem followsMatrix_iff {ext : Extrinsic T} (hs : s.Granted)
    : FollowsMatrix s ext ↔ MatchesMatrix s ext := by
  apply forall₂_congr
  intro a d
  apply imp_congr_right
  intro h
  obtain ⟨id, hid, ha⟩ := h.named
  rw [h.accepts_iff]
  exact allows_iff_matchesMatrix hid (hs id a ha)

/--
The calls of the delegates follow the matrix, throughout a run, exactly if none of them is decided by
a flag that the matrix does not ask for or by the last unit of the capacity.
-/
theorem run_followsMatrix_iff (exts : List (Extrinsic T))
    : (machine T).EveryStep (fun s ext _ => FollowsMatrix s ext) (State.genesis T) exts
        ↔
      (machine T).EveryStep (fun s ext _ => MatchesMatrix s ext) (State.genesis T) exts := by
  apply Machine.everyStep_congr (J := State.Granted)
  . intro s ext s' hs hsucc
    have hcall := Extrinsic.dispatch_iff.mp hsucc
    exact dispatch_granted (s := { s with timepoint := ext.timepoint }) hs hcall
  . intro s ext hs
    exact followsMatrix_iff hs
  . intro id a ha
    cases ha

end Matrix

section Plain

def adminRun : List (Extrinsic .plain) := [
    -- Subject 2 is an admin of the space that subject 1 has created.
    plainExtrinsic (some 1) (.create [10]),
    plainExtrinsic none (.approve (plainSpace 10 1) 100),
    plainExtrinsic (some 1)
      (.addAdminDelegate (plainSpace 10 1) 2 (plainAuthorization (plainSpace 10 1) 1 1))
  ]

def adminAdds : Extrinsic .plain :=
  plainExtrinsic (some 2)
    (.addDelegate (plainSpace 10 1) 3 (plainAuthorization (plainSpace 10 1) 2 1))

theorem adminAdds_admissible
    : Admissible ((machine .plain).run (State.genesis .plain) adminRun) adminAdds
        ⟨plainSpace 10 1, 2, .admin, 1⟩
        ⟨[10], 1, 100, 0, 1, true, false, plainSpace 10 1⟩ := by
  constructor
  . rfl
  . exact ⟨plainAuthorization (plainSpace 10 1) 2 1, rfl, by decide +kernel⟩
  . rfl
  . decide +kernel
  . rfl
  . rfl
  . decide
  . refine ⟨plainAuthorization (plainSpace 10 1) 3 2, ⟨[1, 2, 3], by decide⟩, ?_, ?_, ?_⟩
    . decide +kernel
    . decide +kernel
    . decide +kernel

theorem adminAdds_not_followsMatrix
    : ¬ ∀ exts : List (Extrinsic .plain),
        (machine .plain).EveryStep (fun s ext _ => FollowsMatrix s ext) (State.genesis .plain)
          exts := by
  intro hall
  have hfollows := (hall (adminRun ++ [adminAdds])).last
  have haccepts := (hfollows _ _ adminAdds_admissible).mpr (.inr (by decide))
  revert haccepts
  decide +kernel

end Plain

end ChainSpace
