import Cord.ChainSpace.Lemmas.Steps
import Cord.Frame.Acts
import Cord.Frame.History
import Cord.Identifier.Lemmas.Timeline

/-!
This module contains what the calls of the chain space pallet write to the timelines: every call that
succeeds records one activity, and the timeline of a space starts with its creation.
-/

open Frame Identifier

namespace ChainSpace

variable {T : Config} {s s' : State T} {origin : T.Origin} {call : Call T}

structure Activity (T : Config) where
  id : T.Ss58Identifier
  idType : IdentifierTypeOf
  action : CallTypeOf

def Activity.update (activity : Activity T) (timepoint : Timepoint) : TimelineUpdate T.toConfig where
  id := activity.id
  idType := activity.idType
  entry := { action := activity.action, location := timepoint }

def Call.activity? (call : Call T) (origin : T.Origin) : Option (Activity T) :=
  -- What the call records in case it succeeds.
  match call with
  | .addDelegate spaceId _ _ => some ⟨spaceId, .auth, .authorization⟩
  | .addAdminDelegate spaceId _ _ => some ⟨spaceId, .auth, .authorization⟩
  | .addDelegator spaceId _ _ => some ⟨spaceId, .auth, .authorization⟩
  | .removeDelegate spaceId _ _ => some ⟨spaceId, .auth, .deauthorization⟩
  | .create spaceCode => do
    let creator ← T.ensureOrigin origin
    let identifier ← spaceIdentifier T spaceCode creator
    return ⟨identifier, .chainSpace, .genesis⟩
  | .approve spaceId _ => some ⟨spaceId, .chainSpace, .approved⟩
  | .archive spaceId _ => some ⟨spaceId, .chainSpace, .archive⟩
  | .restore spaceId _ => some ⟨spaceId, .chainSpace, .restore⟩
  | .updateTransactionCapacity spaceId _ => some ⟨spaceId, .chainSpace, .capacity⟩
  | .resetTransactionCount spaceId => some ⟨spaceId, .chainSpace, .usage⟩
  | .approvalRevoke spaceId => some ⟨spaceId, .chainSpace, .councilRevoke⟩
  | .approvalRestore spaceId => some ⟨spaceId, .chainSpace, .councilRestore⟩
  | .subspaceCreate spaceCode _ _ => do
    let creator ← T.ensureOrigin origin
    let identifier ← spaceIdentifier T spaceCode creator
    return ⟨identifier, .chainSpace, .genesis⟩
  | .updateTransactionCapacitySub spaceId _ => some ⟨spaceId, .chainSpace, .capacity⟩

def State.timelines (s : State T) : Identifiers T.toConfig × Timepoint :=
  (s.identifiers, s.timepoint)

def Activity.record (activity : Activity T) (p : Identifiers T.toConfig × Timepoint)
    : Identifiers T.toConfig × Timepoint :=
  ((activity.update p.2).apply p.1, p.2)

section Quiet

variable {spaceId authorization : T.Ss58Identifier} {creator : T.SpaceCreatorId}

abbrev Quiet {α : Type} (x : CallM T α) : Prop :=
  Respects (SameView State.timelines) x

theorem quiet_modify {f : State T → State T} (h : ∀ s, (f s).timelines = s.timelines)
    : Quiet (modify f) :=
  .modify h

theorem quiet_getSpace : Quiet (getSpace spaceId) :=
  .bind .get fun _ => .okOr

theorem quiet_insertSpace {d : SpaceDetails T} : Quiet (insertSpace spaceId d) :=
  quiet_modify fun _ => rfl

theorem quiet_mutateUsage {f : UInt64 → UInt64} : Quiet (mutateUsage spaceId f) :=
  .bind quiet_getSpace fun _ => quiet_insertSpace

theorem quiet_validateSpaceForTransaction : Quiet (validateSpaceForTransaction spaceId) :=
  .bind quiet_getSpace fun _ => .bind .ensure fun _ => .bind .ensure fun _ => .ensure

theorem quiet_validateSpaceForRestoreTransaction
    : Quiet (validateSpaceForRestoreTransaction spaceId) :=
  .bind quiet_getSpace fun _ => .bind .ensure fun _ => .bind .ensure fun _ => .ensure

theorem quiet_ensureAuthorization {validate : T.Ss58Identifier → CallM T Unit}
    {required : Permissions} (hvalidate : ∀ spaceId, Quiet (validate spaceId))
    : Quiet (ensureAuthorization validate required authorization creator) := by
  unfold ensureAuthorization
  refine .bind .get fun _ => .bind .okOr fun d => .bind .ensure fun _ => ?_
  exact .bind quiet_mutateUsage fun _ => .bind (hvalidate _) fun _ => .bind .ensure fun _ => .pure

theorem quiet_ensureAuthorizationAdminRemoveOrigin
    : Quiet (ensureAuthorizationAdminRemoveOrigin authorization creator) := by
  unfold ensureAuthorizationAdminRemoveOrigin
  refine .bind .get fun _ => .bind .okOr fun d => .bind .ensure fun _ => ?_
  exact .bind quiet_validateSpaceForTransaction fun _ => .bind .ensure fun _ => .pure

theorem quiet_anchorSpace {spaceCode : T.Hash} : Quiet (anchorSpace spaceCode creator) := by
  unfold anchorSpace
  refine .bind .okOr fun identifier => .bind .get fun _ => .bind .ensure fun _ => ?_
  refine .bind .okOr fun authorizationId => .bind .okOr fun delegates => ?_
  exact .bind (quiet_modify fun _ => rfl) fun _ => .bind (quiet_modify fun _ => rfl) fun _ => .pure

theorem quiet_updateParentReserve {p d : SpaceDetails T} {newTxnCapacity : UInt64}
    : Quiet (updateParentReserve spaceId p d newTxnCapacity) :=
  .bind .ensure fun _ => quiet_insertSpace

end Quiet

theorem identifiers_logActivity (id : T.Ss58Identifier) (idType : IdentifierTypeOf)
    (action : CallTypeOf)
    : (s.logActivity id idType action).identifiers =
        TimelineUpdate.apply ⟨id, idType, action, s.timepoint⟩ s.identifiers := by
  unfold State.logActivity
  dsimp only
  rw [updateTimeline_eq_some, Option.getD_some]

section Records

variable {spaceId authorization : T.Ss58Identifier} {activity : Activity T} {event : Event T}

abbrev Records (activity : Activity T) (x : CallM T Unit) : Prop :=
  Acts State.timelines activity.record x

theorem records_updateActivity
    : Records activity (updateActivity activity.id activity.idType activity.action) := by
  apply Acts.modify
  intro s
  unfold State.timelines
  rw [identifiers_logActivity]
  rfl

theorem records_log
    : Records activity (do
        updateActivity activity.id activity.idType activity.action
        depositEvent event) :=
  .bind_right records_updateActivity fun _ => quiet_modify fun _ => rfl

/-
The calls that write a stored space: what they check differs, they end in the same way.
-/
theorem records_write {d : SpaceDetails T} {action : CallTypeOf}
    : Records ⟨spaceId, .chainSpace, action⟩ (do
        insertSpace spaceId d
        updateActivity spaceId .chainSpace action
        depositEvent event) :=
  .bind quiet_insertSpace fun _ => records_log

theorem records_addDelegateWith {permissions : Permissions} {delegate : T.SpaceCreatorId}
    {ensureAuth : T.Ss58Identifier → T.SpaceCreatorId → CallM T T.Ss58Identifier}
    (hauth : ∀ creator, Quiet (ensureAuth authorization creator))
    : Records ⟨spaceId, .auth, .authorization⟩
        (addDelegateWith ensureAuth permissions origin spaceId delegate authorization) := by
  unfold addDelegateWith
  refine .bind .ensureOrigin fun creator => .bind (hauth _) fun authSpaceId => ?_
  refine .bind_of .ensure fun _ _ _ hsame => ?_
  obtain ⟨rfl, _⟩ := Succeeds.ensure_iff.mp hsame
  unfold spaceDelegateAddition
  refine .bind .okOr fun authorizationId => .bind .get fun _ => .bind .ensure fun _ => ?_
  refine .bind .get fun _ => .bind .okOr fun delegates => ?_
  refine .bind (quiet_modify fun _ => rfl) fun _ => .bind (quiet_modify fun _ => rfl) fun _ => ?_
  exact records_log

theorem records_removeDelegate {removeAuthorizationId : T.Ss58Identifier}
    : Records ⟨spaceId, .auth, .deauthorization⟩
        (removeDelegate origin spaceId removeAuthorizationId authorization) := by
  unfold removeDelegate
  refine .bind .ensureOrigin fun creator => ?_
  refine .bind quiet_ensureAuthorizationAdminRemoveOrigin fun _ => .bind .ensure fun _ => ?_
  refine .bind .get fun _ => .bind .okOr fun details => .bind .get fun _ => ?_
  refine .bind .okOr fun index => ?_
  refine .bind (quiet_modify fun _ => rfl) fun _ => .bind (quiet_modify fun _ => rfl) fun _ => ?_
  exact .bind quiet_mutateUsage fun _ => records_log

theorem anchorSpace_identifier {spaceCode : T.Hash} {creator : T.SpaceCreatorId}
    {ids : T.Ss58Identifier × T.Ss58Identifier}
    (h : Succeeds (anchorSpace spaceCode creator) s ids s')
    : spaceIdentifier T spaceCode creator = some ids.1 := by
  unfold anchorSpace at h
  obtain ⟨identifier, _, hid, h⟩ := Succeeds.bind_iff.mp h
  simp only [Succeeds.bind_iff, Succeeds.pure_iff] at h
  obtain ⟨_, _, _, _, _, _, _, _, _, _, _, _, _, _, _, _, _, _, rfl, _⟩ := h
  exact (Succeeds.okOr_iff.mp hid).1

theorem records_create {spaceCode : T.Hash}
    (h : (Call.create spaceCode).activity? origin = some activity)
    : Records activity (create origin spaceCode) := by
  unfold create
  refine .bind_of .ensureOrigin fun _ creator _ hcreator => ?_
  refine .bind_of quiet_anchorSpace fun _ ids _ hanchor => ?_
  obtain ⟨hcreator, _⟩ := Succeeds.ensureOrigin_iff.mp hcreator
  rw [Call.activity?, hcreator, Option.bind_eq_bind, Option.bind_some,
    anchorSpace_identifier hanchor] at h
  obtain rfl := Option.some.inj h
  exact records_write

theorem records_subspaceCreate {spaceCode : T.Hash} {count : Option UInt64}
    (h : (Call.subspaceCreate spaceCode count spaceId).activity? origin = some activity)
    : Records activity (subspaceCreate origin spaceCode count spaceId) := by
  unfold subspaceCreate
  refine .bind_of .ensureOrigin fun _ creator _ hcreator => ?_
  refine .bind quiet_getSpace fun d => .bind .ensure fun _ => .bind .ensure fun _ => ?_
  refine .bind .ensure fun _ => .bind .okOr fun count => .bind .ensure fun _ => ?_
  refine .bind_of quiet_anchorSpace fun _ ids _ hanchor => ?_
  obtain ⟨hcreator, _⟩ := Succeeds.ensureOrigin_iff.mp hcreator
  rw [Call.activity?, hcreator, Option.bind_eq_bind, Option.bind_some,
    anchorSpace_identifier hanchor] at h
  obtain rfl := Option.some.inj h
  exact .bind quiet_insertSpace fun _ => records_write

theorem records_updateTransactionCapacity {newTxnCapacity : UInt64}
    : Records ⟨spaceId, .chainSpace, .capacity⟩
        (updateTransactionCapacity origin spaceId newTxnCapacity) := by
  unfold updateTransactionCapacity
  refine .bind .ensureOrigin fun _ => .bind quiet_getSpace fun d => .bind .ensure fun _ => ?_
  refine .bind .ensure fun _ => .bind .ensure fun _ => .ite ?_ ?_
  . intro _
    refine .bind quiet_getSpace fun p => ?_
    exact .bind quiet_updateParentReserve fun _ => records_write
  . intro _
    exact records_write

theorem records_resetTransactionCount
    : Records ⟨spaceId, .chainSpace, .usage⟩ (resetTransactionCount origin spaceId) := by
  unfold resetTransactionCount
  refine .bind quiet_getSpace fun d => .bind .ensure fun _ => .bind .ensure fun _ => .ite ?_ ?_
  . intro _
    refine .bind .ensureOrigin fun creator => .bind quiet_getSpace fun p => ?_
    exact .bind .ensure fun _ => records_write
  . intro _
    exact .bind .ensureOrigin fun _ => records_write

theorem records_updateTransactionCapacitySub {newTxnCapacity : UInt64}
    : Records ⟨spaceId, .chainSpace, .capacity⟩
        (updateTransactionCapacitySub origin spaceId newTxnCapacity) := by
  unfold updateTransactionCapacitySub
  refine .bind .ensureOrigin fun creator => .bind quiet_getSpace fun d => .bind .ensure fun _ => ?_
  refine .bind .ensure fun _ => .bind .ensure fun _ => .bind .ensure fun _ => ?_
  refine .bind quiet_getSpace fun p => .bind .ensure fun _ => ?_
  exact .bind quiet_updateParentReserve fun _ => records_write

theorem records_dispatch (h : call.activity? origin = some activity)
    : Records activity (call.dispatch origin) := by
  cases call with
  | create => exact records_create h
  | subspaceCreate => exact records_subspaceCreate h
  | addDelegate spaceId delegate authorization =>
    obtain rfl := Option.some.inj h
    exact records_addDelegateWith fun _ =>
      quiet_ensureAuthorization fun _ => quiet_validateSpaceForTransaction
  | addAdminDelegate spaceId delegate authorization =>
    obtain rfl := Option.some.inj h
    exact records_addDelegateWith fun _ =>
      quiet_ensureAuthorization fun _ => quiet_validateSpaceForTransaction
  | addDelegator spaceId delegate authorization =>
    obtain rfl := Option.some.inj h
    exact records_addDelegateWith fun _ =>
      quiet_ensureAuthorization fun _ => quiet_validateSpaceForTransaction
  | removeDelegate spaceId removeAuthorization authorization =>
    obtain rfl := Option.some.inj h
    exact records_removeDelegate
  | approve spaceId txnCapacity =>
    obtain rfl := Option.some.inj h
    refine .bind .ensureOrigin fun _ => .bind quiet_getSpace fun d => .bind .ensure fun _ => ?_
    exact .bind .ensure fun _ => records_write
  | archive spaceId authorization =>
    obtain rfl := Option.some.inj h
    refine .bind .ensureOrigin fun creator => ?_
    refine .bind (quiet_ensureAuthorization fun _ => quiet_validateSpaceForTransaction) fun _ => ?_
    refine .bind .ensure fun _ => .bind quiet_getSpace fun d => .bind .ensure fun _ => ?_
    exact .bind .ensure fun _ => records_write
  | restore spaceId authorization =>
    obtain rfl := Option.some.inj h
    refine .bind .ensureOrigin fun creator => ?_
    refine .bind (quiet_ensureAuthorization fun _ => quiet_validateSpaceForRestoreTransaction)
      fun _ => ?_
    refine .bind .ensure fun _ => .bind quiet_getSpace fun d => .bind .ensure fun _ => ?_
    exact .bind .ensure fun _ => records_write
  | updateTransactionCapacity spaceId newTxnCapacity =>
    obtain rfl := Option.some.inj h
    exact records_updateTransactionCapacity
  | resetTransactionCount spaceId =>
    obtain rfl := Option.some.inj h
    exact records_resetTransactionCount
  | approvalRevoke spaceId =>
    obtain rfl := Option.some.inj h
    refine .bind .ensureOrigin fun _ => .bind quiet_getSpace fun d => .bind .ensure fun _ => ?_
    exact .bind .ensure fun _ => records_write
  | approvalRestore spaceId =>
    obtain rfl := Option.some.inj h
    refine .bind .ensureOrigin fun _ => .bind quiet_getSpace fun d => .bind .ensure fun _ => ?_
    exact .bind .ensure fun _ => records_write
  | updateTransactionCapacitySub spaceId newTxnCapacity =>
    obtain rfl := Option.some.inj h
    exact records_updateTransactionCapacitySub

end Records

section Stores

variable {spaces spaces' : StorageMap T.Ss58Identifier (SpaceDetails T)}

def Call.creates : Call T → Bool
  | .create _ => true
  | .subspaceCreate _ _ _ => true
  | _ => false

theorem SpacesStep.containsKey (h : SpacesStep spaces call spaces') (hcall : call.creates = false)
    (spaceId : T.Ss58Identifier) : spaces'.containsKey spaceId = spaces.containsKey spaceId := by
  cases h with
  | write stored => exact StorageMap.containsKey_insert_of_get stored _ _
  | create => cases hcall
  | approve stored => exact StorageMap.containsKey_insert_of_get stored _ _
  | subspace => cases hcall
  | update _ stored => exact StorageMap.containsKey_insert_of_get stored _ _
  | updateSub _ stored _ isSub parent =>
    rw [StorageMap.containsKey_insert_of_get
      ((StorageMap.get_insert_of_ne _ _ isSub).trans stored)]
    exact StorageMap.containsKey_insert_of_get parent _ _

/--
What a call does to the set of stored spaces, by the activity that it records.
-/
inductive StoresSpace (s : State T) : Activity T → State T → Prop where
  | genesis {s' : State T} {spaceId : T.Ss58Identifier}
      (fresh : s.spaces.containsKey spaceId = false)
      (stored : ∀ spaceId', s'.spaces.containsKey spaceId' = true ↔
        spaceId' = spaceId ∨ s.spaces.containsKey spaceId' = true)
      : StoresSpace s ⟨spaceId, .chainSpace, .genesis⟩ s'
  | space {s' : State T} {spaceId : T.Ss58Identifier} {action : CallTypeOf}
      (later : action ≠ .genesis)
      (stored : s.spaces.containsKey spaceId = true)
      (same : ∀ spaceId', s'.spaces.containsKey spaceId' = s.spaces.containsKey spaceId')
      : StoresSpace s ⟨spaceId, .chainSpace, action⟩ s'
  | auth {s' : State T} {spaceId : T.Ss58Identifier} {action : CallTypeOf}
      (same : ∀ spaceId', s'.spaces.containsKey spaceId' = s.spaces.containsKey spaceId')
      : StoresSpace s ⟨spaceId, .auth, action⟩ s'

theorem create_anchors {spaceCode : T.Hash} (h : Succeeds (create origin spaceCode) s () s')
    : ∃ creator identifier authorizationId delegates, T.ensureOrigin origin = some creator ∧
        spaceIdentifier T spaceCode creator = some identifier ∧
        s.AnchorsSpace creator identifier authorizationId delegates s' ∧
        s'.spaces = s.spaces.insert identifier
          (.new spaceCode creator 0 (!T.isPermissioned) identifier) := by
  simp only [create, Succeeds.bind_iff, Succeeds.ensureOrigin_iff, insertSpace_iff,
    updateActivity_iff, depositEvent_iff, and_assoc, exists_and_left, exists_eq_left,
    exists_const] at h
  obtain ⟨creator, hcreator, ⟨identifier, authorizationId⟩, t, hanchor, rfl⟩ := h
  obtain ⟨delegates, ⟨hid, hfresh, hpush, hauth, hdel⟩, hspaces⟩ := anchorSpace_spec hanchor
  refine ⟨creator, identifier, authorizationId, delegates, hcreator,
    anchorSpace_identifier hanchor, ⟨hid, hfresh, hpush, hauth, hdel⟩, ?_⟩
  rw [← hspaces]
  rfl

theorem subspaceCreate_anchors {spaceCode : T.Hash} {count : Option UInt64}
    {spaceId : T.Ss58Identifier} (h : Succeeds (subspaceCreate origin spaceCode count spaceId) s () s')
    : ∃ creator d value identifier authorizationId delegates, T.ensureOrigin origin = some creator ∧
        spaceIdentifier T spaceCode creator = some identifier ∧
        s.spaces.get spaceId = some d ∧
        s.AnchorsSpace creator identifier authorizationId delegates s' ∧
        s'.spaces =
          (s.spaces.insert spaceId
            { d with txnCount := d.txnCount + 1, txnReserve := d.txnReserve + value }).insert
            identifier (.new spaceCode creator value true spaceId) := by
  simp only [subspaceCreate, Succeeds.bind_iff, Succeeds.ensureOrigin_iff, getSpace_iff,
    Succeeds.ensure_iff, Succeeds.okOr_iff, insertSpace_iff, updateActivity_iff, depositEvent_iff,
    and_assoc, exists_and_left, exists_eq_left, exists_const] at h
  obtain ⟨creator, hcreator, d, hd, _, _, _, value, _, _, ⟨identifier, authorizationId⟩, t, hanchor,
    rfl⟩ := h
  obtain ⟨delegates, ⟨hid, hfresh, hpush, hauth, hdel⟩, hspaces⟩ := anchorSpace_spec hanchor
  refine ⟨creator, d, value, identifier, authorizationId, delegates, hcreator,
    anchorSpace_identifier hanchor, hd, ⟨hid, hfresh, hpush, hauth, hdel⟩, ?_⟩
  rw [← hspaces]
  rfl

theorem create_storesSpace {spaceCode : T.Hash} (h : Succeeds (create origin spaceCode) s () s')
    : ∃ activity, (Call.create spaceCode).activity? origin = some activity ∧
        StoresSpace s activity s' := by
  obtain ⟨creator, identifier, _, _, hcreator, hid, hanchors, hspaces⟩ := create_anchors h
  refine ⟨⟨identifier, .chainSpace, .genesis⟩, ?_, .genesis ?_ ?_⟩
  . rw [Call.activity?, hcreator, Option.bind_eq_bind, Option.bind_some, hid]
    rfl
  . exact (StorageMap.containsKey_eq_false_iff _ _).mpr hanchors.fresh
  . intro spaceId'
    rw [hspaces, StorageMap.containsKey_insert]

theorem subspaceCreate_storesSpace {spaceCode : T.Hash} {count : Option UInt64}
    {spaceId : T.Ss58Identifier} (h : Succeeds (subspaceCreate origin spaceCode count spaceId) s () s')
    : ∃ activity, (Call.subspaceCreate spaceCode count spaceId).activity? origin = some activity ∧
        StoresSpace s activity s' := by
  obtain ⟨creator, d, value, identifier, _, _, hcreator, hid, hd, hanchors, hspaces⟩ :=
    subspaceCreate_anchors h
  refine ⟨⟨identifier, .chainSpace, .genesis⟩, ?_, .genesis ?_ ?_⟩
  . rw [Call.activity?, hcreator, Option.bind_eq_bind, Option.bind_some, hid]
    rfl
  . exact (StorageMap.containsKey_eq_false_iff _ _).mpr hanchors.fresh
  . intro spaceId'
    rw [hspaces, StorageMap.containsKey_insert, StorageMap.containsKey_insert_of_get hd]

theorem dispatch_storesSpace (h : Succeeds (call.dispatch origin) s () s')
    : ∃ activity, call.activity? origin = some activity ∧ StoresSpace s activity s' := by
  have hsame := (dispatch_spaces h).containsKey
  cases call with
  | create => exact create_storesSpace h
  | subspaceCreate => exact subspaceCreate_storesSpace h
  | addDelegate => exact ⟨_, rfl, .auth (hsame rfl)⟩
  | addAdminDelegate => exact ⟨_, rfl, .auth (hsame rfl)⟩
  | addDelegator => exact ⟨_, rfl, .auth (hsame rfl)⟩
  | removeDelegate => exact ⟨_, rfl, .auth (hsame rfl)⟩
  | approve =>
    obtain ⟨_, hd, _⟩ := approve_spec h
    exact ⟨_, rfl, .space nofun (StorageMap.containsKey_of_get hd) (hsame rfl)⟩
  | archive =>
    obtain ⟨_, _, _, _, hd, _⟩ := archive_spec h
    exact ⟨_, rfl, .space nofun (StorageMap.containsKey_of_get hd) (hsame rfl)⟩
  | restore =>
    obtain ⟨_, _, _, _, hd, _⟩ := restore_spec h
    exact ⟨_, rfl, .space nofun (StorageMap.containsKey_of_get hd) (hsame rfl)⟩
  | updateTransactionCapacity =>
    obtain ⟨_, hd, _⟩ := updateTransactionCapacity_spec h
    exact ⟨_, rfl, .space nofun (StorageMap.containsKey_of_get hd) (hsame rfl)⟩
  | resetTransactionCount =>
    obtain ⟨_, hd, _⟩ := resetTransactionCount_spec h
    exact ⟨_, rfl, .space nofun (StorageMap.containsKey_of_get hd) (hsame rfl)⟩
  | approvalRevoke =>
    obtain ⟨_, hd, _⟩ := approvalRevoke_spec h
    exact ⟨_, rfl, .space nofun (StorageMap.containsKey_of_get hd) (hsame rfl)⟩
  | approvalRestore =>
    obtain ⟨_, hd, _⟩ := approvalRestore_spec h
    exact ⟨_, rfl, .space nofun (StorageMap.containsKey_of_get hd) (hsame rfl)⟩
  | updateTransactionCapacitySub =>
    obtain ⟨_, _, hd, _⟩ := updateTransactionCapacitySub_spec h
    exact ⟨_, rfl, .space nofun (StorageMap.containsKey_of_get hd) (hsame rfl)⟩

end Stores

section Runs

variable {updates : List (TimelineUpdate T.toConfig)} {ext : Extrinsic T}

def Extrinsic.update? (ext : Extrinsic T) : Option (TimelineUpdate T.toConfig) := do
  let activity ← ext.call.activity? ext.origin
  return activity.update ext.timepoint

def recorded (s : State T) (ext : Extrinsic T) : List (TimelineUpdate T.toConfig) :=
  if (machine T).accepts s ext then ext.update?.toList else []

def trail (T : Config) (exts : List (Extrinsic T)) : List (TimelineUpdate T.toConfig) :=
  -- One update for every call of the run that succeeds.
  (machine T).collect recorded (State.genesis T) exts

def activities (spaceId : T.Ss58Identifier) (updates : List (TimelineUpdate T.toConfig))
    : List EventEntry :=
  eventsOf (spaceId, .chainSpace) updates

theorem activities_append_self {spaceId : T.Ss58Identifier} {action : CallTypeOf}
    {timepoint : Timepoint}
    : activities spaceId (updates ++ [Activity.update ⟨spaceId, .chainSpace, action⟩ timepoint]) =
        activities spaceId updates ++ [⟨action, timepoint⟩] := by
  simp [activities, eventsOf, TimelineUpdate.key, Activity.update]

theorem activities_append_of_ne {spaceId : T.Ss58Identifier} {activity : Activity T}
    {timepoint : Timepoint} (h : (activity.id, activity.idType) ≠ (spaceId, .chainSpace))
    : activities spaceId (updates ++ [activity.update timepoint]) = activities spaceId updates := by
  have hkey : (activity.update timepoint).key ≠ (spaceId, .chainSpace) := h
  simp [activities, eventsOf, hkey]

/--
The history of an identifier: nothing was recorded for it as long as there is no space, and its creation
comes first if there is one.
-/
inductive SpaceHistory : (stored : Bool) → List EventEntry → Prop where
  | absent : SpaceHistory false []
  | created (timepoint : Timepoint) (rest : List EventEntry)
      (later : ∀ entry ∈ rest, entry.action ≠ .genesis)
      : SpaceHistory true (⟨.genesis, timepoint⟩ :: rest)

theorem SpaceHistory.concat {entries : List EventEntry} {entry : EventEntry}
    (h : SpaceHistory true entries) (hlater : entry.action ≠ .genesis)
    : SpaceHistory true (entries ++ [entry]) := by
  cases h with
  | created timepoint rest later =>
    refine .created timepoint (rest ++ [entry]) ?_
    rw [List.forall_mem_append, List.forall_mem_singleton]
    exact ⟨later, hlater⟩

structure Trailed (s : State T) (updates : List (TimelineUpdate T.toConfig)) : Prop where
  replayed : s.identifiers = (timelineMachine T.toConfig).run ∅ updates
  history : ∀ spaceId, SpaceHistory (s.spaces.containsKey spaceId) (activities spaceId updates)

theorem StoresSpace.history {activity : Activity T} {timepoint : Timepoint}
    (h : StoresSpace s activity s')
    (hs : ∀ spaceId, SpaceHistory (s.spaces.containsKey spaceId) (activities spaceId updates))
    (spaceId' : T.Ss58Identifier)
    : SpaceHistory (s'.spaces.containsKey spaceId')
        (activities spaceId' (updates ++ [activity.update timepoint])) := by
  cases h with
  | @genesis _ spaceId fresh stored =>
    by_cases heq : spaceId' = spaceId
    . subst heq
      have hhistory := hs spaceId'
      rw [fresh] at hhistory
      generalize hentries : activities spaceId' updates = entries at hhistory
      cases hhistory
      rw [activities_append_self, hentries, (stored spaceId').mpr (.inl rfl)]
      exact .created timepoint [] nofun
    . have hsame : s'.spaces.containsKey spaceId' = s.spaces.containsKey spaceId' := by
        rw [Bool.eq_iff_iff, stored]
        exact or_iff_right heq
      rw [activities_append_of_ne fun h => heq (congrArg Prod.fst h).symm, hsame]
      exact hs spaceId'
  | @space _ spaceId action later stored same =>
    rw [same]
    by_cases heq : spaceId' = spaceId
    . subst heq
      have hhistory := hs spaceId'
      rw [stored] at hhistory ⊢
      rw [activities_append_self]
      exact hhistory.concat later
    . rw [activities_append_of_ne fun h => heq (congrArg Prod.fst h).symm]
      exact hs spaceId'
  | auth same =>
    have hne : IdentifierTypeOf.auth ≠ .chainSpace := by decide
    rw [same, activities_append_of_ne fun h => hne (congrArg Prod.snd h)]
    exact hs spaceId'

theorem recorded_of_succeeds (h : Succeeds ((machine T).dispatch ext) s () s')
    : ∃ activity, recorded s ext = [activity.update ext.timepoint] ∧ StoresSpace s activity s' ∧
        s'.identifiers = (activity.update ext.timepoint).apply s.identifiers := by
  have hcall := Extrinsic.dispatch_iff.mp h
  obtain ⟨activity, hactivity, hstores⟩ := dispatch_storesSpace hcall
  refine ⟨activity, ?_, ?_, ?_⟩
  . rw [recorded, Machine.Succeeds.accepts h, if_pos rfl, Extrinsic.update?, hactivity]
    rfl
  . cases hstores with
    | genesis fresh stored => exact .genesis fresh stored
    | space later stored same => exact .space later stored same
    | auth same => exact .auth same
  . exact congrArg Prod.fst (records_dispatch hactivity _ _ _ hcall)

theorem get_identifiers_of_ne {id : T.Ss58Identifier} {idType : IdentifierTypeOf}
    (hauth : idType ≠ .auth) (hspace : idType ≠ .chainSpace)
    (h : Succeeds ((machine T).dispatch ext) s () s')
    : s'.identifiers.get (id, idType) = s.identifiers.get (id, idType) := by
  obtain ⟨activity, _, hstores, hidentifiers⟩ := recorded_of_succeeds h
  rw [hidentifiers, get_apply, if_neg]
  intro hkey
  have hidType : activity.idType = idType := congrArg Prod.snd hkey
  cases hstores with
  | genesis => exact hspace hidType.symm
  | space => exact hspace hidType.symm
  | auth => exact hauth hidType.symm

theorem Trailed.step (h : Trailed s updates) (hs : Succeeds ((machine T).dispatch ext) s () s')
    : Trailed s' (updates ++ recorded s ext) := by
  obtain ⟨activity, hrecorded, hstores, hidentifiers⟩ := recorded_of_succeeds hs
  rw [hrecorded]
  refine ⟨?_, hstores.history h.history⟩
  rw [hidentifiers, h.replayed, Machine.run_append, Machine.run_cons, next_eq_apply]
  rfl

theorem trailed_genesis (T : Config) : Trailed (State.genesis T) [] :=
  ⟨rfl, fun _ => .absent⟩

theorem run_trailed (exts : List (Extrinsic T))
    : Trailed ((machine T).run (State.genesis T) exts) (trail T exts) := by
  apply Machine.collect_invariant (I := Trailed) _ _ (trailed_genesis T)
  . intro s ext hfails
    rw [recorded, hfails]
    rfl
  . intro s ext s' updates h hs
    exact h.step hs

/--
The timelines are what the recorded activities leave. A timeline is kept for exactly the spaces that are
stored, it begins with the creation of the space, which is recorded once, and goes on with as many of its
last activities as fit.
-/
theorem run_timelines (exts : List (Extrinsic T)) (spaceId : T.Ss58Identifier)
    : let s := (machine T).run (State.genesis T) exts
      s.identifiers = (timelineMachine T.toConfig).run ∅ (trail T exts) ∧
      (s.spaces.containsKey spaceId = false → s.identifiers.get (spaceId, .chainSpace) = none) ∧
      (s.spaces.containsKey spaceId = true →
        ∃ timepoint rest events,
          activities spaceId (trail T exts) = ⟨.genesis, timepoint⟩ :: rest ∧
          (∀ entry ∈ rest, entry.action ≠ .genesis) ∧
          s.identifiers.get (spaceId, .chainSpace) = some events ∧
          events.toList = ⟨.genesis, timepoint⟩ :: rest.rtake (T.maxEventsHistory - 1)) := by
  dsimp only
  have htrailed := run_trailed exts
  have hhistory := htrailed.history spaceId
  obtain ⟨habsent, hcreated⟩ := (run_timeline ∅ (trail T exts)).2 (spaceId, .chainSpace)
  refine ⟨htrailed.replayed, ?_, ?_⟩
  . intro hspace
    rw [hspace] at hhistory
    generalize hentries : activities spaceId (trail T exts) = entries at hhistory
    cases hhistory
    rw [htrailed.replayed, habsent hentries]
    rfl
  . intro hspace
    rw [hspace] at hhistory
    generalize hentries : activities spaceId (trail T exts) = entries at hhistory
    cases hhistory with
    | created timepoint rest later =>
      obtain ⟨events, hget, hevents⟩ := hcreated _ _ rfl hentries
      refine ⟨timepoint, rest, events, rfl, later, ?_, ?_⟩
      . rw [htrailed.replayed, hget]
      . have hmin : min (EventEntry.mk .genesis timepoint :: rest).length T.maxEventsHistory - 1 =
            min rest.length (T.maxEventsHistory - 1) := by
          rw [List.length_cons]
          omega
        rw [hevents, hmin, rtake_min]

end Runs

end ChainSpace
