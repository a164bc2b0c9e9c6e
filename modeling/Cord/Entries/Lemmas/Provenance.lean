import Cord.Entries.Lemmas.Frozen
import Cord.Frame.History
import Cord.Registries.Lemmas.Provenance

/-!
This module contains what the entries are: each of them is what the accepted calls have made of it, and
all of these were made with the authority of who created its registry.
-/

open Frame Identifier
open Registries (RegistryAuthorization)

namespace Entries

variable {T : Config} {s s' : State T} {origin : T.Origin} {ext : Extrinsic T} {call : Call T}
  {id : T.Ss58Identifier}

section Acts

inductive Change (T : Config) where
  | update (digest : T.Hash)
  | revoke
  | reinstate

def Change.apply (change : Change T) (entry : RegistryEntryDetails T) : RegistryEntryDetails T :=
  match change with
  | .update digest => { entry with digest }
  | .revoke => { entry with revoked := true }
  | .reinstate => { entry with revoked := false }

@[simp]
theorem Change.registryId_apply (change : Change T) (entry : RegistryEntryDetails T)
    : (change.apply entry).registryId = entry.registryId := by
  cases change with
  | _ => rfl

/--
What an accepted call has done, and for an entry who has signed it with which authorization.
-/
inductive Act (T : Config) where
  | granted (a : RegistryAuthorization T.toRegistries)
  | created (who : T.AccountId) (a : RegistryAuthorization T.toRegistries) (id : T.Ss58Identifier)
      (digest : T.Hash)
  | changed (who : T.AccountId) (a : RegistryAuthorization T.toRegistries) (id : T.Ss58Identifier)
      (change : Change T)

def Act.apply (act : Act T) (entries : T.Ss58Identifier → Option (RegistryEntryDetails T))
    : T.Ss58Identifier → Option (RegistryEntryDetails T) :=
  match act with
  | .granted _ => entries
  | .created who a id digest =>
    Function.update entries id
      (some { digest, revoked := false, creator := who, registryId := a.registryId })
  | .changed _ _ id change => Function.update entries id ((entries id).map change.apply)

def replay (acts : List (Act T)) : T.Ss58Identifier → Option (RegistryEntryDetails T) :=
  acts.foldl (fun entries act => act.apply entries) fun _ => none

@[simp]
theorem replay_concat (acts : List (Act T)) (act : Act T)
    : replay (acts ++ [act]) = act.apply (replay acts) := by
  unfold replay
  rw [List.foldl_concat]

def Act.grant? (act : Act T) : Option (RegistryAuthorization T.toRegistries) :=
  match act with
  | .granted a => some a
  | _ => none

/-
Who has acted on which entry, and with which authorization.
-/
def Act.by? (act : Act T)
    : Option (T.AccountId × RegistryAuthorization T.toRegistries × T.Ss58Identifier) :=
  match act with
  | .granted _ => none
  | .created who a id _ => some (who, a, id)
  | .changed who a id _ => some (who, a, id)

def Act.creates (id : T.Ss58Identifier) (act : Act T) : Bool :=
  match act with
  | .created _ _ id' _ => id' = id
  | _ => false

def Call.act? (call : Call T) (who : T.AccountId) (s : State T) : Option (Act T) :=
  match call with
  | .create _ authorization digest _ => do
    let a ← s.registries.authorizations.get authorization
    let id ← entryIdentifier T digest a.registryId who
    return .created who a id digest
  | .update id authorization digest _ =>
    (s.registries.authorizations.get authorization).map fun a => .changed who a id (.update digest)
  | .revoke id authorization =>
    (s.registries.authorizations.get authorization).map fun a => .changed who a id .revoke
  | .reinstate id authorization =>
    (s.registries.authorizations.get authorization).map fun a => .changed who a id .reinstate

def Extrinsic.act? (ext : Extrinsic T) (s : State T) : Option (Act T) :=
  match ext with
  | .registries ext => (ext.call.grant? ext.origin).map .granted
  | .entries origin _ call => (T.ensureSigned origin).bind fun who => call.act? who s

def acted (s : State T) (ext : Extrinsic T) : List (Act T) :=
  if (machine T).accepts s ext then (ext.act? s).toList else []

def acts (T : Config) (exts : List (Extrinsic T)) : List (Act T) :=
  (machine T).collect acted (State.genesis T) exts

end Acts

section Steps

/--
What a successful call of the entries pallet has checked of the entry that it writes to.
-/
inductive ActsOn (entries : T.Ss58Identifier → Option (RegistryEntryDetails T)) (who : T.AccountId)
    (a : RegistryAuthorization T.toRegistries) : Act T → Prop where
  | created {id : T.Ss58Identifier} {digest : T.Hash}
      (address : entryIdentifier T digest a.registryId who = some id)
      (fresh : entries id = none)
      : ActsOn entries who a (.created who a id digest)
  | changed {id : T.Ss58Identifier} {change : Change T} {entry : RegistryEntryDetails T}
      (stored : entries id = some entry)
      (registry : entry.registryId = a.registryId)
      : ActsOn entries who a (.changed who a id change)

structure Performs (s : State T) (act : Act T) (s' : State T) : Prop where
  acts : ∃ who a k, ActsOn s.registryEntries.get who a act ∧
    s.registries.authorizations.get k = some a ∧ a.delegate = who ∧
    a.permissions.contains .assert = true
  entries : s'.registryEntries.get = act.apply s.registryEntries.get
  authorizations : s'.registries.authorizations = s.registries.authorizations
  info : s'.registries.registryInfo = s.registries.registryInfo

theorem get_insert_eq_update {κ ν : Type} [DecidableEq κ] (m : StorageMap κ ν) (k : κ) (v : ν)
    : (m.insert k v).get = Function.update m.get k (some v) := by
  funext k'
  rw [StorageMap.get_insert, Function.update_apply]

theorem create_performs {registryEntryId authorization : T.Ss58Identifier} {digest : T.Hash}
    {blob : Option (BoundedVec UInt8 T.maxRegistryEntryBlobSize)}
    (h : Succeeds (create origin registryEntryId authorization digest blob) s () s')
    : ∃ who act, T.ensureSigned origin = some who ∧
        Call.act? (.create registryEntryId authorization digest blob) who s = some act ∧
        Performs s act s' := by
  simp only [create, updateActivity, Succeeds.bind_iff, Succeeds.ensureOrigin_iff,
    Succeeds.okOr_iff, Succeeds.get_iff, Succeeds.ensure_iff, runRegistries_iff, insertEntry_iff,
    Registries.updateActivity_iff, depositEvent_iff, Bool.not_eq_true',
    StorageMap.containsKey_eq_false_iff, and_assoc, exists_and_left, exists_eq_left,
    exists_const] at h
  obtain ⟨who, hsigned, registryId, _, ⟨t, hauth, rfl⟩, id, hid, hfresh, rfl⟩ := h
  obtain ⟨a, ha, hdelegate, rfl, hcontains⟩ := Registries.ensureAuthorizationWith_authorizes hauth
  obtain ⟨rfl, _⟩ := Registries.ensureAuthorizationWith_open hauth
  refine ⟨who, .created who a id digest, hsigned, ?_, ?_⟩
  . simp only [Call.act?, ha, hid, Option.bind_eq_bind, Option.bind_some, Option.pure_def]
  . exact ⟨⟨who, a, authorization, .created hid hfresh, ha, hdelegate, hcontains⟩,
      get_insert_eq_update _ _ _, rfl, rfl⟩

theorem changeEntryWith_performs {check : RegistryEntryDetails T → CallM T Unit} {change : Change T}
    {txAction : CallTypeOf} {event : T.AccountId → T.Ss58Identifier → Event T}
    {registryEntryId authorization : T.Ss58Identifier}
    (hcheck : ∀ {entry s s'}, Succeeds (check entry) s () s' → s' = s)
    (h : Succeeds (changeEntryWith check change.apply txAction event origin registryEntryId
      authorization) s () s')
    : ∃ who a, T.ensureSigned origin = some who ∧
        s.registries.authorizations.get authorization = some a ∧
        Performs s (.changed who a registryEntryId change) s' := by
  simp only [changeEntryWith, updateActivity, Succeeds.bind_iff, Succeeds.ensureOrigin_iff,
    Succeeds.ensure_iff, runRegistries_iff, getEntry_iff, insertEntry_iff,
    Registries.updateActivity_iff, depositEvent_iff, and_assoc, exists_and_left, exists_eq_left,
    exists_const] at h
  obtain ⟨who, hsigned, registryId, _, ⟨t, hauth, rfl⟩, entry, hentry, hregistry, _, _, hok, rfl⟩ := h
  obtain ⟨a, ha, hdelegate, rfl, hcontains⟩ := Registries.ensureAuthorizationWith_authorizes hauth
  obtain ⟨rfl, _⟩ := Registries.ensureAuthorizationWith_open hauth
  cases hcheck hok
  refine ⟨who, a, hsigned, ha, ⟨who, a, authorization, .changed hentry hregistry, ha, hdelegate,
    hcontains⟩, ?_, rfl, rfl⟩
  rw [Act.apply, hentry]
  exact get_insert_eq_update _ _ _

theorem Call.dispatch_performs (h : Succeeds (call.dispatch origin) s () s')
    : ∃ who act, T.ensureSigned origin = some who ∧ call.act? who s = some act ∧
        Performs s act s' := by
  cases call with
  | create registryEntryId authorization digest blob => exact create_performs h
  | update registryEntryId authorization digest blob =>
    have h : Succeeds (changeEntryWith _ (Change.update digest).apply _ _ origin registryEntryId
      authorization) s () s' := h
    obtain ⟨who, a, hsigned, ha, hperforms⟩ := changeEntryWith_performs
      (fun h => (Succeeds.pure_iff.mp h).2) h
    exact ⟨who, _, hsigned, by rw [Call.act?, ha, Option.map_some], hperforms⟩
  | revoke registryEntryId authorization =>
    have h : Succeeds (changeEntryWith _ Change.revoke.apply _ _ origin registryEntryId authorization)
      s () s' := h
    obtain ⟨who, a, hsigned, ha, hperforms⟩ := changeEntryWith_performs
      (fun h => (Succeeds.pure_iff.mp h).2) h
    exact ⟨who, _, hsigned, by rw [Call.act?, ha, Option.map_some], hperforms⟩
  | reinstate registryEntryId authorization =>
    have h : Succeeds (changeEntryWith _ Change.reinstate.apply _ _ origin registryEntryId
      authorization) s () s' := h
    obtain ⟨who, a, hsigned, ha, hperforms⟩ := changeEntryWith_performs
      (fun h => (Succeeds.ensure_iff.mp h).2) h
    exact ⟨who, _, hsigned, by rw [Call.act?, ha, Option.map_some], hperforms⟩

end Steps

section Runs

variable {record : List (Act T)} {act : Act T} {who : T.AccountId}
  {a : RegistryAuthorization T.toRegistries}

/--
Who has acted on an entry with an authorization was let to by the creator of the registry.
-/
structure Authorized (s : State T) (record : List (Act T)) (who : T.AccountId)
    (a : RegistryAuthorization T.toRegistries) (id : T.Ss58Identifier) : Prop where
  delegate : a.delegate = who
  entry : ∃ entry, s.registryEntries.get id = some entry ∧ entry.registryId = a.registryId
  asserts : ∃ d, s.registries.registryInfo.get a.registryId = some d ∧
    a.Asserts d.creator (record.filterMap Act.grant?)

/--
What the record of the acts is to a state: the entries are what the acts make of them, none of them was
created twice, and all acts on them were authorized.
-/
structure Recorded (s : State T) (record : List (Act T)) : Prop where
  traced : s.registries.Traced (record.filterMap Act.grant?)
  replayed : s.registryEntries.get = replay record
  once : ∀ id, record.countP (Act.creates id) = if (s.registryEntries.get id).isSome then 1 else 0
  address : ∀ who a id digest, .created who a id digest ∈ record →
    entryIdentifier T digest a.registryId who = some id
  authorized : ∀ act ∈ record, ∀ who a id, act.by? = some (who, a, id) →
    Authorized s record who a id

def EntriesKept (s s' : State T) : Prop :=
  ∀ id entry, s.registryEntries.get id = some entry →
    ∃ entry', s'.registryEntries.get id = some entry' ∧ entry'.registryId = entry.registryId

theorem Authorized.step (h : Authorized s record who a id) (hentries : EntriesKept s s')
    (hregistries : Registries.CreatorsKept s.registries s'.registries) (later : List (Act T))
    : Authorized s' (record ++ later) who a id := by
  obtain ⟨hdelegate, ⟨entry, hentry, hregistry⟩, d, hd, hasserts⟩ := h
  obtain ⟨entry', hentry', hregistry'⟩ := hentries id entry hentry
  obtain ⟨d', hd', hcreator⟩ := hregistries _ d hd
  refine ⟨hdelegate, ⟨entry', hentry', hregistry'.trans hregistry⟩, d', hd', ?_⟩
  rw [hcreator, List.filterMap_append]
  exact hasserts.append _

theorem Performs.entriesKept (h : Performs s act s') : EntriesKept s s' := by
  intro id entry hentry
  rw [h.entries]
  obtain ⟨who, a, _, hacts, _⟩ := h.acts
  cases hacts with
  | @created id' digest address fresh =>
    refine ⟨entry, ?_, rfl⟩
    rw [Act.apply, Function.update_of_ne (StorageMap.ne_of_get fresh hentry), hentry]
  | @changed id' change stored registry =>
    rw [Act.apply, Function.update_apply]
    split
    . next heq =>
      subst heq
      rw [hentry]
      exact ⟨change.apply entry, rfl, change.registryId_apply entry⟩
    . exact ⟨entry, hentry, rfl⟩

section ActsOn

variable {entries : T.Ss58Identifier → Option (RegistryEntryDetails T)}

theorem ActsOn.grant? (h : ActsOn entries who a act) : act.grant? = none := by
  cases h with
  | _ => rfl

theorem ActsOn.by? (h : ActsOn entries who a act)
    : ∃ id entry, act.by? = some (who, a, id) ∧ act.apply entries id = some entry ∧
        entry.registryId = a.registryId := by
  cases h with
  | @created id digest address fresh => exact ⟨id, _, rfl, Function.update_self _ _ _, rfl⟩
  | @changed id change entry stored registry =>
    refine ⟨id, change.apply entry, rfl, ?_, (change.registryId_apply entry).trans registry⟩
    rw [Act.apply, Function.update_self, stored, Option.map_some]

theorem ActsOn.creates (h : ActsOn entries who a act) (id : T.Ss58Identifier)
    : (if (entries id).isSome then 1 else 0) + (if act.creates id then 1 else 0) =
        if (act.apply entries id).isSome then 1 else 0 := by
  cases h with
  | @created id' digest address fresh =>
    rw [Act.apply, Act.creates, Function.update_apply]
    by_cases heq : id = id'
    . rw [heq, fresh]
      simp
    . simp [heq, Ne.symm heq]
  | @changed id' change entry stored registry =>
    have hcreates : (Act.changed who a id' change).creates id = false := rfl
    rw [hcreates, Act.apply, Function.update_apply]
    by_cases heq : id = id'
    . rw [if_pos heq, Option.isSome_map, heq]
      rfl
    . rw [if_neg heq]
      rfl

end ActsOn

theorem Recorded.asserts (h : Recorded s record) {k : T.Ss58Identifier}
    (ha : s.registries.authorizations.get k = some a)
    (hcontains : a.permissions.contains .assert = true)
    : ∃ d, s.registries.registryInfo.get a.registryId = some d ∧
        a.Asserts d.creator (record.filterMap Act.grant?) := by
  obtain ⟨_, ⟨d, hd, rfl⟩, hback⟩ := h.traced.goesBack k a ha
  exact ⟨d, hd, Registries.asserts_of_goesBackTo hback hcontains⟩

theorem Recorded.performs (h : Recorded s record) (hs : Performs s act s')
    : Recorded s' (record ++ [act]) := by
  obtain ⟨who, a, k, hacts, ha, hdelegate, hcontains⟩ := hs.acts
  have hgrants : (record ++ [act]).filterMap Act.grant? = record.filterMap Act.grant? := by
    rw [List.filterMap_append, List.filterMap_cons_none hacts.grant?, List.filterMap_nil,
      List.append_nil]
  refine ⟨?_, ?_, ?_, ?_, ?_⟩
  . rw [hgrants]
    exact h.traced.congr hs.authorizations hs.info
  . rw [hs.entries, replay_concat, h.replayed]
  . intro id
    rw [List.countP_append, List.countP_singleton, h.once, hs.entries]
    exact hacts.creates id
  . intro who a id digest hmem
    rcases List.mem_append.mp hmem with hmem | hmem
    . exact h.address who a id digest hmem
    . obtain rfl := List.mem_singleton.mp hmem
      cases hacts with
      | created address => exact address
  . intro act' hmem who' a' id hby
    rcases List.mem_append.mp hmem with hmem | hmem
    . exact (h.authorized act' hmem who' a' id hby).step hs.entriesKept
        (Registries.creatorsKept_of_eq hs.info) [act]
    . obtain rfl := List.mem_singleton.mp hmem
      obtain ⟨id', entry, hby', hentry, hregistry⟩ := hacts.by?
      rw [hby', Option.some.injEq, Prod.mk.injEq, Prod.mk.injEq] at hby
      obtain ⟨rfl, rfl, rfl⟩ := hby
      refine ⟨hdelegate, ⟨entry, ?_, hregistry⟩, ?_⟩
      . rw [hs.entries, hentry]
      . rw [hs.info, hgrants]
        exact h.asserts ha hcontains

/-
A grant is no act on an entry.
-/
theorem Recorded.grants (h : Recorded s record) {t : Registries.State T.toRegistries}
    {grant? : Option (RegistryAuthorization T.toRegistries)}
    (htraced : t.Traced (record.filterMap Act.grant? ++ grant?.toList))
    (hcreators : Registries.CreatorsKept s.registries t)
    : Recorded { s with registries := t } (record ++ (grant?.map Act.granted).toList) := by
  have hentries : EntriesKept s { s with registries := t } := fun _ entry hentry => ⟨entry, hentry, rfl⟩
  have hlater : ∀ act ∈ (grant?.map Act.granted).toList, ∃ a, act = Act.granted a := by
    intro act hmem
    obtain ⟨a, _, rfl⟩ := Option.map_eq_some_iff.mp (Option.mem_toList.mp hmem)
    exact ⟨a, rfl⟩
  refine ⟨?_, ?_, ?_, ?_, ?_⟩
  . have hgrants : (grant?.map Act.granted).toList.filterMap Act.grant? = grant?.toList := by
      cases grant? with
      | _ => rfl
    rw [List.filterMap_append, hgrants]
    exact htraced
  . rw [h.replayed]
    cases grant? with
    | none => rw [Option.map_none, Option.toList_none, List.append_nil]
    | some a => rw [Option.map_some, Option.toList_some, replay_concat, Act.apply]
  . intro id
    have hzero : (grant?.map Act.granted).toList.countP (Act.creates id) = 0 := by
      rw [List.countP_eq_zero]
      intro act hmem
      obtain ⟨a, rfl⟩ := hlater act hmem
      exact Bool.false_ne_true
    rw [List.countP_append, hzero, h.once]
    rfl
  . intro who a id digest hmem
    rcases List.mem_append.mp hmem with hmem | hmem
    . exact h.address who a id digest hmem
    . obtain ⟨_, heq⟩ := hlater _ hmem
      cases heq
  . intro act hmem who a id hby
    rcases List.mem_append.mp hmem with hmem | hmem
    . exact (h.authorized act hmem who a id hby).step hentries hcreators _
    . obtain ⟨_, rfl⟩ := hlater act hmem
      cases hby

theorem acted_of_rejected (h : (machine T).accepts s ext = false) : acted s ext = [] := by
  rw [acted, h]
  rfl

theorem Recorded.step (h : Recorded s record) (hs : Succeeds ((machine T).dispatch ext) s () s')
    : Recorded s' (record ++ acted s ext) := by
  rw [acted, if_pos (Machine.Succeeds.accepts hs)]
  cases ext with
  | registries ext =>
    obtain ⟨t, ht, rfl⟩ := runRegistries_iff.mp hs
    exact h.grants (h.traced.step ht) (Registries.Extrinsic.dispatch_step ht).creatorsKept
  | entries origin timepoint call =>
    simp only [machine, Succeeds.bind_iff, Succeeds.modify_iff, exists_eq_left, exists_const] at hs
    obtain ⟨who, act, hsigned, hact, hperforms⟩ := Call.dispatch_performs hs
    have hact' : call.act? who s = some act := hact
    rw [Extrinsic.act?, hsigned, Option.bind_some, hact', Option.toList_some]
    exact h.performs ⟨hperforms.acts, hperforms.entries, hperforms.authorizations, hperforms.info⟩

/--
Every entry is what the acts on it have made of it. All of them were signed by the creator of its registry,
or by somebody whom the creator has let assert.
-/
theorem run_entries (exts : List (Extrinsic T))
    : Recorded ((machine T).run (State.genesis T) exts) (acts T exts) := by
  have hgenesis : Recorded (State.genesis T) [] :=
    ⟨⟨nofun, nofun⟩, rfl, fun _ => rfl, nofun, nofun⟩
  exact Machine.collect_invariant (fun _ _ => acted_of_rejected) (fun _ _ _ _ => Recorded.step)
    hgenesis

end Runs

end Entries
