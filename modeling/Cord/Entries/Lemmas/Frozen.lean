import Cord.Entries.Impl
import Cord.Registries.Lemmas.Status

/-!
This module contains that registries which are archived or revoked are frozen, together with the
entries that belong to them.
-/

open Frame Identifier

namespace Entries

variable {T : Config} {s s' : State T} {u : Unit} {origin : T.Origin} {ext : Extrinsic T}
  {registryId : T.Ss58Identifier}

@[simp]
theorem runRegistries_iff {α : Type} {x : Registries.CallM T.toRegistries α} {a : α}
    : Succeeds (runRegistries x) s a s' ↔
        ∃ t, Succeeds x s.registries a t ∧ s' = { s with registries := t } := by
  simp [runRegistries]

@[simp]
theorem getEntry_iff {registryEntryId : T.Ss58Identifier} {entry : RegistryEntryDetails T}
    : Succeeds (getEntry registryEntryId) s entry s' ↔
        s.registryEntries.get registryEntryId = some entry ∧ s' = s := by
  simp [getEntry, and_comm]

@[simp]
theorem insertEntry_iff {registryEntryId : T.Ss58Identifier} {entry : RegistryEntryDetails T}
    : Succeeds (insertEntry registryEntryId entry) s u s'
        ↔
      s' = { s with registryEntries := s.registryEntries.insert registryEntryId entry } := by
  simp [insertEntry]

@[simp]
theorem depositEvent_iff {event : Event T}
    : Succeeds (depositEvent event) s u s' ↔ s' = { s with events := s.events ++ [event] } := by
  simp [depositEvent]

/--
What a call of the entries pallet has done: it has written one entry, which stays with its registry.
The registry is neither archived nor revoked, and is left as it is.
-/
structure WritesEntry (s s' : State T) (id : T.Ss58Identifier) (entry : RegistryEntryDetails T)
    : Prop where
  opened : ∃ d, s.registries.Open entry.registryId d
  kept : ∀ old, s.registryEntries.get id = some old → old.registryId = entry.registryId
  info : s'.registries.registryInfo = s.registries.registryInfo
  entries : s'.registryEntries = s.registryEntries.insert id entry

theorem create_writes {registryEntryId authorization : T.Ss58Identifier} {digest : T.Hash}
    {blob : Option (BoundedVec UInt8 T.maxRegistryEntryBlobSize)}
    (h : Succeeds (create origin registryEntryId authorization digest blob) s () s')
    : ∃ id entry, WritesEntry s s' id entry := by
  simp only [create, updateActivity, Succeeds.bind_iff, Succeeds.ensureOrigin_iff,
    Succeeds.okOr_iff, Succeeds.get_iff, Succeeds.ensure_iff, runRegistries_iff, insertEntry_iff,
    Registries.updateActivity_iff, depositEvent_iff, Bool.not_eq_true',
    StorageMap.containsKey_eq_false_iff, and_assoc, exists_and_left, exists_eq_left,
    exists_const] at h
  obtain ⟨creator, _, registryId, _, ⟨t, hauth, rfl⟩, id, _, hfresh, rfl⟩ := h
  obtain ⟨rfl, hopen, _⟩ := Registries.ensureAuthorizationWith_open hauth
  refine ⟨id, _, hopen, ?_, rfl, rfl⟩
  intro old hold
  rw [hfresh] at hold
  cases hold

theorem changeEntryWith_writes {check : RegistryEntryDetails T → CallM T Unit}
    {change : RegistryEntryDetails T → RegistryEntryDetails T} {txAction : CallTypeOf}
    {event : T.AccountId → T.Ss58Identifier → Event T}
    {registryEntryId authorization : T.Ss58Identifier}
    (hcheck : ∀ {entry s s'}, Succeeds (check entry) s () s' → s' = s)
    (hchange : ∀ entry, (change entry).registryId = entry.registryId)
    (h : Succeeds (changeEntryWith check change txAction event origin registryEntryId authorization)
      s () s')
    : ∃ id entry, WritesEntry s s' id entry := by
  simp only [changeEntryWith, updateActivity, Succeeds.bind_iff, Succeeds.ensureOrigin_iff,
    Succeeds.ensure_iff, runRegistries_iff, getEntry_iff, insertEntry_iff,
    Registries.updateActivity_iff, depositEvent_iff, and_assoc, exists_and_left, exists_eq_left,
    exists_const] at h
  obtain ⟨updater, _, _, _, ⟨t, hauth, rfl⟩, entry, hentry, rfl, _, _, hok, rfl⟩ := h
  obtain ⟨rfl, hopen, _⟩ := Registries.ensureAuthorizationWith_open hauth
  cases hcheck hok
  refine ⟨registryEntryId, change entry, ?_, ?_, rfl, rfl⟩
  . rw [hchange]
    exact hopen
  . intro old hold
    rw [hentry, Option.some.injEq] at hold
    rw [hchange, hold]

theorem Call.dispatch_writes {call : Call T} (h : Succeeds (call.dispatch origin) s () s')
    : ∃ id entry, WritesEntry s s' id entry := by
  cases call with
  | create registryEntryId authorization digest blob =>
    rw [Call.dispatch] at h
    exact create_writes h
  | update _ _ _ _ =>
    apply changeEntryWith_writes _ _ h
    . intro entry s s' h
      exact (Succeeds.pure_iff.mp h).2
    . intro entry
      rfl
  | revoke _ _ =>
    apply changeEntryWith_writes _ _ h
    . intro entry s s' h
      exact (Succeeds.pure_iff.mp h).2
    . intro entry
      rfl
  | reinstate _ _ =>
    apply changeEntryWith_writes _ _ h
    . intro entry s s' h
      exact (Succeeds.ensure_iff.mp h).2
    . intro entry
      rfl

theorem dispatch_cases (h : Succeeds ((machine T).dispatch ext) s () s')
    : (∃ ext', ext = .registries ext' ∧ Succeeds ext'.dispatch s.registries () s'.registries ∧
        s'.registryEntries = s.registryEntries) ∨
      (∃ origin timepoint call id entry, ext = .entries origin timepoint call ∧
        WritesEntry s s' id entry) := by
  cases ext with
  | registries ext =>
    simp only [machine, runRegistries_iff] at h
    obtain ⟨t, ht, rfl⟩ := h
    exact .inl ⟨ext, rfl, ht, rfl⟩
  | entries origin timepoint call =>
    simp only [machine, Succeeds.bind_iff, Succeeds.modify_iff, exists_eq_left, exists_const] at h
    obtain ⟨id, entry, hwrites⟩ := Call.dispatch_writes h
    obtain ⟨d, hopen⟩ := hwrites.opened
    refine .inr ⟨origin, timepoint, call, id, entry, rfl, ?_⟩
    exact ⟨⟨d, hopen.stored, hopen.archived, hopen.revoked⟩, hwrites.kept, hwrites.info,
      hwrites.entries⟩

def Extrinsic.Restores (registryId : T.Ss58Identifier) : Extrinsic T → Prop
  | .registries ext => ext.call.Restores registryId
  | .entries _ _ _ => False

def Extrinsic.Reinstates (registryId : T.Ss58Identifier) : Extrinsic T → Prop
  | .registries ext => ext.call.Reinstates registryId
  | .entries _ _ _ => False

def Extrinsic.flagChange?
    : Extrinsic T → Option (T.Ss58Identifier ×
        (Registries.RegistryDetails T.toRegistries → Registries.RegistryDetails T.toRegistries))
  | .registries ext => ext.call.flagChange?
  | .entries _ _ _ => none

/--
The record of a registry and the entries that belong to it are the same in both states.
-/
structure SameRegistry (s s' : State T) (registryId : T.Ss58Identifier) : Prop where
  info : s'.registries.registryInfo.get registryId = s.registries.registryInfo.get registryId
  entries : ∀ id (entry : RegistryEntryDetails T), entry.registryId = registryId →
    (s'.registryEntries.get id = some entry ↔ s.registryEntries.get id = some entry)

theorem WritesEntry.same {id : T.Ss58Identifier} {entry : RegistryEntryDetails T}
    (h : WritesEntry s s' id entry) (hne : entry.registryId ≠ registryId)
    : SameRegistry s s' registryId := by
  constructor
  . rw [h.info]
  . intro id' entry' hentry'
    rw [h.entries, StorageMap.get_insert]
    split
    . next heq =>
      -- The entry that was written belongs to another registry, and did so before.
      subst heq
      constructor
      . intro hget
        rw [Option.some.injEq] at hget
        exact absurd (hget ▸ hentry') hne
      . intro hget
        exact absurd ((h.kept entry' hget).symm.trans hentry') hne
    . rfl

theorem run_exclusive (exts : List (Extrinsic T))
    : ((machine T).run (State.genesis T) exts).registries.Exclusive := by
  apply Machine.run_invariant (I := fun s : State T => s.registries.Exclusive)
  . intro s ext s' hs hsucc
    rcases dispatch_cases hsucc with ⟨ext', _, hsucc', _⟩ | ⟨_, _, _, _, _, _, hwrites⟩
    . exact (Registries.Extrinsic.dispatch_step hsucc').exclusive hs
    . unfold Registries.State.Exclusive
      rw [hwrites.info]
      exact hs
  . intro registryId d hd
    cases hd

theorem dispatch_frozen {d : Registries.RegistryDetails T.toRegistries}
    (h : Succeeds ((machine T).dispatch ext) s () s') (hs : s.registries.Exclusive)
    (hd : s.registries.registryInfo.get registryId = some d)
    (hfrozen : (d.archived = true ∧ ¬ ext.Restores registryId) ∨
      (d.revoked = true ∧ ¬ ext.Reinstates registryId))
    : SameRegistry s s' registryId := by
  rcases dispatch_cases h with ⟨ext', rfl, hsucc, hentries⟩ | ⟨_, _, _, id, entry, rfl, hwrites⟩
  . constructor
    . rw [hd]
      exact (Registries.Extrinsic.dispatch_step hsucc).frozen hs hd hfrozen
    . intro id entry _
      rw [hentries]
  . obtain ⟨d', hopen⟩ := hwrites.opened
    exact hwrites.same (hopen.ne_of_frozen hd (hfrozen.imp And.left And.left)).symm

theorem dispatch_flagChange
    {change : Registries.RegistryDetails T.toRegistries → Registries.RegistryDetails T.toRegistries}
    (h : Succeeds ((machine T).dispatch ext) s () s')
    (hext : ext.flagChange? = some (registryId, change))
    : ∃ d, s.registries.registryInfo.get registryId = some d ∧ change d ≠ d ∧
        s'.registries.registryInfo = s.registries.registryInfo.insert registryId (change d) := by
  rcases dispatch_cases h with ⟨ext', rfl, hsucc, _⟩ | ⟨_, _, _, _, _, rfl, _⟩
  . exact (Registries.Extrinsic.dispatch_step hsucc).flagChange hext
  . cases hext

/--
In every state of a run no registry is both archived and revoked, and a successful call leaves every
frozen registry and its entries as they are unless it is the one that clears the flag. The calls that
set or clear a flag change the flag and nothing else.
-/
theorem run_frozen (exts : List (Extrinsic T))
    : (∀ registryId d,
        ((machine T).run (State.genesis T) exts).registries.registryInfo.get registryId = some d →
          ¬ (d.archived = true ∧ d.revoked = true)) ∧
      ∀ ext s', Succeeds ((machine T).dispatch ext) ((machine T).run (State.genesis T) exts) () s' →
        (∀ registryId d,
          ((machine T).run (State.genesis T) exts).registries.registryInfo.get registryId = some d →
            (d.archived = true ∧ ¬ ext.Restores registryId) ∨
              (d.revoked = true ∧ ¬ ext.Reinstates registryId) →
            SameRegistry ((machine T).run (State.genesis T) exts) s' registryId) ∧
        ∀ registryId change, ext.flagChange? = some (registryId, change) →
          ∃ d,
            ((machine T).run (State.genesis T) exts).registries.registryInfo.get registryId = some d ∧
              change d ≠ d ∧
              s'.registries.registryInfo =
                ((machine T).run (State.genesis T) exts).registries.registryInfo.insert registryId
                  (change d) := by
  have hs := run_exclusive exts
  refine ⟨hs, ?_⟩
  intro ext s' hsucc
  refine ⟨?_, ?_⟩
  . intro registryId d hd hfrozen
    exact dispatch_frozen hsucc hs hd hfrozen
  . intro registryId change hext
    exact dispatch_flagChange hsucc hext

end Entries
