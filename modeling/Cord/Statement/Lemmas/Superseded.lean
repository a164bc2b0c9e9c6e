import Cord.Statement.Lemmas.Calls

/-!
This module contains the fate of superseded digests: an update puts the digest it replaces on the
revocation list, and it stays there as long as the statement has an entry for it. A statement that is
anchored again after its removal starts without entries, because a complete removal clears them.
-/

open Frame Identifier ChainSpace

namespace Statement

variable {T : Config} {s s' : State T} {origin : T.Origin} {call : Call T}

def EntriesLive (s : State T) : Prop :=
  ∀ id digest, s.entries.containsKey (id, digest) = true → s.statements.containsKey id = true

def SupersededRevoked (s : State T) : Prop :=
  ∀ id details digest, s.statements.get id = some details →
    s.entries.containsKey (id, digest) = true → digest ≠ details.digest →
      s.revocationList.containsKey (id, digest) = true

section Live

variable {id : T.Ss58Identifier} {details : StatementDetails T} {digest : T.Hash}
  {creator : T.SpaceCreatorId}

theorem EntriesLive.congr (h : EntriesLive s) (hstatements : s'.statements = s.statements)
    (hentries : s'.entries = s.entries) : EntriesLive s' := by
  intro id digest hentry
  rw [hentries] at hentry
  rw [hstatements]
  exact h id digest hentry

theorem EntriesLive.write (h : EntriesLive s)
    (hstatements : s'.statements = s.statements.insert id details)
    (hentries : s'.entries = s.entries.insert (id, digest) creator) : EntriesLive s' := by
  intro id' digest' hentry
  rw [hentries, StorageMap.containsKey_insert] at hentry
  rw [hstatements, StorageMap.containsKey_insert]
  cases hentry with
  | inl heq =>
    left
    exact congrArg Prod.fst heq
  | inr hentry =>
    right
    exact h id' digest' hentry

theorem EntriesLive.removeComplete (h : EntriesLive s)
    (hstatements : s'.statements = s.statements.remove id)
    (hentries : s'.entries =
      s.entries.clearPrefix T.iterOrder id (s.iterEntries id).length) : EntriesLive s' := by
  intro id' digest' hentry
  rw [hentries] at hentry
  have hclear := (StorageMap.containsKey_clearPrefix T.iterOrder_eq s.entries id (Nat.le_refl _)
    id' digest').mp hentry
  rw [hstatements, StorageMap.containsKey_remove]
  exact ⟨hclear.1, h id' digest' hclear.2⟩

theorem EntriesLive.removePartial {digests : List T.Hash} (h : EntriesLive s)
    (hstatements : s'.statements = s.statements)
    (hentries : s'.entries =
      digests.foldl (fun entries digest => entries.remove (id, digest)) s.entries)
    : EntriesLive s' := by
  intro id' digest' hentry
  rw [hentries, StorageMap.containsKey_foldl_remove] at hentry
  rw [hstatements]
  exact h id' digest' hentry.2

end Live

theorem EntriesLive.dispatch (h : EntriesLive s) (hs : Succeeds (call.dispatch origin) s () s')
    : EntriesLive s' := by
  cases call with
  | register digest authorization schemaId =>
    obtain ⟨_, _, _, _, _, _, _, _, hstatements, hentries, _⟩ := register_spec hs
    exact h.write hstatements hentries
  | update statementId newStatementDigest authorization =>
    obtain ⟨_, _, _, _, _, _, _, _, _, _, hstatements, hentries, _⟩ := update_spec hs
    exact h.write hstatements hentries
  | revoke statementId authorization =>
    obtain ⟨_, _, _, _, _, _, _, _, _, hstatements, hentries, _⟩ := revoke_spec hs
    exact h.congr hstatements hentries
  | restore statementId authorization =>
    obtain ⟨_, _, _, _, _, _, _, _, _, hstatements, hentries, _⟩ := restore_spec hs
    exact h.congr hstatements hentries
  | remove statementId authorization =>
    obtain ⟨_, _, _, _, _, _, _, _, hcases⟩ := remove_cases hs
    rcases hcases with ⟨_, hstatements, hentries, _⟩ | ⟨_, hstatements, hentries, _⟩
    . exact h.removeComplete hstatements hentries
    . exact h.removePartial hstatements hentries
  | registerBatch digests authorization schemaId =>
    obtain ⟨_, _, _, _, t, _, hloop, hstatements, hentries, _⟩ := registerBatch_loop hs
    have hlive : EntriesLive t := by
      apply registerDigests_invariant _ hloop (h.congr rfl rfl)
      intro s s' identifier digest hs _ _ hanchor
      obtain ⟨hstatements, hentries, _⟩ := anchorStatement_spec hanchor
      exact hs.write hstatements hentries
    exact hlive.congr hstatements hentries
  | addPresentation statementId presentationDigest presentationType authorization =>
    obtain ⟨_, _, _, _, _, _, _, _, _, _, hstatements, hentries, _⟩ := addPresentation_spec hs
    exact h.congr hstatements hentries
  | removePresentation statementId presentationDigest authorization =>
    obtain ⟨_, _, _, _, _, _, _, _, hstatements, hentries, _⟩ := removePresentation_spec hs
    exact h.congr hstatements hentries

section Revoked

variable {id : T.Ss58Identifier} {details : StatementDetails T} {digest : T.Hash}
  {creator : T.SpaceCreatorId}

theorem SupersededRevoked.congr (h : SupersededRevoked s)
    (hstatements : s'.statements = s.statements) (hentries : s'.entries = s.entries)
    (hrevoked : s'.revocationList = s.revocationList) : SupersededRevoked s' := by
  intro id details digest hget hentry hne
  rw [hstatements] at hget
  rw [hentries] at hentry
  rw [hrevoked]
  exact h id details digest hget hentry hne

theorem SupersededRevoked.anchor (h : SupersededRevoked s) (hlive : EntriesLive s)
    (hfresh : s.statements.get id = none)
    (hstatements : s'.statements = s.statements.insert id details)
    (hentries : s'.entries = s.entries.insert (id, details.digest) creator)
    (hrevoked : s'.revocationList = s.revocationList) : SupersededRevoked s' := by
  intro id' details' digest' hget hentry hne
  rw [hentries, StorageMap.containsKey_insert] at hentry
  rw [hstatements, StorageMap.get_insert] at hget
  rw [hrevoked]
  by_cases hid : id' = id
  . -- The only entry of a fresh identifier is the one that is written with it.
    subst hid
    rw [if_pos rfl] at hget
    injection hget with hget
    subst hget
    cases hentry with
    | inl heq => exact absurd (congrArg Prod.snd heq) hne
    | inr hentry =>
      have hcontains := hlive id' digest' hentry
      rw [StorageMap.containsKey, hfresh] at hcontains
      cases hcontains
  . rw [if_neg hid] at hget
    cases hentry with
    | inl heq => exact absurd (congrArg Prod.fst heq) hid
    | inr hentry => exact h id' details' digest' hget hentry hne

theorem SupersededRevoked.update {status : StatementEntryStatus T} (h : SupersededRevoked s)
    (hget : s.statements.get id = some details)
    (hstatements : s'.statements = s.statements.insert id { details with digest })
    (hentries : s'.entries = s.entries.insert (id, digest) creator)
    (hrevoked : s'.revocationList = s.revocationList.insert (id, details.digest) status)
    : SupersededRevoked s' := by
  intro id' details' digest' hget' hentry hne
  rw [hentries, StorageMap.containsKey_insert] at hentry
  rw [hstatements, StorageMap.get_insert] at hget'
  rw [hrevoked, StorageMap.containsKey_insert]
  by_cases hid : id' = id
  . subst hid
    rw [if_pos rfl] at hget'
    injection hget' with hget'
    subst hget'
    cases hentry with
    | inl heq => exact absurd (congrArg Prod.snd heq) hne
    | inr hentry =>
      -- Either the entry is that of the digest which is replaced now, or it was superseded before.
      by_cases hold : digest' = details.digest
      . left
        rw [hold]
      . right
        exact h id' details digest' hget hentry hold
  . right
    rw [if_neg hid] at hget'
    cases hentry with
    | inl heq => exact absurd (congrArg Prod.fst heq) hid
    | inr hentry => exact h id' details' digest' hget' hentry hne

theorem SupersededRevoked.revoke {status : StatementEntryStatus T} (h : SupersededRevoked s)
    (hstatements : s'.statements = s.statements) (hentries : s'.entries = s.entries)
    (hrevoked : s'.revocationList = s.revocationList.insert (id, digest) status)
    : SupersededRevoked s' := by
  intro id' details' digest' hget hentry hne
  rw [hstatements] at hget
  rw [hentries] at hentry
  rw [hrevoked, StorageMap.containsKey_insert]
  right
  exact h id' details' digest' hget hentry hne

theorem SupersededRevoked.restore (h : SupersededRevoked s)
    (hget : s.statements.get id = some details)
    (hstatements : s'.statements = s.statements) (hentries : s'.entries = s.entries)
    (hrevoked : s'.revocationList = s.revocationList.remove (id, details.digest))
    : SupersededRevoked s' := by
  intro id' details' digest' hget' hentry hne
  rw [hstatements] at hget'
  rw [hentries] at hentry
  rw [hrevoked, StorageMap.containsKey_remove]
  refine ⟨?_, h id' details' digest' hget' hentry hne⟩
  -- Only the current digest is taken off the list.
  intro heq
  injection heq with hid hdigest
  rw [hid, hget] at hget'
  injection hget' with hget'
  rw [hdigest, hget'] at hne
  exact hne rfl

theorem SupersededRevoked.removeComplete {limit limit' : Nat} (h : SupersededRevoked s)
    (hstatements : s'.statements = s.statements.remove id)
    (hentries : s'.entries = s.entries.clearPrefix T.iterOrder id limit)
    (hrevoked : s'.revocationList = s.revocationList.clearPrefix T.iterOrder id limit')
    : SupersededRevoked s' := by
  intro id' details' digest' hget hentry hne
  rw [hstatements, StorageMap.get_remove] at hget
  by_cases hid : id' = id
  . rw [if_pos hid] at hget
    cases hget
  . rw [if_neg hid] at hget
    unfold StorageMap.containsKey at *
    rw [hentries, StorageMap.get_clearPrefix_of_ne _ _ _ hid] at hentry
    rw [hrevoked, StorageMap.get_clearPrefix_of_ne _ _ _ hid]
    exact h id' details' digest' hget hentry hne

theorem SupersededRevoked.removePartial {digests : List T.Hash} (h : SupersededRevoked s)
    (hstatements : s'.statements = s.statements)
    (hentries : s'.entries =
      digests.foldl (fun entries digest => entries.remove (id, digest)) s.entries)
    (hrevoked : s'.revocationList =
      digests.foldl (fun list digest => list.remove (id, digest)) s.revocationList)
    : SupersededRevoked s' := by
  intro id' details' digest' hget hentry hne
  rw [hstatements] at hget
  rw [hentries, StorageMap.containsKey_foldl_remove] at hentry
  rw [hrevoked, StorageMap.containsKey_foldl_remove]
  exact ⟨hentry.1, h id' details' digest' hget hentry.2 hne⟩

end Revoked

theorem SupersededRevoked.dispatch (h : SupersededRevoked s) (hlive : EntriesLive s)
    (hs : Succeeds (call.dispatch origin) s () s') : SupersededRevoked s' := by
  cases call with
  | register digest authorization schemaId =>
    obtain ⟨_, _, _, _, _, _, hfresh, _, hstatements, hentries, _, hrevoked, _⟩ := register_spec hs
    exact h.anchor hlive hfresh hstatements hentries hrevoked
  | update statementId newStatementDigest authorization =>
    obtain ⟨_, _, _, _, _, hget, _, _, _, _, hstatements, hentries, _, hrevoked, _⟩ :=
      update_spec hs
    exact h.update hget hstatements hentries hrevoked
  | revoke statementId authorization =>
    obtain ⟨_, _, _, _, _, _, _, _, _, hstatements, hentries, _, hrevoked, _⟩ := revoke_spec hs
    exact h.revoke hstatements hentries hrevoked
  | restore statementId authorization =>
    obtain ⟨_, _, _, _, _, hget, _, _, _, hstatements, hentries, _, hrevoked, _⟩ := restore_spec hs
    exact h.restore hget hstatements hentries hrevoked
  | remove statementId authorization =>
    obtain ⟨_, _, _, _, _, _, _, _, hcases⟩ := remove_cases hs
    rcases hcases with ⟨_, hstatements, hentries, _, hrevoked⟩ |
      ⟨_, hstatements, hentries, _, hrevoked⟩
    . exact h.removeComplete hstatements hentries hrevoked
    . exact h.removePartial hstatements hentries hrevoked
  | registerBatch digests authorization schemaId =>
    obtain ⟨_, _, _, _, t, _, hloop, hstatements, hentries, _, hrevoked, _⟩ :=
      registerBatch_loop hs
    have hkept : EntriesLive t ∧ SupersededRevoked t := by
      apply registerDigests_invariant (I := fun t => EntriesLive t ∧ SupersededRevoked t) _ hloop
      . exact ⟨hlive.congr rfl rfl, h.congr rfl rfl rfl⟩
      . intro s s' identifier digest hs _ hfresh hanchor
        obtain ⟨hstatements, hentries, _, hrevoked, _⟩ := anchorStatement_spec hanchor
        exact ⟨hs.1.write hstatements hentries,
          hs.2.anchor hs.1 hfresh hstatements hentries hrevoked⟩
    exact hkept.2.congr hstatements hentries hrevoked
  | addPresentation statementId presentationDigest presentationType authorization =>
    obtain ⟨_, _, _, _, _, _, _, _, _, _, hstatements, hentries, _, hrevoked, _⟩ :=
      addPresentation_spec hs
    exact h.congr hstatements hentries hrevoked
  | removePresentation statementId presentationDigest authorization =>
    obtain ⟨_, _, _, _, _, _, _, _, hstatements, hentries, _, hrevoked, _⟩ :=
      removePresentation_spec hs
    exact h.congr hstatements hentries hrevoked

/--
In every state of every run, the digests that were replaced by an update are on the revocation list
for as long as the statement has entries for them.
-/
theorem run_supersededRevoked (exts : List (Extrinsic T))
    : (machine T).Always SupersededRevoked (State.genesis T) exts := by
  have hkept : (machine T).Always (fun s => EntriesLive s ∧ SupersededRevoked s)
      (State.genesis T) exts := by
    apply run_of_call (I := fun s => EntriesLive s ∧ SupersededRevoked s)
    . intro s t h
      exact ⟨h.1.congr rfl rfl, h.2.congr rfl rfl rfl⟩
    . intro s origin call s' h hs
      exact ⟨h.1.dispatch hs, h.2.dispatch h.1 hs⟩
    . constructor
      . intro id digest hentry
        cases hentry
      . intro id details digest hget
        cases hget
  apply hkept.imp
  intro s h
  exact h.2

end Statement
