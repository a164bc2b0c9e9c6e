import Cord.Statement.Lemmas.Calls

/-!
This module contains the agreement of a statement with the entries of its digests: the current digest
of a statement has an entry. A partial removal takes the first entries in the order of iteration, and
the one of the current digest can be among them.
-/

open Frame Identifier ChainSpace

namespace Statement

variable {T : Config} {s s' : State T} {origin : T.Origin} {call : Call T}

def DigestsKept (s : State T) : Prop :=
  ∀ id details, s.statements.get id = some details →
    s.entries.containsKey (id, details.digest) = true

def Call.SparesCurrent (call : Call T) (s : State T) : Prop :=
  -- A removal that leaves the statement also leaves the entry of its current digest.
  match call with
  | .remove statementId _ =>
    ∀ details ∈ s.statements.get statementId,
      T.maxRemoveEntries.toNat < (s.iterEntries statementId).length →
        details.digest ∉ (s.iterEntries statementId).take T.maxRemoveEntries.toNat
  | _ => True

section Write

variable {id : T.Ss58Identifier} {details : StatementDetails T} {creator : T.SpaceCreatorId}

theorem DigestsKept.congr (h : DigestsKept s) (hstatements : s'.statements = s.statements)
    (hentries : s'.entries = s.entries) : DigestsKept s' := by
  intro id details hget
  rw [hstatements] at hget
  rw [hentries]
  apply h id details hget

theorem DigestsKept.write (h : DigestsKept s)
    (hstatements : s'.statements = s.statements.insert id details)
    (hentries : s'.entries = s.entries.insert (id, details.digest) creator)
    : DigestsKept s' := by
  intro id' details' hget
  unfold StorageMap.containsKey
  rw [hentries, StorageMap.get_insert]
  split
  . rfl
  . next hne =>
    rw [hstatements, StorageMap.get_insert] at hget
    split at hget
    . next heq =>
      injection hget with hget
      rw [heq, ← hget] at hne
      exact absurd rfl hne
    . apply h id' details' hget

theorem DigestsKept.removeComplete {limit : Nat} (h : DigestsKept s)
    (hstatements : s'.statements = s.statements.remove id)
    (hentries : s'.entries = s.entries.clearPrefix T.iterOrder id limit) : DigestsKept s' := by
  intro id' details' hget
  rw [hstatements, StorageMap.get_remove] at hget
  split at hget
  . cases hget
  . next hne =>
    unfold StorageMap.containsKey
    rw [hentries, StorageMap.get_clearPrefix_of_ne _ _ _ hne]
    apply h id' details' hget

theorem DigestsKept.removePartial_iff {digests : List T.Hash} (h : DigestsKept s)
    (hget : s.statements.get id = some details) (hstatements : s'.statements = s.statements)
    (hentries : s'.entries =
      digests.foldl (fun entries digest => entries.remove (id, digest)) s.entries)
    : DigestsKept s' ↔ details.digest ∉ digests := by
  constructor
  . intro h' hmem
    have hkept := h' id details (by rw [hstatements]; exact hget)
    unfold StorageMap.containsKey at hkept
    rw [hentries, StorageMap.get_foldl_remove, if_pos ⟨rfl, hmem⟩] at hkept
    cases hkept
  . intro hspared id' details' hget'
    unfold StorageMap.containsKey
    rw [hstatements] at hget'
    rw [hentries, StorageMap.get_foldl_remove, if_neg]
    . apply h id' details' hget'
    . rintro ⟨rfl, hmem⟩
      rw [hget] at hget'
      injection hget' with hget'
      rw [← hget'] at hmem
      exact hspared hmem

end Write

theorem DigestsKept.anchor {identifier spaceId : T.Ss58Identifier} {digest : T.Hash}
    {creator : T.SpaceCreatorId} {schemaId : Option T.Ss58Identifier} (h : DigestsKept s)
    (hs : Succeeds (anchorStatement identifier digest spaceId creator schemaId) s () s')
    : DigestsKept s' := by
  simp only [anchorStatement, Succeeds.bind_iff, Succeeds.modify_iff, updateActivity_iff,
    exists_eq_left, exists_const] at hs
  subst hs
  exact h.write rfl rfl

theorem DigestsKept.call_iff (h : DigestsKept s) (hs : Succeeds (call.dispatch origin) s () s')
    : DigestsKept s' ↔ call.SparesCurrent s := by
  cases call with
  | register digest authorization schemaId =>
    obtain ⟨_, _, _, _, _, _, _, _, hstatements, hentries, _⟩ := register_spec hs
    exact iff_of_true (h.write hstatements hentries) trivial
  | update statementId newStatementDigest authorization =>
    obtain ⟨_, _, _, _, _, _, _, _, _, _, hstatements, hentries, _⟩ := update_spec hs
    exact iff_of_true (h.write hstatements hentries) trivial
  | revoke statementId authorization =>
    obtain ⟨_, _, _, _, _, _, _, _, _, hstatements, hentries, _⟩ := revoke_spec hs
    exact iff_of_true (h.congr hstatements hentries) trivial
  | restore statementId authorization =>
    obtain ⟨_, _, _, _, _, _, _, _, _, hstatements, hentries, _⟩ := restore_spec hs
    exact iff_of_true (h.congr hstatements hentries) trivial
  | remove statementId authorization =>
    obtain ⟨_, _, _, details, _, hget, _, _, hcases⟩ := remove_cases hs
    simp only [Call.SparesCurrent, hget, Option.mem_def, Option.some.injEq, forall_eq']
    rcases hcases with ⟨hle, hstatements, hentries, _⟩ | ⟨hlt, hstatements, hentries, _⟩
    . apply iff_of_true (h.removeComplete hstatements hentries)
      intro hlt
      omega
    . rw [h.removePartial_iff hget hstatements hentries]
      simp [hlt]
  | registerBatch digests authorization schemaId =>
    obtain ⟨_, _, _, _, t, _, hloop, hstatements, hentries, _⟩ := registerBatch_loop hs
    apply iff_of_true _ trivial
    have hkept : DigestsKept t := by
      apply registerDigests_invariant _ hloop (h.congr rfl rfl)
      intro s s' identifier digest hs _ _ hanchor
      exact hs.anchor hanchor
    exact hkept.congr hstatements hentries
  | addPresentation statementId presentationDigest presentationType authorization =>
    obtain ⟨_, _, _, _, _, _, _, _, _, _, hstatements, hentries, _⟩ := addPresentation_spec hs
    exact iff_of_true (h.congr hstatements hentries) trivial
  | removePresentation statementId presentationDigest authorization =>
    obtain ⟨_, _, _, _, _, _, _, _, hstatements, hentries, _⟩ := removePresentation_spec hs
    exact iff_of_true (h.congr hstatements hentries) trivial

def Extrinsic.SparesCurrent (ext : Extrinsic T) (s : State T) : Prop :=
  match ext with
  | .chainSpace _ => True
  | .statement _ _ call => call.SparesCurrent s

theorem DigestsKept.step_iff {ext : Extrinsic T} (h : DigestsKept s)
    (hs : Succeeds ((machine T).dispatch ext) s () s')
    : DigestsKept s' ↔ ext.SparesCurrent s := by
  cases ext with
  | chainSpace ext =>
    obtain ⟨t, _, rfl⟩ := chainSpace_iff.mp hs
    exact iff_of_true (h.congr rfl rfl) trivial
  | statement origin timepoint call =>
    obtain ⟨_, t, ht, hcall⟩ := Succeeds.bind_iff.mp hs
    rw [Succeeds.modify_iff] at ht
    subst ht
    exact DigestsKept.call_iff (s := { s with chainSpace.timepoint := timepoint }) h hcall

/--
Every statement has the entry of its current digest in every state of exactly those runs in which
every partial removal spares it.
-/
theorem run_digestsKept_iff (exts : List (Extrinsic T))
    : (machine T).Always DigestsKept (State.genesis T) exts ↔
        (machine T).Meets (fun s ext => ext.SparesCurrent s) (State.genesis T) exts := by
  apply Machine.always_iff_of_step
  . intro s ext s' h hs
    exact h.step_iff hs
  . intro id details hget
    cases hget

section Plain

def plainStatement (digest : UInt8) : List UInt8 :=
  [1, digest] ++ plainSpace 10 1 ++ [1]

def statementCall (call : Call .plain) : Extrinsic .plain :=
  .statement (some 1) ⟨1, 0⟩ call

def removeUpdated : List (Extrinsic .plain) := [
    -- The digest of a statement is updated twice, and its current digest is the first that is
    -- visited. Two of the three entries are removed with the last call.
    .chainSpace (plainExtrinsic (some 1) (.create [10])),
    .chainSpace (plainExtrinsic none (.approve (plainSpace 10 1) 100)),
    statementCall (.register [22] (plainAuthorization (plainSpace 10 1) 1 1) none),
    statementCall (.update (plainStatement 22) [21] (plainAuthorization (plainSpace 10 1) 1 1)),
    statementCall (.update (plainStatement 22) [20] (plainAuthorization (plainSpace 10 1) 1 1)),
    statementCall (.remove (plainStatement 22) (plainAuthorization (plainSpace 10 1) 1 1))
  ]

theorem removeUpdated_not_digestsKept
    : ¬ ∀ exts : List (Extrinsic .plain),
        DigestsKept ((machine .plain).run (State.genesis .plain) exts) := by
  intro h
  have hkept := h removeUpdated (plainStatement 22) ⟨[20], plainSpace 10 1, none⟩
    (by decide +kernel)
  revert hkept
  decide +kernel

end Plain

end Statement
