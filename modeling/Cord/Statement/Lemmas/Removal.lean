import Cord.Statement.Lemmas.Digests

/-!
This module contains what a removal leaves behind. A complete removal clears the records of the old
digests up to the number of entries, which is not the number of records, and does not look at the
presentations. A partial removal takes the record of a revocation together with the entry of the digest,
also if it is the current one.
-/

open Frame Identifier ChainSpace

namespace Statement

variable {T : Config} {s s' : State T} {origin : T.Origin} {call : Call T}
  {id statementId authorization : T.Ss58Identifier}

section Revoked

def State.IsRevoked (s : State T) (statementId : T.Ss58Identifier) : Prop :=
  ∃ details, s.statements.get statementId = some details ∧
    s.revocationList.containsKey (statementId, details.digest) = true

def Call.KeepsRevoked (s : State T) (_origin : T.Origin) (call : Call T) (s' : State T) : Prop :=
  match call with
  | .remove statementId _ =>
    s.IsRevoked statementId → s'.statements.containsKey statementId = true →
      s'.IsRevoked statementId
  | _ => True

def Call.SparesRevoked (s : State T) (_origin : T.Origin) (call : Call T) : Prop :=
  -- A partial removal does not take the entry of the current digest if that is revoked.
  match call with
  | .remove statementId _ =>
    ∀ details ∈ s.statements.get statementId,
      s.revocationList.containsKey (statementId, details.digest) = true →
      T.maxRemoveEntries.toNat < (s.iterEntries statementId).length →
        details.digest ∉ (s.iterEntries statementId).take T.maxRemoveEntries.toNat
  | _ => True

theorem State.isRevoked_iff {details : StatementDetails T}
    (h : s.statements.get statementId = some details)
    : s.IsRevoked statementId ↔
        s.revocationList.containsKey (statementId, details.digest) = true := by
  simp [State.IsRevoked, h]

theorem remove_keepsRevoked_iff (h : Succeeds (remove origin statementId authorization) s () s')
    : Call.KeepsRevoked s origin (.remove statementId authorization) s' ↔
        Call.SparesRevoked s origin (.remove statementId authorization) := by
  obtain ⟨_, _, _, details, _, hget, _, _, hcases⟩ := remove_cases h
  unfold Call.KeepsRevoked Call.SparesRevoked
  simp only [hget, Option.mem_def, Option.some.injEq, forall_eq', State.isRevoked_iff hget]
  rcases hcases with ⟨hle, hstatements, _⟩ | ⟨hlt, hstatements, _, _, hrevoked⟩
  . -- A complete removal does not leave the statement.
    apply iff_of_true
    . intro _ hcontains
      rw [hstatements, StorageMap.containsKey, StorageMap.get_remove_self] at hcontains
      cases hcontains
    . intro _ hlt
      omega
  . have hget' : s'.statements.get statementId = some details := by
      rw [hstatements]
      exact hget
    rw [State.isRevoked_iff hget', hrevoked, StorageMap.containsKey_foldl_remove]
    simp only [StorageMap.containsKey_of_get hget', true_imp_iff, hlt, true_and]
    apply imp_congr_right
    intro hcontains
    simp [hcontains]

theorem dispatch_keepsRevoked_iff (h : Succeeds (call.dispatch origin) s () s')
    : Call.KeepsRevoked s origin call s' ↔ Call.SparesRevoked s origin call := by
  cases call with
  | remove statementId authorization => exact remove_keepsRevoked_iff h
  | _ => exact Iff.rfl

/--
No removal of a run makes a revoked statement valid again exactly if every partial removal spares the
entry of a current digest that is revoked.
-/
theorem run_keepsRevoked_iff (exts : List (Extrinsic T))
    : (machine T).EveryStep (Extrinsic.Does Call.KeepsRevoked) (State.genesis T) exts
        ↔
      (machine T).Meets (Extrinsic.Meets Call.SparesRevoked) (State.genesis T) exts := by
  apply everyStep_iff_of_call (K := fun _ => True)
  . intros
    trivial
  . intro s origin call s' _ h
    have hiff := dispatch_keepsRevoked_iff h
    exact ⟨hiff.mp, fun hspares => ⟨hiff.mpr hspares, trivial⟩⟩
  . trivial

end Revoked

section Complete

/--
No key of the pallet mentions the statement.
-/
structure State.Forgets (s : State T) (id : T.Ss58Identifier) : Prop where
  statement : s.statements.get id = none
  entries : ∀ digest, s.entries.get (id, digest) = none
  revocations : ∀ digest, s.revocationList.get (id, digest) = none
  presentations : ∀ digest, s.presentations.get (id, digest) = none

/--
The only thing that is known of the statement is that it was registered with the digest.
-/
structure State.KnowsOnly (s : State T) (id : T.Ss58Identifier) (digest : T.Hash) : Prop where
  entries : ∀ other, s.entries.containsKey (id, other) = true ↔ other = digest
  revocations : ∀ other, s.revocationList.get (id, other) = none
  presentations : ∀ other, s.presentations.get (id, other) = none

def Call.LeavesNothing (s : State T) (_origin : T.Origin) (call : Call T) (s' : State T) : Prop :=
  match call with
  | .remove statementId _ => s'.statements.get statementId = none → s'.Forgets statementId
  | .register digest _ _ =>
    ∀ id, s.statements.get id = none → s'.statements.containsKey id = true → s'.KnowsOnly id digest
  | _ => True

def Call.ClearsAll (s : State T) (_origin : T.Origin) (call : Call T) : Prop :=
  -- A complete removal finds no presentation, and not more records of old digests than entries.
  match call with
  | .remove statementId _ =>
    (s.iterEntries statementId).length ≤ T.maxRemoveEntries.toNat →
      (s.revocationList.prefixKeys statementId).card ≤ (s.iterEntries statementId).length ∧
        s.presentations.prefixKeys statementId = 0
  | _ => True

def State.Clean (s : State T) : Prop :=
  ∀ id, s.statements.get id = none → s.Forgets id

/--
Between `s` and `s'` nothing has changed about statements other than `id`.
-/
structure State.Frames (s : State T) (id : T.Ss58Identifier) (s' : State T) : Prop where
  statements : StorageMap.SameOutside (fun key => key = id) s.statements s'.statements
  entries : StorageMap.SameOutside (fun key => key.1 = id) s.entries s'.entries
  revocations : StorageMap.SameOutside (fun key => key.1 = id) s.revocationList s'.revocationList
  presentations : StorageMap.SameOutside (fun key => key.1 = id) s.presentations s'.presentations

theorem State.Clean.frames (h : s.Clean) (hframes : s.Frames id s')
    (hid : s'.statements.get id = none → s'.Forgets id) : s'.Clean := by
  intro other hother
  by_cases heq : other = id
  . subst heq
    exact hid hother
  . rw [hframes.statements other heq] at hother
    have hforgets := h other hother
    constructor
    . rw [hframes.statements other heq]
      exact hother
    . intro digest
      rw [hframes.entries (other, digest) heq]
      exact hforgets.entries digest
    . intro digest
      rw [hframes.revocations (other, digest) heq]
      exact hforgets.revocations digest
    . intro digest
      rw [hframes.presentations (other, digest) heq]
      exact hforgets.presentations digest

theorem State.Clean.frames_of_stored {details : StatementDetails T} (h : s.Clean)
    (hframes : s.Frames id s') (hget : s'.statements.get id = some details) : s'.Clean := by
  apply h.frames hframes
  intro hnone
  rw [hget] at hnone
  cases hnone

theorem State.Clean.congr (h : s.Clean) (hstatements : s'.statements = s.statements)
    (hentries : s'.entries = s.entries) (hrevocations : s'.revocationList = s.revocationList)
    (hpresentations : s'.presentations = s.presentations) : s'.Clean := by
  intro id hid
  rw [hstatements] at hid
  have hforgets := h id hid
  constructor
  . rw [hstatements]
    exact hid
  . rw [hentries]
    exact hforgets.entries
  . rw [hrevocations]
    exact hforgets.revocations
  . rw [hpresentations]
    exact hforgets.presentations

theorem anchorStatement_frames {digest : T.Hash} {spaceId : T.Ss58Identifier}
    {creator : T.SpaceCreatorId} {schemaId : Option T.Ss58Identifier}
    (h : Succeeds (anchorStatement id digest spaceId creator schemaId) s () s') : s.Frames id s' := by
  obtain ⟨hstatements, hentries, _, hrevocations, hpresentations⟩ := anchorStatement_spec h
  exact ⟨.of_insert rfl hstatements, .of_insert rfl hentries, .of_eq hrevocations,
    .of_eq hpresentations⟩

theorem State.Clean.anchor {digest : T.Hash} {spaceId : T.Ss58Identifier}
    {creator : T.SpaceCreatorId} {schemaId : Option T.Ss58Identifier} (h : s.Clean)
    (hs : Succeeds (anchorStatement id digest spaceId creator schemaId) s () s') : s'.Clean := by
  apply h.frames_of_stored (anchorStatement_frames hs)
  rw [(anchorStatement_spec hs).1]
  apply StorageMap.get_insert_self

theorem remove_frames (h : Succeeds (remove origin statementId authorization) s () s')
    : s.Frames statementId s' := by
  obtain ⟨_, _, _, _, _, _, _, hpresentations, hcases⟩ := remove_cases h
  rcases hcases with ⟨_, hstatements, hentries, _, hrevocations⟩ |
    ⟨_, hstatements, hentries, _, hrevocations⟩
  . exact ⟨.of_remove rfl hstatements, .of_foldl_remove hentries, .of_foldl_remove hrevocations,
      .of_eq hpresentations⟩
  . exact ⟨.of_eq hstatements, .of_foldl_remove hentries, .of_foldl_remove hrevocations,
      .of_eq hpresentations⟩

theorem remove_leavesNothing_iff (h : Succeeds (remove origin statementId authorization) s () s')
    : Call.LeavesNothing s origin (.remove statementId authorization) s' ↔
        Call.ClearsAll s origin (.remove statementId authorization) := by
  obtain ⟨_, _, _, details, _, hget, _, hpresentations, hcases⟩ := remove_cases h
  unfold Call.LeavesNothing Call.ClearsAll
  rcases hcases with ⟨hle, hstatements, hentries, _, hrevocations⟩ | ⟨hlt, hstatements, _⟩
  . have hnone : s'.statements.get statementId = none := by
      rw [hstatements, StorageMap.get_remove_self]
    simp only [hnone, true_imp_iff, hle]
    rw [StorageMap.prefixKeys_eq_zero_iff,
      ← StorageMap.clearPrefix_eq_none_iff T.iterOrder_eq s.revocationList statementId,
      ← hrevocations, ← hpresentations]
    constructor
    . intro hforgets
      exact ⟨hforgets.revocations, hforgets.presentations⟩
    . rintro ⟨hrevoked, hpresented⟩
      refine ⟨hnone, ?_, hrevoked, hpresented⟩
      intro digest
      rw [hentries]
      exact StorageMap.get_clearPrefix_self T.iterOrder_eq _ _ (Nat.le_refl _) digest
  . -- A partial removal leaves the statement.
    apply iff_of_true
    . intro hnone
      rw [hstatements, hget] at hnone
      cases hnone
    . intro hle
      omega

theorem register_knowsOnly {digest : T.Hash} {schemaId : Option T.Ss58Identifier} (hs : s.Clean)
    (h : Succeeds (register origin digest authorization schemaId) s () s')
    : Call.LeavesNothing s origin (.register digest authorization schemaId) s' := by
  obtain ⟨_, _, _, identifier, _, _, hfresh, _, hstatements, hentries, _, hrevocations,
    hpresentations⟩ := register_spec h
  intro id hid hcontains
  rw [hstatements, StorageMap.containsKey_insert] at hcontains
  have heq : id = identifier := by
    apply hcontains.resolve_right
    rw [StorageMap.containsKey, hid]
    exact Bool.false_ne_true
  subst heq
  have hforgets := hs id hid
  constructor
  . intro other
    rw [hentries, StorageMap.containsKey_insert, StorageMap.containsKey, hforgets.entries other]
    simp
  . rw [hrevocations]
    exact hforgets.revocations
  . rw [hpresentations]
    exact hforgets.presentations

theorem dispatch_clean (hs : s.Clean) (h : Succeeds (call.dispatch origin) s () s')
    (hclears : Call.ClearsAll s origin call) : s'.Clean := by
  cases call with
  | register digest authorization schemaId =>
    obtain ⟨_, _, _, identifier, _, _, _, _, hstatements, hentries, _, hrevocations,
      hpresentations⟩ := register_spec h
    have hframes : s.Frames identifier s' :=
      ⟨.of_insert rfl hstatements, .of_insert rfl hentries, .of_eq hrevocations,
        .of_eq hpresentations⟩
    apply hs.frames_of_stored hframes
    rw [hstatements, StorageMap.get_insert_self]
  | update statementId newStatementDigest authorization =>
    obtain ⟨_, _, _, _, _, _, _, _, _, _, hstatements, hentries, _, hrevocations,
      hpresentations⟩ := update_spec h
    have hframes : s.Frames statementId s' :=
      ⟨.of_insert rfl hstatements, .of_insert rfl hentries, .of_insert rfl hrevocations,
        .of_eq hpresentations⟩
    apply hs.frames_of_stored hframes
    rw [hstatements, StorageMap.get_insert_self]
  | revoke statementId authorization =>
    obtain ⟨_, _, _, _, _, hget, _, _, _, hstatements, hentries, _, hrevocations,
      hpresentations⟩ := revoke_spec h
    have hframes : s.Frames statementId s' :=
      ⟨.of_eq hstatements, .of_eq hentries, .of_insert rfl hrevocations, .of_eq hpresentations⟩
    apply hs.frames_of_stored hframes
    rw [hstatements, hget]
  | restore statementId authorization =>
    obtain ⟨_, _, _, _, _, hget, _, _, _, hstatements, hentries, _, hrevocations,
      hpresentations⟩ := restore_spec h
    have hframes : s.Frames statementId s' :=
      ⟨.of_eq hstatements, .of_eq hentries, .of_remove rfl hrevocations, .of_eq hpresentations⟩
    apply hs.frames_of_stored hframes
    rw [hstatements, hget]
  | remove statementId authorization =>
    exact hs.frames (remove_frames h) ((remove_leavesNothing_iff h).mpr hclears)
  | registerBatch digests authorization schemaId =>
    obtain ⟨_, _, d, _, t, _, hloop, hstatements, hentries, _, hrevocations, hpresentations⟩ :=
      registerBatch_loop h
    have hclean : t.Clean := by
      apply registerDigests_invariant _ hloop (hs.congr rfl rfl rfl rfl)
      intro s s' identifier digest hs _ _ hanchor
      exact hs.anchor hanchor
    exact hclean.congr hstatements hentries hrevocations hpresentations
  | addPresentation statementId presentationDigest presentationType authorization =>
    obtain ⟨_, _, _, _, _, hget, _, _, _, _, hstatements, hentries, _, hrevocations,
      hpresentations⟩ := addPresentation_spec h
    have hframes : s.Frames statementId s' :=
      ⟨.of_eq hstatements, .of_eq hentries, .of_eq hrevocations, .of_insert rfl hpresentations⟩
    apply hs.frames_of_stored hframes
    rw [hstatements, hget]
  | removePresentation statementId presentationDigest authorization =>
    obtain ⟨_, _, _, _, _, hpresented, _, _, hstatements, hentries, _, hrevocations,
      hpresentations⟩ := removePresentation_spec h
    have hframes : s.Frames statementId s' :=
      ⟨.of_eq hstatements, .of_eq hentries, .of_eq hrevocations, .of_remove rfl hpresentations⟩
    apply hs.frames hframes
    -- A statement that is gone has no presentation to remove.
    intro hnone
    rw [hstatements] at hnone
    rw [(hs statementId hnone).presentations] at hpresented
    cases hpresented

/--
Complete removals leave nothing behind, and what is registered again starts anew, in exactly those runs in
which every complete removal finds no presentation and not more records of old digests than entries.
-/
theorem run_leavesNothing_iff (exts : List (Extrinsic T))
    : (machine T).EveryStep (Extrinsic.Does Call.LeavesNothing) (State.genesis T) exts
        ↔
      (machine T).Meets (Extrinsic.Meets Call.ClearsAll) (State.genesis T) exts := by
  apply everyStep_iff_of_call (K := State.Clean)
  . intro s t hs
    exact hs.congr rfl rfl rfl rfl
  . intro s origin call s' hs h
    have hclean := dispatch_clean hs h
    cases call with
    | remove statementId authorization =>
      have hiff := remove_leavesNothing_iff h
      exact ⟨hiff.mp, fun hclears => ⟨hiff.mpr hclears, hclean hclears⟩⟩
    | register digest authorization schemaId =>
      exact ⟨fun _ => trivial, fun hclears => ⟨register_knowsOnly hs h, hclean hclears⟩⟩
    | _ => exact ⟨fun _ => trivial, fun hclears => ⟨trivial, hclean hclears⟩⟩
  . intro id _
    constructor
    . rfl
    . intro digest
      rfl
    . intro digest
      rfl
    . intro digest
      rfl

end Complete

section Plain

def registeredRun (calls : List (Call .plain)) : List (Extrinsic .plain) :=
  [
    .chainSpace (plainExtrinsic (some 1) (.create [10])),
    .chainSpace (plainExtrinsic none (.approve (plainSpace 10 1) 100)),
    statementCall (.register [22] (plainAuthorization (plainSpace 10 1) 1 1) none)
  ] ++ calls.map statementCall

def removeRegistered : Extrinsic .plain :=
  statementCall (.remove (plainStatement 22) (plainAuthorization (plainSpace 10 1) 1 1))

def revokedRun : List (Extrinsic .plain) :=
  -- The digest of a statement is updated twice and then revoked. It is the first one that is
  -- visited, and two of the three entries are removed.
  registeredRun [
    .update (plainStatement 22) [21] (plainAuthorization (plainSpace 10 1) 1 1),
    .update (plainStatement 22) [20] (plainAuthorization (plainSpace 10 1) 1 1),
    .revoke (plainStatement 22) (plainAuthorization (plainSpace 10 1) 1 1)
  ]

theorem removeRevoked_not_keepsRevoked
    : ¬ ∀ exts : List (Extrinsic .plain),
        (machine .plain).EveryStep (Extrinsic.Does Call.KeepsRevoked) (State.genesis .plain)
          exts := by
  intro hall
  have haccepts : (machine .plain).accepts
      ((machine .plain).run (State.genesis .plain) revokedRun) removeRegistered = true := by
    decide +kernel
  have hkeeps := (hall (revokedRun ++ [removeRegistered])).last haccepts
  have hrevoked := hkeeps ⟨⟨[20], plainSpace 10 1, none⟩, by decide +kernel, by decide +kernel⟩
    (by decide +kernel)
  have hget : ((machine .plain).run (State.genesis .plain)
      (revokedRun ++ [removeRegistered])).statements.get (plainStatement 22) =
        some ⟨[20], plainSpace 10 1, none⟩ := by
    decide +kernel
  rw [State.isRevoked_iff hget] at hrevoked
  revert hrevoked
  decide +kernel

def presentedRun : List (Extrinsic .plain) :=
  registeredRun [
    .addPresentation (plainStatement 22) [30] .pdf (plainAuthorization (plainSpace 10 1) 1 1)
  ]

def surplusRun : List (Extrinsic .plain) :=
  -- A partial removal takes the entry of the current digest. When the statement is revoked after that
  -- there are two records and one entry.
  registeredRun [
    .update (plainStatement 22) [21] (plainAuthorization (plainSpace 10 1) 1 1),
    .update (plainStatement 22) [20] (plainAuthorization (plainSpace 10 1) 1 1),
    .remove (plainStatement 22) (plainAuthorization (plainSpace 10 1) 1 1),
    .revoke (plainStatement 22) (plainAuthorization (plainSpace 10 1) 1 1)
  ]

theorem removeRegistered_not_leavesNothing
    : ¬ (machine .plain).EveryStep (Extrinsic.Does Call.LeavesNothing) (State.genesis .plain)
          (presentedRun ++ [removeRegistered]) ∧
        ¬ (machine .plain).EveryStep (Extrinsic.Does Call.LeavesNothing) (State.genesis .plain)
          (surplusRun ++ [removeRegistered]) := by
  have hpresented : (machine .plain).accepts
      ((machine .plain).run (State.genesis .plain) presentedRun) removeRegistered = true := by
    decide +kernel
  have hsurplus : (machine .plain).accepts
      ((machine .plain).run (State.genesis .plain) surplusRun) removeRegistered = true := by
    decide +kernel
  constructor
  . intro h
    have hnone := (h.last hpresented (by decide +kernel)).presentations [30]
    revert hnone
    decide +kernel
  . intro h
    have hnone := (h.last hsurplus (by decide +kernel)).revocations [22]
    revert hnone
    decide +kernel

end Plain

end Statement
