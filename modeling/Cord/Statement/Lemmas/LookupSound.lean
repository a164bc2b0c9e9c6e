import Cord.Statement.Lemmas.LookupComplete

/-!
This module contains the soundness of the identifier lookup: what is looked up is there. A complete
removal deletes the lookups of the entries of a statement and not those of its presentations.
-/

open Frame Identifier ChainSpace

namespace Statement

variable {T : Config} {s s' : State T} {origin : T.Origin} {call : Call T}

/--
What is looked up is a statement of the space, and it carries the digest.
-/
def LookupSound (s : State T) : Prop :=
  ∀ digest spaceId id, s.identifierLookup.get (digest, spaceId) = some id →
    ∃ details, s.statements.get id = some details ∧ details.space = spaceId ∧ s.Carries id digest

section Sound

def State.Backed (s : State T) (digest : T.Hash) (spaceId id : T.Ss58Identifier) : Prop :=
  -- The lookup of a presentation is deleted together with it if it is for the space that is
  -- recorded with the presentation.
  ∃ details, s.statements.get id = some details ∧ details.space = spaceId ∧
    (s.entries.containsKey (id, digest) = true ∨
      ∃ presentation, s.presentations.get (id, digest) = some presentation ∧
        presentation.space = spaceId)

def LookupBacked (s : State T) : Prop :=
  ∀ digest spaceId id, s.identifierLookup.get (digest, spaceId) = some id →
    s.Backed digest spaceId id

def Call.RemovesLookups (s : State T) (call : Call T) : Prop :=
  -- All lookups of a statement that is removed completely are for its entries.
  match call with
  | .remove statementId _ =>
    ∀ details ∈ s.statements.get statementId,
      (s.iterEntries statementId).length ≤ T.maxRemoveEntries.toNat →
        ∀ digest, s.identifierLookup.get (digest, details.space) = some statementId →
          s.entries.containsKey (statementId, digest) = true
  | _ => True

variable {spaceId id : T.Ss58Identifier} {digest : T.Hash} {details : StatementDetails T}
  {creator : T.SpaceCreatorId}

theorem LookupBacked.lookupSound (h : LookupBacked s) : LookupSound s := by
  intro digest spaceId id hget
  obtain ⟨details, hdetails, hspace, hbacked⟩ := h digest spaceId id hget
  refine ⟨details, hdetails, hspace, hbacked.imp_right ?_⟩
  rintro ⟨presentation, hpresentation, _⟩
  exact StorageMap.containsKey_of_get hpresentation

theorem LookupBacked.congr (h : LookupBacked s) (hstatements : s'.statements = s.statements)
    (hentries : s'.entries = s.entries) (hpresentations : s'.presentations = s.presentations)
    (hlookup : s'.identifierLookup = s.identifierLookup) : LookupBacked s' := by
  unfold LookupBacked State.Backed
  rw [hstatements, hentries, hpresentations, hlookup]
  exact h

theorem LookupBacked.insert (h : LookupBacked s)
    (hlookup : s'.identifierLookup = s.identifierLookup.insert (digest, spaceId) id)
    (hnew : s'.Backed digest spaceId id)
    (hold : ∀ digest spaceId id, s.Backed digest spaceId id → s'.Backed digest spaceId id)
    : LookupBacked s' := by
  intro digest' spaceId' id' hget
  rw [hlookup, StorageMap.get_insert] at hget
  split at hget
  . next heq =>
    injection heq with hdigest hspace
    injection hget with hid
    rw [hdigest, hspace, ← hid]
    exact hnew
  . apply hold
    exact h digest' spaceId' id' hget

theorem LookupBacked.anchor (h : LookupBacked s) (hfresh : s.statements.get id = none)
    (hstatements : s'.statements = s.statements.insert id details)
    (hentries : s'.entries = s.entries.insert (id, digest) creator)
    (hpresentations : s'.presentations = s.presentations)
    (hlookup : s'.identifierLookup = s.identifierLookup.insert (digest, details.space) id)
    : LookupBacked s' := by
  refine h.insert hlookup ?_ ?_
  . refine ⟨details, ?_, rfl, .inl ?_⟩
    . rw [hstatements, StorageMap.get_insert_self]
    . rw [hentries, StorageMap.containsKey_insert]
      exact .inl rfl
  . rintro digest' spaceId' id' ⟨details', hget, hspace, hbacked⟩
    have hne : id' ≠ id := StorageMap.ne_of_get hfresh hget
    refine ⟨details', ?_, hspace, ?_⟩
    . rw [hstatements, StorageMap.get_insert_of_ne _ _ hne]
      exact hget
    . rw [hentries, hpresentations, StorageMap.containsKey_insert]
      exact hbacked.imp_left .inr

theorem LookupBacked.update (h : LookupBacked s) (hget : s.statements.get id = some details)
    (hstatements : s'.statements = s.statements.insert id { details with digest })
    (hentries : s'.entries = s.entries.insert (id, digest) creator)
    (hpresentations : s'.presentations = s.presentations)
    (hlookup : s'.identifierLookup = s.identifierLookup.insert (digest, details.space) id)
    : LookupBacked s' := by
  refine h.insert hlookup ?_ ?_
  . refine ⟨{ details with digest }, ?_, rfl, .inl ?_⟩
    . rw [hstatements, StorageMap.get_insert_self]
    . rw [hentries, StorageMap.containsKey_insert]
      exact .inl rfl
  . rintro digest' spaceId' id' ⟨details', hget', hspace, hbacked⟩
    have hkept : s'.entries.containsKey (id', digest') = true ∨
        ∃ presentation, s'.presentations.get (id', digest') = some presentation ∧
          presentation.space = spaceId' := by
      rw [hentries, hpresentations, StorageMap.containsKey_insert]
      exact hbacked.imp_left .inr
    by_cases hid : id' = id
    . rw [hid, hget] at hget'
      injection hget' with hget'
      refine ⟨{ details with digest }, ?_, ?_, hkept⟩
      . rw [hstatements, hid, StorageMap.get_insert_self]
      . rw [← hspace, ← hget']
    . refine ⟨details', ?_, hspace, hkept⟩
      rw [hstatements, StorageMap.get_insert_of_ne _ _ hid]
      exact hget'

theorem LookupBacked.addPresentation {presentation : StatementPresentationDetails T}
    (h : LookupBacked s) (hget : s.statements.get id = some details)
    (hspace : details.space = presentation.space)
    (hnew : s.presentations.get (id, digest) = none)
    (hstatements : s'.statements = s.statements) (hentries : s'.entries = s.entries)
    (hpresentations : s'.presentations = s.presentations.insert (id, digest) presentation)
    (hlookup : s'.identifierLookup = s.identifierLookup.insert (digest, presentation.space) id)
    : LookupBacked s' := by
  refine h.insert hlookup ?_ ?_
  . refine ⟨details, ?_, hspace, .inr ⟨presentation, ?_, rfl⟩⟩
    . rw [hstatements]
      exact hget
    . rw [hpresentations, StorageMap.get_insert_self]
  . rintro digest' spaceId' id' ⟨details', hget', hspace', hbacked⟩
    refine ⟨details', ?_, hspace', ?_⟩
    . rw [hstatements]
      exact hget'
    . rw [hentries]
      apply hbacked.imp_right
      rintro ⟨presentation', hpresentation, hspace'⟩
      refine ⟨presentation', ?_, hspace'⟩
      rw [hpresentations, StorageMap.get_insert_of_ne]
      . exact hpresentation
      . intro heq
        rw [heq, hnew] at hpresentation
        cases hpresentation

theorem LookupBacked.removePresentation {presentation : StatementPresentationDetails T}
    (h : LookupBacked s) (hget : s.presentations.get (id, digest) = some presentation)
    (hstatements : s'.statements = s.statements) (hentries : s'.entries = s.entries)
    (hpresentations : s'.presentations = s.presentations.remove (id, digest))
    (hlookup : s'.identifierLookup = s.identifierLookup.remove (digest, presentation.space))
    : LookupBacked s' := by
  intro digest' spaceId' id' hlook
  rw [hlookup, StorageMap.get_remove] at hlook
  split at hlook
  . cases hlook
  . next hne =>
    obtain ⟨details', hget', hspace', hbacked⟩ := h digest' spaceId' id' hlook
    refine ⟨details', ?_, hspace', ?_⟩
    . rw [hstatements]
      exact hget'
    . rw [hentries]
      apply hbacked.imp_right
      rintro ⟨presentation', hpresentation, hspace'⟩
      refine ⟨presentation', ?_, hspace'⟩
      rw [hpresentations, StorageMap.get_remove_of_ne]
      . exact hpresentation
      . -- The presentation that is removed takes the lookup of its space with it.
        intro heq
        rw [heq, hget] at hpresentation
        injection hpresentation with hpresentation
        injection heq with _ hdigest
        apply hne
        rw [hpresentation, hspace', hdigest]

theorem LookupBacked.removePartial {digests : List T.Hash} (h : LookupBacked s)
    (hget : s.statements.get id = some details)
    (hstatements : s'.statements = s.statements)
    (hentries : s'.entries =
      digests.foldl (fun entries digest => entries.remove (id, digest)) s.entries)
    (hpresentations : s'.presentations = s.presentations)
    (hlookup : s'.identifierLookup =
      digests.foldl (fun lookup digest => lookup.remove (digest, details.space)) s.identifierLookup)
    : LookupBacked s' := by
  intro digest' spaceId' id' hlook
  rw [hlookup, StorageMap.get_foldl_remove_left] at hlook
  split at hlook
  . cases hlook
  . next hkept =>
    obtain ⟨details', hget', hspace', hbacked⟩ := h digest' spaceId' id' hlook
    refine ⟨details', ?_, hspace', ?_⟩
    . rw [hstatements]
      exact hget'
    . rw [hpresentations, hentries, StorageMap.containsKey_foldl_remove]
      apply hbacked.imp_left
      intro hentry
      refine ⟨?_, hentry⟩
      rintro ⟨hid, hmem⟩
      rw [hid, hget] at hget'
      injection hget' with hget'
      rw [← hget'] at hspace'
      exact hkept ⟨hspace'.symm, hmem⟩

theorem LookupBacked.removeComplete (h : LookupBacked s)
    (hget : s.statements.get id = some details)
    (hstatements : s'.statements = s.statements.remove id)
    (hentries : s'.entries = s.entries.clearPrefix T.iterOrder id (s.iterEntries id).length)
    (hpresentations : s'.presentations = s.presentations)
    (hlookup : s'.identifierLookup =
      (s.iterEntries id).foldl (fun lookup digest => lookup.remove (digest, details.space))
        s.identifierLookup)
    : (LookupSound s' →
        ∀ digest, s.identifierLookup.get (digest, details.space) = some id →
          s.entries.containsKey (id, digest) = true) ∧
      ((∀ digest, s.identifierLookup.get (digest, details.space) = some id →
          s.entries.containsKey (id, digest) = true) → LookupBacked s') := by
  constructor
  . -- A lookup that is left refers to the statement that is gone.
    intro hsound digest hlook
    by_contra hentry
    rw [← mem_iterEntries] at hentry
    obtain ⟨details', hget', _⟩ := hsound digest details.space id (by
      rw [hlookup, StorageMap.get_foldl_remove_left, if_neg (fun hmem => hentry hmem.2)]
      exact hlook)
    rw [hstatements, StorageMap.get_remove_self] at hget'
    cases hget'
  . intro hfound digest' spaceId' id' hlook
    rw [hlookup, StorageMap.get_foldl_remove_left] at hlook
    split at hlook
    . cases hlook
    . next hkept =>
      obtain ⟨details', hget', hspace', hbacked⟩ := h digest' spaceId' id' hlook
      have hne : id' ≠ id := by
        rintro rfl
        rw [hget] at hget'
        injection hget' with hget'
        rw [← hspace', ← hget'] at hlook hkept
        exact hkept ⟨rfl, mem_iterEntries.mpr (hfound digest' hlook)⟩
      refine ⟨details', ?_, hspace', ?_⟩
      . rw [hstatements, StorageMap.get_remove_of_ne _ hne]
        exact hget'
      . rw [hpresentations, hentries]
        apply hbacked.imp_left
        intro hentry
        rw [StorageMap.containsKey, StorageMap.get_clearPrefix_of_ne _ _ _ hne]
        exact hentry

theorem LookupBacked.dispatch (h : LookupBacked s) (hs : Succeeds (call.dispatch origin) s () s')
    : (LookupSound s' → call.RemovesLookups s) ∧ (call.RemovesLookups s → LookupBacked s') := by
  cases call with
  | register digest authorization schemaId =>
    obtain ⟨_, _, _, _, _, _, hfresh, _, hstatements, hentries, hlookup, _, hpresentations⟩ :=
      register_spec hs
    refine ⟨fun _ => trivial, fun _ => ?_⟩
    exact h.anchor hfresh hstatements hentries hpresentations hlookup
  | update statementId newStatementDigest authorization =>
    obtain ⟨_, _, _, _, _, hget, _, _, _, _, hstatements, hentries, hlookup, _, hpresentations⟩ :=
      update_spec hs
    refine ⟨fun _ => trivial, fun _ => ?_⟩
    exact h.update hget hstatements hentries hpresentations hlookup
  | revoke statementId authorization =>
    obtain ⟨_, _, _, _, _, _, _, _, _, hstatements, hentries, hlookup, _, hpresentations⟩ :=
      revoke_spec hs
    refine ⟨fun _ => trivial, fun _ => ?_⟩
    exact h.congr hstatements hentries hpresentations hlookup
  | restore statementId authorization =>
    obtain ⟨_, _, _, _, _, _, _, _, _, hstatements, hentries, hlookup, _, hpresentations⟩ :=
      restore_spec hs
    refine ⟨fun _ => trivial, fun _ => ?_⟩
    exact h.congr hstatements hentries hpresentations hlookup
  | remove statementId authorization =>
    obtain ⟨_, _, _, details, _, hget, rfl, hpresentations, hcases⟩ := remove_cases hs
    simp only [Call.RemovesLookups, hget, Option.mem_def, Option.some.injEq, forall_eq']
    rcases hcases with ⟨hle, hstatements, hentries, hlookup, _⟩ |
      ⟨hlt, hstatements, hentries, hlookup, _⟩
    . simp only [hle, true_implies]
      exact h.removeComplete hget hstatements hentries hpresentations hlookup
    . refine ⟨fun _ hle => absurd hle (Nat.not_le.mpr hlt), fun _ => ?_⟩
      exact h.removePartial hget hstatements hentries hpresentations hlookup
  | registerBatch digests authorization schemaId =>
    obtain ⟨_, _, _, _, t, _, hloop, hstatements, hentries, hlookup, _, hpresentations⟩ :=
      registerBatch_loop hs
    refine ⟨fun _ => trivial, fun _ => ?_⟩
    have hbacked : LookupBacked t := by
      apply registerDigests_invariant _ hloop (h.congr rfl rfl rfl rfl)
      intro s s' identifier digest hs _ hfresh hanchor
      obtain ⟨hstatements, hentries, hlookup, _, hpresentations⟩ := anchorStatement_spec hanchor
      exact hs.anchor hfresh hstatements hentries hpresentations hlookup
    exact hbacked.congr hstatements hentries hpresentations hlookup
  | addPresentation statementId presentationDigest presentationType authorization =>
    obtain ⟨_, _, _, _, _, hget, hspace, _, hnew, _, hstatements, hentries, hlookup, _,
      hpresentations⟩ := addPresentation_spec hs
    refine ⟨fun _ => trivial, fun _ => ?_⟩
    exact h.addPresentation hget hspace hnew hstatements hentries hpresentations hlookup
  | removePresentation statementId presentationDigest authorization =>
    obtain ⟨_, _, _, _, _, hget, rfl, _, hstatements, hentries, hlookup, _, hpresentations⟩ :=
      removePresentation_spec hs
    refine ⟨fun _ => trivial, fun _ => ?_⟩
    exact h.removePresentation hget hstatements hentries hpresentations hlookup

end Sound

/--
No lookup dangles in any state of exactly those runs in which every statement that is removed
completely is looked up under digests of its entries only.
-/
theorem run_lookupSound_iff (exts : List (Extrinsic T))
    : (machine T).Always LookupSound (State.genesis T) exts ↔
        (machine T).Meets (Extrinsic.Meets fun s _ call => call.RemovesLookups s)
          (State.genesis T) exts := by
  apply run_iff_of_call (K := LookupBacked)
  . intro s h
    exact h.lookupSound
  . intro s t h
    exact h.congr rfl rfl rfl rfl
  . intro s origin call s' h hs
    exact h.dispatch hs
  . intro digest spaceId id hget
    cases hget

section Plain

def removePresented : List (Extrinsic .plain) := [
    -- A statement is removed while it has a presentation.
    .chainSpace (plainExtrinsic (some 1) (.create [10])),
    .chainSpace (plainExtrinsic none (.approve (plainSpace 10 1) 100)),
    statementCall (.register [22] (plainAuthorization (plainSpace 10 1) 1 1) none),
    statementCall (.addPresentation (plainStatement 22) [30] .pdf
      (plainAuthorization (plainSpace 10 1) 1 1)),
    statementCall (.remove (plainStatement 22) (plainAuthorization (plainSpace 10 1) 1 1))
  ]

theorem removePresented_not_lookupSound
    : ¬ ∀ exts : List (Extrinsic .plain),
        LookupSound ((machine .plain).run (State.genesis .plain) exts) := by
  intro h
  obtain ⟨details, hget, _⟩ := h removePresented [30] (plainSpace 10 1) (plainStatement 22)
    (by decide +kernel)
  have hgone : ((machine .plain).run (State.genesis .plain) removePresented).statements.get
      (plainStatement 22) = none := by
    decide +kernel
  rw [hgone] at hget
  cases hget

end Plain

end Statement
