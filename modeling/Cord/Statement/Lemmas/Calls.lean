import Cord.ChainSpace.Lemmas.Basic
import Cord.Statement.Impl.Calls

/-!
This module contains one lemma for each call of the statement pallet that says what follows from its
success: who is charged for it and what it writes.
-/

open Frame Identifier ChainSpace

namespace Statement

variable {T : Config} {s s' : State T} {u : Unit} {origin : T.Origin}

theorem chainSpace_iff {α : Type} {x : ChainSpace.CallM T.toChainSpace α} {a : α}
    : Succeeds (chainSpace x) s a s'
        ↔
      ∃ t, Succeeds x s.chainSpace a t ∧ s' = { s with chainSpace := t } := by
  apply Succeeds.zoom_iff

@[simp]
theorem depositEvent_iff {event : Event T}
    : Succeeds (depositEvent event) s u s' ↔ s' = { s with events := s.events ++ [event] } := by
  simp [depositEvent]

@[simp]
theorem updateActivity_iff {txId : T.Ss58Identifier} {txAction : CallTypeOf}
    : Succeeds (updateActivity txId txAction) s u s'
        ↔
      s' = { s with chainSpace := s.chainSpace.logActivity txId .statement txAction } := by
  simp [updateActivity, chainSpace_iff]

@[simp]
theorem getStatement_iff {statementId : T.Ss58Identifier} {d : StatementDetails T}
    : Succeeds (getStatement statementId) s d s'
        ↔
      s.statements.get statementId = some d ∧ s' = s := by
  simp [getStatement, and_comm]

@[simp]
theorem mutateUsage_iff {txId : T.Ss58Identifier} {f : UInt64 → UInt64}
    : Succeeds (chainSpace (mutateUsage txId f)) s u s'
        ↔
      ∃ d, s.chainSpace.spaces.get txId = some d ∧
        s' = {
          s with
          chainSpace.spaces := s.chainSpace.spaces.insert txId { d with txnCount := f d.txnCount }
        } := by
  simp [chainSpace_iff]

structure State.Charges (s : State T) (origin : T.Origin) (authorization : T.Ss58Identifier)
    (creator : T.SpaceCreatorId) (spaceId : T.Ss58Identifier) (d : SpaceDetails T.toChainSpace)
    : Prop where
  origin : T.ensureStatementOrigin origin = some creator
  authorizes : s.chainSpace.Authorizes .assert authorization creator spaceId
  space : s.chainSpace.spaces.get spaceId = some d
  canTransact : d.charge.CanTransact

def State.setSpace (s : State T) (spaceId : T.Ss58Identifier) (d : SpaceDetails T.toChainSpace)
    : State T :=
  { s with chainSpace.spaces := s.chainSpace.spaces.insert spaceId d }

@[simp]
theorem setSpace_spaces {spaceId : T.Ss58Identifier} {d : SpaceDetails T.toChainSpace}
    : (s.setSpace spaceId d).chainSpace.spaces = s.chainSpace.spaces.insert spaceId d := rfl

@[simp]
theorem setSpace_iterEntries {spaceId statementId : T.Ss58Identifier}
    {d : SpaceDetails T.toChainSpace}
    : (s.setSpace spaceId d).iterEntries statementId = s.iterEntries statementId := rfl

@[simp]
theorem ensureAuthorized_iff {authorization : T.Ss58Identifier}
    {caller : T.SpaceCreatorId × T.Ss58Identifier}
    : Succeeds (ensureAuthorized origin authorization) s caller s'
        ↔
      ∃ d, s.Charges origin authorization caller.1 caller.2 d ∧
        s' = s.setSpace caller.2 d.charge := by
  simp only [ensureAuthorized, Succeeds.bind_iff, Succeeds.ensureOrigin_iff, chainSpace_iff,
    ensureAuthorizationOrigin_iff, Succeeds.pure_iff]
  constructor
  . rintro ⟨creator, _, ⟨horigin, rfl⟩, spaceId, _, ⟨_, ⟨d, hauth, hd, hvalid, rfl⟩, rfl⟩, rfl, rfl⟩
    exact ⟨d, ⟨horigin, hauth, hd, hvalid⟩, rfl⟩
  . rintro ⟨d, ⟨horigin, hauth, hd, hvalid⟩, rfl⟩
    exact ⟨caller.1, s, ⟨horigin, rfl⟩, caller.2, _, ⟨_, ⟨d, hauth, hd, hvalid, rfl⟩, rfl⟩, rfl, rfl⟩

theorem mem_iterEntries {statementId : T.Ss58Identifier} {digest : T.Hash}
    : digest ∈ s.iterEntries statementId ↔ s.entries.containsKey (statementId, digest) = true := by
  rw [← StorageMap.mem_prefixKeys, ← T.iterOrder_eq (s.entries.prefixKeys statementId)]
  rfl

theorem anchorStatement_spec {identifier spaceId : T.Ss58Identifier} {digest : T.Hash}
    {creator : T.SpaceCreatorId} {schemaId : Option T.Ss58Identifier}
    (h : Succeeds (anchorStatement identifier digest spaceId creator schemaId) s () s')
    : s'.statements = s.statements.insert identifier ⟨digest, spaceId, schemaId⟩ ∧
        s'.entries = s.entries.insert (identifier, digest) creator ∧
        s'.identifierLookup = s.identifierLookup.insert (digest, spaceId) identifier ∧
        s'.revocationList = s.revocationList ∧ s'.presentations = s.presentations := by
  simp only [anchorStatement, Succeeds.bind_iff, Succeeds.modify_iff, updateActivity_iff,
    exists_eq_left, exists_const] at h
  subst h
  exact ⟨rfl, rfl, rfl, rfl, rfl⟩

theorem anchorStatement_succeeds (s : State T) (identifier : T.Ss58Identifier) (digest : T.Hash)
    (spaceId : T.Ss58Identifier) (creator : T.SpaceCreatorId) (schemaId : Option T.Ss58Identifier)
    : ∃ s', Succeeds (anchorStatement identifier digest spaceId creator schemaId) s () s' := by
  simp only [anchorStatement, Succeeds.bind_iff, Succeeds.modify_iff, updateActivity_iff,
    exists_eq_left, exists_const]
  exact ⟨_, rfl⟩

theorem register_spec {digest : T.Hash} {authorization : T.Ss58Identifier}
    {schemaId : Option T.Ss58Identifier}
    (h : Succeeds (register origin digest authorization schemaId) s () s')
    : ∃ creator spaceId d identifier, s.Charges origin authorization creator spaceId d ∧
        statementIdentifier T digest spaceId creator = some identifier ∧
        s.statements.get identifier = none ∧
        s'.chainSpace.spaces = s.chainSpace.spaces.insert spaceId d.charge ∧
        s'.statements = s.statements.insert identifier ⟨digest, spaceId, schemaId⟩ ∧
        s'.entries = s.entries.insert (identifier, digest) creator ∧
        s'.identifierLookup = s.identifierLookup.insert (digest, spaceId) identifier ∧
        s'.revocationList = s.revocationList ∧ s'.presentations = s.presentations := by
  simp only [register, anchorStatement, Succeeds.bind_iff, ensureAuthorized_iff, Succeeds.okOr_iff,
    Succeeds.get_iff, Succeeds.ensure_iff, Succeeds.modify_iff, updateActivity_iff,
    depositEvent_iff, Bool.not_eq_true', StorageMap.containsKey_eq_false_iff, and_assoc,
    exists_and_left, exists_eq_left, exists_const] at h
  obtain ⟨⟨creator, spaceId⟩, _, ⟨d, hcharges, rfl⟩, identifier, hid, hfresh, rfl⟩ := h
  exact ⟨creator, spaceId, d, identifier, hcharges, hid, hfresh, rfl, rfl, rfl, rfl, rfl, rfl⟩

theorem update_spec {statementId authorization : T.Ss58Identifier} {newStatementDigest : T.Hash}
    (h : Succeeds (update origin statementId newStatementDigest authorization) s () s')
    : ∃ updater spaceId d details, s.Charges origin authorization updater spaceId d ∧
        s.statements.get statementId = some details ∧ details.space = spaceId ∧
        s.revocationList.get (statementId, details.digest) = none ∧
        s.entries.get (statementId, newStatementDigest) = none ∧
        s'.chainSpace.spaces = s.chainSpace.spaces.insert spaceId d.charge ∧
        s'.statements =
          s.statements.insert statementId { details with digest := newStatementDigest } ∧
        s'.entries = s.entries.insert (statementId, newStatementDigest) updater ∧
        s'.identifierLookup =
          s.identifierLookup.insert (newStatementDigest, details.space) statementId ∧
        s'.revocationList =
          s.revocationList.insert (statementId, details.digest) ⟨updater, true⟩ ∧
        s'.presentations = s.presentations := by
  simp only [update, Succeeds.bind_iff, ensureAuthorized_iff, getStatement_iff,
    Succeeds.get_iff, Succeeds.ensure_iff, Succeeds.modify_iff, updateActivity_iff,
    depositEvent_iff, Bool.not_eq_true', StorageMap.containsKey_eq_false_iff, and_assoc,
    exists_and_left, exists_eq_left, exists_const] at h
  obtain ⟨⟨updater, spaceId⟩, _, ⟨d, hcharges, rfl⟩, details, hdetails, hspace, hlive, hnew, rfl⟩ :=
    h
  exact ⟨updater, spaceId, d, details, hcharges, hdetails, hspace, hlive, hnew, rfl, rfl, rfl, rfl,
    rfl, rfl⟩

theorem revoke_spec {statementId authorization : T.Ss58Identifier}
    (h : Succeeds (revoke origin statementId authorization) s () s')
    : ∃ updater spaceId d details, s.Charges origin authorization updater spaceId d ∧
        s.statements.get statementId = some details ∧ details.space = spaceId ∧
        s.revocationList.get (statementId, details.digest) = none ∧
        s'.chainSpace.spaces = s.chainSpace.spaces.insert spaceId d.charge ∧
        s'.statements = s.statements ∧ s'.entries = s.entries ∧
        s'.identifierLookup = s.identifierLookup ∧
        s'.revocationList =
          s.revocationList.insert (statementId, details.digest) ⟨updater, true⟩ ∧
        s'.presentations = s.presentations := by
  simp only [revoke, Succeeds.bind_iff, ensureAuthorized_iff, getStatement_iff,
    Succeeds.get_iff, Succeeds.ensure_iff, Succeeds.modify_iff, updateActivity_iff,
    depositEvent_iff, Bool.not_eq_true', StorageMap.containsKey_eq_false_iff, and_assoc,
    exists_and_left, exists_eq_left, exists_const] at h
  obtain ⟨⟨updater, spaceId⟩, _, ⟨d, hcharges, rfl⟩, details, hdetails, hlive, hspace, rfl⟩ := h
  exact ⟨updater, spaceId, d, details, hcharges, hdetails, hspace, hlive, rfl, rfl, rfl, rfl, rfl,
    rfl⟩

theorem restore_spec {statementId authorization : T.Ss58Identifier}
    (h : Succeeds (restore origin statementId authorization) s () s')
    : ∃ updater spaceId d details, s.Charges origin authorization updater spaceId d ∧
        s.statements.get statementId = some details ∧ details.space = spaceId ∧
        (s.revocationList.get (statementId, details.digest)).isSome ∧
        s'.chainSpace.spaces = s.chainSpace.spaces.insert spaceId d.charge ∧
        s'.statements = s.statements ∧ s'.entries = s.entries ∧
        s'.identifierLookup = s.identifierLookup ∧
        s'.revocationList = s.revocationList.remove (statementId, details.digest) ∧
        s'.presentations = s.presentations := by
  simp only [restore, Succeeds.bind_iff, ensureAuthorized_iff, getStatement_iff,
    Succeeds.get_iff, Succeeds.ensure_iff, Succeeds.modify_iff, updateActivity_iff,
    depositEvent_iff, and_assoc, exists_and_left, exists_eq_left, exists_const] at h
  obtain ⟨⟨updater, spaceId⟩, _, ⟨d, hcharges, rfl⟩, details, hdetails, hrevoked, hspace, rfl⟩ := h
  exact ⟨updater, spaceId, d, details, hcharges, hdetails, hspace, hrevoked, rfl, rfl, rfl, rfl,
    rfl, rfl⟩

theorem addPresentation_spec {statementId authorization : T.Ss58Identifier}
    {presentationDigest : T.Hash} {presentationType : PresentationTypeOf}
    (h : Succeeds (addPresentation origin statementId presentationDigest presentationType
      authorization) s () s')
    : ∃ creator spaceId d details, s.Charges origin authorization creator spaceId d ∧
        s.statements.get statementId = some details ∧ details.space = spaceId ∧
        s.revocationList.get (statementId, details.digest) = none ∧
        s.presentations.get (statementId, presentationDigest) = none ∧
        s'.chainSpace.spaces = s.chainSpace.spaces.insert spaceId d.charge ∧
        s'.statements = s.statements ∧ s'.entries = s.entries ∧
        s'.identifierLookup =
          s.identifierLookup.insert (presentationDigest, spaceId) statementId ∧
        s'.revocationList = s.revocationList ∧
        s'.presentations = s.presentations.insert (statementId, presentationDigest)
          ⟨creator, presentationType, details.digest, spaceId⟩ := by
  simp only [addPresentation, Succeeds.bind_iff, ensureAuthorized_iff, getStatement_iff,
    Succeeds.get_iff, Succeeds.ensure_iff, Succeeds.modify_iff, updateActivity_iff,
    depositEvent_iff, Bool.not_eq_true', StorageMap.containsKey_eq_false_iff, and_assoc,
    exists_and_left, exists_eq_left, exists_const] at h
  obtain ⟨⟨creator, spaceId⟩, _, ⟨d, hcharges, rfl⟩, details, hdetails, hlive, hspace, hnew, rfl⟩ :=
    h
  exact ⟨creator, spaceId, d, details, hcharges, hdetails, hspace, hlive, hnew, rfl, rfl, rfl, rfl,
    rfl, rfl⟩

theorem removePresentation_spec {statementId authorization : T.Ss58Identifier}
    {presentationDigest : T.Hash}
    (h : Succeeds (removePresentation origin statementId presentationDigest authorization) s () s')
    : ∃ remover spaceId d details, s.Charges origin authorization remover spaceId d ∧
        s.presentations.get (statementId, presentationDigest) = some details ∧
        details.space = spaceId ∧
        s'.chainSpace.spaces = s.chainSpace.spaces.insert spaceId
          { d with txnCount := saturatingSub d.charge.txnCount 1 } ∧
        s'.statements = s.statements ∧ s'.entries = s.entries ∧
        s'.identifierLookup = s.identifierLookup.remove (presentationDigest, spaceId) ∧
        s'.revocationList = s.revocationList ∧
        s'.presentations = s.presentations.remove (statementId, presentationDigest) := by
  simp only [removePresentation, decrementUsage, Succeeds.bind_iff, ensureAuthorized_iff,
    Succeeds.okOr_iff, Succeeds.get_iff, Succeeds.ensure_iff, Succeeds.modify_iff, mutateUsage_iff,
    updateActivity_iff, depositEvent_iff, and_assoc, exists_and_left, exists_eq_left,
    exists_const] at h
  obtain ⟨⟨remover, spaceId⟩, _, ⟨d, hcharges, rfl⟩, details, hdetails, hspace, _, ⟨d', hd', rfl⟩,
    rfl⟩ := h
  rw [setSpace_spaces, StorageMap.get_insert_self] at hd'
  injection hd' with hd'
  subst hd'
  refine ⟨remover, spaceId, d, details, hcharges, hdetails, hspace, ?_, rfl, rfl, rfl, rfl, rfl⟩
  apply StorageMap.insert_insert_self

def State.removals (s : State T) (statementId : T.Ss58Identifier) : Nat :=
  min (s.iterEntries statementId).length T.maxRemoveEntries.toNat

theorem removeComplete_spec {statementId spaceId : T.Ss58Identifier}
    {d : SpaceDetails T.toChainSpace}
    (h : Succeeds (removeComplete statementId spaceId) (s.setSpace spaceId d) () s')
    : s'.chainSpace.spaces = s.chainSpace.spaces.insert spaceId
        {
          d with
          txnCount := saturatingSub d.txnCount (s.iterEntries statementId).length.toUInt16.toUInt64
        } ∧
      s'.statements = s.statements.remove statementId ∧
      s'.entries =
        s.entries.clearPrefix T.iterOrder statementId (s.iterEntries statementId).length ∧
      s'.identifierLookup =
        (s.iterEntries statementId).foldl (fun lookup digest => lookup.remove (digest, spaceId))
          s.identifierLookup ∧
      s'.revocationList =
        s.revocationList.clearPrefix T.iterOrder statementId (s.iterEntries statementId).length ∧
      s'.presentations = s.presentations := by
  simp only [removeComplete, decrementUsageEntries, Succeeds.bind_iff, Succeeds.get_iff,
    Succeeds.modify_iff, mutateUsage_iff, and_assoc, exists_and_left, exists_eq_left,
    exists_const] at h
  obtain ⟨d', hd', rfl⟩ := h
  rw [setSpace_spaces, StorageMap.get_insert_self] at hd'
  injection hd' with hd'
  subst hd'
  refine ⟨?_, rfl, rfl, rfl, rfl, rfl⟩
  apply StorageMap.insert_insert_self

theorem removePartial_spec {statementId spaceId : T.Ss58Identifier}
    {d : SpaceDetails T.toChainSpace} {maxRemovals removed : Nat}
    (h : Succeeds (removePartial statementId spaceId maxRemovals) (s.setSpace spaceId d) removed s')
    : removed = ((s.iterEntries statementId).take maxRemovals).length ∧
      s'.chainSpace.spaces = s.chainSpace.spaces.insert spaceId
        { d with txnCount := saturatingSub d.txnCount removed.toUInt16.toUInt64 } ∧
      s'.statements = s.statements ∧
      s'.entries =
        ((s.iterEntries statementId).take maxRemovals).foldl
          (fun entries digest => entries.remove (statementId, digest)) s.entries ∧
      s'.identifierLookup =
        ((s.iterEntries statementId).take maxRemovals).foldl
          (fun lookup digest => lookup.remove (digest, spaceId)) s.identifierLookup ∧
      s'.revocationList =
        ((s.iterEntries statementId).take maxRemovals).foldl
          (fun list digest => list.remove (statementId, digest)) s.revocationList ∧
      s'.presentations = s.presentations := by
  simp only [removePartial, decrementUsageEntries, Succeeds.bind_iff, Succeeds.get_iff,
    Succeeds.modify_iff, mutateUsage_iff, Succeeds.pure_iff, and_assoc, exists_and_left,
    exists_eq_left, exists_const] at h
  obtain ⟨_, ⟨d', hd', rfl⟩, rfl, rfl⟩ := h
  rw [setSpace_spaces, StorageMap.get_insert_self] at hd'
  injection hd' with hd'
  subst hd'
  refine ⟨rfl, ?_, rfl, rfl, rfl, rfl, rfl⟩
  apply StorageMap.insert_insert_self

theorem remove_spec {statementId authorization : T.Ss58Identifier}
    (h : Succeeds (remove origin statementId authorization) s () s')
    : ∃ updater spaceId d details, s.Charges origin authorization updater spaceId d ∧
        s.statements.get statementId = some details ∧ details.space = spaceId ∧
        s'.chainSpace.spaces = s.chainSpace.spaces.insert spaceId
          {
            d with
            txnCount :=
              saturatingSub d.charge.txnCount (s.removals statementId).toUInt16.toUInt64
          } := by
  simp only [remove, Succeeds.bind_iff, ensureAuthorized_iff, getStatement_iff, Succeeds.get_iff,
    Succeeds.ensure_iff, Succeeds.ite_iff, updateActivity_iff, depositEvent_iff, and_assoc,
    exists_and_left, exists_eq_left, exists_const] at h
  obtain ⟨⟨updater, spaceId⟩, _, ⟨d, hcharges, rfl⟩, details, hdetails, hspace, hremove⟩ := h
  refine ⟨updater, spaceId, d, details, hcharges, hdetails, hspace, ?_⟩
  unfold State.removals
  rcases hremove with ⟨hle, _, t, hcomplete, rfl⟩ | ⟨hlt, removed, t, hpartial, rfl⟩
  . rw [setSpace_iterEntries] at hle
    rw [Nat.min_eq_left hle]
    exact (removeComplete_spec hcomplete).1
  . obtain ⟨hremoved, hspaces, _⟩ := removePartial_spec hpartial
    rw [Nat.min_comm, ← List.length_take, ← hremoved]
    exact hspaces

theorem remove_cases {statementId authorization : T.Ss58Identifier}
    (h : Succeeds (remove origin statementId authorization) s () s')
    : ∃ updater spaceId d details, s.Charges origin authorization updater spaceId d ∧
        s.statements.get statementId = some details ∧ details.space = spaceId ∧
        s'.presentations = s.presentations ∧
        (((s.iterEntries statementId).length ≤ T.maxRemoveEntries.toNat ∧
            s'.statements = s.statements.remove statementId ∧
            s'.entries =
              s.entries.clearPrefix T.iterOrder statementId (s.iterEntries statementId).length ∧
            s'.identifierLookup =
              (s.iterEntries statementId).foldl
                (fun lookup digest => lookup.remove (digest, spaceId)) s.identifierLookup ∧
            s'.revocationList =
              s.revocationList.clearPrefix T.iterOrder statementId
                (s.iterEntries statementId).length) ∨
          (T.maxRemoveEntries.toNat < (s.iterEntries statementId).length ∧
            s'.statements = s.statements ∧
            s'.entries =
              ((s.iterEntries statementId).take T.maxRemoveEntries.toNat).foldl
                (fun entries digest => entries.remove (statementId, digest)) s.entries ∧
            s'.identifierLookup =
              ((s.iterEntries statementId).take T.maxRemoveEntries.toNat).foldl
                (fun lookup digest => lookup.remove (digest, spaceId)) s.identifierLookup ∧
            s'.revocationList =
              ((s.iterEntries statementId).take T.maxRemoveEntries.toNat).foldl
                (fun list digest => list.remove (statementId, digest)) s.revocationList)) := by
  simp only [remove, Succeeds.bind_iff, ensureAuthorized_iff, getStatement_iff, Succeeds.get_iff,
    Succeeds.ensure_iff, Succeeds.ite_iff, updateActivity_iff, depositEvent_iff, and_assoc,
    exists_and_left, exists_eq_left, exists_const] at h
  obtain ⟨⟨updater, spaceId⟩, _, ⟨d, hcharges, rfl⟩, details, hdetails, hspace, hremove⟩ := h
  refine ⟨updater, spaceId, d, details, hcharges, hdetails, hspace, ?_⟩
  rcases hremove with ⟨hle, _, t, hcomplete, rfl⟩ | ⟨hlt, removed, t, hpartial, rfl⟩
  . obtain ⟨_, hstatements, hentries, hlookup, hrevoked, hpresentations⟩ :=
      removeComplete_spec hcomplete
    exact ⟨hpresentations, .inl ⟨hle, hstatements, hentries, hlookup, hrevoked⟩⟩
  . obtain ⟨_, _, hstatements, hentries, hlookup, hrevoked, hpresentations⟩ :=
      removePartial_spec hpartial
    exact ⟨hpresentations,
      .inr ⟨Nat.lt_of_not_le hlt, hstatements, hentries, hlookup, hrevoked⟩⟩

/-
The loop of a batch preserves what anchoring a new statement preserves.
-/
theorem registerDigests_invariant {I : State T → Prop} {spaceId : T.Ss58Identifier}
    {creator : T.SpaceCreatorId} {schemaId : Option T.Ss58Identifier} {digests : List T.Hash}
    {index : Nat} {result result' : BatchResult}
    (hanchor : ∀ s s' identifier digest, I s →
      statementIdentifier T digest spaceId creator = some identifier →
      s.statements.get identifier = none →
      Succeeds (anchorStatement identifier digest spaceId creator schemaId) s () s' → I s')
    (h : Succeeds (registerDigests spaceId creator schemaId digests index result) s result' s')
    (hs : I s) : I s' := by
  induction digests generalizing s index result with
  | nil =>
    simp only [registerDigests, Succeeds.pure_iff] at h
    rw [h.2]
    exact hs
  | cons digest digests ih =>
    unfold registerDigests at h
    split at h
    . next identifier hidentifier =>
      simp only [Succeeds.bind_iff, Succeeds.get_iff, Succeeds.ite_iff, and_assoc, exists_and_left,
        exists_eq_left, Bool.not_eq_true, StorageMap.containsKey_eq_false_iff] at h
      rcases h with ⟨_, h⟩ | ⟨hfresh, _, t, ht, h⟩
      . exact ih h hs
      . exact ih h (hanchor _ _ _ _ hs hidentifier hfresh ht)
    . exact ih h hs

theorem registerDigests_spaces {spaceId : T.Ss58Identifier} {creator : T.SpaceCreatorId}
    {schemaId : Option T.Ss58Identifier} {digests : List T.Hash} {index : Nat}
    {result result' : BatchResult}
    (h : Succeeds (registerDigests spaceId creator schemaId digests index result) s result' s')
    : s'.chainSpace.spaces = s.chainSpace.spaces := by
  induction digests generalizing s index result with
  | nil =>
    simp only [registerDigests, Succeeds.pure_iff] at h
    rw [h.2]
  | cons digest digests ih =>
    unfold registerDigests at h
    split at h
    . simp only [anchorStatement, Succeeds.bind_iff, Succeeds.get_iff, Succeeds.ite_iff,
        Succeeds.modify_iff, updateActivity_iff, and_assoc, exists_and_left, exists_eq_left,
        exists_const] at h
      cases h with
      | inl h => rw [ih h.2]
      | inr h => rw [ih h.2, logActivity_spaces]
    . rw [ih h]

theorem registerBatch_spec {digests : List T.Hash} {authorization : T.Ss58Identifier}
    {schemaId : Option T.Ss58Identifier}
    (h : Succeeds (registerBatch origin digests authorization schemaId) s () s')
    : ∃ creator spaceId d, s.Charges origin authorization creator spaceId d ∧
        0 < digests.length ∧ digests.length ≤ T.maxDigestsPerBatch.toNat ∧
        s'.chainSpace.spaces = s.chainSpace.spaces.insert spaceId
          {
            d with
            txnCount := saturatingAdd d.charge.txnCount (digests.length - 1).toUInt16.toUInt64
          } := by
  simp only [registerBatch, incrementUsageEntries, Succeeds.bind_iff, ensureAuthorized_iff,
    Succeeds.ensure_iff, Succeeds.ite_iff, mutateUsage_iff, depositEvent_iff, and_assoc,
    exists_and_left, exists_eq_left, exists_const] at h
  obtain ⟨⟨creator, spaceId⟩, _, ⟨d, hcharges, rfl⟩, hmax, result, t, hloop, hsuccess, hrest⟩ := h
  have hspaces := registerDigests_spaces hloop
  have hpos : 0 < digests.length := by
    cases digests with
    | nil =>
      simp only [registerDigests, Succeeds.pure_iff] at hloop
      rw [hloop.1] at hsuccess
      exact absurd hsuccess (by decide)
    | cons digest digests => apply Nat.succ_pos
  refine ⟨creator, spaceId, d, hcharges, hpos, hmax, ?_⟩
  rcases hrest with ⟨_, _, ⟨d', hd', rfl⟩, rfl⟩ | ⟨hone, rfl⟩
  . rw [hspaces, setSpace_spaces, StorageMap.get_insert_self] at hd'
    injection hd' with hd'
    subst hd'
    dsimp only
    rw [hspaces, setSpace_spaces, StorageMap.insert_insert_self]
    rfl
  . have hlen : digests.length - 1 = 0 := by omega
    dsimp only
    rw [hspaces, setSpace_spaces, hlen]
    congr 1
    unfold SpaceDetails.charge
    dsimp only
    congr 1
    exact (saturatingAdd_zero _).symm

theorem registerBatch_loop {digests : List T.Hash} {authorization : T.Ss58Identifier}
    {schemaId : Option T.Ss58Identifier}
    (h : Succeeds (registerBatch origin digests authorization schemaId) s () s')
    : ∃ creator spaceId d result t, s.Charges origin authorization creator spaceId d ∧
        Succeeds (registerDigests spaceId creator schemaId digests 0 ⟨0, 0, []⟩)
          (s.setSpace spaceId d.charge) result t ∧
        s'.statements = t.statements ∧ s'.entries = t.entries ∧
        s'.identifierLookup = t.identifierLookup ∧ s'.revocationList = t.revocationList ∧
        s'.presentations = t.presentations := by
  simp only [registerBatch, incrementUsageEntries, Succeeds.bind_iff, ensureAuthorized_iff,
    Succeeds.ensure_iff, Succeeds.ite_iff, mutateUsage_iff, depositEvent_iff, and_assoc,
    exists_and_left, exists_eq_left, exists_const] at h
  obtain ⟨⟨creator, spaceId⟩, _, ⟨d, hcharges, rfl⟩, hmax, result, t, hloop, hsuccess, hrest⟩ := h
  refine ⟨creator, spaceId, d, result, t, hcharges, hloop, ?_⟩
  rcases hrest with ⟨_, _, ⟨d', hd', rfl⟩, rfl⟩ | ⟨hone, rfl⟩
  . exact ⟨rfl, rfl, rfl, rfl, rfl⟩
  . exact ⟨rfl, rfl, rfl, rfl, rfl⟩

def State.atTime (s : State T) (timepoint : Timepoint) : State T :=
  { s with chainSpace.timepoint := timepoint }

def Extrinsic.Meets (P : State T → T.Origin → Call T → Prop) (s : State T) (ext : Extrinsic T)
    : Prop :=
  match ext with
  | .chainSpace _ => True
  | .statement origin timepoint call => P (s.atTime timepoint) origin call

/-
What the calls of the pallet have to do with the states before and after them.
-/
def Extrinsic.Does (R : State T → T.Origin → Call T → State T → Prop) (s : State T)
    (ext : Extrinsic T) (s' : State T) : Prop :=
  (machine T).accepts s ext = true →
    match ext with
    | .chainSpace _ => True
    | .statement origin timepoint call => R (s.atTime timepoint) origin call s'

/-
What the runs of the pallet keep is decided by its calls: the calls of the chain space pallet and
the passing of time leave its storage as it is.
-/
section Runs

variable {I K : State T → Prop} {P : State T → T.Origin → Call T → Prop}

theorem machine_statement {timepoint : Timepoint} {call : Call T}
    : Succeeds ((machine T).dispatch (.statement origin timepoint call)) s () s'
        ↔
      Succeeds (call.dispatch origin) (s.atTime timepoint) () s' := by
  simp [machine, Extrinsic.dispatch, State.atTime]

theorem run_of_call (hspace : ∀ s t, I s → I { s with chainSpace := t })
    (hcall : ∀ s origin call s', I s → Succeeds (Call.dispatch call origin) s () s' → I s')
    (hs : I s) (exts : List (Extrinsic T)) : (machine T).Always I s exts := by
  apply Machine.always_invariant _ hs
  intro s ext s' hs hsucc
  cases ext with
  | chainSpace ext =>
    obtain ⟨t, _, rfl⟩ := chainSpace_iff.mp hsucc
    exact hspace s t hs
  | statement origin timepoint call =>
    rw [machine_statement] at hsucc
    exact hcall _ _ _ _ (hspace s _ hs) hsucc

theorem run_iff_of_call (hI : ∀ s, K s → I s) (hspace : ∀ s t, K s → K { s with chainSpace := t })
    (hcall : ∀ s origin call s', K s → Succeeds (Call.dispatch call origin) s () s' →
      (I s' → P s origin call) ∧ (P s origin call → K s'))
    (hs : K s) (exts : List (Extrinsic T))
    : (machine T).Always I s exts ↔ (machine T).Meets (Extrinsic.Meets P) s exts := by
  apply Machine.always_iff_of_strengthening hI _ hs
  intro s ext s' hs hsucc
  cases ext with
  | chainSpace ext =>
    obtain ⟨t, _, rfl⟩ := chainSpace_iff.mp hsucc
    exact ⟨fun _ => trivial, fun _ => hspace s t hs⟩
  | statement origin timepoint call =>
    rw [machine_statement] at hsucc
    exact hcall _ _ _ _ (hspace s _ hs) hsucc

theorem everyStep_iff_of_call {R : State T → T.Origin → Call T → State T → Prop}
    (hspace : ∀ s t, K s → K { s with chainSpace := t })
    (hcall : ∀ s origin call s', K s → Succeeds (Call.dispatch call origin) s () s' →
      (R s origin call s' → P s origin call) ∧ (P s origin call → R s origin call s' ∧ K s'))
    (hs : K s) (exts : List (Extrinsic T))
    : (machine T).EveryStep (Extrinsic.Does R) s exts ↔
        (machine T).Meets (Extrinsic.Meets P) s exts := by
  apply Machine.everyStep_iff_of_strengthening _ _ hs
  . intro s ext hfails haccepts
    rw [hfails] at haccepts
    cases haccepts
  . intro s ext s' hs hsucc
    unfold Extrinsic.Does
    simp only [Machine.Succeeds.accepts hsucc, true_imp_iff]
    cases ext with
    | chainSpace ext =>
      obtain ⟨t, _, rfl⟩ := chainSpace_iff.mp hsucc
      exact ⟨fun _ => trivial, fun _ => ⟨trivial, hspace s t hs⟩⟩
    | statement origin timepoint call =>
      rw [machine_statement] at hsucc
      exact hcall _ _ _ _ (hspace s _ hs) hsucc

end Runs

end Statement
