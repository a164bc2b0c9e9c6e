import Cord.Statement.Lemmas.Digests
import Cord.Statement.Lemmas.Superseded

/-!
This module contains the completeness of the identifier lookup: the digests of the entries and the
presentations of a statement can be looked up. The lookup is keyed by digest and space, so all
statements of a space that carry a digest share one lookup, and a removal deletes it for all of them.
-/

open Frame Identifier ChainSpace

namespace Statement

variable {T : Config} {s s' : State T} {origin : T.Origin} {call : Call T}

def State.Carries (s : State T) (id : T.Ss58Identifier) (digest : T.Hash) : Prop :=
  s.entries.containsKey (id, digest) = true ∨ s.presentations.containsKey (id, digest) = true

/--
What a statement carries can be looked up in its space.
-/
def LookupComplete (s : State T) : Prop :=
  ∀ id details digest, s.statements.get id = some details → s.Carries id digest →
    s.identifierLookup.containsKey (digest, details.space) = true

section Batch

def freshStatements (spaceId : T.Ss58Identifier) (creator : T.SpaceCreatorId)
    (taken : T.Ss58Identifier → Bool) (digests : List T.Hash) : List (T.Ss58Identifier × T.Hash) :=
  -- The statements that are anchored by a batch if the identifiers `taken` are in use. Of several
  -- digests with the same identifier it is the first.
  match digests with
  | [] => []
  | digest :: digests =>
    match statementIdentifier T digest spaceId creator with
    | some identifier =>
      if taken identifier then
        freshStatements spaceId creator taken digests
      else
        (identifier, digest) ::
          freshStatements spaceId creator (fun id => id = identifier || taken id) digests
    | none => freshStatements spaceId creator taken digests

variable {spaceId : T.Ss58Identifier} {creator : T.SpaceCreatorId}
  {schemaId : Option T.Ss58Identifier}

structure State.Anchors (s : State T) (spaceId : T.Ss58Identifier)
    (schemaId : Option T.Ss58Identifier) (fresh : List (T.Ss58Identifier × T.Hash)) (s' : State T)
    : Prop where
  statements : ∀ id details, s'.statements.get id = some details ↔
    (∃ digest, (id, digest) ∈ fresh ∧ details = ⟨digest, spaceId, schemaId⟩) ∨
      s.statements.get id = some details
  entries : ∀ id digest, s'.entries.containsKey (id, digest) = true ↔
    (id, digest) ∈ fresh ∨ s.entries.containsKey (id, digest) = true
  lookup : ∀ digest spaceId', s'.identifierLookup.containsKey (digest, spaceId') = true ↔
    ((∃ id, (id, digest) ∈ fresh) ∧ spaceId' = spaceId) ∨
      s.identifierLookup.containsKey (digest, spaceId') = true
  presentations : s'.presentations = s.presentations

theorem State.Anchors.nil (s : State T) : s.Anchors spaceId schemaId [] s := by
  constructor <;> simp

theorem State.Anchors.cons {t : State T} {identifier : T.Ss58Identifier} {digest : T.Hash}
    {fresh : List (T.Ss58Identifier × T.Hash)} (h : t.Anchors spaceId schemaId fresh s')
    (hfresh : s.statements.get identifier = none)
    (hstatements : t.statements = s.statements.insert identifier ⟨digest, spaceId, schemaId⟩)
    (hentries : t.entries = s.entries.insert (identifier, digest) creator)
    (hlookup : t.identifierLookup = s.identifierLookup.insert (digest, spaceId) identifier)
    (hpresentations : t.presentations = s.presentations)
    : s.Anchors spaceId schemaId ((identifier, digest) :: fresh) s' := by
  refine ⟨?_, ?_, ?_, ?_⟩
  . intro id details
    rw [h.statements, hstatements, StorageMap.get_insert]
    by_cases hid : id = identifier
    . simp [hid, hfresh, or_and_right, exists_or, eq_comm, or_comm]
    . simp [hid]
  . intro id digest'
    rw [h.entries, hentries, StorageMap.containsKey_insert, List.mem_cons, or_left_comm, or_assoc]
  . intro digest' spaceId'
    rw [h.lookup, hlookup, StorageMap.containsKey_insert, Prod.mk.injEq]
    simp only [List.mem_cons, Prod.mk.injEq, exists_or, exists_and_right, exists_eq, true_and]
    tauto
  . rw [h.presentations, hpresentations]

theorem registerDigests_anchors {digests : List T.Hash} {index : Nat} {result result' : BatchResult}
    (h : Succeeds (registerDigests spaceId creator schemaId digests index result) s result' s')
    : s.Anchors spaceId schemaId
        (freshStatements spaceId creator s.statements.containsKey digests) s' := by
  induction digests generalizing s index result with
  | nil =>
    simp only [registerDigests, Succeeds.pure_iff] at h
    rw [h.2]
    apply State.Anchors.nil
  | cons digest digests ih =>
    unfold registerDigests at h
    unfold freshStatements
    cases hid : statementIdentifier T digest spaceId creator with
    | none =>
      rw [hid] at h
      exact ih h
    | some identifier =>
      rw [hid] at h
      simp only [Succeeds.bind_iff, Succeeds.get_iff, Succeeds.ite_iff, and_assoc, exists_and_left,
        exists_eq_left, Bool.not_eq_true] at h
      rcases h with ⟨htaken, h⟩ | ⟨hfresh, _, t, hanchor, h⟩
      . simp only [htaken, if_true]
        exact ih h
      . simp only [hfresh, Bool.false_eq_true, if_false]
        obtain ⟨hstatements, hentries, hlookup, _, hpresentations⟩ := anchorStatement_spec hanchor
        have htaken : t.statements.containsKey =
            fun id => decide (id = identifier) || s.statements.containsKey id := by
          funext id
          rw [Bool.eq_iff_iff, hstatements, StorageMap.containsKey_insert]
          simp
        rw [StorageMap.containsKey_eq_false_iff] at hfresh
        rw [← htaken]
        exact (ih h).cons hfresh hstatements hentries hlookup hpresentations

theorem freshStatements_not_taken {taken : T.Ss58Identifier → Bool} {digests : List T.Hash}
    {p : T.Ss58Identifier × T.Hash} (h : p ∈ freshStatements spaceId creator taken digests)
    : taken p.1 = false := by
  induction digests generalizing taken with
  | nil => cases h
  | cons digest digests ih =>
    unfold freshStatements at h
    cases hid : statementIdentifier T digest spaceId creator with
    | none =>
      rw [hid] at h
      exact ih h
    | some identifier =>
      rw [hid] at h
      cases htaken : taken identifier with
      | true =>
        simp only [htaken, if_true] at h
        exact ih h
      | false =>
        simp only [htaken, Bool.false_eq_true, if_false, List.mem_cons] at h
        cases h with
        | inl heq =>
          rw [heq]
          exact htaken
        | inr h => exact (Bool.or_eq_false_iff.mp (ih h)).2

end Batch

section Complete

def State.caller (s : State T) (origin : T.Origin) (authorization : T.Ss58Identifier)
    : Option (T.SpaceCreatorId × T.Ss58Identifier) := do
  let creator ← T.ensureStatementOrigin origin
  let a ← s.chainSpace.authorizations.get authorization
  return (creator, a.spaceId)

def State.FindsLeft (s : State T) (spaceId : T.Ss58Identifier)
    (fresh : List (T.Ss58Identifier × T.Hash)) : Prop :=
  -- The presentations that an earlier statement left to an identifier that is anchored again can
  -- be looked up.
  ∀ p ∈ fresh, ∀ digest, s.presentations.containsKey (p.1, digest) = true →
    (∃ id, (id, digest) ∈ fresh) ∨ s.identifierLookup.containsKey (digest, spaceId) = true

def State.Shared (s : State T) (statementId spaceId : T.Ss58Identifier) (digest : T.Hash) : Prop :=
  -- Another statement of the space carries the digest.
  ∃ id details, id ≠ statementId ∧ s.statements.get id = some details ∧ details.space = spaceId ∧
    s.Carries id digest

def State.removedDigests (s : State T) (statementId : T.Ss58Identifier) : List T.Hash :=
  (s.iterEntries statementId).take T.maxRemoveEntries.toNat

def Call.KeepsLookups (s : State T) (origin : T.Origin) (call : Call T) : Prop :=
  match call with
  | .register digest authorization _ =>
    ∀ caller ∈ s.caller origin authorization,
      s.FindsLeft caller.2 (freshStatements caller.2 caller.1 s.statements.containsKey [digest])
  | .registerBatch digests authorization _ =>
    ∀ caller ∈ s.caller origin authorization,
      s.FindsLeft caller.2 (freshStatements caller.2 caller.1 s.statements.containsKey digests)
  | .remove statementId _ =>
    ∀ details ∈ s.statements.get statementId, ∀ digest ∈ s.removedDigests statementId,
      ¬ s.Shared statementId details.space digest ∧
        (T.maxRemoveEntries.toNat < (s.iterEntries statementId).length →
          s.presentations.containsKey (statementId, digest) = false)
  | .removePresentation statementId presentationDigest _ =>
    ∀ presentation ∈ s.presentations.get (statementId, presentationDigest),
      ¬ s.Shared statementId presentation.space presentationDigest ∧
        ∀ details ∈ s.statements.get statementId, details.space = presentation.space →
          s.entries.containsKey (statementId, presentationDigest) = false
  | _ => True

theorem State.Charges.caller {authorization spaceId : T.Ss58Identifier} {creator : T.SpaceCreatorId}
    {d : SpaceDetails T.toChainSpace} (h : s.Charges origin authorization creator spaceId d)
    : s.caller origin authorization = some (creator, spaceId) := by
  obtain ⟨a, ha, _, hspace, _⟩ := h.authorizes
  simp [State.caller, h.origin, ha, hspace]

variable {spaceId id : T.Ss58Identifier} {digest : T.Hash}

theorem LookupComplete.add {details : StatementDetails T} (h : LookupComplete s)
    (hget : s.statements.get id = some details)
    (hstatements : ∀ id details', s'.statements.get id = some details' →
      ∃ details, s.statements.get id = some details ∧ details.space = details'.space)
    (hcarries : ∀ id' digest', s'.Carries id' digest' →
      (id' = id ∧ digest' = digest) ∨ s.Carries id' digest')
    (hlookup : s'.identifierLookup = s.identifierLookup.insert (digest, details.space) id)
    : LookupComplete s' := by
  intro id' details' digest' hget' hcarried
  obtain ⟨details₀, hold, heq⟩ := hstatements id' details' hget'
  rw [hlookup, StorageMap.containsKey_insert, ← heq]
  cases hcarries id' digest' hcarried with
  | inl hnew =>
    left
    rw [hnew.1, hget] at hold
    injection hold with hold
    rw [hnew.2, hold]
  | inr hcarried =>
    right
    exact h id' details₀ digest' hold hcarried

theorem lookupComplete_congr (hstatements : s'.statements = s.statements)
    (hentries : s'.entries = s.entries) (hpresentations : s'.presentations = s.presentations)
    (hlookup : s'.identifierLookup = s.identifierLookup)
    : LookupComplete s' ↔ LookupComplete s := by
  unfold LookupComplete State.Carries
  rw [hstatements, hentries, hpresentations, hlookup]

theorem LookupComplete.anchors_iff {schemaId : Option T.Ss58Identifier}
    {fresh : List (T.Ss58Identifier × T.Hash)} (h : LookupComplete s) (hlive : EntriesLive s)
    (hfresh : ∀ p ∈ fresh, s.statements.containsKey p.1 = false)
    (hanchors : s.Anchors spaceId schemaId fresh s')
    : LookupComplete s' ↔ s.FindsLeft spaceId fresh := by
  constructor
  . intro h' p hp digest hpresentation
    have hfound := h' p.1 ⟨p.2, spaceId, schemaId⟩ digest
      ((hanchors.statements _ _).mpr (.inl ⟨p.2, hp, rfl⟩))
      (.inr (by rw [hanchors.presentations]; exact hpresentation))
    rw [hanchors.lookup] at hfound
    exact hfound.imp_left And.left
  . intro hleft id details digest hget hcarried
    unfold State.Carries at hcarried
    rw [hanchors.entries, hanchors.presentations] at hcarried
    rw [hanchors.statements] at hget
    rw [hanchors.lookup]
    rcases hget with ⟨digest', hmem, rfl⟩ | hget
    . -- A statement that is new has the entry it is anchored with and the presentations left to it.
      rcases hcarried with (hnew | hentry) | hpresentation
      . exact .inl ⟨⟨id, hnew⟩, rfl⟩
      . have hcontains := hlive id digest hentry
        rw [hfresh _ hmem] at hcontains
        cases hcontains
      . exact (hleft _ hmem digest hpresentation).imp_left fun hmem => ⟨hmem, rfl⟩
    . rcases hcarried with (hnew | hentry) | hpresentation
      . have hcontains := hfresh _ hnew
        rw [StorageMap.containsKey, hget] at hcontains
        cases hcontains
      . exact .inr (h id details digest hget (.inl hentry))
      . exact .inr (h id details digest hget (.inr hpresentation))

theorem LookupComplete.remove_iff (h : LookupComplete s) (spaceId : T.Ss58Identifier)
    (digests : List T.Hash)
    (hstatements : ∀ id details, s'.statements.get id = some details →
      s.statements.get id = some details)
    (hcarries : ∀ id digest, s'.Carries id digest → s.Carries id digest)
    (hlookup : ∀ digest spaceId', s'.identifierLookup.containsKey (digest, spaceId') = true ↔
      ¬ (spaceId' = spaceId ∧ digest ∈ digests) ∧
        s.identifierLookup.containsKey (digest, spaceId') = true)
    : LookupComplete s' ↔
        ∀ id details, s'.statements.get id = some details → details.space = spaceId →
          ∀ digest ∈ digests, ¬ s'.Carries id digest := by
  constructor
  . intro h' id details hget hspace digest hmem hcarried
    have hfound := h' id details digest hget hcarried
    rw [hlookup] at hfound
    exact hfound.1 ⟨hspace, hmem⟩
  . intro hspared id details digest hget hcarried
    rw [hlookup]
    refine ⟨?_, h id details digest (hstatements _ _ hget) (hcarries _ _ hcarried)⟩
    rintro ⟨hspace, hmem⟩
    exact hspared id details hget hspace digest hmem hcarried

theorem LookupComplete.removeComplete_iff {digests : List T.Hash} (h : LookupComplete s)
    (hstatements : s'.statements = s.statements.remove id)
    (hentries : s'.entries = s.entries.clearPrefix T.iterOrder id (s.iterEntries id).length)
    (hpresentations : s'.presentations = s.presentations)
    (hlookup : s'.identifierLookup =
      digests.foldl (fun lookup digest => lookup.remove (digest, spaceId)) s.identifierLookup)
    : LookupComplete s' ↔ ∀ digest ∈ digests, ¬ s.Shared id spaceId digest := by
  have hget' : ∀ id' details', s'.statements.get id' = some details' ↔
      id' ≠ id ∧ s.statements.get id' = some details' := by
    intro id' details'
    rw [hstatements, StorageMap.get_remove]
    simp
  have hcarries : ∀ id' digest, s'.Carries id' digest ↔
      (id' ≠ id ∧ s.entries.containsKey (id', digest) = true) ∨
        s.presentations.containsKey (id', digest) = true := by
    intro id' digest
    unfold State.Carries
    rw [hentries, hpresentations]
    apply or_congr_left
    exact StorageMap.containsKey_clearPrefix T.iterOrder_eq s.entries id (Nat.le_refl _) id' digest
  rw [h.remove_iff spaceId digests]
  . constructor
    . rintro hspared digest hmem ⟨id', details', hne, hget, hspace, hcarried⟩
      apply hspared id' details' ((hget' _ _).mpr ⟨hne, hget⟩) hspace digest hmem
      rw [hcarries]
      exact hcarried.imp_left fun hentry => ⟨hne, hentry⟩
    . intro hspared id' details' hget hspace digest hmem hcarried
      rw [hget'] at hget
      rw [hcarries] at hcarried
      exact hspared digest hmem
        ⟨id', details', hget.1, hget.2, hspace, hcarried.imp_left And.right⟩
  . intro id' details' hget
    exact ((hget' _ _).mp hget).2
  . intro id' digest hcarried
    exact ((hcarries _ _).mp hcarried).imp_left And.right
  . intro digest spaceId'
    rw [hlookup]
    apply StorageMap.containsKey_foldl_remove_left

theorem LookupComplete.removePartial_iff {details : StatementDetails T} {digests : List T.Hash}
    (h : LookupComplete s) (hget : s.statements.get id = some details)
    (hstatements : s'.statements = s.statements)
    (hentries : s'.entries =
      digests.foldl (fun entries digest => entries.remove (id, digest)) s.entries)
    (hpresentations : s'.presentations = s.presentations)
    (hlookup : s'.identifierLookup =
      digests.foldl (fun lookup digest => lookup.remove (digest, details.space)) s.identifierLookup)
    : LookupComplete s' ↔
        ∀ digest ∈ digests, ¬ s.Shared id details.space digest ∧
          s.presentations.containsKey (id, digest) = false := by
  have hcarries : ∀ id' digest, s'.Carries id' digest ↔
      (¬ (id' = id ∧ digest ∈ digests) ∧ s.entries.containsKey (id', digest) = true) ∨
        s.presentations.containsKey (id', digest) = true := by
    intro id' digest
    unfold State.Carries
    rw [hentries, hpresentations, StorageMap.containsKey_foldl_remove]
  rw [h.remove_iff details.space digests]
  . constructor
    . intro hspared digest hmem
      constructor
      . rintro ⟨id', details', hne, hget', hspace, hcarried⟩
        rw [← hstatements] at hget'
        apply hspared id' details' hget' hspace digest hmem
        rw [hcarries]
        exact hcarried.imp_left fun hentry => ⟨fun heq => hne heq.1, hentry⟩
      . rw [← Bool.not_eq_true]
        intro hpresentation
        rw [← hstatements] at hget
        apply hspared id details hget rfl digest hmem
        rw [hcarries]
        exact .inr hpresentation
    . intro hspared id' details' hget' hspace digest hmem hcarried
      rw [hstatements] at hget'
      rw [hcarries] at hcarried
      obtain ⟨hunshared, hpresentation⟩ := hspared digest hmem
      by_cases hid : id' = id
      . rw [hid, hpresentation] at hcarried
        rcases hcarried with hentry | hfalse
        . exact hentry.1 ⟨rfl, hmem⟩
        . cases hfalse
      . exact hunshared ⟨id', details', hid, hget', hspace, hcarried.imp_left And.right⟩
  . intro id' details' hget'
    rw [hstatements] at hget'
    exact hget'
  . intro id' digest hcarried
    exact ((hcarries _ _).mp hcarried).imp_left And.right
  . intro digest spaceId'
    rw [hlookup]
    apply StorageMap.containsKey_foldl_remove_left

theorem LookupComplete.removePresentation_iff (h : LookupComplete s)
    (hstatements : s'.statements = s.statements) (hentries : s'.entries = s.entries)
    (hpresentations : s'.presentations = s.presentations.remove (id, digest))
    (hlookup : s'.identifierLookup = s.identifierLookup.remove (digest, spaceId))
    : LookupComplete s' ↔
        ¬ s.Shared id spaceId digest ∧
          ∀ details ∈ s.statements.get id, details.space = spaceId →
            s.entries.containsKey (id, digest) = false := by
  have hcarries : ∀ id' digest', s'.Carries id' digest' ↔
      s.entries.containsKey (id', digest') = true ∨
        ((id', digest') ≠ (id, digest) ∧ s.presentations.containsKey (id', digest') = true) := by
    intro id' digest'
    unfold State.Carries
    rw [hentries, hpresentations, StorageMap.containsKey_remove]
  rw [h.remove_iff spaceId [digest], hstatements]
  . simp only [List.mem_singleton, forall_eq]
    constructor
    . intro hspared
      constructor
      . rintro ⟨id', details', hne, hget, hspace, hcarried⟩
        apply hspared id' details' hget hspace
        rw [hcarries]
        exact hcarried.imp_right fun hpresentation =>
          ⟨fun heq => hne (congrArg Prod.fst heq), hpresentation⟩
      . intro details hget hspace
        rw [← Bool.not_eq_true]
        intro hentry
        apply hspared id details hget hspace
        rw [hcarries]
        exact .inl hentry
    . rintro ⟨hunshared, hentry⟩ id' details' hget hspace hcarried
      rw [hcarries] at hcarried
      by_cases hid : id' = id
      . rw [hid] at hcarried hget
        rw [hentry details' hget hspace] at hcarried
        rcases hcarried with hfalse | hpresentation
        . cases hfalse
        . exact hpresentation.1 rfl
      . exact hunshared ⟨id', details', hid, hget, hspace, hcarried.imp_right And.right⟩
  . intro id' details' hget
    rw [hstatements] at hget
    exact hget
  . intro id' digest' hcarried
    exact ((hcarries _ _).mp hcarried).imp_right And.right
  . intro digest' spaceId'
    rw [hlookup, StorageMap.containsKey_remove, List.mem_singleton, Ne, Prod.mk.injEq,
      and_comm (a := digest' = digest)]

theorem LookupComplete.dispatch_iff (h : LookupComplete s) (hlive : EntriesLive s)
    (hs : Succeeds (call.dispatch origin) s () s')
    : LookupComplete s' ↔ call.KeepsLookups s origin := by
  cases call with
  | register digest authorization schemaId =>
    obtain ⟨creator, spaceId, _, identifier, hcharges, hid, hfresh, _, hstatements, hentries,
      hlookup, _, hpresentations⟩ := register_spec hs
    have hlist : freshStatements spaceId creator s.statements.containsKey [digest] =
        [(identifier, digest)] := by
      simp [freshStatements, hid, StorageMap.containsKey, hfresh]
    have hanchors := (State.Anchors.nil s').cons hfresh hstatements hentries hlookup hpresentations
    simp only [Call.KeepsLookups, hcharges.caller, Option.mem_def, Option.some.injEq, forall_eq',
      hlist]
    apply h.anchors_iff hlive _ hanchors
    intro p hp
    rw [List.mem_singleton] at hp
    rw [hp, StorageMap.containsKey_eq_false_iff]
    exact hfresh
  | update statementId newStatementDigest authorization =>
    obtain ⟨_, _, _, details, _, hget, _, _, _, _, hstatements, hentries, hlookup, _,
      hpresentations⟩ := update_spec hs
    apply iff_of_true _ trivial
    refine h.add hget ?_ ?_ hlookup
    . intro id details' hget'
      rw [hstatements, StorageMap.get_insert] at hget'
      by_cases hid : id = statementId
      . rw [if_pos hid] at hget'
        injection hget' with hget'
        exact ⟨details, by rw [hid]; exact hget, by rw [← hget']⟩
      . rw [if_neg hid] at hget'
        exact ⟨details', hget', rfl⟩
    . intro id digest hcarried
      unfold State.Carries at *
      rw [hentries, hpresentations, StorageMap.containsKey_insert, Prod.mk.injEq, or_assoc]
        at hcarried
      exact hcarried
  | revoke statementId authorization =>
    obtain ⟨_, _, _, _, _, _, _, _, _, hstatements, hentries, hlookup, _, hpresentations⟩ :=
      revoke_spec hs
    apply iff_of_true _ trivial
    exact (lookupComplete_congr hstatements hentries hpresentations hlookup).mpr h
  | restore statementId authorization =>
    obtain ⟨_, _, _, _, _, _, _, _, _, hstatements, hentries, hlookup, _, hpresentations⟩ :=
      restore_spec hs
    apply iff_of_true _ trivial
    exact (lookupComplete_congr hstatements hentries hpresentations hlookup).mpr h
  | remove statementId authorization =>
    obtain ⟨_, _, _, details, _, hget, rfl, hpresentations, hcases⟩ := remove_cases hs
    simp only [Call.KeepsLookups, hget, Option.mem_def, Option.some.injEq, forall_eq']
    rcases hcases with ⟨hle, hstatements, hentries, hlookup, _⟩ |
      ⟨hlt, hstatements, hentries, hlookup, _⟩
    . rw [h.removeComplete_iff hstatements hentries hpresentations hlookup]
      unfold State.removedDigests
      rw [List.take_of_length_le hle]
      simp [Nat.not_lt.mpr hle]
    . rw [h.removePartial_iff hget hstatements hentries hpresentations hlookup]
      simp [State.removedDigests, hlt]
  | registerBatch digests authorization schemaId =>
    obtain ⟨creator, spaceId, d, _, t, hcharges, hloop, hstatements, hentries, hlookup, _,
      hpresentations⟩ := registerBatch_loop hs
    simp only [Call.KeepsLookups, hcharges.caller, Option.mem_def, Option.some.injEq, forall_eq']
    rw [lookupComplete_congr hstatements hentries hpresentations hlookup]
    have hcharged : LookupComplete (s.setSpace spaceId d.charge) := h
    apply hcharged.anchors_iff hlive _ (registerDigests_anchors hloop)
    intro p hp
    exact freshStatements_not_taken hp
  | addPresentation statementId presentationDigest presentationType authorization =>
    obtain ⟨_, _, _, details, _, hget, rfl, _, _, _, hstatements, hentries, hlookup, _,
      hpresentations⟩ := addPresentation_spec hs
    apply iff_of_true _ trivial
    refine h.add hget ?_ ?_ hlookup
    . intro id details' hget'
      rw [hstatements] at hget'
      exact ⟨details', hget', rfl⟩
    . intro id digest hcarried
      unfold State.Carries at *
      rw [hentries, hpresentations, StorageMap.containsKey_insert, Prod.mk.injEq, or_left_comm]
        at hcarried
      exact hcarried
  | removePresentation statementId presentationDigest authorization =>
    obtain ⟨_, _, _, details, _, hget, rfl, _, hstatements, hentries, hlookup, _,
      hpresentations⟩ := removePresentation_spec hs
    rw [h.removePresentation_iff hstatements hentries hpresentations hlookup]
    simp only [Call.KeepsLookups, hget, Option.mem_def, Option.some.injEq, forall_eq']

end Complete

/--
Every digest of a statement can be looked up in every state of exactly those runs in which no removal
deletes the lookup of a digest that a statement of the space still carries, and no identifier with
presentations that cannot be looked up is anchored again.
-/
theorem run_lookupComplete_iff (exts : List (Extrinsic T))
    : (machine T).Always LookupComplete (State.genesis T) exts ↔
        (machine T).Meets (Extrinsic.Meets fun s origin call => call.KeepsLookups s origin)
          (State.genesis T) exts := by
  apply run_iff_of_call (K := fun s => EntriesLive s ∧ LookupComplete s)
  . intro s h
    exact h.2
  . intro s t h
    exact ⟨h.1.congr rfl rfl, h.2⟩
  . intro s origin call s' h hs
    have hiff := h.2.dispatch_iff h.1 hs
    refine ⟨hiff.mp, ?_⟩
    intro hkeeps
    exact ⟨h.1.dispatch hs, hiff.mpr hkeeps⟩
  . constructor
    . intro id digest hentry
      cases hentry
    . intro id details digest hget
      cases hget

section Plain

def removeShared : List (Extrinsic .plain) := [
    -- Two delegates of a space anchor the same digest, and one of them removes its statement.
    .chainSpace (plainExtrinsic (some 1) (.create [10])),
    .chainSpace (plainExtrinsic none (.approve (plainSpace 10 1) 100)),
    .chainSpace (plainExtrinsic (some 1)
      (.addDelegate (plainSpace 10 1) 2 (plainAuthorization (plainSpace 10 1) 1 1))),
    statementCall (.register [22] (plainAuthorization (plainSpace 10 1) 1 1) none),
    .statement (some 2) ⟨1, 0⟩
      (.register [22] (plainAuthorization (plainSpace 10 1) 2 1) none),
    statementCall (.remove (plainStatement 22) (plainAuthorization (plainSpace 10 1) 1 1))
  ]

theorem removeShared_not_lookupComplete
    : ¬ ∀ exts : List (Extrinsic .plain),
        LookupComplete ((machine .plain).run (State.genesis .plain) exts) := by
  intro h
  have hfound := h removeShared ([1, 22] ++ plainSpace 10 1 ++ [2]) ⟨[22], plainSpace 10 1, none⟩
    [22] (by decide +kernel) (.inl (by decide +kernel))
  revert hfound
  decide +kernel

end Plain

end Statement
