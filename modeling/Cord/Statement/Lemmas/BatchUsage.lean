import Cord.Statement.Lemmas.Batch

/-!
This module contains what a batch is charged for. The space pays for every digest of the batch, also
for those that do not become a statement, and only the first one is compared with the capacity.
-/

open Frame Identifier ChainSpace

namespace Statement

variable {T : Config} {s s' : State T} {origin : T.Origin} {call : Call T}
  {authorization spaceId : T.Ss58Identifier} {creator : T.SpaceCreatorId}
  {schemaId : Option T.Ss58Identifier} {digests : List T.Hash}

def batchIdentifiers (T : Config) (spaceId : T.Ss58Identifier) (creator : T.SpaceCreatorId)
    (digests : List T.Hash) : List T.Ss58Identifier :=
  digests.filterMap fun digest => statementIdentifier T digest spaceId creator

def State.newIdentifiers (s : State T) (spaceId : T.Ss58Identifier) (creator : T.SpaceCreatorId)
    (digests : List T.Hash) : Finset T.Ss58Identifier :=
  (batchIdentifiers T spaceId creator digests).toFinset.filter
    fun id => s.statements.containsKey id = false

def Call.PaysForCreated (s : State T) (origin : T.Origin) (call : Call T) (s' : State T) : Prop :=
  match call with
  | .registerBatch _ authorization _ =>
    ∀ creator spaceId d, s.Charges origin authorization creator spaceId d →
      ∀ d' ∈ s'.chainSpace.spaces.get spaceId,
        d'.txnCount.toNat = d.txnCount.toNat + (s'.statements.size - s.statements.size) ∧
          (d'.txnCapacity ≠ 0 → d'.txnCount ≤ d'.txnCapacity)
  | _ => True

def Call.CreatesAll (s : State T) (origin : T.Origin) (call : Call T) : Prop :=
  -- Every digest of the batch becomes a statement, unless the count is at its end with those that
  -- do, and the whole batch fits into the capacity.
  match call with
  | .registerBatch digests authorization _ =>
    ∀ creator spaceId d, s.Charges origin authorization creator spaceId d →
      ((s.newIdentifiers spaceId creator digests).card = digests.length ∧
          d.txnCount.toNat + digests.length < 2 ^ 64 ∨
        d.txnCount.toNat + (s.newIdentifiers spaceId creator digests).card = 2 ^ 64 - 1) ∧
      (d.txnCapacity = 0 ∨ d.txnCount.toNat + digests.length ≤ d.txnCapacity.toNat ∨
        d.txnCapacity.toNat = 2 ^ 64 - 1)
  | _ => True

section Loop

variable {digest : T.Hash} {identifier : T.Ss58Identifier}

theorem newIdentifiers_card_le : (s.newIdentifiers spaceId creator digests).card ≤ digests.length :=
  calc (s.newIdentifiers spaceId creator digests).card
    _ ≤ (batchIdentifiers T spaceId creator digests).toFinset.card := Finset.card_filter_le _ _
    _ ≤ (batchIdentifiers T spaceId creator digests).length := List.toFinset_card_le _
    _ ≤ digests.length := List.length_filterMap_le _ _

theorem newIdentifiers_cons_none (h : statementIdentifier T digest spaceId creator = none)
    : s.newIdentifiers spaceId creator (digest :: digests) =
        s.newIdentifiers spaceId creator digests := by
  unfold State.newIdentifiers batchIdentifiers
  rw [List.filterMap_cons, h]

theorem newIdentifiers_cons_some (h : statementIdentifier T digest spaceId creator = some identifier)
    : s.newIdentifiers spaceId creator (digest :: digests) =
        if s.statements.containsKey identifier = false then
          insert identifier (s.newIdentifiers spaceId creator digests)
        else
          s.newIdentifiers spaceId creator digests := by
  unfold State.newIdentifiers batchIdentifiers
  rw [List.filterMap_cons, h]
  dsimp only
  rw [List.toFinset_cons, Finset.filter_insert]

theorem newIdentifiers_anchored {details : StatementDetails T}
    (h : s'.statements = s.statements.insert identifier details)
    : s'.newIdentifiers spaceId creator digests =
        (s.newIdentifiers spaceId creator digests).erase identifier := by
  ext id
  unfold State.newIdentifiers
  rw [Finset.mem_erase, Finset.mem_filter, Finset.mem_filter, h]
  simp only [← Bool.not_eq_true, StorageMap.containsKey_insert]
  tauto

theorem registerDigests_size {index : Nat} {result result' : BatchResult}
    (h : Succeeds (registerDigests spaceId creator schemaId digests index result) s result' s')
    : s'.statements.size =
        s.statements.size + (s.newIdentifiers spaceId creator digests).card := by
  induction digests generalizing s index result with
  | nil =>
    simp only [registerDigests, Succeeds.pure_iff] at h
    rw [h.2]
    rfl
  | cons digest digests ih =>
    unfold registerDigests at h
    split at h
    . next identifier hidentifier =>
      simp only [Succeeds.bind_iff, Succeeds.get_iff, Succeeds.ite_iff, and_assoc, exists_and_left,
        exists_eq_left, Bool.not_eq_true] at h
      rw [newIdentifiers_cons_some hidentifier]
      rcases h with ⟨hknown, h⟩ | ⟨hnew, _, t, ht, h⟩
      . rw [ih h, if_neg (by rw [hknown]; exact Bool.noConfusion)]
      . have hstatements := (anchorStatement_spec ht).1
        have hcard := Finset.card_erase_add_one
          (Finset.mem_insert_self identifier (s.newIdentifiers spaceId creator digests))
        rw [Finset.erase_insert_eq_erase] at hcard
        rw [ih h, if_pos hnew, newIdentifiers_anchored hstatements, ← hcard, hstatements]
        rw [StorageMap.containsKey_eq_false_iff] at hnew
        rw [StorageMap.size_insert_of_get_none _ hnew]
        omega
    . next hidentifier => rw [ih h, newIdentifiers_cons_none hidentifier]

end Loop

section Charged

variable {d : SpaceDetails T.toChainSpace}

theorem State.Charges.forall_iff
    {Q : T.SpaceCreatorId → T.Ss58Identifier → SpaceDetails T.toChainSpace → Prop}
    (h : s.Charges origin authorization creator spaceId d)
    : (∀ creator spaceId d, s.Charges origin authorization creator spaceId d →
          Q creator spaceId d) ↔ Q creator spaceId d := by
  constructor
  . intro hall
    exact hall _ _ _ h
  . intro hQ creator' spaceId' d' h'
    obtain ⟨rfl, rfl, rfl⟩ := h.unique h'
    exact hQ

theorem batch_count (d : SpaceDetails T.toChainSpace) (hpos : 0 < digests.length)
    (hmax : digests.length ≤ T.maxDigestsPerBatch.toNat)
    : (saturatingAdd d.charge.txnCount (digests.length - 1).toUInt16.toUInt64).toNat =
        min (d.txnCount.toNat + digests.length) (2 ^ 64 - 1) := by
  have hone : (1 : UInt64).toNat = 1 := rfl
  rw [toNat_saturatingAdd, toNat_toUInt16_toUInt64 ((Nat.sub_le _ _).trans hmax)]
  unfold SpaceDetails.charge
  rw [toNat_saturatingAdd, hone]
  omega

theorem batch_within_iff {count capacity : UInt64} {n : Nat} (h : count.toNat = min n (2 ^ 64 - 1))
    : (capacity ≠ 0 → count ≤ capacity) ↔
        capacity = 0 ∨ n ≤ capacity.toNat ∨ capacity.toNat = 2 ^ 64 - 1 := by
  have hcapacity := capacity.toNat_lt
  rw [← or_iff_not_imp_left, UInt64.le_iff_toNat_le, h]
  apply or_congr_right
  omega

theorem registerBatch_created
    (h : Succeeds (registerBatch origin digests authorization schemaId) s () s')
    (hcharges : s.Charges origin authorization creator spaceId d)
    : s'.statements.size - s.statements.size =
        (s.newIdentifiers spaceId creator digests).card := by
  obtain ⟨_, _, _, _, t, hcharges', hloop, hstatements, _⟩ := registerBatch_loop h
  obtain ⟨rfl, rfl, rfl⟩ := hcharges.unique hcharges'
  have hsize := registerDigests_size hloop
  rw [← hstatements] at hsize
  exact Nat.sub_eq_of_eq_add' hsize

end Charged

theorem registerBatch_paysForCreated_iff
    (h : Succeeds (registerBatch origin digests authorization schemaId) s () s')
    : Call.PaysForCreated s origin (.registerBatch digests authorization schemaId) s' ↔
        Call.CreatesAll s origin (.registerBatch digests authorization schemaId) := by
  obtain ⟨creator, spaceId, d, hcharges, hpos, hmax, hspaces⟩ := registerBatch_spec h
  have hcount := batch_count d hpos hmax
  have hle : (s.newIdentifiers spaceId creator digests).card ≤ digests.length :=
    newIdentifiers_card_le
  unfold Call.PaysForCreated Call.CreatesAll
  dsimp only
  rw [hcharges.forall_iff, hcharges.forall_iff, registerBatch_created h hcharges, hspaces]
  simp only [StorageMap.get_insert_self, Option.mem_def, Option.some.injEq, forall_eq']
  rw [batch_within_iff hcount, hcount]
  apply and_congr_left'
  omega

/--
The batches of a run are charged for what they create, and within the capacity of their space, in exactly
those runs in which all digests of every batch become statements and the capacity holds all of them.
-/
theorem run_paysForCreated_iff (exts : List (Extrinsic T))
    : (machine T).EveryStep (Extrinsic.Does Call.PaysForCreated) (State.genesis T) exts ↔
        (machine T).Meets (Extrinsic.Meets Call.CreatesAll) (State.genesis T) exts := by
  apply everyStep_iff_of_call (K := fun _ => True)
  . exact fun _ _ _ => trivial
  . intro s origin call s' _ hs
    cases call with
    | registerBatch digests authorization schemaId =>
      have hiff := registerBatch_paysForCreated_iff hs
      exact ⟨hiff.mp, fun hall => ⟨hiff.mpr hall, trivial⟩⟩
    | _ => exact ⟨fun _ => trivial, fun _ => ⟨trivial, trivial⟩⟩
  . trivial

section Plain

def limitedSpace (txnCapacity : UInt64) : List (Extrinsic .plain) := [
    .chainSpace (plainExtrinsic (some 1) (.create [10])),
    .chainSpace (plainExtrinsic none (.approve (plainSpace 10 1) txnCapacity))
  ]

def batchCall (digests : List (List UInt8)) : Extrinsic .plain :=
  statementCall (.registerBatch digests (plainAuthorization (plainSpace 10 1) 1 1) none)

theorem limitedSpace_charges {s : State .plain} {txnCapacity : UInt64} (hlimit : 1 < txnCapacity)
    (ha : s.chainSpace.authorizations.get (plainAuthorization (plainSpace 10 1) 1 1) =
      some ⟨plainSpace 10 1, 1, .all, 1⟩)
    (hd : s.chainSpace.spaces.get (plainSpace 10 1) =
      some ⟨[10], 1, txnCapacity, 0, 0, true, false, plainSpace 10 1⟩)
    : s.Charges (some 1) (plainAuthorization (plainSpace 10 1) 1 1) 1 (plainSpace 10 1)
        ⟨[10], 1, txnCapacity, 0, 0, true, false, plainSpace 10 1⟩ where
  origin := rfl
  authorizes := ⟨_, ha, rfl, rfl, by decide⟩
  space := hd
  canTransact := ⟨rfl, rfl, .inr hlimit⟩

theorem batchCall_not_paysForCreated
    : ¬ (machine .plain).EveryStep (Extrinsic.Does Call.PaysForCreated) (State.genesis .plain)
          (limitedSpace 100 ++ [batchCall [[22], [22]]]) ∧
        ¬ (machine .plain).EveryStep (Extrinsic.Does Call.PaysForCreated) (State.genesis .plain)
          (limitedSpace 3 ++ [batchCall [[20], [21], [22], [23]]]) := by
  constructor
  . intro h
    have hpays := h.last (by decide +kernel) 1 (plainSpace 10 1)
      ⟨[10], 1, 100, 0, 0, true, false, plainSpace 10 1⟩
      (limitedSpace_charges (by decide) (by decide +kernel) (by decide +kernel))
      ⟨[10], 1, 100, 0, 2, true, false, plainSpace 10 1⟩ (by decide +kernel)
    revert hpays
    decide +kernel
  . intro h
    have hpays := h.last (by decide +kernel) 1 (plainSpace 10 1)
      ⟨[10], 1, 3, 0, 0, true, false, plainSpace 10 1⟩
      (limitedSpace_charges (by decide) (by decide +kernel) (by decide +kernel))
      ⟨[10], 1, 3, 0, 4, true, false, plainSpace 10 1⟩ (by decide +kernel)
    revert hpays
    decide +kernel

end Plain

end Statement
