import Cord.ChainSpace.Lemmas.Capacity
import Cord.Statement.Lemmas.Calls

/-!
This module contains what statements do to the capacity of the space that is charged for them, and
the capacity of spaces over runs of both pallets.
-/

open Frame Identifier ChainSpace

namespace Statement

variable {T : Config} {s s' : State T} {origin : T.Origin} {call : Call T}

def Call.authorization : Call T → T.Ss58Identifier
  | .register _ authorization _ => authorization
  | .update _ _ authorization => authorization
  | .revoke _ authorization => authorization
  | .restore _ authorization => authorization
  | .remove _ authorization => authorization
  | .registerBatch _ authorization _ => authorization
  | .addPresentation _ _ _ authorization => authorization
  | .removePresentation _ _ authorization => authorization

def Call.cost : Call T → Nat
  | .registerBatch digests _ _ => digests.length
  | _ => 1

def Call.refund (s : State T) : Call T → Nat
  | .remove statementId _ => s.removals statementId
  | .removePresentation .. => 1
  | _ => 0

/--
What a successful call has done to the spaces: it wrote the count of the space it was charged to.
-/
structure Call.Bills (call : Call T) (origin : T.Origin) (s : State T)
    (creator : T.SpaceCreatorId) (spaceId : T.Ss58Identifier) (d : SpaceDetails T.toChainSpace)
    (count : UInt64) (s' : State T) : Prop where
  charges : s.Charges origin call.authorization creator spaceId d
  spaces : s'.chainSpace.spaces = s.chainSpace.spaces.insert spaceId { d with txnCount := count }
  count_le : count.toNat ≤ d.txnCount.toNat + call.cost - call.refund s

theorem dispatch_bills (h : Succeeds (call.dispatch origin) s () s')
    : ∃ creator spaceId d count, call.Bills origin s creator spaceId d count s' := by
  cases call with
  | register digest authorization schemaId =>
    obtain ⟨creator, spaceId, d, _, hcharges, _, _, hspaces, _⟩ := register_spec h
    exact ⟨creator, spaceId, d, _, hcharges, hspaces, d.charge_count_le⟩
  | update statementId newStatementDigest authorization =>
    obtain ⟨creator, spaceId, d, _, hcharges, _, _, _, _, hspaces, _⟩ := update_spec h
    exact ⟨creator, spaceId, d, _, hcharges, hspaces, d.charge_count_le⟩
  | revoke statementId authorization =>
    obtain ⟨creator, spaceId, d, _, hcharges, _, _, _, hspaces, _⟩ := revoke_spec h
    exact ⟨creator, spaceId, d, _, hcharges, hspaces, d.charge_count_le⟩
  | restore statementId authorization =>
    obtain ⟨creator, spaceId, d, _, hcharges, _, _, _, hspaces, _⟩ := restore_spec h
    exact ⟨creator, spaceId, d, _, hcharges, hspaces, d.charge_count_le⟩
  | remove statementId authorization =>
    obtain ⟨creator, spaceId, d, _, hcharges, _, _, hspaces⟩ := remove_spec h
    refine ⟨creator, spaceId, d, _, hcharges, hspaces, ?_⟩
    have hle : s.removals statementId ≤ T.maxRemoveEntries.toNat := Nat.min_le_right _ _
    rw [toNat_saturatingSub, toNat_toUInt16_toUInt64 hle]
    have hcharge := d.charge_count_le
    simp only [Call.cost, Call.refund]
    omega
  | registerBatch digests authorization schemaId =>
    obtain ⟨creator, spaceId, d, hcharges, hpos, hmax, hspaces⟩ := registerBatch_spec h
    refine ⟨creator, spaceId, d, _, hcharges, hspaces, ?_⟩
    have hlen : digests.length - 1 ≤ T.maxDigestsPerBatch.toNat := by omega
    rw [toNat_saturatingAdd, toNat_toUInt16_toUInt64 hlen]
    have hcharge := d.charge_count_le
    simp only [Call.cost, Call.refund]
    omega
  | addPresentation statementId presentationDigest presentationType authorization =>
    obtain ⟨creator, spaceId, d, _, hcharges, _, _, _, _, hspaces, _⟩ := addPresentation_spec h
    exact ⟨creator, spaceId, d, _, hcharges, hspaces, d.charge_count_le⟩
  | removePresentation statementId presentationDigest authorization =>
    obtain ⟨creator, spaceId, d, _, hcharges, _, _, hspaces, _⟩ := removePresentation_spec h
    refine ⟨creator, spaceId, d, _, hcharges, hspaces, ?_⟩
    have hcharge := d.charge_count_le
    have hone : (1 : UInt64).toNat = 1 := rfl
    rw [toNat_saturatingSub, hone]
    simp only [Call.cost, Call.refund]
    omega

def Call.KeepsCapacity (call : Call T) (s : State T) : Prop :=
  ∀ a ∈ s.chainSpace.authorizations.get call.authorization,
    ∀ d ∈ s.chainSpace.spaces.get a.spaceId, d.HasRoom call.cost (call.refund s)

instance (call : Call T) (s : State T) : Decidable (call.KeepsCapacity s) :=
  inferInstanceAs (Decidable (∀ a ∈ s.chainSpace.authorizations.get call.authorization,
    ∀ d ∈ s.chainSpace.spaces.get a.spaceId, _))

theorem Call.Bills.notOversold {creator : T.SpaceCreatorId} {spaceId : T.Ss58Identifier}
    {d : SpaceDetails T.toChainSpace} {count : UInt64}
    (h : call.Bills origin s creator spaceId d count s') (hcall : call.KeepsCapacity s)
    (hs : NotOversold s.chainSpace.spaces) : NotOversold s'.chainSpace.spaces := by
  obtain ⟨a, ha, _, rfl, _⟩ := h.charges.authorizes
  rw [h.spaces]
  apply hs.insert
  have hwithin := hs _ d h.charges.space
  exact hwithin.setCount (hcall a ha d h.charges.space) h.count_le

def Extrinsic.KeepsCapacity (ext : Extrinsic T) (s : State T) : Prop :=
  match ext with
  | .chainSpace ext => ext.call.KeepsCapacity s.chainSpace.spaces
  | .statement _ _ call => call.KeepsCapacity s

instance (ext : Extrinsic T) (s : State T) : Decidable (ext.KeepsCapacity s) :=
  match ext with
  | .chainSpace ext => inferInstanceAs (Decidable (ext.call.KeepsCapacity s.chainSpace.spaces))
  | .statement _ _ call => inferInstanceAs (Decidable (call.KeepsCapacity s))

theorem dispatch_notOversold {ext : Extrinsic T}
    (h : Succeeds ((machine T).dispatch ext) s () s') (hext : ext.KeepsCapacity s)
    (hs : NotOversold s.chainSpace.spaces) : NotOversold s'.chainSpace.spaces := by
  cases ext with
  | chainSpace ext =>
    obtain ⟨t, hcall, rfl⟩ := chainSpace_iff.mp h
    exact (dispatch_spaces (ChainSpace.Extrinsic.dispatch_iff.mp hcall)).notOversold hext hs
  | statement origin timepoint call =>
    obtain ⟨_, t, ht, hcall⟩ := Succeeds.bind_iff.mp h
    rw [Succeeds.modify_iff] at ht
    subst ht
    obtain ⟨creator, spaceId, d, count, hbills⟩ := dispatch_bills hcall
    exact hbills.notOversold hext hs

/--
No space with a limited capacity is oversold in a run whose calls find room for what they take.
-/
theorem run_notOversold {exts : List (Extrinsic T)}
    (h : (machine T).Meets (fun s ext => ext.KeepsCapacity s) (State.genesis T) exts)
    : NotOversold ((machine T).run (State.genesis T) exts).chainSpace.spaces := by
  apply Machine.run_of_meets (I := fun s : State T => NotOversold s.chainSpace.spaces) _ _ h
  . intro s ext s' hs hext hsucc
    exact dispatch_notOversold hsucc hext hs
  . exact notOversold_genesis

section Plain

def allottedSpace : List (Extrinsic .plain) := [
    -- A space with capacity 10 that allots 9 of it to a sub space.
    .chainSpace (plainExtrinsic (some 1) (.create [10])),
    .chainSpace (plainExtrinsic none (.approve (plainSpace 10 1) 10)),
    .chainSpace (plainExtrinsic (some 1) (.subspaceCreate [11] (some 9) (plainSpace 10 1)))
  ]

def registerIn (space : List UInt8) : Extrinsic .plain :=
  .statement (some 1) ⟨1, 0⟩ (.register [20] (plainAuthorization space 1 1) none)

theorem registerInSubspace_notOversold
    : NotOversold ((machine .plain).run (State.genesis .plain)
        (allottedSpace ++ [registerIn (plainSpace 11 1)])).chainSpace.spaces := by
  apply run_notOversold
  decide +kernel

theorem registerInParent_oversold
    : ¬ ∀ exts : List (Extrinsic .plain),
        NotOversold ((machine .plain).run (State.genesis .plain) exts).chainSpace.spaces := by
  intro h
  have hwithin := h (allottedSpace ++ [registerIn (plainSpace 10 1)])
    (plainSpace 10 1) ⟨[10], 1, 10, 9, 2, true, false, plainSpace 10 1⟩ (by decide +kernel)
    (by decide)
  revert hwithin
  decide

end Plain

end Statement
