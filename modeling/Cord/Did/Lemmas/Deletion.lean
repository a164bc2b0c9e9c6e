import Cord.Did.Lemmas.Lifecycle

/-!
This module contains that the deletion of a DID is final and leaves nothing of it behind, and that it
cannot fail once enough endpoints may be removed.
-/

open Frame

namespace Did

variable {T : Config} {s s' : State T}

namespace DidLife

variable {v v' : DidLife T} {call : Call T.toTypes}

/--
The counter never says less than there are endpoints, so that a deletion that is allowed to remove
that many removes all of them.
-/
structure Sound (v : DidLife T) : Prop where
  final : v.deleted = true → v.stored = false
  empty : v.stored = false → v.services = ∅ ∧ v.counter = none
  card_le : v.services.card ≤ v.count.toNat
  count_le : v.count.toNat ≤ T.maxNumberOfServicesPerDid.toNat

theorem toNat_count_add (h : v.count < T.maxNumberOfServicesPerDid)
    : (saturatingAdd32 v.count 1).toNat = v.count.toNat + 1 := by
  have hmax := UInt32.toNat_lt T.maxNumberOfServicesPerDid
  rw [UInt32.lt_iff_toNat_lt] at h
  have hone : (1 : UInt32).toNat = 1 := rfl
  rw [toNat_saturatingAdd32]
  omega

theorem toNat_count_sub (count : UInt32)
    : ((if saturatingSub32 count 1 = 0 then none else some (saturatingSub32 count 1)).getD 0).toNat
        =
      count.toNat - 1 := by
  have hsub : (saturatingSub32 count 1).toNat = count.toNat - 1 := toNat_saturatingSub32 count 1
  split
  . next h =>
    rw [h] at hsub
    exact hsub
  . exact hsub

theorem Step.sound (h : v.Step call v') (hv : v.Sound) : v'.Sound := by
  cases h with
  | @create details _ hstored hdeleted hlength =>
    have hcount := toNat_toUInt32_of_le hlength
    refine ⟨by simp, by simp, ?_, ?_⟩
    . rw [(hv.empty hstored).1, Finset.union_empty]
      calc
        _ ≤ (details.newServiceDetails.map DidEndpoint.id).length := List.toFinset_card_le _
        _ = details.newServiceDetails.length := List.length_map _
        _ = _ := hcount.symm
    . exact hcount.trans_le hlength
  | createFromAccount hstored hdeleted =>
    refine ⟨?_, by simp, hv.card_le, hv.count_le⟩
    intro h
    rw [hdeleted] at h
    cases h
  | add hstored hlimit hnew =>
    have hcount := toNat_count_add hlimit
    refine ⟨hv.final, ?_, ?_, ?_⟩
    . intro h
      rw [hstored] at h
      cases h
    . calc
        _ = v.services.card + 1 := Finset.card_insert_of_notMem hnew
        _ ≤ v.count.toNat + 1 := Nat.succ_le_succ hv.card_le
        _ = _ := hcount.symm
    . rw [UInt32.lt_iff_toNat_lt] at hlimit
      exact hcount.trans_le hlimit
  | remove hstored hold =>
    have hcount := toNat_count_sub v.count
    refine ⟨hv.final, ?_, ?_, ?_⟩
    . intro h
      rw [hstored] at h
      cases h
    . calc
        _ = v.services.card - 1 := Finset.card_erase_of_mem hold
        _ ≤ v.count.toNat - 1 := Nat.sub_le_sub_right hv.card_le 1
        _ = _ := hcount.symm
    . calc
        _ = v.count.toNat - 1 := hcount
        _ ≤ v.count.toNat := Nat.sub_le _ 1
        _ ≤ _ := hv.count_le
  | delete hstored hlimit hcard =>
    exact ⟨fun _ => rfl, fun _ => ⟨rfl, rfl⟩, Nat.zero_le _, Nat.zero_le _⟩

theorem Step.deleted (h : v.Step call v') (hv : v.deleted = true) : v'.deleted = true := by
  cases h with
  | create _ hdeleted _ =>
    rw [hdeleted] at hv
    cases hv
  | createFromAccount _ _ => exact hv
  | add _ _ _ => exact hv
  | remove _ _ => exact hv
  | delete _ _ _ => rfl

end DidLife

theorem sound_rule
    : DispatchRule (fun _ (s : State T) => ∀ did, (s.life did).Sound) fun _ _ _ => True :=
  .of_lives (P := fun _ => True) fun _ hstep hv => hstep.sound hv

def Deleted (did : T.DidIdentifier) (s : State T) : Prop :=
  ∀ did', (s.life did').Sound ∧ (did' = did → (s.life did').deleted = true)

theorem deleted_rule (did : T.DidIdentifier)
    : DispatchRule (fun _ (s : State T) => Deleted did s) fun _ _ _ => True :=
  .of_lives (J := fun did' v => v.Sound ∧ (did' = did → v.deleted = true)) (P := fun _ => True)
    fun _ hstep hv => ⟨hstep.sound hv.1, fun heq => hstep.deleted (hv.2 heq)⟩

theorem Deleted.absent {did : T.DidIdentifier} (h : Deleted did s) : s.did.get did = none := by
  rw [← StorageMap.containsKey_eq_false_iff]
  exact (h did).1.final ((h did).2 rfl)

theorem genesis_sound (world : T.World) (did : T.DidIdentifier)
    : ((State.genesis T world).life did).Sound := by
  have hservices : (State.genesis T world).services did = ∅ := by
    apply Finset.eq_empty_of_forall_notMem
    intro id
    rw [mem_services]
    exact Bool.false_ne_true
  exact ⟨fun _ => rfl, fun _ => ⟨hservices, rfl⟩, (congrArg Finset.card hservices).le, Nat.zero_le _⟩

/--
A deleted DID is one that is in `DidBlacklist`. Nothing else of it is stored, and every stored DID can
become one by a deletion that allows for as many endpoints as are counted.
-/
structure DeletionComplete (s : State T) : Prop where
  disjoint : ∀ did, ¬ (s.did.containsKey did = true ∧ s.didBlacklist.containsKey did = true)
  noEndpoints : ∀ did, s.didBlacklist.containsKey did = true →
    ∀ id, s.serviceEndpoints.get (did, id) = none
  noCount : ∀ did, s.didBlacklist.containsKey did = true → s.didEndpointsCount.get did = none
  deletes : ∀ did submitter endpointsToRemove, s.did.containsKey did = true →
    s.didEndpointsCount.getD did 0 ≤ endpointsToRemove →
    ∃ s', Succeeds (delete (.did did submitter) endpointsToRemove) s () s' ∧
      s'.did.get did = none ∧ s'.didBlacklist.containsKey did = true

theorem delete_succeeds {did : T.DidIdentifier} {endpointsToRemove : UInt32} (hlife : (s.life did).Sound)
    (hstored : s.did.containsKey did = true)
    (hcount : s.didEndpointsCount.getD did 0 ≤ endpointsToRemove) (submitter : T.AccountId)
    : ∃ s', Succeeds (delete (.did did submitter) endpointsToRemove) s () s' ∧
        s'.did.get did = none ∧ s'.didBlacklist.containsKey did = true := by
  obtain ⟨d, hd⟩ := Option.isSome_iff_exists.mp hstored
  simp only [delete, deleteDid, Succeeds.bind_iff, Succeeds.ensureOrigin_iff, getDid_iff,
    Succeeds.get_iff, Succeeds.ensure_iff, Succeeds.modify_iff, depositEvent_iff, and_assoc,
    exists_and_left, exists_eq_left, exists_const]
  refine ⟨_, ⟨did, rfl, hcount, hlife.card_le, d, hd, rfl⟩, ?_, ?_⟩
  . exact StorageMap.get_remove_self ..
  . exact (StorageMap.containsKey_insert ..).mpr (.inl rfl)

theorem deletionComplete_of_sound (hs : ∀ did, (s.life did).Sound) : DeletionComplete s := by
  have hempty : ∀ did, s.didBlacklist.containsKey did = true →
      (s.life did).services = ∅ ∧ (s.life did).counter = none := by
    intro did hdeleted
    exact (hs did).empty ((hs did).final hdeleted)
  constructor
  case disjoint =>
    intro did h
    have hnotStored := (hs did).final h.2
    rw [State.life, h.1] at hnotStored
    cases hnotStored
  case noEndpoints =>
    intro did hdeleted id
    rw [← StorageMap.containsKey_eq_false_iff, ← Bool.not_eq_true, ← mem_services]
    exact Finset.eq_empty_iff_forall_notMem.mp (hempty did hdeleted).1 id
  case noCount =>
    intro did hdeleted
    exact (hempty did hdeleted).2
  case deletes =>
    intro did submitter endpointsToRemove hstored hcount
    exact delete_succeeds (hs did) hstored hcount submitter

/--
In every state of a run, also in those a call finds in the middle of a dispatch, deletion is complete.
It is final too: once a DID is deleted it is not stored in any state that follows.
-/
theorem run_deletion (world : T.World) (extrinsics : List (Extrinsic T))
    : DeletionComplete ((machine T).run (State.genesis T world) extrinsics) ∧
      (∀ ext : Extrinsic T, ext.Meets .made (fun _ _ t => DeletionComplete t)
        ((machine T).run (State.genesis T world) extrinsics)) ∧
      ∀ did, ((machine T).run (State.genesis T world) extrinsics).didBlacklist.containsKey did = true →
        ∀ later,
          ((machine T).run (State.genesis T world) (extrinsics ++ later)).did.get did = none ∧
          ∀ ext : Extrinsic T, ext.Meets .made (fun _ _ t => t.did.get did = none)
            ((machine T).run (State.genesis T world) (extrinsics ++ later)) := by
  have hs := sound_rule.run (genesis_sound world) extrinsics
  refine ⟨deletionComplete_of_sound hs, ?_, ?_⟩
  . intro ext
    exact sound_rule.meets deletionComplete_of_sound hs ext
  . intro did hdeleted later
    have hinit : Deleted did ((machine T).run (State.genesis T world) extrinsics) :=
      fun did' => ⟨hs did', fun heq => heq ▸ hdeleted⟩
    have hlater := (deleted_rule did).run hinit later
    rw [Machine.run_append]
    exact ⟨hlater.absent, (deleted_rule did).meets Deleted.absent hlater⟩

end Did
