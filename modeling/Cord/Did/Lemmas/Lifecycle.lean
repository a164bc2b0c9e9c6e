import Cord.Did.Lemmas.Dispatch
import Mathlib.Data.Finset.Card
import Mathlib.Data.Finset.Dedup

/-!
This module contains the life of a single DID as the calls of the pallet see it: whether it is stored
or deleted, which service endpoints it has and what the counter of its endpoints says. Every call that
succeeds takes at most one DID one step further.
-/

open Frame

namespace Did

variable {T : Config} {s s' : State T} {origin : Origin T.toTypes}

abbrev ServiceId (T : Config) := BoundedVec UInt8 T.maxServiceIdLength

@[ext]
structure DidLife (T : Config) where
  stored : Bool
  services : Finset (ServiceId T)
  counter : Option UInt32
  deleted : Bool

def DidLife.count (v : DidLife T) : UInt32 :=
  v.counter.getD 0

/--
The steps in the life of a DID, with the calls that make them.
-/
inductive DidLife.Step (v : DidLife T) : Call T.toTypes → DidLife T → Prop where
  | create {details : DidCreationDetails T.toTypes} {signature : DidSignature}
      (hstored : v.stored = false) (hdeleted : v.deleted = false)
      (hlength : details.newServiceDetails.length ≤ T.maxNumberOfServicesPerDid.toNat)
      : Step v (.create details signature)
          {
            stored := true
            services := (details.newServiceDetails.map DidEndpoint.id).toFinset ∪ v.services
            counter := some details.newServiceDetails.length.toUInt32
            deleted := false
          }
  | createFromAccount {key : DidVerificationKey T.AccountId}
      (hstored : v.stored = false) (hdeleted : v.deleted = false)
      : Step v (.createFromAccount key) { v with stored := true }
  | add {endpoint : DidEndpoint T.toTypes} (hstored : v.stored = true)
      (hlimit : v.count < T.maxNumberOfServicesPerDid) (hnew : endpoint.id ∉ v.services)
      : Step v (.addServiceEndpoint endpoint)
          {
            v with
            services := insert endpoint.id v.services
            counter := some (saturatingAdd32 v.count 1)
          }
  | remove {serviceId : ServiceId T} (hstored : v.stored = true) (hold : serviceId ∈ v.services)
      : Step v (.removeServiceEndpoint serviceId)
          {
            v with
            services := v.services.erase serviceId
            counter :=
              if saturatingSub32 v.count 1 = 0 then none else some (saturatingSub32 v.count 1)
          }
  | delete {endpointsToRemove : UInt32} (hstored : v.stored = true)
      (hlimit : v.count ≤ endpointsToRemove)
      (hcard : v.services.card ≤ v.count.toNat)
      : Step v (.delete endpointsToRemove)
          { stored := false, services := ∅, counter := none, deleted := true }

def State.services (s : State T) (did : T.DidIdentifier) : Finset (ServiceId T) :=
  ⟨s.serviceEndpoints.prefixKeys did, StorageMap.prefixKeys_nodup _ _⟩

def State.life (s : State T) (did : T.DidIdentifier) : DidLife T where
  stored := s.did.containsKey did
  services := s.services did
  counter := s.didEndpointsCount.get did
  deleted := s.didBlacklist.containsKey did

theorem mem_services {did : T.DidIdentifier} {id : ServiceId T}
    : id ∈ s.services did ↔ s.serviceEndpoints.containsKey (did, id) = true :=
  StorageMap.mem_prefixKeys s.serviceEndpoints did id

def SameLives (s s' : State T) : Prop :=
  ∀ did, s'.life did = s.life did

def LivesStep (s s' : State T) (call : Call T.toTypes) : Prop :=
  SameLives s s' ∨
    ∃ did, (s.life did).Step call (s'.life did) ∧ ∀ did', did' ≠ did → s'.life did' = s.life did'

theorem life_eq {did : T.DidIdentifier} {v : DidLife T} (hstored : s.did.containsKey did = v.stored)
    (hservices : ∀ id, s.serviceEndpoints.containsKey (did, id) = true ↔ id ∈ v.services)
    (hcounter : s.didEndpointsCount.get did = v.counter)
    (hdeleted : s.didBlacklist.containsKey did = v.deleted) : s.life did = v := by
  apply DidLife.ext
  . exact hstored
  . apply Finset.ext
    intro id
    exact mem_services.trans (hservices id)
  . exact hcounter
  . exact hdeleted

theorem life_congr {did : T.DidIdentifier}
    (hstored : s'.did.containsKey did = s.did.containsKey did)
    (hservices : ∀ id, s'.serviceEndpoints.containsKey (did, id) =
      s.serviceEndpoints.containsKey (did, id))
    (hcounter : s'.didEndpointsCount.get did = s.didEndpointsCount.get did)
    (hdeleted : s'.didBlacklist.containsKey did = s.didBlacklist.containsKey did)
    : s'.life did = s.life did := by
  apply life_eq hstored _ hcounter hdeleted
  intro id
  rw [hservices]
  exact mem_services.symm

theorem sameLives_of_update {did : T.DidIdentifier} {d d' : DidDetails T.toTypes}
    (hd : s.did.get did = some d) (hdid : s'.did = s.did.insert did d')
    (hendpoints : s'.serviceEndpoints = s.serviceEndpoints)
    (hcount : s'.didEndpointsCount = s.didEndpointsCount)
    (hblacklist : s'.didBlacklist = s.didBlacklist) : SameLives s s' := by
  intro did'
  apply life_congr
  . rw [hdid]
    exact StorageMap.containsKey_insert_of_get hd d' did'
  . intro id
    rw [hendpoints]
  . rw [hcount]
  . rw [hblacklist]

theorem updateDetails_sameLives
    {update : DidDetails T.toTypes → UInt32 → Except StorageError (DidDetails T.toTypes)}
    (h : Succeeds (updateDetails origin update) s () s') : SameLives s s' := by
  simp only [updateDetails, Succeeds.bind_iff, Succeeds.ensureOrigin_iff, getDid_iff,
    Succeeds.mapErr_iff, Succeeds.get_iff, tryUpdateDid_iff, depositEvent_iff, and_assoc,
    exists_and_left, exists_eq_left, exists_const] at h
  obtain ⟨did, _, d, hd, d', _, rfl⟩ := h
  exact sameLives_of_update hd rfl rfl rfl rfl

theorem validateNewServiceEndpoints_length {endpoints : List (DidEndpoint T.toTypes)}
    (h : validateNewServiceEndpoints endpoints = .ok ())
    : endpoints.length ≤ T.maxNumberOfServicesPerDid.toNat := by
  unfold validateNewServiceEndpoints at h
  by_contra hlt
  simp only [hlt] at h
  cases h

theorem containsKey_foldl_services (endpoints : List (DidEndpoint T.toTypes))
    (stored : StorageMap (T.DidIdentifier × ServiceId T) (DidEndpoint T.toTypes))
    (did did' : T.DidIdentifier) (id : ServiceId T)
    : (endpoints.foldl (fun m service => m.insert (did, service.id) service) stored).containsKey
          (did', id) = true
        ↔
      (did' = did ∧ id ∈ endpoints.map DidEndpoint.id) ∨ stored.containsKey (did', id) = true := by
  rw [StorageMap.containsKey_foldl_insert fun service => (did, DidEndpoint.id service)]
  simp only [List.mem_map, Prod.mk.injEq, and_left_comm, exists_and_left, eq_comm (a := did')]

theorem create_lives {details : DidCreationDetails T.toTypes} {signature : DidSignature}
    (h : Succeeds (create origin details signature) s () s')
    : LivesStep s s' (.create details signature) := by
  simp only [create, tryInsertDid, Succeeds.bind_iff, Succeeds.ensureOrigin_iff,
    Succeeds.mapErr_iff, Succeeds.get_iff, Succeeds.ensure_iff, Succeeds.modify_iff,
    depositEvent_iff, Bool.not_eq_true', and_assoc, exists_and_left, exists_eq_left,
    exists_const] at h
  obtain ⟨sender, _, _, _, key, _, _, hvalid, d, hd, hdeleted, hfresh, rfl⟩ := h
  right
  refine ⟨details.did, ?_, ?_⟩
  . have hlength := validateNewServiceEndpoints_length hvalid
    convert DidLife.Step.create (v := s.life details.did) hfresh hdeleted hlength using 1
    apply life_eq
    . exact (StorageMap.containsKey_insert ..).mpr (.inl rfl)
    . intro id
      rw [containsKey_foldl_services, Finset.mem_union, List.mem_toFinset]
      simp only [State.life, mem_services, eq_self, true_and]
    . exact StorageMap.get_insert_self ..
    . exact hdeleted
  . intro did hne
    apply life_congr
    . exact StorageMap.containsKey_insert_of_ne _ _ hne
    . intro id
      rw [Bool.eq_iff_iff, containsKey_foldl_services]
      simp only [hne, false_and, false_or]
    . exact StorageMap.get_insert_of_ne _ _ hne
    . rfl

theorem createFromAccount_lives {key : DidVerificationKey T.AccountId}
    (h : Succeeds (createFromAccount origin key) s () s')
    : LivesStep s s' (.createFromAccount key) := by
  simp only [createFromAccount, tryInsertDid, Succeeds.bind_iff, Succeeds.ensureOrigin_iff,
    Succeeds.mapErr_iff, Succeeds.get_iff, Succeeds.ensure_iff, Succeeds.modify_iff,
    depositEvent_iff, Bool.not_eq_true', and_assoc, exists_and_left, exists_eq_left,
    exists_const] at h
  obtain ⟨sender, _, d, _, hdeleted, hfresh, rfl⟩ := h
  right
  refine ⟨T.didOfAccount sender, ?_, ?_⟩
  . convert DidLife.Step.createFromAccount (v := s.life _) hfresh hdeleted using 1
    apply life_eq
    . exact (StorageMap.containsKey_insert ..).mpr (.inl rfl)
    . exact fun _ => mem_services.symm
    . rfl
    . rfl
  . intro did hne
    apply life_congr
    . exact StorageMap.containsKey_insert_of_ne _ _ hne
    . exact fun _ => rfl
    . rfl
    . rfl

theorem addServiceEndpoint_lives {endpoint : DidEndpoint T.toTypes}
    (h : Succeeds (addServiceEndpoint origin endpoint) s () s')
    : LivesStep s s' (.addServiceEndpoint endpoint) := by
  simp only [addServiceEndpoint, Succeeds.bind_iff, Succeeds.ensureOrigin_iff, getDid_iff,
    Succeeds.mapErr_iff, Succeeds.get_iff, Succeeds.ensure_iff, Succeeds.modify_iff,
    tryUpdateDid_iff, depositEvent_iff, Bool.not_eq_true', and_assoc, exists_and_left,
    exists_eq_left, exists_const] at h
  obtain ⟨did, _, _, _, d, hd, hlimit, hnew, rfl⟩ := h
  right
  refine ⟨did, ?_, ?_⟩
  . have hstored : (s.life did).stored = true := Option.isSome_iff_exists.mpr ⟨d, hd⟩
    have hnotMem : endpoint.id ∉ s.services did := by
      rw [mem_services, hnew]
      exact Bool.false_ne_true
    convert DidLife.Step.add hstored hlimit hnotMem using 1
    apply life_eq
    . exact StorageMap.containsKey_insert_of_get hd d did
    . intro id
      rw [StorageMap.containsKey_insert, Finset.mem_insert]
      simp only [State.life, mem_services, Prod.mk.injEq, eq_self, true_and]
    . exact StorageMap.get_insert_self ..
    . rfl
  . intro did' hne
    apply life_congr
    . exact StorageMap.containsKey_insert_of_ne _ _ hne
    . intro id
      apply StorageMap.containsKey_insert_of_ne
      simp [hne]
    . exact StorageMap.get_insert_of_ne _ _ hne
    . rfl

theorem removeServiceEndpoint_lives {serviceId : ServiceId T}
    (h : Succeeds (removeServiceEndpoint origin serviceId) s () s')
    : LivesStep s s' (.removeServiceEndpoint serviceId) := by
  simp only [removeServiceEndpoint, Succeeds.bind_iff, Succeeds.ensureOrigin_iff, getDid_iff,
    Succeeds.get_iff, Succeeds.ensure_iff, Succeeds.modify_iff, tryUpdateDid_iff,
    depositEvent_iff, and_assoc, exists_and_left, exists_eq_left, exists_const] at h
  obtain ⟨did, _, d, hd, hold, rfl⟩ := h
  right
  refine ⟨did, ?_, ?_⟩
  . have hstored : (s.life did).stored = true := Option.isSome_iff_exists.mpr ⟨d, hd⟩
    convert DidLife.Step.remove hstored (mem_services.mpr hold) using 1
    apply life_eq
    . exact StorageMap.containsKey_insert_of_get hd d did
    . intro id
      rw [StorageMap.containsKey_remove, Finset.mem_erase]
      simp only [State.life, mem_services, ne_eq, Prod.mk.injEq, eq_self, true_and]
    . rw [apply_ite (StorageMap.get · did), StorageMap.get_remove_self, StorageMap.get_insert_self]
      rfl
    . rfl
  . intro did' hne
    apply life_congr
    . exact StorageMap.containsKey_insert_of_ne _ _ hne
    . intro id
      apply StorageMap.containsKey_remove_of_ne
      simp [hne]
    . rw [apply_ite (StorageMap.get · did'), StorageMap.get_remove_of_ne _ hne,
        StorageMap.get_insert_of_ne _ _ hne, ite_self]
    . rfl

theorem delete_lives {endpointsToRemove : UInt32}
    (h : Succeeds (delete origin endpointsToRemove) s () s')
    : LivesStep s s' (.delete endpointsToRemove) := by
  simp only [delete, deleteDid, Succeeds.bind_iff, Succeeds.ensureOrigin_iff, getDid_iff,
    Succeeds.get_iff, Succeeds.ensure_iff, Succeeds.modify_iff, depositEvent_iff, and_assoc,
    exists_and_left, exists_eq_left, exists_const] at h
  obtain ⟨did, _, hlimit, hcard, d, hd, rfl⟩ := h
  have hlength : (T.endpointOrder (s.serviceEndpoints.prefixKeys did)).length ≤
      (s.didEndpointsCount.getD did 0).toNat := by
    rw [← Multiset.coe_card, T.endpointOrder_eq]
    exact hcard
  right
  refine ⟨did, ?_, ?_⟩
  . have hstored : (s.life did).stored = true := Option.isSome_iff_exists.mpr ⟨d, hd⟩
    convert DidLife.Step.delete hstored hlimit hcard using 1
    apply life_eq
    . exact (StorageMap.containsKey_eq_false_iff ..).mpr (StorageMap.get_remove_self ..)
    . intro id
      rw [StorageMap.containsKey_clearPrefix T.endpointOrder_eq _ _ hlength]
      simp
    . exact StorageMap.get_remove_self ..
    . exact (StorageMap.containsKey_insert ..).mpr (.inl rfl)
  . intro did' hne
    apply life_congr
    . exact StorageMap.containsKey_remove_of_ne _ hne
    . intro id
      rw [Bool.eq_iff_iff, StorageMap.containsKey_clearPrefix T.endpointOrder_eq _ _ hlength,
        and_iff_right hne]
    . exact StorageMap.get_remove_of_ne _ hne
    . exact StorageMap.containsKey_insert_of_ne _ _ hne

theorem Call.dispatch_lives {call : Call T.toTypes} (hcall : ¬ call.Dispatches)
    (h : Succeeds (call.dispatch origin) s () s') : LivesStep s s' call := by
  cases call with
  | submitDidCall _ _ _ _ _ _ => exact absurd trivial hcall
  | dispatchAs _ _ => exact absurd trivial hcall
  | create _ _ =>
    rw [Call.dispatch] at h
    exact create_lives h
  | createFromAccount _ =>
    rw [Call.dispatch] at h
    exact createFromAccount_lives h
  | addServiceEndpoint _ =>
    rw [Call.dispatch] at h
    exact addServiceEndpoint_lives h
  | removeServiceEndpoint _ =>
    rw [Call.dispatch] at h
    exact removeServiceEndpoint_lives h
  | delete _ =>
    rw [Call.dispatch] at h
    exact delete_lives h
  | _ =>
    -- What is left are the updates of keys.
    rw [Call.dispatch] at h
    exact .inl (updateDetails_sameLives h)

/--
The rule for what holds of the life of every DID: it has to be preserved by the steps a life can
make.
-/
theorem DispatchRule.of_lives {J : T.DidIdentifier → DidLife T → Prop} {P : Call T.toTypes → Prop}
    (hstep : ∀ {did v v' call}, P call → v.Step call v' → J did v → J did v')
    : DispatchRule (fun _ s => ∀ did, J did (s.life did)) fun _ call _ => P call where
  block _ hs := hs
  event _ hs := hs
  other h hs := by
    obtain ⟨world, rfl⟩ := dispatchOther_writes h
    exact hs
  call hP hcall h hs did := by
    rcases Call.dispatch_lives hcall h with hsame | ⟨did', hlife, hother⟩
    . rw [hsame]
      exact hs did
    . by_cases heq : did = did'
      . rw [heq]
        exact hstep hP hlife (hs did')
      . rw [hother did heq]
        exact hs did
  authorize {_ _ _ _ s s'} h hs did := by
    obtain ⟨details, hd, _, hs'⟩ := authorizeDidCall_writes h
    have hsame : SameLives s s' := by
      subst hs'
      exact sameLives_of_update hd rfl rfl rfl rfl
    rw [hsame]
    exact hs did
  complete h hs := by
    simp only [completeDidCall, Succeeds.bind_iff, Succeeds.modify_iff, depositEvent_iff,
      exists_eq_left, exists_const] at h
    subst h
    exact hs

end Did
