import Cord.Did.Impl.TryState
import Cord.Did.Lemmas.Endpoints
import Cord.Did.Lemmas.Writes

/-!
This module contains what is known of the stored service endpoints: each one has passed the validation and
belongs to a stored DID, under its own identifier. The check that is made after an upgrade finds nothing to
complain about, unless a DID was created with two services that have the same identifier.
-/

open Frame

namespace Did

variable {T : Config} {s s' : State T} {origin : Origin T.toTypes}

/--
What is asked of a service endpoint beyond the bounds of its type.
-/
structure DidEndpoint.Valid (T : Config) (endpoint : DidEndpoint T.toTypes) : Prop where
  id : isValidUriFragment T endpoint.id.toList = true
  serviceTypes : ∀ sType ∈ endpoint.serviceTypes.toList, isValidAsciiString sType.toList = true
  urls : ∀ sUrl ∈ endpoint.urls.toList, T.isValidUri sUrl.toList = true

theorem validateAgainstConstraints_iff {endpoint : DidEndpoint T.toTypes}
    : endpoint.validateAgainstConstraints = .ok () ↔ endpoint.Valid T := by
  unfold DidEndpoint.validateAgainstConstraints
  dsimp only
  rw [if_pos endpoint.serviceTypes.length_le, if_pos endpoint.urls.length_le,
    if_pos endpoint.id.length_le, ite_throw_eq_ok, bind_unit_eq_ok, bind_unit_eq_ok,
    forIn_eq_ok_iff (p := fun sType => isValidAsciiString sType.toList = true),
    forIn_eq_ok_iff (p := fun sUrl => T.isValidUri sUrl.toList = true)]
  . constructor
    . rintro ⟨hid, htypes, hurls, _⟩
      exact ⟨hid, htypes, hurls⟩
    . intro h
      exact ⟨h.id, h.serviceTypes, h.urls, rfl⟩
  . intro sUrl step
    rw [if_pos sUrl.length_le, ite_throw_eq_ok, pure_eq_ok]
  . intro sType step
    rw [if_pos sType.length_le, ite_throw_eq_ok, pure_eq_ok]

theorem valid_of_validateNewServiceEndpoints {endpoints : List (DidEndpoint T.toTypes)}
    (h : validateNewServiceEndpoints endpoints = .ok ()) : ∀ endpoint ∈ endpoints, endpoint.Valid T := by
  have hlength := validateNewServiceEndpoints_length h
  unfold validateNewServiceEndpoints at h
  dsimp only at h
  rw [if_pos hlength, bind_unit_eq_ok, forIn_eq_ok_iff (p := fun endpoint => endpoint.Valid T)] at h
  . exact h.1
  . intro endpoint step
    rw [bind_unit_eq_ok, validateAgainstConstraints_iff, pure_eq_ok]

def EndpointsValid (s : State T) : Prop :=
  ∀ did id endpoint, s.serviceEndpoints.get (did, id) = some endpoint →
    endpoint.id = id ∧ endpoint.Valid T

theorem CallWrites.endpointsValid (h : CallWrites origin s s') (hs : EndpointsValid s)
    : EndpointsValid s' := by
  cases h with
  | update _ _ => exact hs
  | @create details _ _ _ hvalid _ _ =>
    intro did id endpoint hget
    dsimp only at hget
    rcases StorageMap.get_foldl_insert_cases (fun service => (details.did, DidEndpoint.id service))
      (fun service => service) details.newServiceDetails s.serviceEndpoints (did, id)
      with heq | ⟨service, hmem, hkey, heq⟩
    . rw [heq] at hget
      exact hs did id endpoint hget
    . rw [heq, Option.some.injEq] at hget
      rw [← hget]
      exact ⟨congrArg Prod.snd hkey, valid_of_validateNewServiceEndpoints hvalid service hmem⟩
  | createFromAccount _ _ _ => exact hs
  | addServiceEndpoint _ hvalid _ =>
    intro did id other hget
    dsimp only at hget
    rw [StorageMap.get_insert] at hget
    split at hget
    . next hkey =>
      rw [← Option.some.inj hget]
      exact ⟨(congrArg Prod.snd hkey).symm, validateAgainstConstraints_iff.mp hvalid⟩
    . exact hs did id other hget
  | removeServiceEndpoint _ _ =>
    intro did id endpoint hget
    dsimp only at hget
    rw [StorageMap.get_remove] at hget
    split at hget
    . cases hget
    . exact hs did id endpoint hget
  | delete _ =>
    intro did id endpoint hget
    dsimp only at hget
    unfold StorageMap.clearPrefix at hget
    rw [StorageMap.get_foldl_remove] at hget
    split at hget
    . cases hget
    . exact hs did id endpoint hget

theorem endpointsValid_rule
    : DispatchRule (T := T) (fun _ s => EndpointsValid s) fun _ _ _ => True where
  block _ hs := hs
  event _ hs := hs
  other h hs := by
    obtain ⟨world, rfl⟩ := dispatchOther_writes h
    exact hs
  call _ hcall h hs := (Call.dispatch_writes hcall h).endpointsValid hs
  authorize h hs := by
    obtain ⟨_, _, _, rfl⟩ := authorizeDidCall_writes h
    exact hs
  complete h hs := by
    simp only [completeDidCall, Succeeds.bind_iff, Succeeds.modify_iff, depositEvent_iff,
      exists_eq_left, exists_const] at h
    subst h
    exact hs

/--
In every state of every run each stored service endpoint is stored under its own identifier, for a DID that
is stored, and meets the constraints it was validated against.
-/
theorem run_endpoints_valid (world : T.World) (extrinsics : List (Extrinsic T)) (did : T.DidIdentifier)
    (id : ServiceId T) (endpoint : DidEndpoint T.toTypes)
    (h : ((machine T).run (State.genesis T world) extrinsics).serviceEndpoints.get (did, id) =
      some endpoint)
    : endpoint.id = id ∧ endpoint.Valid T ∧
        ((machine T).run (State.genesis T world) extrinsics).did.containsKey did = true := by
  have hgenesis : EndpointsValid (State.genesis T world) := by
    intro did id endpoint hget
    cases hget
  obtain ⟨hid, hvalid⟩ := endpointsValid_rule.run hgenesis extrinsics did id endpoint h
  refine ⟨hid, hvalid, ?_⟩
  have hsound := sound_rule.run (genesis_sound world) extrinsics did
  by_contra hstored
  have hempty := (hsound.empty (Bool.not_eq_true _ ▸ hstored)).1
  exact Finset.eq_empty_iff_forall_notMem.mp hempty id
    (mem_services.mpr (StorageMap.containsKey_of_get h))

theorem genesis_counted (world : T.World) (did : T.DidIdentifier)
    : ((State.genesis T world).life did).Counted := by
  have hsound := genesis_sound world did
  refine ⟨hsound, ?_⟩
  rw [(hsound.empty rfl).1]
  rfl

section TryState

variable {didOrder : Multiset T.DidIdentifier → List T.DidIdentifier}

theorem length_iterPrefix_services (s : State T) (did : T.DidIdentifier)
    : (s.serviceEndpoints.iterPrefix T.endpointOrder did).length = (s.services did).card :=
  StorageMap.length_iterPrefix T.endpointOrder_eq _ _

theorem doTryState_iff (horder : ∀ keys, Multiset.ofList (didOrder keys) = keys)
    : doTryState didOrder s = .ok () ↔
        (∀ did, s.did.containsKey did = true →
          (s.services did).card = (s.didEndpointsCount.getD did 0).toNat ∧
            (s.services did).card ≤ T.maxNumberOfServicesPerDid.toNat ∧
            s.didBlacklist.containsKey did = false) ∧
        ∀ did, s.didBlacklist.containsKey did = true → (s.services did).card = 0 := by
  unfold doTryState
  dsimp only
  rw [bind_unit_eq_ok, bind_unit_eq_ok,
    forIn_eq_ok_iff (p := fun (entry : T.DidIdentifier × DidDetails T.toTypes) =>
      (s.services entry.1).card = (s.didEndpointsCount.getD entry.1 0).toNat ∧
        (s.services entry.1).card ≤ T.maxNumberOfServicesPerDid.toNat ∧
        s.didBlacklist.containsKey entry.1 = false),
    forIn_eq_ok_iff (p := fun did => (s.services did).card = 0)]
  . constructor
    . rintro ⟨hdids, hdeleted, _⟩
      refine ⟨?_, ?_⟩
      . intro did hstored
        obtain ⟨details, hget⟩ := Option.isSome_iff_exists.mp hstored
        exact hdids (did, details) ((StorageMap.mem_iter horder).mpr hget)
      . intro did hstored
        apply hdeleted
        rw [← Multiset.mem_coe, horder, StorageMap.mem_keys]
        exact hstored
    . rintro ⟨hdids, hdeleted⟩
      refine ⟨?_, ?_, rfl⟩
      . rintro ⟨did, details⟩ hmem
        exact hdids did (StorageMap.containsKey_of_get ((StorageMap.mem_iter horder).mp hmem))
      . intro did hmem
        rw [← Multiset.mem_coe, horder, StorageMap.mem_keys] at hmem
        exact hdeleted did hmem
  . intro did step
    rw [ite_throw_eq_ok, pure_eq_ok, length_iterPrefix_services]
  . rintro ⟨did, details⟩ step
    rw [ite_throw_eq_ok, ite_throw_eq_ok, ite_throw_eq_ok, ite_throw_eq_ok, pure_eq_ok,
      length_iterPrefix_services, Bool.not_eq_true']
    have hkeys := details.keyAgreementKeys.card_le
    tauto

/--
As long as the DIDs that are created have services with distinct identifiers, the check succeeds in every
state of a run.
-/
theorem run_doTryState (horder : ∀ keys, Multiset.ofList (didOrder keys) = keys) (world : T.World)
    (extrinsics : List (Extrinsic T))
    (h : (machine T).Meets (Extrinsic.Meets .kept fun _ call _ => call.ListsDistinct)
      (State.genesis T world) extrinsics)
    : (machine T).Always (fun s => doTryState didOrder s = .ok ()) (State.genesis T world)
        extrinsics := by
  have hrule := DispatchRule.of_lives (J := fun _ v => v.Counted) (P := Call.ListsDistinct (T := T))
    fun hcall hstep hv => hstep.counted hcall hv
  apply (hrule.always (genesis_counted world) h).imp
  intro s hs
  rw [doTryState_iff horder]
  refine ⟨?_, ?_⟩
  . intro did hstored
    refine ⟨(hs did).card_eq, (hs did).card_eq.trans_le (hs did).count_le, ?_⟩
    by_contra hdeleted
    have hgone := (hs did).final (Bool.not_eq_false _ ▸ hdeleted)
    rw [State.life, hstored] at hgone
    cases hgone
  . intro did hdeleted
    have hempty := (hs did).empty ((hs did).final hdeleted)
    exact congrArg Finset.card hempty.1

end TryState

section Plain

def plainDidOrder : Multiset Bytes32 → List Bytes32 :=
  sortByBytes Vector.toList fun _ _ => Vector.toList_inj.mp

theorem createRun_endpoints_valid
    : ((machine .plain).run (State.genesis .plain ())
          (createRun (.replicate 32 1) [97, 98])).serviceEndpoints.get
          (.replicate 32 1, (serviceWithId 98).id) = some (serviceWithId 98) ∧
        (serviceWithId 98).Valid .plain := by
  have hget : ((machine .plain).run (State.genesis .plain ())
      (createRun (.replicate 32 1) [97, 98])).serviceEndpoints.get
      (.replicate 32 1, (serviceWithId 98).id) = some (serviceWithId 98) := by
    decide +kernel
  exact ⟨hget, (run_endpoints_valid (T := .plain) () _ _ _ _ hget).2.1⟩

theorem createRun_doTryState
    : (machine .plain).Always (fun s => doTryState plainDidOrder s = .ok ())
        (State.genesis .plain ()) (createRun (.replicate 32 1) [97, 98]) := by
  refine run_doTryState (T := .plain) ?_ () _ ⟨?_, trivial⟩
  . intro keys
    exact sortByBytes_eq _ _ keys
  . intro _ _
    show List.Nodup _
    decide

end Plain

end Did
