import Cord.Did.Lemmas.Lifecycle

/-!
This module contains what the calls of the DID pallet write when they succeed. What a call keeps can be read
off the state it leaves.
-/

open Frame

namespace Did

variable {T : Config} {s s' : State T} {origin : Origin T.toTypes}

/--
The state after a call other than `submit_did_call` and `dispatch_as`, and what was checked before.
-/
inductive CallWrites (origin : Origin T.toTypes) (s : State T) : State T → Prop where
  | update {did : T.DidIdentifier} {d d' : DidDetails T.toTypes}
      (horigin : ensureDidOrigin origin = some did) (hstored : s.did.get did = some d)
      : CallWrites origin s
          {
            s with
            did := s.did.insert did d'
            events := s.events ++ [.updated did]
          }
  | create {details : DidCreationDetails T.toTypes} {sender : T.AccountId} {d : DidDetails T.toTypes}
      (horigin : ensureSigned origin = some sender)
      (hvalid : validateNewServiceEndpoints details.newServiceDetails = .ok ())
      (hdeleted : s.didBlacklist.containsKey details.did = false)
      (hfresh : s.did.containsKey details.did = false)
      : CallWrites origin s
          {
            s with
            serviceEndpoints := details.newServiceDetails.foldl
              (fun endpoints service => endpoints.insert (details.did, service.id) service)
              s.serviceEndpoints
            didEndpointsCount :=
              s.didEndpointsCount.insert details.did details.newServiceDetails.length.toUInt32
            did := s.did.insert details.did d
            events := s.events ++ [.created sender details.did]
          }
  | createFromAccount {sender : T.AccountId} {d : DidDetails T.toTypes}
      (horigin : ensureSigned origin = some sender)
      (hdeleted : s.didBlacklist.containsKey (T.didOfAccount sender) = false)
      (hfresh : s.did.containsKey (T.didOfAccount sender) = false)
      : CallWrites origin s
          {
            s with
            did := s.did.insert (T.didOfAccount sender) d
            events := s.events ++ [.created sender (T.didOfAccount sender)]
          }
  | addServiceEndpoint {did : T.DidIdentifier} {d : DidDetails T.toTypes}
      {endpoint : DidEndpoint T.toTypes} (horigin : ensureDidOrigin origin = some did)
      (hvalid : endpoint.validateAgainstConstraints = .ok ()) (hstored : s.did.get did = some d)
      : CallWrites origin s
          {
            s with
            serviceEndpoints := s.serviceEndpoints.insert (did, endpoint.id) endpoint
            didEndpointsCount := s.didEndpointsCount.insert did
              (saturatingAdd32 (s.didEndpointsCount.getD did 0) 1)
            did := s.did.insert did d
            events := s.events ++ [.updated did]
          }
  | removeServiceEndpoint {did : T.DidIdentifier} {d : DidDetails T.toTypes} {serviceId : ServiceId T}
      (horigin : ensureDidOrigin origin = some did) (hstored : s.did.get did = some d)
      : CallWrites origin s
          {
            s with
            serviceEndpoints := s.serviceEndpoints.remove (did, serviceId)
            didEndpointsCount :=
              if saturatingSub32 (s.didEndpointsCount.getD did 0) 1 = 0 then
                s.didEndpointsCount.remove did
              else
                s.didEndpointsCount.insert did
                  (saturatingSub32 (s.didEndpointsCount.getD did 0) 1)
            did := s.did.insert did d
            events := s.events ++ [.updated did]
          }
  | delete {did : T.DidIdentifier} (horigin : ensureDidOrigin origin = some did)
      : CallWrites origin s
          {
            s with
            serviceEndpoints := s.serviceEndpoints.clearPrefix T.endpointOrder did
              (s.didEndpointsCount.getD did 0).toNat
            did := s.did.remove did
            didEndpointsCount := s.didEndpointsCount.remove did
            didBlacklist := s.didBlacklist.insert did ()
            events := s.events ++ [.deleted did]
          }

section Calls

theorem updateDetails_writes
    {update : DidDetails T.toTypes → UInt32 → Except StorageError (DidDetails T.toTypes)}
    (h : Succeeds (updateDetails origin update) s () s') : CallWrites origin s s' := by
  simp only [updateDetails, Succeeds.bind_iff, Succeeds.ensureOrigin_iff, getDid_iff,
    Succeeds.mapErr_iff, Succeeds.get_iff, tryUpdateDid_iff, depositEvent_iff, and_assoc,
    exists_and_left, exists_eq_left, exists_const] at h
  obtain ⟨did, horigin, d, hd, d', _, rfl⟩ := h
  exact .update horigin hd

theorem create_writes {details : DidCreationDetails T.toTypes} {signature : DidSignature}
    (h : Succeeds (create origin details signature) s () s') : CallWrites origin s s' := by
  simp only [create, tryInsertDid, Succeeds.bind_iff, Succeeds.ensureOrigin_iff,
    Succeeds.mapErr_iff, Succeeds.get_iff, Succeeds.ensure_iff, Succeeds.modify_iff,
    depositEvent_iff, Bool.not_eq_true', and_assoc, exists_and_left, exists_eq_left,
    exists_const] at h
  obtain ⟨sender, horigin, _, _, _, _, _, hvalid, d, _, hdeleted, hfresh, rfl⟩ := h
  exact .create horigin hvalid hdeleted hfresh

theorem createFromAccount_writes {key : DidVerificationKey T.AccountId}
    (h : Succeeds (createFromAccount origin key) s () s') : CallWrites origin s s' := by
  simp only [createFromAccount, tryInsertDid, Succeeds.bind_iff, Succeeds.ensureOrigin_iff,
    Succeeds.mapErr_iff, Succeeds.get_iff, Succeeds.ensure_iff, Succeeds.modify_iff,
    depositEvent_iff, Bool.not_eq_true', and_assoc, exists_and_left, exists_eq_left,
    exists_const] at h
  obtain ⟨sender, horigin, d, _, hdeleted, hfresh, rfl⟩ := h
  exact .createFromAccount horigin hdeleted hfresh

theorem addServiceEndpoint_writes {endpoint : DidEndpoint T.toTypes}
    (h : Succeeds (addServiceEndpoint origin endpoint) s () s') : CallWrites origin s s' := by
  simp only [addServiceEndpoint, Succeeds.bind_iff, Succeeds.ensureOrigin_iff, getDid_iff,
    Succeeds.mapErr_iff, Succeeds.get_iff, Succeeds.ensure_iff, Succeeds.modify_iff,
    tryUpdateDid_iff, depositEvent_iff, and_assoc, exists_and_left, exists_eq_left,
    exists_const] at h
  obtain ⟨did, horigin, _, hvalid, d, hd, _, _, rfl⟩ := h
  exact .addServiceEndpoint horigin hvalid hd

theorem removeServiceEndpoint_writes {serviceId : ServiceId T}
    (h : Succeeds (removeServiceEndpoint origin serviceId) s () s') : CallWrites origin s s' := by
  simp only [removeServiceEndpoint, Succeeds.bind_iff, Succeeds.ensureOrigin_iff, getDid_iff,
    Succeeds.get_iff, Succeeds.ensure_iff, Succeeds.modify_iff, tryUpdateDid_iff,
    depositEvent_iff, and_assoc, exists_and_left, exists_eq_left, exists_const] at h
  obtain ⟨did, horigin, d, hd, _, rfl⟩ := h
  exact .removeServiceEndpoint horigin hd

theorem delete_writes {endpointsToRemove : UInt32}
    (h : Succeeds (delete origin endpointsToRemove) s () s') : CallWrites origin s s' := by
  simp only [delete, deleteDid, Succeeds.bind_iff, Succeeds.ensureOrigin_iff, getDid_iff,
    Succeeds.get_iff, Succeeds.ensure_iff, Succeeds.modify_iff, depositEvent_iff, and_assoc,
    exists_and_left, exists_eq_left, exists_const] at h
  obtain ⟨did, horigin, _, _, _, _, rfl⟩ := h
  exact .delete horigin

end Calls

theorem Call.dispatch_writes {call : Call T.toTypes} (hcall : ¬ call.Dispatches)
    (h : Succeeds (call.dispatch origin) s () s') : CallWrites origin s s' := by
  cases call with
  | submitDidCall _ _ _ _ _ _ => exact absurd trivial hcall
  | dispatchAs _ _ => exact absurd trivial hcall
  | create _ _ =>
    rw [Call.dispatch] at h
    exact create_writes h
  | createFromAccount _ =>
    rw [Call.dispatch] at h
    exact createFromAccount_writes h
  | addServiceEndpoint _ =>
    rw [Call.dispatch] at h
    exact addServiceEndpoint_writes h
  | removeServiceEndpoint _ =>
    rw [Call.dispatch] at h
    exact removeServiceEndpoint_writes h
  | delete _ =>
    rw [Call.dispatch] at h
    exact delete_writes h
  | _ =>
    -- What is left are the updates of keys.
    rw [Call.dispatch] at h
    exact updateDetails_writes h

/--
The rule for what is about the storage of the other pallets only: it has to be preserved by the calls of these
pallets, no matter under which origin they are dispatched.
-/
theorem DispatchRule.of_world {J : T.World → Prop}
    (hother : ∀ call origin world world', T.dispatchOther call origin world = some world' →
      J world → J world')
    : DispatchRule (fun _ (s : State T) => J s.world) fun _ _ _ => True where
  block _ hs := hs
  event _ hs := hs
  other h hs := by
    simp only [dispatchOther, Succeeds.bind_iff, Succeeds.get_iff, Succeeds.okOr_iff,
      Succeeds.modify_iff, and_assoc, exists_and_left, exists_eq_left] at h
    obtain ⟨world, hworld, rfl⟩ := h
    exact hother _ _ _ _ hworld hs
  call _ hcall h hs := by
    cases Call.dispatch_writes hcall h with
    | _ => exact hs
  authorize h hs := by
    obtain ⟨_, _, _, rfl⟩ := authorizeDidCall_writes h
    exact hs
  complete h hs := by
    simp only [completeDidCall, Succeeds.bind_iff, Succeeds.modify_iff, depositEvent_iff,
      exists_eq_left, exists_const] at h
    subst h
    exact hs

end Did
