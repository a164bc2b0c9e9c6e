import Cord.Did.Impl.Calls
import Cord.Did.Lemmas.Keys

/-!
This module contains what the calls of the DID pallet do to the stored DIDs.
-/

open Frame

namespace Did

variable {T : Config} {s s' : State T} {u : Unit} {origin : Origin T.toTypes}

@[simp]
theorem depositEvent_iff {event : Event T.toTypes}
    : Succeeds (depositEvent event) s u s' ↔ s' = { s with events := s.events ++ [event] } := by
  simp [depositEvent]

@[simp]
theorem getDid_iff {did : T.DidIdentifier} {details : DidDetails T.toTypes}
    : Succeeds (getDid did) s details s' ↔ s.did.get did = some details ∧ s' = s := by
  simp [getDid, and_comm]

@[simp]
theorem tryUpdateDid_iff {did : T.DidIdentifier} {details : DidDetails T.toTypes}
    : Succeeds (tryUpdateDid did details) s u s'
        ↔
      s' = { s with did := s.did.insert did details } := by
  simp [tryUpdateDid]

theorem mapError_eq_ok {ε δ α : Type} {f : ε → δ} {x : Except ε α} {a : α}
    : x.mapError f = .ok a ↔ x = .ok a := by
  cases x with
  | error err => simp [Except.mapError]
  | ok b => simp [Except.mapError]

section Creation

variable {I : DidDetails T.toTypes → Prop} {d d' : DidDetails T.toTypes} {block : UInt32}

theorem updateIfGiven_rule {key : Option (DidVerificationKey T.AccountId)}
    {update : DidVerificationKey T.AccountId → Except StorageError (DidDetails T.toTypes)}
    (hd : I d) (hupdate : ∀ key, update key = .ok d' → I d')
    (h : updateIfGiven key update d = .ok d') : I d' := by
  cases key with
  | some key =>
    rw [updateIfGiven, mapError_eq_ok] at h
    exact hupdate key h
  | none =>
    injection h with h
    rw [← h]
    exact hd

/-
What holds of the details of a DID with a single key, and is kept by every key that is added to it.
-/
theorem newWithCreationDetails_rule {details : DidCreationDetails T.toTypes}
    {key : DidVerificationKey T.AccountId}
    (hnew : ∀ d, DidDetails.new (calculateKeyId T) key block = .ok d → I d)
    (hagreement : ∀ keys d d', I d →
      d.addKeyAgreementKeys (calculateKeyId T) keys block = .ok d' → I d')
    (hassertion : ∀ other d d', I d →
      d.updateAssertionKey (calculateKeyId T) other block = .ok d' → I d')
    (hdelegation : ∀ other d d', I d →
      d.updateDelegationKey (calculateKeyId T) other block = .ok d' → I d')
    (h : newWithCreationDetails T details key block = .ok d') : I d' := by
  unfold newWithCreationDetails at h
  dsimp only at h
  split at h
  . obtain ⟨d1, h1, h⟩ := bind_eq_ok.mp h
    obtain ⟨d2, h2, h⟩ := bind_eq_ok.mp h
    obtain ⟨d3, h3, h4⟩ := bind_eq_ok.mp h
    rw [mapError_eq_ok] at h1 h2
    have hd2 := hagreement _ _ _ (hnew _ h1) h2
    have hd3 := updateIfGiven_rule hd2 (fun _ => hassertion _ _ _ hd2) h3
    exact updateIfGiven_rule hd3 (fun _ => hdelegation _ _ _ hd3) h4
  . cases h

end Creation

structure Initial (T : Config) (d : DidDetails T.toTypes) : Prop where
  nonce : d.lastTxCounter = 0
  keys : Function.Injective (calculateKeyId T) → d.WellKeyed (calculateKeyId T)

namespace Initial

variable {d d' : DidDetails T.toTypes} {key : DidVerificationKey T.AccountId} {block : UInt32}

theorem new (h : DidDetails.new (calculateKeyId T) key block = .ok d') : Initial T d' where
  nonce := DidDetails.new_lastTxCounter h
  keys := fun _ => .new h

theorem addKeyAgreementKeys {keys : List DidEncryptionKey} (hd : Initial T d)
    (h : d.addKeyAgreementKeys (calculateKeyId T) keys block = .ok d') : Initial T d' where
  nonce := (DidDetails.addKeyAgreementKeys_lastTxCounter h).trans hd.nonce
  keys := fun hinj => (hd.keys hinj).addKeyAgreementKeys hinj h

theorem updateAssertionKey (hd : Initial T d)
    (h : d.updateAssertionKey (calculateKeyId T) key block = .ok d') : Initial T d' where
  nonce := (DidDetails.updateAssertionKey_lastTxCounter h).trans hd.nonce
  keys := fun hinj => (hd.keys hinj).updateAssertionKey hinj h

theorem updateDelegationKey (hd : Initial T d)
    (h : d.updateDelegationKey (calculateKeyId T) key block = .ok d') : Initial T d' where
  nonce := (DidDetails.updateDelegationKey_lastTxCounter h).trans hd.nonce
  keys := fun hinj => (hd.keys hinj).updateDelegationKey hinj h

theorem newWithCreationDetails {details : DidCreationDetails T.toTypes}
    (h : newWithCreationDetails T details key block = .ok d') : Initial T d' := by
  apply newWithCreationDetails_rule _ _ _ _ h
  . intro d hnew
    exact .new hnew
  . intro keys d d' hd hadd
    exact hd.addKeyAgreementKeys hadd
  . intro other d d' hd hupdate
    exact hd.updateAssertionKey hupdate
  . intro other d d' hd hupdate
    exact hd.updateDelegationKey hupdate

end Initial

/--
What a call other than `submit_did_call` and `dispatch_as` has done to the stored DIDs. Key
identifiers have to be injective for the key sets to stay intact.
-/
inductive DidStep (s s' : State T) : Prop where
  | update {did : T.DidIdentifier} {details details' : DidDetails T.toTypes}
      (hstored : s.did.get did = some details)
      (hnonce : details'.lastTxCounter = details.lastTxCounter)
      (hkeys : Function.Injective (calculateKeyId T) → details.WellKeyed (calculateKeyId T) →
        details'.WellKeyed (calculateKeyId T))
      (hdid : s'.did = s.did.insert did details')
      (hblacklist : s'.didBlacklist = s.didBlacklist)
      (haccepted : s'.accepted = s.accepted)
  | insert {did : T.DidIdentifier} {details : DidDetails T.toTypes}
      (hfresh : s.did.get did = none)
      (hdeleted : s.didBlacklist.get did = none)
      (hinitial : Initial T details)
      (hdid : s'.did = s.did.insert did details)
      (hblacklist : s'.didBlacklist = s.didBlacklist)
      (haccepted : s'.accepted = s.accepted)
  | delete {did : T.DidIdentifier}
      (hdid : s'.did = s.did.remove did)
      (hblacklist : s'.didBlacklist = s.didBlacklist.insert did ())
      (haccepted : s'.accepted = s.accepted)

theorem tryInsertDid_step {did : T.DidIdentifier} {details : DidDetails T.toTypes}
    {sender : T.AccountId} (h : Succeeds (tryInsertDid did details sender) s () s')
    (hinitial : Initial T details) : DidStep s s' := by
  simp only [tryInsertDid, Succeeds.bind_iff, Succeeds.get_iff, Succeeds.ensure_iff,
    Succeeds.modify_iff, depositEvent_iff, Bool.not_eq_true', StorageMap.containsKey_eq_false_iff,
    and_assoc, exists_and_left, exists_eq_left, exists_const] at h
  obtain ⟨hdeleted, hfresh, rfl⟩ := h
  exact .insert hfresh hdeleted hinitial rfl rfl rfl

theorem create_step {details : DidCreationDetails T.toTypes} {signature : DidSignature}
    (h : Succeeds (create origin details signature) s () s') : DidStep s s' := by
  simp only [create, Succeeds.bind_iff, Succeeds.ensureOrigin_iff, Succeeds.mapErr_iff,
    Succeeds.get_iff, Succeeds.modify_iff, and_assoc, exists_and_left, exists_eq_left,
    exists_const] at h
  obtain ⟨sender, _, _, _, key, _, _, _, d, hd, hinsert⟩ := h
  -- The service endpoints are written first, the step starts in the state with them.
  cases tryInsertDid_step hinsert (.newWithCreationDetails hd) with
  | update hstored hnonce hkeys hdid hblacklist haccepted =>
    exact .update hstored hnonce hkeys hdid hblacklist haccepted
  | insert hfresh hdeleted hinitial hdid hblacklist haccepted =>
    exact .insert hfresh hdeleted hinitial hdid hblacklist haccepted
  | delete hdid hblacklist haccepted =>
    exact .delete hdid hblacklist haccepted

theorem createFromAccount_step {key : DidVerificationKey T.AccountId}
    (h : Succeeds (createFromAccount origin key) s () s') : DidStep s s' := by
  simp only [createFromAccount, Succeeds.bind_iff, Succeeds.ensureOrigin_iff, Succeeds.mapErr_iff,
    Succeeds.get_iff, and_assoc, exists_and_left, exists_eq_left] at h
  obtain ⟨sender, _, d, hd, hinsert⟩ := h
  exact tryInsertDid_step hinsert (.new hd)

theorem updateDetails_step
    {update : DidDetails T.toTypes → UInt32 → Except StorageError (DidDetails T.toTypes)}
    (h : Succeeds (updateDetails origin update) s () s')
    (hnonce : ∀ d d' block, update d block = .ok d' → d'.lastTxCounter = d.lastTxCounter)
    (hkeys : ∀ d d' block, update d block = .ok d' → Function.Injective (calculateKeyId T) →
      d.WellKeyed (calculateKeyId T) → d'.WellKeyed (calculateKeyId T))
    : DidStep s s' := by
  simp only [updateDetails, Succeeds.bind_iff, Succeeds.ensureOrigin_iff, getDid_iff,
    Succeeds.mapErr_iff, Succeeds.get_iff, tryUpdateDid_iff, depositEvent_iff, and_assoc,
    exists_and_left, exists_eq_left, exists_const] at h
  obtain ⟨did, _, d, hd, d', hupdate, rfl⟩ := h
  exact .update hd (hnonce d d' _ hupdate) (hkeys d d' _ hupdate) rfl rfl rfl

theorem DidStep.rewrite {did : T.DidIdentifier} {details : DidDetails T.toTypes}
    (stored : s.did.get did = some details) (hdid : s'.did = s.did.insert did details)
    (hblacklist : s'.didBlacklist = s.didBlacklist) (haccepted : s'.accepted = s.accepted)
    : DidStep s s' :=
  .update stored rfl (fun _ h => h) hdid hblacklist haccepted

theorem addServiceEndpoint_step {serviceEndpoint : DidEndpoint T.toTypes}
    (h : Succeeds (addServiceEndpoint origin serviceEndpoint) s () s') : DidStep s s' := by
  simp only [addServiceEndpoint, Succeeds.bind_iff, Succeeds.ensureOrigin_iff, getDid_iff,
    Succeeds.mapErr_iff, Succeeds.get_iff, Succeeds.ensure_iff, Succeeds.modify_iff,
    tryUpdateDid_iff, depositEvent_iff, and_assoc, exists_and_left, exists_eq_left,
    exists_const] at h
  obtain ⟨did, _, _, _, d, hd, _, _, rfl⟩ := h
  exact .rewrite hd rfl rfl rfl

theorem removeServiceEndpoint_step {serviceId : BoundedVec UInt8 T.maxServiceIdLength}
    (h : Succeeds (removeServiceEndpoint origin serviceId) s () s') : DidStep s s' := by
  simp only [removeServiceEndpoint, Succeeds.bind_iff, Succeeds.ensureOrigin_iff, getDid_iff,
    Succeeds.get_iff, Succeeds.ensure_iff, Succeeds.modify_iff, tryUpdateDid_iff,
    depositEvent_iff, and_assoc, exists_and_left, exists_eq_left, exists_const] at h
  obtain ⟨did, _, d, hd, _, rfl⟩ := h
  exact .rewrite hd rfl rfl rfl

theorem delete_step {endpointsToRemove : UInt32}
    (h : Succeeds (delete origin endpointsToRemove) s () s') : DidStep s s' := by
  simp only [delete, deleteDid, Succeeds.bind_iff, Succeeds.ensureOrigin_iff, getDid_iff,
    Succeeds.get_iff, Succeeds.ensure_iff, Succeeds.modify_iff, depositEvent_iff, and_assoc,
    exists_and_left, exists_eq_left, exists_const] at h
  obtain ⟨did, _, _, _, d, hd, rfl⟩ := h
  exact .delete rfl rfl rfl

section KeyUpdates

variable {key : DidVerificationKey T.AccountId}

theorem setAuthenticationKey_step (h : Succeeds (setAuthenticationKey origin key) s () s')
    : DidStep s s' := by
  apply updateDetails_step h
  . intro d d' block hok
    exact DidDetails.updateAuthenticationKey_lastTxCounter hok
  . intro d d' block hok hinj hd
    exact hd.updateAuthenticationKey hinj hok

theorem setDelegationKey_step (h : Succeeds (setDelegationKey origin key) s () s')
    : DidStep s s' := by
  apply updateDetails_step h
  . intro d d' block hok
    exact DidDetails.updateDelegationKey_lastTxCounter hok
  . intro d d' block hok hinj hd
    exact hd.updateDelegationKey hinj hok

theorem removeDelegationKey_step (h : Succeeds (removeDelegationKey origin) s () s')
    : DidStep s s' := by
  apply updateDetails_step h
  . intro d d' block hok
    exact DidDetails.removeDelegationKey_lastTxCounter hok
  . intro d d' block hok _ hd
    exact hd.removeDelegationKey hok

theorem setAssertionKey_step (h : Succeeds (setAssertionKey origin key) s () s')
    : DidStep s s' := by
  apply updateDetails_step h
  . intro d d' block hok
    exact DidDetails.updateAssertionKey_lastTxCounter hok
  . intro d d' block hok hinj hd
    exact hd.updateAssertionKey hinj hok

theorem removeAssertionKey_step (h : Succeeds (removeAssertionKey origin) s () s')
    : DidStep s s' := by
  apply updateDetails_step h
  . intro d d' block hok
    exact DidDetails.removeAssertionKey_lastTxCounter hok
  . intro d d' block hok _ hd
    exact hd.removeAssertionKey hok

theorem addKeyAgreementKey_step {newKey : DidEncryptionKey}
    (h : Succeeds (addKeyAgreementKey origin newKey) s () s') : DidStep s s' := by
  apply updateDetails_step h
  . intro d d' block hok
    exact DidDetails.addKeyAgreementKey_lastTxCounter hok
  . intro d d' block hok hinj hd
    exact hd.addKeyAgreementKey hinj hok

theorem removeKeyAgreementKey_step {keyId : T.KeyId}
    (h : Succeeds (removeKeyAgreementKey origin keyId) s () s') : DidStep s s' := by
  apply updateDetails_step h
  . intro d d' block hok
    exact DidDetails.removeKeyAgreementKey_lastTxCounter hok
  . intro d d' block hok _ hd
    exact hd.removeKeyAgreementKey hok

end KeyUpdates

structure SameDids (s s' : State T) : Prop where
  did : s'.did = s.did
  blacklist : s'.didBlacklist = s.didBlacklist
  accepted : s'.accepted = s.accepted

/--
The nonce of an operation is consumed before its call is dispatched.
-/
structure Authorized (operation : DidAuthorizedCallOperation T.toTypes)
    (details : DidDetails T.toTypes) (s s' : State T) : Prop where
  stored : s.did.get operation.did = some details
  nonce : operation.txCounter = details.lastTxCounter + 1
  did : s'.did = s.did.insert operation.did details.increaseTxCounter
  blacklist : s'.didBlacklist = s.didBlacklist
  accepted : s'.accepted = s.accepted

theorem authorizeDidCall_writes {operation : DidAuthorizedCallOperation T.toTypes}
    {signature : DidSignature}
    (h : Succeeds (authorizeDidCall origin operation signature) s () s')
    : ∃ details, s.did.get operation.did = some details ∧
        operation.txCounter = details.lastTxCounter + 1 ∧
        s' = { s with did := s.did.insert operation.did details.increaseTxCounter } := by
  simp only [authorizeDidCall, verifyDidOperationSignatureAndIncreaseNonce,
    validateBlockNumberValue, validateCounterValue, verifyPayloadSignatureWithDidKeyType,
    getVerificationKey, Succeeds.bind_iff, Succeeds.ensureOrigin_iff, Succeeds.ensure_iff,
    Succeeds.mapErr_iff, Succeeds.okOr_iff, Succeeds.get_iff, Succeeds.modify_iff, getDid_iff,
    and_assoc, exists_and_left, exists_eq_left, exists_const] at h
  obtain ⟨_, _, _, relationship, _, _, _, details, hstored, hnonce, _, t, ⟨_, _, _, rfl⟩, rfl⟩ := h
  exact ⟨details, hstored, hnonce, rfl⟩

theorem authorizeDidCall_spec {operation : DidAuthorizedCallOperation T.toTypes}
    {signature : DidSignature}
    (h : Succeeds (authorizeDidCall origin operation signature) s () s')
    : ∃ details, Authorized operation details s s' := by
  obtain ⟨details, hstored, hnonce, rfl⟩ := authorizeDidCall_writes h
  exact ⟨details, hstored, hnonce, rfl, rfl, rfl⟩

theorem authorizeDispatchAs_spec {did : T.DidIdentifier} {call : RuntimeCall T.toTypes}
    {who : T.AccountId} (h : Succeeds (authorizeDispatchAs origin did call) s who s')
    : s' = s := by
  simp only [authorizeDispatchAs, verifyAccountAuthorization, getVerificationKey,
    Succeeds.bind_iff, Succeeds.ensureOrigin_iff, Succeeds.ensure_iff, Succeeds.mapErr_iff,
    Succeeds.okOr_iff, Succeeds.pure_iff, getDid_iff, and_assoc, exists_and_left,
    exists_eq_left] at h
  obtain ⟨_, _, _, _, _, t, ⟨_, _, _, _, _, rfl⟩, _, rfl⟩ := h
  rfl

theorem dispatchOther_writes {call : T.OtherCall}
    (h : Succeeds (dispatchOther origin call) s () s') : ∃ world, s' = { s with world } := by
  simp only [dispatchOther, Succeeds.bind_iff, Succeeds.get_iff, Succeeds.okOr_iff,
    Succeeds.modify_iff, and_assoc, exists_and_left, exists_eq_left] at h
  obtain ⟨world, _, rfl⟩ := h
  exact ⟨world, rfl⟩

theorem dispatchOther_spec {call : T.OtherCall} (h : Succeeds (dispatchOther origin call) s () s')
    : SameDids s s' := by
  obtain ⟨world, rfl⟩ := dispatchOther_writes h
  exact ⟨rfl, rfl, rfl⟩

end Did
