import Cord.Did.Lemmas.KeySet
import Cord.Did.Lemmas.Relationship
import Cord.Did.Lemmas.Writes

/-!
This module contains who can change a DID: what is stored of it, but for its counter, stays as it is as
long as nobody acts for it with the key that it is authenticated with.
-/

open Frame

namespace Did

variable {T : Config} {s s' : State T} {origin : Origin T.toTypes} {did : T.DidIdentifier}
  {key : DidVerificationKey T.AccountId}

/--
All that is stored of a DID, but for its counter.
-/
@[ext]
structure DidRecord (T : Config) where
  details : Option (DidDetails T.toTypes)
  endpoints : ServiceId T → Option (DidEndpoint T.toTypes)
  count : Option UInt32
  deleted : Bool

def State.record (s : State T) (did : T.DidIdentifier) : DidRecord T where
  details := (s.did.get did).map fun details => { details with lastTxCounter := 0 }
  endpoints id := s.serviceEndpoints.get (did, id)
  count := s.didEndpointsCount.get did
  deleted := s.didBlacklist.containsKey did

mutual

/--
Someone acts for the DID with the key when the call is made: an operation of the DID is signed with it, the
account of the key dispatches as the DID, or another pallet turns the origin into the DID, however deep this
is nested.
-/
def RuntimeCall.ActsFor (did : T.DidIdentifier) (key : DidVerificationKey T.AccountId)
    (origin : Origin T.toTypes) : RuntimeCall T.toTypes → Prop
  | .did call => call.ActsFor did key origin
  | .utility _ calls => BatchActsFor did key origin calls
  | .proxied proxy call =>
    match T.proxyOrigin proxy origin with
    | some origin => ensureDidOrigin origin = some did ∨ call.ActsFor did key origin
    | none => False
  | .other _ => False

def BatchActsFor (did : T.DidIdentifier) (key : DidVerificationKey T.AccountId)
    (origin : Origin T.toTypes) : List (RuntimeCall T.toTypes) → Prop
  | [] => False
  | call :: calls => call.ActsFor did key origin ∨ BatchActsFor did key origin calls

def Call.ActsFor (did : T.DidIdentifier) (key : DidVerificationKey T.AccountId)
    (origin : Origin T.toTypes) : Call T.toTypes → Prop
  | .submitDidCall did' txCounter call blockNumber submitter signature =>
    (did' = did ∧ key.verifySignature T
      (T.encodeOperation { did := did', txCounter, call, blockNumber, submitter }) signature
        = .ok ()) ∨
      call.ActsFor did key (.did did' submitter)
  | .dispatchAs did' call =>
    match ensureSigned origin with
    | some who =>
      (did' = did ∧ who = key.intoAccount T) ∨ call.ActsFor did key (.did did' who)
    | none => False
  | _ => False

end

def Extrinsic.ActsFor (did : T.DidIdentifier) (key : DidVerificationKey T.AccountId)
    (ext : Extrinsic T) : Prop :=
  ensureDidOrigin ext.origin = some did ∨ ext.call.ActsFor did key ext.origin

section Record

theorem record_of_get (hdid : s'.did.get did = s.did.get did)
    (hendpoints : ∀ id, s'.serviceEndpoints.get (did, id) = s.serviceEndpoints.get (did, id))
    (hcount : s'.didEndpointsCount.get did = s.didEndpointsCount.get did)
    (hdeleted : s'.didBlacklist.get did = s.didBlacklist.get did)
    : s'.record did = s.record did := by
  apply DidRecord.ext
  . exact congrArg (Option.map _) hdid
  . funext id
    exact hendpoints id
  . exact hcount
  . exact congrArg Option.isSome hdeleted

theorem record_of_insert {did' : T.DidIdentifier} {details : DidDetails T.toTypes} (hne : did ≠ did')
    (hdid : s'.did = s.did.insert did' details)
    (hendpoints : ∀ id, s'.serviceEndpoints.get (did, id) = s.serviceEndpoints.get (did, id))
    (hcount : s'.didEndpointsCount.get did = s.didEndpointsCount.get did)
    (hdeleted : s'.didBlacklist = s.didBlacklist) : s'.record did = s.record did := by
  apply record_of_get _ hendpoints hcount (congrArg (StorageMap.get · did) hdeleted)
  rw [hdid]
  exact StorageMap.get_insert_of_ne _ _ hne

/-
Of a stored DID, a call that is not made by it changes nothing.
-/
theorem CallWrites.record (h : CallWrites origin s s') (horigin : ensureDidOrigin origin ≠ some did)
    (hstored : s.did.containsKey did = true) : s'.record did = s.record did := by
  have hacts : ∀ {did'}, ensureDidOrigin origin = some did' → did ≠ did' := by
    rintro did' hdid' rfl
    exact horigin hdid'
  have hcreates : ∀ {did'}, s.did.containsKey did' = false → did ≠ did' := by
    rintro did' hfresh rfl
    rw [hstored] at hfresh
    cases hfresh
  cases h with
  | update hdid' _ => exact record_of_insert (hacts hdid') rfl (fun _ => rfl) rfl rfl
  | @create details _ _ _ _ _ hfresh =>
    have hne := hcreates hfresh
    refine record_of_insert hne rfl ?_ (StorageMap.get_insert_of_ne _ _ hne) rfl
    intro id
    rcases StorageMap.get_foldl_insert_cases (fun service => (details.did, DidEndpoint.id service))
      (fun service => service) details.newServiceDetails s.serviceEndpoints (did, id)
      with heq | ⟨_, _, hkey, _⟩
    . exact heq
    . exact absurd (congrArg Prod.fst hkey).symm hne
  | createFromAccount _ _ hfresh =>
    exact record_of_insert (hcreates hfresh) rfl (fun _ => rfl) rfl rfl
  | addServiceEndpoint hdid' _ _ =>
    have hne := hacts hdid'
    refine record_of_insert hne rfl ?_ (StorageMap.get_insert_of_ne _ _ hne) rfl
    intro id
    apply StorageMap.get_insert_of_ne
    exact fun heq => hne (congrArg Prod.fst heq)
  | removeServiceEndpoint hdid' _ =>
    have hne := hacts hdid'
    refine record_of_insert hne rfl ?_ ?_ rfl
    . intro id
      apply StorageMap.get_remove_of_ne
      exact fun heq => hne (congrArg Prod.fst heq)
    . dsimp only
      split
      . exact StorageMap.get_remove_of_ne _ hne
      . exact StorageMap.get_insert_of_ne _ _ hne
  | delete hdid' =>
    have hne := hacts hdid'
    apply record_of_get
    . exact StorageMap.get_remove_of_ne _ hne
    . intro id
      exact StorageMap.get_clearPrefix_of_ne _ _ _ hne id
    . exact StorageMap.get_remove_of_ne _ hne
    . exact StorageMap.get_insert_of_ne _ _ hne

end Record

def DidRecord.AuthenticatedBy (r : DidRecord T) (key : DidVerificationKey T.AccountId) : Prop :=
  ∃ details, r.details = some details ∧
    details.getVerificationKeyForKeyType .authentication = some key

theorem authorizeDidCall_record {operation : DidAuthorizedCallOperation T.toTypes}
    {signature : DidSignature} (h : Succeeds (authorizeDidCall origin operation signature) s () s')
    : s'.record did = s.record did := by
  obtain ⟨details, hstored, _, rfl⟩ := authorizeDidCall_writes h
  by_cases hdid : did = operation.did
  . subst hdid
    apply DidRecord.ext
    . simp [State.record, hstored, StorageMap.get_insert_self, DidDetails.increaseTxCounter]
    . rfl
    . rfl
    . rfl
  . exact record_of_insert hdid rfl (fun _ => rfl) rfl rfl

/--
The record of the DID is kept by every call that is not made by the DID.
-/
theorem record_rule (r : DidRecord T) (hr : r.AuthenticatedBy key)
    : DispatchRule (fun _ (s : State T) => s.record did = r)
        fun origin _ _ => ensureDidOrigin origin ≠ some did where
  block _ hs := hs
  event _ hs := hs
  other h hs := by
    obtain ⟨world, rfl⟩ := dispatchOther_writes h
    exact hs
  call {_ s _ _ _} horigin hcall h hs := by
    obtain ⟨details, hdetails, _⟩ := hr
    have hstored : s.did.containsKey did = true := by
      rw [← hs] at hdetails
      obtain ⟨d, hd, _⟩ := Option.map_eq_some_iff.mp hdetails
      exact StorageMap.containsKey_of_get hd
    rw [(Call.dispatch_writes hcall h).record horigin hstored]
    exact hs
  authorize h hs := by
    rw [authorizeDidCall_record h]
    exact hs
  complete h hs := by
    simp only [completeDidCall, Succeeds.bind_iff, Succeeds.modify_iff, depositEvent_iff,
      exists_eq_left, exists_const] at h
    subst h
    exact hs

mutual

/-
A call whose leaves are not authenticated with the main key contains no call of the pallet, so nothing is
asked of it.
-/
theorem RuntimeCall.meets_of_derive {scope : Scope}
    {P : Origin T.toTypes → Call T.toTypes → State T → Prop} {k : DidVerificationKeyRelationship}
    (hk : k ≠ .authentication) (call : RuntimeCall T.toTypes)
    (h : ∀ leaf ∈ call.leaves, leaf.deriveVerificationKeyRelationship T = .ok k)
    (origin : Origin T.toTypes) (s : State T) : call.Meets scope P origin s := by
  match call with
  | .did call =>
    have hleaf := h _ (List.mem_singleton_self _)
    cases call with
    | create _ _ => cases hleaf
    | _ =>
      rw [RuntimeCall.deriveVerificationKeyRelationship, Except.ok.injEq] at hleaf
      exact absurd hleaf.symm hk
      all_goals nofun
  | .utility kind calls =>
    rw [RuntimeCall.leaves] at h
    rw [RuntimeCall.Meets]
    intro _
    exact batchMeets_of_derive hk calls h origin kind s
  | .proxied proxy call =>
    have hleaf := h _ (List.mem_singleton_self _)
    cases hleaf
  | .other call =>
    rw [RuntimeCall.Meets]
    trivial

theorem batchMeets_of_derive {scope : Scope}
    {P : Origin T.toTypes → Call T.toTypes → State T → Prop} {k : DidVerificationKeyRelationship}
    (hk : k ≠ .authentication) (calls : List (RuntimeCall T.toTypes))
    (h : ∀ leaf ∈ batchLeaves calls, leaf.deriveVerificationKeyRelationship T = .ok k)
    (origin : Origin T.toTypes) (kind : BatchKind) (s : State T)
    : BatchMeets scope P origin kind calls s := by
  match calls with
  | [] =>
    rw [BatchMeets]
    trivial
  | call :: calls =>
    rw [batchLeaves, List.forall_mem_append] at h
    rw [BatchMeets]
    have hcall : call.Meets scope P origin s := RuntimeCall.meets_of_derive hk call h.1 origin s
    split
    . next t _ => exact ⟨hcall, batchMeets_of_derive hk calls h.2 origin kind t⟩
    . exact ⟨fun _ => hcall, fun _ => batchMeets_of_derive hk calls h.2 origin kind s⟩

end

theorem DidRecord.AuthenticatedBy.eq {details : DidDetails T.toTypes}
    {key' : DidVerificationKey T.AccountId} (h : (s.record did).AuthenticatedBy key)
    (hstored : s.did.get did = some details)
    (hkey' : details.getVerificationKeyForKeyType .authentication = some key') : key' = key := by
  obtain ⟨details', hdetails', hkey⟩ := h
  simp only [State.record, hstored, Option.map_some, Option.some.injEq] at hdetails'
  subst hdetails'
  exact Option.some.inj (hkey'.symm.trans hkey)

theorem authorizeDidCall_authentication {operation : DidAuthorizedCallOperation T.toTypes}
    {signature : DidSignature} (h : Succeeds (authorizeDidCall origin operation signature) s () s')
    (hkey : (s.record operation.did).AuthenticatedBy key)
    (hsignature : key.verifySignature T (T.encodeOperation operation) signature ≠ .ok ())
    : ∃ k, k ≠ .authentication ∧
        ∀ leaf ∈ operation.call.leaves, leaf.deriveVerificationKeyRelationship T = .ok k := by
  obtain ⟨k, details, key', hderive, hstored, hkey', hverify⟩ := authorizeDidCall_key h
  refine ⟨k, ?_, (RuntimeCall.derive_eq_ok_iff _).mp hderive |>.2⟩
  rintro rfl
  rw [hkey.eq hstored hkey'] at hverify
  exact hsignature hverify

theorem authorizeDispatchAs_authentication {call : RuntimeCall T.toTypes} {who : T.AccountId}
    (h : Succeeds (authorizeDispatchAs origin did call) s who s')
    (hkey : (s.record did).AuthenticatedBy key) (hwho : who ≠ key.intoAccount T)
    : ∃ k, k ≠ .authentication ∧
        ∀ leaf ∈ call.leaves, leaf.deriveVerificationKeyRelationship T = .ok k := by
  obtain ⟨k, details, key', hderive, hstored, hkey', haccount⟩ := authorizeDispatchAs_key h
  refine ⟨k, ?_, (RuntimeCall.derive_eq_ok_iff _).mp hderive |>.2⟩
  rintro rfl
  rw [hkey.eq hstored hkey'] at haccount
  exact hwho haccount

theorem authorizeDispatchAs_signed {call : RuntimeCall T.toTypes} {who : T.AccountId}
    (h : Succeeds (authorizeDispatchAs origin did call) s who s')
    : ensureSigned origin = some who := by
  simp only [authorizeDispatchAs, Succeeds.bind_iff, Succeeds.ensureOrigin_iff, Succeeds.pure_iff,
    and_assoc, exists_and_left, exists_eq_left] at h
  obtain ⟨who', hsigned, _, _, _, _, _, _, rfl, _⟩ := h
  exact hsigned

mutual

/-
The induction is on the call. The record is needed where the DID is asked for its key, that it stays what it
is where the calls of a batch follow each other.
-/
theorem RuntimeCall.meets_of_not_actsFor {scope : Scope} {r : DidRecord T}
    (hr : r.AuthenticatedBy key) (call : RuntimeCall T.toTypes) {origin : Origin T.toTypes}
    {s : State T} (hs : s.record did = r) (horigin : ensureDidOrigin origin ≠ some did)
    (h : ¬ call.ActsFor did key origin)
    : call.Meets scope (fun origin _ _ => ensureDidOrigin origin ≠ some did) origin s := by
  match call with
  | .did call =>
    rw [RuntimeCall.ActsFor] at h
    rw [RuntimeCall.Meets]
    exact Call.meets_of_not_actsFor hr call hs horigin h
  | .utility kind calls =>
    rw [RuntimeCall.ActsFor] at h
    rw [RuntimeCall.Meets]
    intro _
    exact batchMeets_of_not_actsFor hr calls hs horigin h
  | .proxied proxy call =>
    rw [RuntimeCall.ActsFor] at h
    rw [RuntimeCall.Meets]
    split
    . next origin' heq =>
      rw [heq] at h
      dsimp only at h
      rw [not_or] at h
      have hcall : call.Meets scope (fun origin _ _ => ensureDidOrigin origin ≠ some did) origin' s :=
        RuntimeCall.meets_of_not_actsFor hr call hs h.1 h.2
      split
      . exact hcall
      . exact fun _ => hcall
    . trivial
  | .other call =>
    rw [RuntimeCall.Meets]
    trivial

theorem batchMeets_of_not_actsFor {scope : Scope} {r : DidRecord T} (hr : r.AuthenticatedBy key)
    (calls : List (RuntimeCall T.toTypes)) {origin : Origin T.toTypes} {kind : BatchKind}
    {s : State T} (hs : s.record did = r) (horigin : ensureDidOrigin origin ≠ some did)
    (h : ¬ BatchActsFor did key origin calls)
    : BatchMeets scope (fun origin _ _ => ensureDidOrigin origin ≠ some did) origin kind calls s := by
  match calls with
  | [] =>
    rw [BatchMeets]
    trivial
  | call :: calls =>
    rw [BatchActsFor, not_or] at h
    have hcall : call.Meets scope (fun origin _ _ => ensureDidOrigin origin ≠ some did) origin s :=
      RuntimeCall.meets_of_not_actsFor hr call hs horigin h.1
    rw [BatchMeets]
    split
    . next t hok =>
      have ht : t.record did = r := by
        apply RuntimeCall.dispatch_of_meets (record_rule r hr) call hs hcall hok
        exact []
      exact ⟨hcall, batchMeets_of_not_actsFor hr calls ht horigin h.2⟩
    . exact ⟨fun _ => hcall, fun _ => batchMeets_of_not_actsFor hr calls hs horigin h.2⟩

theorem Call.meets_of_not_actsFor {scope : Scope} {r : DidRecord T} (hr : r.AuthenticatedBy key)
    (call : Call T.toTypes) {origin : Origin T.toTypes} {s : State T} (hs : s.record did = r)
    (horigin : ensureDidOrigin origin ≠ some did) (h : ¬ call.ActsFor did key origin)
    : call.Meets scope (fun origin _ _ => ensureDidOrigin origin ≠ some did) origin s := by
  match call with
  | .submitDidCall did' txCounter call blockNumber submitter signature =>
    rw [Call.ActsFor, not_or, not_and] at h
    rw [Call.Meets]
    split
    . next t hok =>
      by_cases hdid : did' = did
      . -- Without the main key an operation of the DID makes no call of the pallet.
        subst hdid
        rw [← hs] at hr
        obtain ⟨k, hk, hleaves⟩ := authorizeDidCall_authentication hok hr (h.1 rfl)
        exact RuntimeCall.meets_of_derive hk call hleaves _ t
      . apply RuntimeCall.meets_of_not_actsFor hr call _ _ h.2
        . rw [authorizeDidCall_record hok]
          exact hs
        . exact fun heq => hdid (Option.some.inj heq)
    . trivial
  | .dispatchAs did' call =>
    rw [Call.ActsFor] at h
    rw [Call.Meets]
    split
    . next who t hok =>
      rw [authorizeDispatchAs_signed hok] at h
      dsimp only at h
      rw [not_or, not_and] at h
      cases authorizeDispatchAs_spec hok
      by_cases hdid : did' = did
      . subst hdid
        rw [← hs] at hr
        obtain ⟨k, hk, hleaves⟩ := authorizeDispatchAs_authentication hok hr (h.1 rfl)
        exact RuntimeCall.meets_of_derive hk call hleaves _ s
      . apply RuntimeCall.meets_of_not_actsFor hr call hs _ h.2
        exact fun heq => hdid (Option.some.inj heq)
    . trivial
  | .create _ _ => exact horigin
  | .setAuthenticationKey _ => exact horigin
  | .setDelegationKey _ => exact horigin
  | .removeDelegationKey => exact horigin
  | .setAssertionKey _ => exact horigin
  | .removeAssertionKey => exact horigin
  | .addKeyAgreementKey _ => exact horigin
  | .removeKeyAgreementKey _ => exact horigin
  | .addServiceEndpoint _ => exact horigin
  | .removeServiceEndpoint _ => exact horigin
  | .delete _ => exact horigin
  | .createFromAccount _ => exact horigin

end

/--
What is stored of a DID stays as it is throughout every run in which nobody acts for it with the key that
it is authenticated with: its keys, its service endpoints and their number, and that it is not deleted.
-/
theorem run_record_of_not_actsFor {details : DidDetails T.toTypes} {exts : List (Extrinsic T)}
    (hstored : s.did.get did = some details)
    (hkey : details.getVerificationKeyForKeyType .authentication = some key)
    (h : ∀ ext ∈ exts, ¬ ext.ActsFor did key)
    : (machine T).Always (fun t => t.record did = s.record did) s exts := by
  have hr : (s.record did).AuthenticatedBy key := by
    refine ⟨{ details with lastTxCounter := 0 }, ?_, hkey⟩
    simp [State.record, hstored]
  have hmeets := (Machine.meets_of_forall (M := machine T) (P := fun _ _ => True)
    (fun _ _ => trivial) s exts).and_forall h
  apply Machine.always_of_meets (I := fun t => t.record did = s.record did) _ rfl hmeets
  intro t ext t' ht hext hsucc
  have hacts := not_or.mp hext.1
  have hcall : ext.Meets .kept (fun origin _ _ => ensureDidOrigin origin ≠ some did) t :=
    RuntimeCall.meets_of_not_actsFor hr ext.call ht hacts.1 hacts.2
  exact Extrinsic.dispatch_of_meets (record_rule _ hr) ht hcall hsucc

section Plain

/-
The DID of the first account, and what the second account can try.
-/
def plainCreated : State .plain :=
  (machine .plain).run (State.genesis .plain ())
    [
      {
        origin := .signed (plainAccount 1)
        blockNumber := 1
        call := .did (.createFromAccount (.sr25519 (plainAccount 1)))
      }
    ]

def plainAttempt (call : RuntimeCall Config.plain.toTypes) : Extrinsic .plain where
  origin := .signed (plainAccount 2)
  blockNumber := 2
  call

def plainAttempts : List (Extrinsic .plain) :=
  [
    plainAttempt (.did (.dispatchAs (plainAccount 1) (.did (.delete 0)))),
    plainAttempt (.utility .forceBatch
      [
        .did (.submitDidCall (plainAccount 1) 1 (.did .removeAssertionKey) 1 (plainAccount 2)
          (.ed25519 (.replicate 64 0))),
        .did (.createFromAccount (.sr25519 (plainAccount 1)))
      ])
  ]

theorem plainAttempts_record
    : ∃ details,
        plainCreated.did.get (plainAccount 1) = some details ∧
        details.getVerificationKeyForKeyType .authentication = some (.sr25519 (plainAccount 1)) ∧
        (machine .plain).Always
          (fun t => t.record (plainAccount 1) = plainCreated.record (plainAccount 1))
          plainCreated plainAttempts := by
  have hstored : ∃ details, plainCreated.did.get (plainAccount 1) = some details ∧
      details.getVerificationKeyForKeyType .authentication =
        some (.sr25519 (plainAccount 1)) := ⟨_, rfl, rfl⟩
  obtain ⟨details, hstored, hkey⟩ := hstored
  refine ⟨details, hstored, hkey, run_record_of_not_actsFor hstored hkey ?_⟩
  have hne : plainAccount 2 ≠ plainAccount 1 := by decide
  intro ext hext
  simp only [plainAttempts, List.mem_cons, List.not_mem_nil, or_false] at hext
  rcases hext with rfl | rfl
  . simp [Extrinsic.ActsFor, plainAttempt, RuntimeCall.ActsFor, Call.ActsFor, ensureDidOrigin,
      ensureSigned, DidVerificationKey.intoAccount, hne]
  . simp [Extrinsic.ActsFor, plainAttempt, RuntimeCall.ActsFor, BatchActsFor, Call.ActsFor,
      ensureDidOrigin, DidVerificationKey.verifySignature]

end Plain

end Did
