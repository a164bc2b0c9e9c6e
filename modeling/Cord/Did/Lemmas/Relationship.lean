import Cord.Did.Impl.Runtime
import Cord.Did.Lemmas.Calls

/-!
This module contains the key relationship that is derived for a call: a batch is made with the one key
that all the calls in it ask for, however deep they are nested. Together with the checks that precede
the dispatch it follows that no call is made under a key that is not meant for it.
-/

open Frame

namespace Did

section Trees

variable {τ : Types}

mutual

def RuntimeCall.leaves : RuntimeCall τ → List (RuntimeCall τ)
  | .utility _ calls => batchLeaves calls
  | call => [call]

def batchLeaves : List (RuntimeCall τ) → List (RuntimeCall τ)
  | [] => []
  | call :: calls => call.leaves ++ batchLeaves calls

end

mutual

def RuntimeCall.BatchesNonempty : RuntimeCall τ → Prop
  | .utility _ calls => calls ≠ [] ∧ AllBatchesNonempty calls
  | _ => True

def AllBatchesNonempty : List (RuntimeCall τ) → Prop
  | [] => True
  | call :: calls => call.BatchesNonempty ∧ AllBatchesNonempty calls

end

def didCallable : List PalletCall := [
    .didName,
    .schema,
    .statement,
    .networkScore,
    .chainSpace .addDelegate,
    .chainSpace .addAdminDelegate,
    .chainSpace .addDelegator,
    .chainSpace .removeDelegate,
    .chainSpace .create,
    .chainSpace .archive,
    .chainSpace .restore,
    .chainSpace .subspaceCreate,
    .chainSpace .updateTransactionCapacity,
    .chainSpace .updateTransactionCapacitySub
  ]

def RuntimeCall.DidCallable (pallet : τ.OtherCall → PalletCall) : RuntimeCall τ → Prop
  | .did (.create _ _) => False
  | .did _ => True
  | .other call => pallet call ∈ didCallable
  | _ => False

end Trees

variable {T : Config} {k : DidVerificationKeyRelationship}

mutual

theorem RuntimeCall.derive_eq_ok_iff (call : RuntimeCall T.toTypes)
    : call.deriveVerificationKeyRelationship T = .ok k ↔
        call.BatchesNonempty ∧
          ∀ leaf ∈ call.leaves, leaf.deriveVerificationKeyRelationship T = .ok k := by
  match call with
  | .utility kind [] =>
    simp [RuntimeCall.deriveVerificationKeyRelationship, singleKeyRelationship,
      RuntimeCall.BatchesNonempty]
  | .utility kind (call :: calls) =>
    have hcall := RuntimeCall.derive_eq_ok_iff call
    have hcalls := sameKeyRelationship_eq_ok_iff calls
    simp only [RuntimeCall.deriveVerificationKeyRelationship, singleKeyRelationship,
      RuntimeCall.BatchesNonempty, AllBatchesNonempty, RuntimeCall.leaves, batchLeaves,
      List.forall_mem_append]
    cases hderive : call.deriveVerificationKeyRelationship T with
    | error err =>
      rw [hderive] at hcall
      simp only [reduceCtorEq, false_iff] at hcall ⊢
      tauto
    | ok init =>
      rw [hderive] at hcall
      dsimp only
      rw [hcalls init, ← Except.ok.injEq (ε := RelationshipDeriveError), hcall]
      simp only [ne_eq, reduceCtorEq, not_false_eq_true, true_and]
      tauto
  | .did call => simp [RuntimeCall.BatchesNonempty, RuntimeCall.leaves]
  | .proxied proxy call => simp [RuntimeCall.BatchesNonempty, RuntimeCall.leaves]
  | .other call => simp [RuntimeCall.BatchesNonempty, RuntimeCall.leaves]

theorem sameKeyRelationship_eq_ok_iff (calls : List (RuntimeCall T.toTypes))
    (acc : DidVerificationKeyRelationship)
    : sameKeyRelationship T acc calls = .ok k ↔
        acc = k ∧ AllBatchesNonempty calls ∧
          ∀ leaf ∈ batchLeaves calls, leaf.deriveVerificationKeyRelationship T = .ok k := by
  match calls with
  | [] => simp [sameKeyRelationship, AllBatchesNonempty, batchLeaves]
  | call :: calls =>
    have hcall := RuntimeCall.derive_eq_ok_iff call
    have hcalls := sameKeyRelationship_eq_ok_iff calls acc
    simp only [sameKeyRelationship, AllBatchesNonempty, batchLeaves, List.forall_mem_append]
    split
    . next heq =>
      rw [heq, Except.ok.injEq] at hcall
      rw [hcalls]
      tauto
    . next hne =>
      simp only [reduceCtorEq, false_iff]
      rintro ⟨rfl, ⟨hnonempty, _⟩, hleaves, _⟩
      exact hne (hcall.mpr ⟨hnonempty, hleaves⟩)

end

mutual

theorem RuntimeCall.ne_utility_of_mem_leaves {τ : Types} (call : RuntimeCall τ) {leaf : RuntimeCall τ}
    (h : leaf ∈ call.leaves) (kind : BatchKind) (calls : List (RuntimeCall τ))
    : leaf ≠ .utility kind calls := by
  match call with
  | .utility _ calls =>
    rw [RuntimeCall.leaves] at h
    exact ne_utility_of_mem_batchLeaves calls h kind _
  | .did _ =>
    rw [List.mem_singleton.mp h]
    nofun
  | .proxied _ _ =>
    rw [List.mem_singleton.mp h]
    nofun
  | .other _ =>
    rw [List.mem_singleton.mp h]
    nofun

theorem ne_utility_of_mem_batchLeaves {τ : Types} (calls : List (RuntimeCall τ))
    {leaf : RuntimeCall τ} (h : leaf ∈ batchLeaves calls) (kind : BatchKind)
    (calls' : List (RuntimeCall τ)) : leaf ≠ .utility kind calls' := by
  match calls with
  | [] => cases h
  | call :: calls =>
    rw [batchLeaves, List.mem_append] at h
    cases h with
    | inl h => exact RuntimeCall.ne_utility_of_mem_leaves call h kind calls'
    | inr h => exact ne_utility_of_mem_batchLeaves calls h kind calls'

end

variable {pallet : T.OtherCall → PalletCall}

theorem PalletCall.mem_didCallable_of_derive {call : PalletCall}
    (h : call.deriveVerificationKeyRelationship = .ok k) : call ∈ didCallable := by
  match call with
  | .chainSpace .approve => cases h
  | .chainSpace .resetTransactionCount => cases h
  | .chainSpace .approvalRevoke => cases h
  | .chainSpace .approvalRestore => cases h
  | .other => cases h
  | .didName => decide
  | .schema => decide
  | .statement => decide
  | .networkScore => decide
  | .chainSpace .addDelegate => decide
  | .chainSpace .addAdminDelegate => decide
  | .chainSpace .addDelegator => decide
  | .chainSpace .removeDelegate => decide
  | .chainSpace .create => decide
  | .chainSpace .archive => decide
  | .chainSpace .restore => decide
  | .chainSpace .subspaceCreate => decide
  | .chainSpace .updateTransactionCapacity => decide
  | .chainSpace .updateTransactionCapacitySub => decide

theorem RuntimeCall.didCallable_of_derive {leaf : RuntimeCall (T.runtime pallet).toTypes}
    (hleaf : ∀ kind calls, leaf ≠ .utility kind calls)
    (h : leaf.deriveVerificationKeyRelationship (T.runtime pallet) = .ok k)
    : leaf.DidCallable pallet := by
  match leaf with
  | .did call =>
    cases call with
    | create details signature => simp [RuntimeCall.deriveVerificationKeyRelationship] at h
    | _ => trivial
  | .utility kind calls => exact absurd rfl (hleaf kind calls)
  | .proxied proxy call => simp [RuntimeCall.deriveVerificationKeyRelationship] at h
  | .other call =>
    rw [RuntimeCall.deriveVerificationKeyRelationship] at h
    exact PalletCall.mem_didCallable_of_derive h

/-
What the DID asks for before it makes the calls of a tree with the key for `k`.
-/
def RuntimeCall.AllAskFor (pallet : T.OtherCall → PalletCall) (k : DidVerificationKeyRelationship)
    (call : RuntimeCall (T.runtime pallet).toTypes) : Prop :=
  call.BatchesNonempty ∧
    ∀ leaf ∈ call.leaves,
      leaf.deriveVerificationKeyRelationship (T.runtime pallet) = .ok k ∧ leaf.DidCallable pallet

theorem RuntimeCall.AllAskFor.of_derive {call : RuntimeCall (T.runtime pallet).toTypes}
    (h : call.deriveVerificationKeyRelationship (T.runtime pallet) = .ok k)
    : call.AllAskFor pallet k := by
  rw [RuntimeCall.derive_eq_ok_iff] at h
  refine ⟨h.1, ?_⟩
  intro leaf hleaf
  have hderive := h.2 leaf hleaf
  exact ⟨hderive, didCallable_of_derive (call.ne_utility_of_mem_leaves hleaf) hderive⟩

section Authorize

variable {s s' : State T} {origin : Origin T.toTypes}

theorem authorizeDidCall_key {operation : DidAuthorizedCallOperation T.toTypes}
    {signature : DidSignature}
    (h : Succeeds (authorizeDidCall origin operation signature) s () s')
    : ∃ k details key,
        operation.call.deriveVerificationKeyRelationship T = .ok k ∧
        s.did.get operation.did = some details ∧
        details.getVerificationKeyForKeyType k = some key ∧
        key.verifySignature T (T.encodeOperation operation) signature = .ok () := by
  simp only [authorizeDidCall, verifyDidOperationSignatureAndIncreaseNonce,
    validateBlockNumberValue, validateCounterValue, verifyPayloadSignatureWithDidKeyType,
    getVerificationKey, Succeeds.bind_iff, Succeeds.ensureOrigin_iff, Succeeds.ensure_iff,
    Succeeds.mapErr_iff, Succeeds.okOr_iff, Succeeds.get_iff, Succeeds.modify_iff, getDid_iff,
    and_assoc, exists_and_left, exists_eq_left, exists_const] at h
  obtain ⟨_, _, _, k, hderive, _, _, details, hstored, _, _, _, ⟨key, hkey, hverify, _⟩, _⟩ := h
  exact ⟨k, details, key, hderive, hstored, hkey, hverify⟩

theorem authorizeDispatchAs_key {did : T.DidIdentifier} {call : RuntimeCall T.toTypes}
    {who : T.AccountId} (h : Succeeds (authorizeDispatchAs origin did call) s who s')
    : ∃ k details key,
        call.deriveVerificationKeyRelationship T = .ok k ∧
        s.did.get did = some details ∧
        details.getVerificationKeyForKeyType k = some key ∧ who = key.intoAccount T := by
  simp only [authorizeDispatchAs, verifyAccountAuthorization, getVerificationKey,
    Succeeds.bind_iff, Succeeds.ensureOrigin_iff, Succeeds.ensure_iff, Succeeds.mapErr_iff,
    Succeeds.okOr_iff, Succeeds.pure_iff, getDid_iff, and_assoc, exists_and_left,
    exists_eq_left] at h
  obtain ⟨who, _, k, hderive, _, _, ⟨details, hstored, key, hkey, hwho, _⟩, rfl, _⟩ := h
  exact ⟨k, details, key, hderive, hstored, hkey, hwho⟩

end Authorize

/--
A call derives to a key relationship if and only if no batch in it is empty and all its leaves derive
to that relationship. So when `submit_did_call` or `dispatch_as` get to dispatch a call, all its leaves
can be made by a DID, and ask for the key that was used.
-/
theorem batch_keyRelationship (T : Config) (pallet : T.OtherCall → PalletCall)
    : (∀ (call : RuntimeCall (T.runtime pallet).toTypes) (k : DidVerificationKeyRelationship),
        call.deriveVerificationKeyRelationship (T.runtime pallet) = .ok k ↔
          call.BatchesNonempty ∧
            ∀ leaf ∈ call.leaves,
              leaf.deriveVerificationKeyRelationship (T.runtime pallet) = .ok k) ∧
      (∀ (origin : Origin (T.runtime pallet).toTypes)
        (operation : DidAuthorizedCallOperation (T.runtime pallet).toTypes)
        (signature : DidSignature) (s s' : State (T.runtime pallet)),
        Succeeds (authorizeDidCall origin operation signature) s () s' →
          ∃ k details key, operation.call.AllAskFor pallet k ∧
            s.did.get operation.did = some details ∧
            details.getVerificationKeyForKeyType k = some key ∧
            key.verifySignature (T.runtime pallet) ((T.runtime pallet).encodeOperation operation)
              signature = .ok ()) ∧
      (∀ (origin : Origin (T.runtime pallet).toTypes) (did : T.DidIdentifier)
        (call : RuntimeCall (T.runtime pallet).toTypes) (who : T.AccountId)
        (s s' : State (T.runtime pallet)),
        Succeeds (authorizeDispatchAs origin did call) s who s' →
          ∃ k details key, call.AllAskFor pallet k ∧
            s.did.get did = some details ∧
            details.getVerificationKeyForKeyType k = some key ∧
            who = key.intoAccount (T.runtime pallet)) := by
  refine ⟨?_, ?_, ?_⟩
  . intro call k
    apply RuntimeCall.derive_eq_ok_iff
  . intro origin operation signature s s' h
    obtain ⟨k, details, key, hderive, hrest⟩ := authorizeDidCall_key h
    exact ⟨k, details, key, .of_derive hderive, hrest⟩
  . intro origin did call who s s' h
    obtain ⟨k, details, key, hderive, hrest⟩ := authorizeDispatchAs_key h
    exact ⟨k, details, key, .of_derive hderive, hrest⟩

end Did
