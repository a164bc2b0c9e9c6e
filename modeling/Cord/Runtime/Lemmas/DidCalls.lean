import Cord.ChainSpace.Lemmas.Calls
import Cord.Did.Lemmas.Calls
import Cord.Runtime.Impl.Did

/-!
This module contains which calls of the chain space pallet a DID can make. The pallet decides which calls
accept the origin of a DID, the runtime decides which key a DID needs for them, and a call that the
runtime has no key for cannot be made at all.
-/

open Frame

namespace Did

variable {T : Config} {s s' : State T}

/--
The operation was signed with the key for `k`: it is within its validity, has the next counter of the DID
and the signature is one of that key.
-/
structure CorrectlySigned (s : State T) (operation : DidAuthorizedCallOperation T.toTypes)
    (signature : DidSignature) (k : DidVerificationKeyRelationship) : Prop where
  block : operation.blockNumber ≤ s.blockNumber ∧
    s.blockNumber ≤ saturatingAdd32 operation.blockNumber T.maxBlocksTxValidity
  key : ∃ details key, s.did.get operation.did = some details ∧
    operation.txCounter = details.lastTxCounter + 1 ∧
    details.getVerificationKeyForKeyType k = some key ∧
    key.verifySignature T (T.encodeOperation operation) signature = .ok ()

theorem authorizeDidCall_succeeds {operation : DidAuthorizedCallOperation T.toTypes}
    {signature : DidSignature} {k : DidVerificationKeyRelationship}
    (hderive : operation.call.deriveVerificationKeyRelationship T = .ok k)
    (h : CorrectlySigned s operation signature k)
    : ∃ did, Succeeds (authorizeDidCall (.signed operation.submitter) operation signature) s ()
        { s with did } := by
  obtain ⟨hblock, details, key, hstored, hnonce, hkey, hverify⟩ := h
  simp only [authorizeDidCall, verifyDidOperationSignatureAndIncreaseNonce,
    validateBlockNumberValue, validateCounterValue, verifyPayloadSignatureWithDidKeyType,
    getVerificationKey, Succeeds.bind_iff, Succeeds.ensureOrigin_iff, Succeeds.ensure_iff,
    Succeeds.mapErr_iff, Succeeds.okOr_iff, Succeeds.get_iff, Succeeds.modify_iff, getDid_iff,
    and_assoc, exists_and_left, exists_eq_left, exists_const]
  exact ⟨_, operation.submitter, rfl, rfl, k, hderive, hblock.1, hblock.2, details, hstored, hnonce,
    (), s, ⟨key, hkey, hverify, rfl⟩, rfl⟩

theorem dispatchOther_iff {origin : Origin T.toTypes} {call : T.OtherCall}
    : Succeeds (RuntimeCall.dispatch origin (.other call)) s () s'
        ↔
      ∃ world, T.dispatchOther call origin s.world = some world ∧ s' = { s with world } := by
  simp only [RuntimeCall.dispatch, dispatchOther, Succeeds.bind_iff, Succeeds.get_iff,
    Succeeds.okOr_iff, Succeeds.modify_iff, and_assoc, exists_and_left, exists_eq_left]

theorem submitDidCall_succeeds {did : T.DidIdentifier} {txCounter : UInt64} {call : T.OtherCall}
    {blockNumber : UInt32} {submitter : T.AccountId} {signature : DidSignature}
    {k : DidVerificationKeyRelationship}
    (hderive : RuntimeCall.deriveVerificationKeyRelationship T (.other call) = .ok k)
    (hsigned : CorrectlySigned s ⟨did, txCounter, .other call, blockNumber, submitter⟩ signature k)
    (h : Succeeds (RuntimeCall.dispatch (.did did submitter) (.other call)) s () s')
    : ∃ s', Succeeds
        (Call.dispatch (.signed submitter)
          (.submitDidCall did txCounter (.other call) blockNumber submitter signature)) s () s' := by
  obtain ⟨did', hauthorize⟩ := authorizeDidCall_succeeds hderive hsigned
  obtain ⟨world, hworld, rfl⟩ := dispatchOther_iff.mp h
  -- The counter of the DID has changed in between, which the call does not look at.
  have hdispatch : Succeeds (RuntimeCall.dispatch (.did did submitter) (.other call))
      { s with did := did' } () { s with did := did', world } :=
    dispatchOther_iff.mpr ⟨world, hworld, rfl⟩
  simp only [Call.dispatch, completeDidCall, Succeeds.bind_iff, Succeeds.modify_iff,
    depositEvent_iff]
  exact ⟨_, (), _, hauthorize, (), _, hdispatch, (), _, rfl, rfl⟩

end Did

namespace ChainSpace

variable {T : Config} {s s' : State T} {origin : T.Origin} {creator : T.SpaceCreatorId}
  {call : Call T}

def Call.ResetsSubOf (call : Call T) (creator : T.SpaceCreatorId)
    (spaces : StorageMap T.Ss58Identifier (SpaceDetails T)) : Prop :=
  match call with
  | .resetTransactionCount spaceId =>
    ∃ d p, spaces.get spaceId = some d ∧ d.archive = false ∧ d.approved = true ∧
      spaceId ≠ d.parent ∧ spaces.get d.parent = some p ∧ p.creator = creator
  | _ => False

theorem resetTransactionCount_accepts_iff {spaceId : T.Ss58Identifier}
    (horigin : T.ensureOrigin origin = some creator) (hcouncil : T.chainSpaceOrigin origin = none)
    : (∃ s', Succeeds (resetTransactionCount origin spaceId) s () s')
        ↔
      (Call.resetTransactionCount spaceId).ResetsSubOf creator s.spaces := by
  simp only [resetTransactionCount, Succeeds.bind_iff, Succeeds.ensureOrigin_iff, getSpace_iff,
    Succeeds.ensure_iff, Succeeds.ite_iff, insertSpace_iff, updateActivity_iff, depositEvent_iff,
    Bool.not_eq_true', and_assoc, exists_and_left, exists_eq_left, exists_const, horigin, hcouncil,
    Option.some.injEq, exists_eq_left', reduceCtorEq, false_and, exists_false, and_false, or_false,
    Call.ResetsSubOf]
  constructor
  . rintro ⟨s', d, hd, hactive, happroved, hsub, p, hp, hcreator, _⟩
    exact ⟨d, hd, hactive, happroved, hsub, p, hp, hcreator⟩
  . rintro ⟨d, hd, hactive, happroved, hsub, p, hp, hcreator⟩
    exact ⟨_, d, hd, hactive, happroved, hsub, p, hp, hcreator, rfl⟩

/--
A call that succeeds for a DID is one that the runtime has a key for, or the reset of a sub space.
-/
theorem derive_or_resets (horigin : T.ensureOrigin origin = some creator)
    (hcouncil : T.chainSpaceOrigin origin = none) (h : Succeeds (call.dispatch origin) s () s')
    : (∃ k, (Did.PalletCall.chainSpace call.kind).deriveVerificationKeyRelationship = .ok k) ∨
        call.ResetsSubOf creator s.spaces := by
  cases call with
  | approve spaceId txnCapacity => simp [Call.dispatch, approve, hcouncil] at h
  | approvalRevoke spaceId => simp [Call.dispatch, approvalRevoke, hcouncil] at h
  | approvalRestore spaceId => simp [Call.dispatch, approvalRestore, hcouncil] at h
  | resetTransactionCount spaceId =>
    right
    exact (resetTransactionCount_accepts_iff horigin hcouncil).mp ⟨s', h⟩
  | _ =>
    left
    exact ⟨_, rfl⟩

end ChainSpace

namespace Runtime

variable {R : DidConfig} {s s' : Did.State R.toDid} {call : R.did.OtherCall}
  {spaceCall : ChainSpace.Call R.toSpace}

/--
If the call succeeds when it is made by the DID, there is a key for it, and whoever signs with that key
gets it done.
-/
def Performable (R : DidConfig) (s : Did.State R.toDid) (did : R.did.DidIdentifier)
    (submitter : R.did.AccountId) (call : R.did.OtherCall) : Prop :=
  (∃ s', Succeeds (Did.RuntimeCall.dispatch (T := R.toDid) (.did did submitter) (.other call)) s ()
      s') →
    ∃ k, Did.RuntimeCall.deriveVerificationKeyRelationship R.toDid (.other call) = .ok k ∧
      ∀ txCounter blockNumber signature,
        Did.CorrectlySigned s ⟨did, txCounter, .other call, blockNumber, submitter⟩ signature k →
          ∃ s', Succeeds
            (Did.Call.dispatch (T := R.toDid) (.signed submitter)
              (.submitDidCall did txCounter (.other call) blockNumber submitter signature)) s () s'

theorem DidConfig.dispatchOther_isSome_iff {origin : Did.Origin R.did.toTypes} {world : R.did.World}
    (h : R.space? call = some spaceCall)
    : (∃ world', R.dispatchOther call origin world = some world')
        ↔
      ∃ t, Succeeds (spaceCall.dispatch origin) (R.spaces world) () t := by
  unfold DidConfig.dispatchOther Succeeds
  rw [h]
  dsimp only
  constructor
  . rintro ⟨world', hworld⟩
    split at hworld
    . next t hrun => exact ⟨t, hrun⟩
    . cases hworld
  . rintro ⟨t, hrun⟩
    rw [hrun]
    exact ⟨_, rfl⟩

theorem dispatchSpace_iff {origin : Did.Origin R.did.toTypes} (h : R.space? call = some spaceCall)
    : (∃ s', Succeeds (Did.RuntimeCall.dispatch (T := R.toDid) origin (.other call)) s () s')
        ↔
      ∃ t, Succeeds (spaceCall.dispatch origin) (R.spaces s.world) () t := by
  rw [← DidConfig.dispatchOther_isSome_iff h]
  constructor
  . rintro ⟨s', hsucc⟩
    obtain ⟨world, hworld, _⟩ := Did.dispatchOther_iff.mp hsucc
    exact ⟨world, hworld⟩
  . rintro ⟨world, hworld⟩
    exact ⟨_, Did.dispatchOther_iff.mpr ⟨world, hworld, rfl⟩⟩

theorem derive_space (h : R.space? call = some spaceCall)
    : Did.RuntimeCall.deriveVerificationKeyRelationship R.toDid (.other call) =
        (Did.PalletCall.chainSpace spaceCall.kind).deriveVerificationKeyRelationship := by
  rw [Did.RuntimeCall.deriveVerificationKeyRelationship]
  have hpallet : R.palletCall call = .chainSpace spaceCall.kind := by
    unfold DidConfig.palletCall
    rw [h]
  exact congrArg Did.PalletCall.deriveVerificationKeyRelationship hpallet

theorem performable_iff {did : R.did.DidIdentifier} {submitter : R.did.AccountId}
    (h : R.space? call = some spaceCall)
    : Performable R s did submitter call ↔
        ¬ spaceCall.ResetsSubOf did (R.spaces s.world).spaces := by
  constructor
  . intro hperform hresets
    cases spaceCall with
    | resetTransactionCount spaceId =>
      have horigin : R.toSpace.ensureOrigin (.did did submitter) = some did := rfl
      have haccepts := (ChainSpace.resetTransactionCount_accepts_iff horigin rfl).mpr hresets
      obtain ⟨k, hderive, _⟩ := hperform ((dispatchSpace_iff h).mpr haccepts)
      rw [derive_space h] at hderive
      cases hderive
    | _ => exact hresets
  . rintro hresets ⟨s', hsucc⟩
    obtain ⟨t, ht⟩ := (dispatchSpace_iff h).mp ⟨s', hsucc⟩
    rcases ChainSpace.derive_or_resets rfl rfl ht with ⟨k, hderive⟩ | hreset
    . rw [← derive_space h] at hderive
      refine ⟨k, hderive, ?_⟩
      intro txCounter blockNumber signature hsigned
      exact Did.submitDidCall_succeeds hderive hsigned hsucc
    . exact absurd hreset hresets

/--
In every state of the runtime, a call of the chain space pallet that a DID would succeed with can be made
by that DID, exactly if it is not the reset of a sub space.
-/
theorem run_performable_iff (world : R.did.World) (exts : List (Did.Extrinsic R.toDid))
    (did : R.did.DidIdentifier) (submitter : R.did.AccountId) (h : R.space? call = some spaceCall)
    : Performable R ((Did.machine R.toDid).run (Did.State.genesis R.toDid world) exts) did submitter
          call
        ↔
      ¬ spaceCall.ResetsSubOf did
          (R.spaces ((Did.machine R.toDid).run (Did.State.genesis R.toDid world) exts).world).spaces :=
  performable_iff h

section Plain

def didRun : List (Did.Extrinsic DidConfig.plain.toDid) := [
    ⟨.signed (plainDid 1), 1, .did (.createFromAccount (.sr25519 (plainDid 1)))⟩,
    ⟨.signed (plainDid 1), 1, .did (.dispatchAs (plainDid 1) (.other 0))⟩,
    ⟨.other (), 1, .other 1⟩,
    ⟨.signed (plainDid 1), 1, .did (.dispatchAs (plainDid 1) (.other 2))⟩
  ]

def didState (exts : List (Did.Extrinsic DidConfig.plain.toDid)) : Did.State DidConfig.plain.toDid :=
  (Did.machine DidConfig.plain.toDid).run
    (Did.State.genesis DidConfig.plain.toDid (ChainSpace.State.genesis plainSpaces)) exts

theorem didRun_subspaceCreate_performable
    : (DidConfig.plain.dispatchOther 2 (.did (plainDid 1) (plainDid 1))
          (didState (didRun.take 3)).world).isSome = true ∧
        Performable .plain (didState (didRun.take 3)) (plainDid 1) (plainDid 1) 2 := by
  refine ⟨by decide +kernel, ?_⟩
  exact (@run_performable_iff .plain 2 _ _ _ _ _ rfl).mpr id

theorem didRun_reset_not_performable
    : plainCall 3 = some (.resetTransactionCount (didSpace 20)) ∧
        ¬ Performable .plain (didState didRun) (plainDid 1) (plainDid 1) 3 := by
  refine ⟨rfl, ?_⟩
  rw [@performable_iff .plain _ 3 _ _ _ rfl, not_not]
  refine ⟨⟨[20], plainDid 1, 10, 0, 0, true, false, didSpace 10⟩,
    ⟨[10], plainDid 1, 100, 10, 1, true, false, didSpace 10⟩, ?_⟩
  decide +kernel

end Plain

end Runtime
