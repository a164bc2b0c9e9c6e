import Cord.Asset.Lemmas.Calls

/-!
This module contains what can happen to an instance that exists: who can give it to another owner,
and who can make it active again. Issuing does not look for an instance under the identifier it
writes, so this holds as long as nothing is issued under an identifier that is taken.
-/

open Frame Identifier
open ChainSpace (Client)

namespace Asset

variable {T : Config} {k k' : AssetKind} {p p' : Storage T} {s s' : State T} {origin : T.Origin}
  {call : Call T} {assetId instanceId : T.Ss58Identifier} {inst inst' : InstanceOf T k}

def Call.IsIssue : Call T → Prop
  | .issue .. | .vcIssue .. => True
  | _ => False

structure InstanceSafe (p : Storage T) (origin : T.Origin) (call : Call T) (k : AssetKind)
    (assetId instanceId : T.Ss58Identifier) (inst inst' : InstanceOf T k) : Prop where
  owner : inst'.assetInstanceOwner ≠ inst.assetInstanceOwner →
    ∃ entry digest, call = .transferOf k entry digest ∧ entry.assetId = assetId ∧
      entry.assetInstanceId = instanceId ∧ T.ensureAssetOrigin origin = some inst.assetInstanceOwner
  active : inst.assetInstanceStatus ≠ .active → inst'.assetInstanceStatus = .active →
    ∃ asset, call = .statusChangeOf k assetId (some instanceId) .active ∧
      (p.assetsOf k).get assetId = some asset ∧
      T.ensureAssetOrigin origin = some asset.assetIssuer
  issue : call.IsIssue → inst' = inst

def OwnershipSafe (p : Storage T) (origin : T.Origin) (call : Call T) (p' : Storage T) : Prop :=
  ∀ k assetId instanceId inst, (p.issuanceOf k).get (assetId, instanceId) = some inst →
    ∃ inst', (p'.issuanceOf k).get (assetId, instanceId) = some inst' ∧
      InstanceSafe p origin call k assetId instanceId inst inst'

def IssuesFresh (s : State T) (origin : T.Origin) (call : Call T) : Prop :=
  call.OnIssue fun k entry digest authorization =>
    ∀ id ∈ derivedInstance s origin entry digest authorization,
      (s.pallet.issuanceOf k).get (entry.assetId, id) = none

instance (s : State T) (origin : T.Origin) (call : Call T)
    : Decidable (IssuesFresh s origin call) :=
  inferInstanceAs (Decidable (call.OnIssue fun k entry digest authorization =>
    ∀ id ∈ derivedInstance s origin entry digest authorization,
      (s.pallet.issuanceOf k).get (entry.assetId, id) = none))

theorem InstanceSafe.refl : InstanceSafe p origin call k assetId instanceId inst inst where
  owner h := absurd rfl h
  active h1 h2 := absurd h2 h1
  issue _ := rfl

theorem OwnershipSafe.of_eq
    (h : ∀ k assetId instanceId inst, (p.issuanceOf k).get (assetId, instanceId) = some inst →
      (p'.issuanceOf k).get (assetId, instanceId) = some inst)
    : OwnershipSafe p origin call p' := by
  intro k assetId instanceId inst hget
  exact ⟨inst, h k assetId instanceId inst hget, .refl⟩

theorem OwnershipSafe.insertAsset {a : AssetOf T k} {distribution : DistributionMap T}
    {lookup : StorageMap T.Hash T.Ss58Identifier} {events : List (Event T)}
    : OwnershipSafe p origin call
        ((p.insertAsset assetId a).setRest distribution lookup events) := by
  apply OwnershipSafe.of_eq
  intro k assetId instanceId inst hget
  rw [Storage.setRest_issuanceOf, Storage.insertAsset_issuanceOf]
  exact hget

theorem OwnershipSafe.insertInstance {distribution : DistributionMap T}
    {lookup : StorageMap T.Hash T.Ss58Identifier} {events : List (Event T)}
    (hget : (p.issuanceOf k).get (assetId, instanceId) = some inst)
    (hsafe : InstanceSafe p origin call k assetId instanceId inst inst')
    : OwnershipSafe p origin call
        ((p.insertInstance assetId instanceId inst').setRest distribution lookup events) := by
  intro k' id id' inst'' hget''
  rw [Storage.setRest_issuanceOf]
  by_cases heq : k' = k ∧ id = assetId ∧ id' = instanceId
  . obtain ⟨rfl, rfl, rfl⟩ := heq
    rw [hget] at hget''
    injection hget'' with hget''
    rw [Storage.insertInstance_issuanceOf, StorageMap.get_insert_self, ← hget'']
    exact ⟨inst', rfl, hsafe⟩
  . rw [Storage.get_insertInstance_of_ne _ _ _ _ heq]
    exact ⟨inst'', hget'', .refl⟩

theorem Effect.ownershipSafe (hcall : IssuesFresh s origin call) (he : Effect s origin call p')
    : OwnershipSafe s.pallet origin call p' := by
  cases he with
  | create fresh unissued _ => apply OwnershipSafe.insertAsset
  | vcCreate fresh unissued _ => apply OwnershipSafe.insertAsset
  | issue get limit derived push =>
    unfold IssuesFresh at hcall
    rw [onIssue_issueOf] at hcall
    have hfresh := hcall _ derived
    apply OwnershipSafe.of_eq
    intro k assetId instanceId inst hget
    rw [Storage.setRest_issuanceOf, Storage.insertAsset_issuanceOf,
      Storage.get_insertInstance_of_ne]
    . exact hget
    . rintro ⟨rfl, rfl, rfl⟩
      rw [hfresh] at hget
      cases hget
  | @transfer k entry digest inst createdAt distribution lookup events get caller active _ =>
    apply OwnershipSafe.insertInstance get
    constructor
    . intro _
      exact ⟨entry, digest, rfl, rfl, rfl, caller⟩
    . intro hinactive
      exact absurd active hinactive
    . intro hissue
      cases k <;> cases hissue
  | @instanceStatus k assetId instId newStatus asset inst distribution lookup events getAsset caller
      get _ =>
    apply OwnershipSafe.insertInstance get
    constructor
    . intro hne
      rw [instance_withStatus_owner] at hne
      exact absurd rfl hne
    . intro _ hactive
      rw [instance_withStatus_status] at hactive
      rw [hactive]
      exact ⟨asset, rfl, getAsset, caller⟩
    . intro hissue
      cases k <;> cases hissue
  | assetStatus get _ => apply OwnershipSafe.insertAsset

def StepOwnershipSafe (s : State T) (ext : Extrinsic T) (s' : State T) : Prop :=
  -- A step of a run. The calls of the chain space pallet change no instance.
  match ext with
  | .chainSpace _ => ∀ k, s'.pallet.issuanceOf k = s.pallet.issuanceOf k
  | .pallet origin _ call => OwnershipSafe s.pallet origin call s'.pallet

/--
In every run in which nothing is issued under an identifier that is taken, an instance only changes
its owner by a transfer that the owner submits, and is only made active by the issuer of the asset.
-/
theorem run_ownershipSafe (exts : List (Extrinsic T))
    (h : (machine T).Meets (Client.Extrinsic.Meets IssuesFresh) (State.genesis T) exts)
    : (machine T).EveryStep StepOwnershipSafe (State.genesis T) exts := by
  apply Machine.everyStep_of_meets _ _ h
  . intro s ext
    cases ext with
    | chainSpace ext =>
      intro k
      rfl
    | pallet origin timepoint call =>
      apply OwnershipSafe.of_eq
      intro k assetId instanceId inst hget
      exact hget
  . intro s ext s' hext hs
    cases ext with
    | chainSpace ext =>
      intro k
      rw [Client.machine_chainSpace hs]
    | pallet origin timepoint call =>
      unfold machine at hs
      rw [Client.machine_pallet] at hs
      exact Effect.ownershipSafe (s := Client.atTime s timepoint) hext (dispatch_effect hs)

section Plain

def issueAndTransfer : List (Extrinsic .plain) :=
  plainSetup ++ [plainCreate 5 20, plainIssue 20 2 2 30,
    plainCall 2 (.transfer ⟨plainAsset 20, plainInstance 20 2 30, 2, 3⟩ [31]),
    plainIssue 20 2 2 32]

theorem issueAndTransfer_ownershipSafe
    : (machine .plain).EveryStep StepOwnershipSafe (State.genesis .plain) issueAndTransfer :=
  run_ownershipSafe issueAndTransfer (by decide +kernel)

def issueTransferred : List (Extrinsic .plain) :=
  -- An instance is transferred from `2` to `3`, and then issued to `2` again.
  plainSetup ++ [plainCreate 5 20, plainIssue 20 2 2 30,
    plainCall 2 (.transfer ⟨plainAsset 20, plainInstance 20 2 30, 2, 3⟩ [31])]

def transferredInstance (owner : UInt8) : InstanceOf .plain .plain :=
  ({
    assetInstanceDetail := plainEntry 2
    assetInstanceParent := plainAsset 20
    assetInstanceStatus := .active
    assetInstanceIssuer := 1
    assetInstanceOwner := owner
    createdAt := 1
  } : AssetDistributionEntry .plain)

theorem issueTransferred_not_ownershipSafe
    : ¬ ∀ exts : List (Extrinsic .plain),
        (machine .plain).EveryStep StepOwnershipSafe (State.genesis .plain) exts := by
  intro h
  have hlast := (h (issueTransferred ++ [plainIssue 20 2 2 30])).last
  obtain ⟨inst', hget, hsafe⟩ := hlast .plain (plainAsset 20) (plainInstance 20 2 30)
    (transferredInstance 3) (by decide +kernel)
  have hissued : (((machine .plain).run (State.genesis .plain)
      (issueTransferred ++ [plainIssue 20 2 2 30])).pallet.issuanceOf .plain).get
        (plainAsset 20, plainInstance 20 2 30) = some (transferredInstance 2) := by
    decide +kernel
  rw [hissued, hsafe.issue trivial] at hget
  revert hget
  decide

end Plain

end Asset
