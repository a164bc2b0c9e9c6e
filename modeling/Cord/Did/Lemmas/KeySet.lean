import Cord.Did.Lemmas.Dispatch

/-!
This module contains the integrity of the key sets of all DIDs that are stored in a reachable state.
-/

open Frame

namespace Did

variable {T : Config} {s s' : State T}

theorem DidDetails.WellKeyedUpTo.increaseTxCounter {τ : Types} {d : DidDetails τ}
    {keyIdOf : DidPublicKey τ.AccountId → τ.KeyId} (h : d.WellKeyed keyIdOf)
    : d.increaseTxCounter.WellKeyed keyIdOf :=
  ⟨h.used, h.keyed, h.verification, h.agreement⟩

def State.WellKeyed (s : State T) : Prop :=
  ∀ did details, s.did.get did = some details → details.WellKeyed (calculateKeyId T)

namespace State.WellKeyed

theorem insert {did : T.DidIdentifier} {details : DidDetails T.toTypes} (h : s.WellKeyed)
    (hdetails : details.WellKeyed (calculateKeyId T)) (hdid : s'.did = s.did.insert did details)
    : s'.WellKeyed := by
  intro did' details' hget
  rw [hdid, StorageMap.get_insert] at hget
  split at hget
  . injection hget with hget
    rw [← hget]
    exact hdetails
  . exact h did' details' hget

theorem remove {did : T.DidIdentifier} (h : s.WellKeyed) (hdid : s'.did = s.did.remove did)
    : s'.WellKeyed := by
  intro did' details' hget
  rw [hdid, StorageMap.get_remove] at hget
  split at hget
  . cases hget
  . exact h did' details' hget

theorem dispatchInvariant (hinj : Function.Injective (calculateKeyId T))
    : DispatchInvariant (T := T) (fun _ s => s.WellKeyed) where
  same := by
    intro _ s s' hsame h did details hget
    rw [hsame.did] at hget
    exact h did details hget
  step := by
    intro _ s s' hstep h
    cases hstep with
    | update hstored _ hkeys hdid =>
      apply h.insert _ hdid
      exact hkeys hinj (h _ _ hstored)
    | insert _ _ hinitial hdid =>
      apply h.insert _ hdid
      exact hinitial.keys hinj
    | delete hdid => exact h.remove hdid
  authorize := by
    intro _ operation details s s' hauthorized h
    apply h.insert _ hauthorized.did
    exact (h _ _ hauthorized.stored).increaseTxCounter
  complete := by
    intro _ operation s s' hdid _ _ h did details hget
    rw [hdid] at hget
    exact h did details hget

end State.WellKeyed

/--
The keys that are stored for a DID are those that its roles refer to, each under its own identifier
and of the kind its role asks for. In particular there is always a key to authenticate the DID with.
-/
theorem run_wellKeyed (hinj : Function.Injective (calculateKeyId T)) (world : T.World)
    (extrinsics : List (Extrinsic T)) (did : T.DidIdentifier) (d : DidDetails T.toTypes)
    (h : ((machine T).run (State.genesis T world) extrinsics).did.get did = some d)
    : (∀ k, (d.publicKeys.get k).isSome ↔
        d.authenticationKey = k ∨ d.assertionKey = some k ∨ d.delegationKey = some k ∨
          k ∈ d.keyAgreementKeys) ∧
      (∀ k details, d.publicKeys.get k = some details → calculateKeyId T details.key = k) ∧
      (∀ k, d.authenticationKey = k ∨ d.assertionKey = some k ∨ d.delegationKey = some k →
        ∃ key block, d.publicKeys.get k = some ⟨.publicVerificationKey key, block⟩) ∧
      (∀ k, k ∈ d.keyAgreementKeys →
        ∃ key block, d.publicKeys.get k = some ⟨.publicEncryptionKey key, block⟩) ∧
      (d.getVerificationKeyForKeyType .authentication).isSome := by
  have hgenesis : (State.genesis T world).WellKeyed := by
    intro did details hget
    cases hget
  have hd := (State.WellKeyed.dispatchInvariant hinj).run hgenesis extrinsics did d h
  have hverification := fun k hk => hd.verification k hk nofun
  have hagreement := fun k hk => hd.agreement k hk nofun
  refine ⟨?_, hd.keyed, hverification, hagreement, hd.getVerificationKey_authentication⟩
  intro k
  constructor
  . intro hk
    rcases hd.used k hk with (hrole | hrole | hrole) | hrole
    . exact .inl hrole
    . exact .inr (.inl hrole)
    . exact .inr (.inr (.inl hrole))
    . exact .inr (.inr (.inr hrole))
  . rintro (hrole | hrole | hrole | hrole)
    . obtain ⟨key, block, hkey⟩ := hverification k (.inl hrole)
      rw [hkey]
      rfl
    . obtain ⟨key, block, hkey⟩ := hverification k (.inr (.inl hrole))
      rw [hkey]
      rfl
    . obtain ⟨key, block, hkey⟩ := hverification k (.inr (.inr hrole))
      rw [hkey]
      rfl
    . obtain ⟨key, block, hkey⟩ := hagreement k hrole
      rw [hkey]
      rfl

theorem plain_calculateKeyId_injective : Function.Injective (calculateKeyId .plain) := by
  rintro ((k1 | k1 | k1 | k1) | ⟨⟨k1⟩⟩) ((k2 | k2 | k2 | k2) | ⟨⟨k2⟩⟩) h
  all_goals simp [calculateKeyId, Vector.toList_inj] at h
  all_goals rw [h]

def plainAccount (n : UInt8) : Bytes32 :=
  .replicate 32 n

def keyAgreementRun : List (Extrinsic .plain) :=
  [
    {
      origin := .signed (plainAccount 1)
      blockNumber := 1
      call := .did (.createFromAccount (.sr25519 (plainAccount 1)))
    },
    {
      origin := .signed (plainAccount 1)
      blockNumber := 2
      call := .did (.dispatchAs (plainAccount 1)
        (.did (.addKeyAgreementKey (.x25519 (plainAccount 2)))))
    }
  ]

theorem keyAgreementRun_wellKeyed
    : ∃ d, ((machine .plain).run (State.genesis .plain ()) keyAgreementRun).did.get
        (plainAccount 1) = some d ∧
      calculateKeyId .plain (.publicEncryptionKey (.x25519 (plainAccount 2))) ∈
        d.keyAgreementKeys ∧
      (d.getVerificationKeyForKeyType .authentication).isSome := by
  refine ⟨_, rfl, ?_, ?_⟩
  . decide +kernel
  . have h := run_wellKeyed plain_calculateKeyId_injective () keyAgreementRun (plainAccount 1) _ rfl
    exact h.2.2.2.2

end Did
