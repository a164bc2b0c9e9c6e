import Cord.Did.Impl.Keys
import Cord.Frame.Dispatch

/-!
This module contains the integrity of the key set of a DID: the public keys that are stored are
those that a role refers to, each under its own identifier and of the kind that its role asks for.
-/

open Frame

namespace Did

namespace DidDetails

variable {τ : Types} {d d' : DidDetails τ}

def Verifies (d : DidDetails τ) (k : τ.KeyId) : Prop :=
  d.authenticationKey = k ∨ d.assertionKey = some k ∨ d.delegationKey = some k

def Uses (d : DidDetails τ) (k : τ.KeyId) : Prop :=
  d.Verifies k ∨ k ∈ d.keyAgreementKeys

variable (keyIdOf : DidPublicKey τ.AccountId → τ.KeyId)

/--
The integrity of the key set, up to the key `pending` that the roles refer to already but that is
still to be stored.
-/
structure WellKeyedUpTo (pending : Option τ.KeyId) (d : DidDetails τ) : Prop where
  used : ∀ k, (d.publicKeys.get k).isSome → d.Uses k
  keyed : ∀ k details, d.publicKeys.get k = some details → keyIdOf details.key = k
  verification : ∀ k, d.Verifies k → some k ≠ pending →
    ∃ key block, d.publicKeys.get k = some ⟨.publicVerificationKey key, block⟩
  agreement : ∀ k, k ∈ d.keyAgreementKeys → some k ≠ pending →
    ∃ key block, d.publicKeys.get k = some ⟨.publicEncryptionKey key, block⟩

abbrev WellKeyed (d : DidDetails τ) : Prop :=
  d.WellKeyedUpTo keyIdOf none

variable {keyIdOf}

theorem removeKeyIfUnused_eq (d : DidDetails τ) (k : τ.KeyId)
    : (d.Uses k ∧ d.removeKeyIfUnused k = d) ∨
        (¬ d.Uses k ∧ d.removeKeyIfUnused k = { d with publicKeys := d.publicKeys.remove k }) := by
  unfold removeKeyIfUnused Uses Verifies
  split
  . next h =>
    right
    exact ⟨by tauto, rfl⟩
  . next h =>
    left
    exact ⟨by tauto, rfl⟩

theorem WellKeyedUpTo.refer {d1 : DidDetails τ} {pending : Option τ.KeyId}
    (h : d.WellKeyed keyIdOf) (hpub : d1.publicKeys = d.publicKeys)
    (hverifies : ∀ k, d1.Verifies k → some k ≠ pending → d.Verifies k)
    (hagreement : ∀ k, k ∈ d1.keyAgreementKeys → some k ≠ pending → k ∈ d.keyAgreementKeys)
    (huses : ∀ k, d.Uses k → d1.Uses k)
    : d1.WellKeyedUpTo keyIdOf pending := by
  constructor
  . intro k hk
    rw [hpub] at hk
    exact huses k (h.used k hk)
  . intro k details hk
    rw [hpub] at hk
    exact h.keyed k details hk
  . intro k hk hne
    rw [hpub]
    exact h.verification k (hverifies k hk hne) nofun
  . intro k hk hne
    rw [hpub]
    exact h.agreement k (hagreement k hk hne) nofun

theorem WellKeyedUpTo.removeKeyIfUnused {d1 : DidDetails τ} {pending : Option τ.KeyId}
    {old : τ.KeyId} (h : d.WellKeyed keyIdOf) (hpub : d1.publicKeys = d.publicKeys)
    (hverifies : ∀ k, d1.Verifies k → some k ≠ pending → d.Verifies k)
    (hagreement : ∀ k, k ∈ d1.keyAgreementKeys → some k ≠ pending → k ∈ d.keyAgreementKeys)
    (huses : ∀ k, d.Uses k → d1.Uses k ∨ k = old)
    : (d1.removeKeyIfUnused old).WellKeyedUpTo keyIdOf pending := by
  rcases removeKeyIfUnused_eq d1 old with ⟨hold, heq⟩ | ⟨hold, heq⟩
  . rw [heq]
    apply h.refer hpub hverifies hagreement
    intro k hk
    rcases huses k hk with huse | rfl
    . exact huse
    . exact hold
  . rw [heq]
    have hget : ∀ k, d1.Uses k → (d1.publicKeys.remove old).get k = d.publicKeys.get k := by
      intro k hk
      rw [BoundedMap.get_remove, hpub, if_neg]
      rintro rfl
      exact hold hk
    constructor
    . intro k hk
      dsimp only at hk
      rw [BoundedMap.get_remove, hpub] at hk
      split at hk
      . cases hk
      . next hne =>
        rcases huses k (h.used k hk) with huse | rfl
        . exact huse
        . exact absurd rfl hne
    . intro k details hk
      dsimp only at hk
      rw [BoundedMap.get_remove, hpub] at hk
      split at hk
      . cases hk
      . exact h.keyed k details hk
    . intro k hk hne
      dsimp only
      rw [hget k (.inl hk)]
      exact h.verification k (hverifies k hk hne) nofun
    . intro k hk hne
      dsimp only
      rw [hget k (.inr hk)]
      exact h.agreement k (hagreement k hk hne) nofun

theorem insertKey_setKeyAgreementKeys {key : DidPublicKey τ.AccountId} {block : UInt32}
    {keyAgreementKeys : BoundedSet τ.KeyId τ.maxTotalKeyAgreementKeys}
    (h : d.insertKey keyIdOf key block = .ok d')
    : insertKey keyIdOf { d with keyAgreementKeys } key block =
        .ok { d' with keyAgreementKeys } := by
  unfold insertKey at h ⊢
  dsimp only
  split at h
  . next publicKeys hinsert =>
    injection h with h
    rw [← h]
  . cases h

theorem insertKey_spec {key : DidPublicKey τ.AccountId} {block : UInt32}
    (h : d.insertKey keyIdOf key block = .ok d')
    : ∃ publicKeys, d' = { d with publicKeys } ∧
        ∀ k, publicKeys.get k =
          if k = keyIdOf key then some ⟨key, block⟩ else d.publicKeys.get k := by
  unfold insertKey at h
  split at h
  . next publicKeys hinsert =>
    injection h with h
    exact ⟨publicKeys, h.symm, BoundedMap.get_tryInsert hinsert⟩
  . cases h

theorem addKeyAgreementKey_spec {key : DidEncryptionKey} {block : UInt32}
    (h : d.addKeyAgreementKey keyIdOf key block = .ok d')
    : ∃ d1 keyAgreementKeys, d.insertKey keyIdOf (.publicEncryptionKey key) block = .ok d1 ∧
        d1.keyAgreementKeys.tryInsert (keyIdOf (.publicEncryptionKey key)) =
          some keyAgreementKeys ∧
        d' = { d1 with keyAgreementKeys } := by
  obtain ⟨d1, hinsert, hrest⟩ := bind_eq_ok.mp h
  split at hrest
  . next keyAgreementKeys hset =>
    injection hrest with hrest
    exact ⟨d1, keyAgreementKeys, hinsert, hset, hrest.symm⟩
  . cases hrest

theorem WellKeyedUpTo.insertKey {key : DidPublicKey τ.AccountId} {block : UInt32}
    (h : d.WellKeyedUpTo keyIdOf (some (keyIdOf key))) (huses : d.Uses (keyIdOf key))
    (hverifies : d.Verifies (keyIdOf key) → ∃ k, key = .publicVerificationKey k)
    (hagreement : keyIdOf key ∈ d.keyAgreementKeys → ∃ k, key = .publicEncryptionKey k)
    (hok : d.insertKey keyIdOf key block = .ok d') : d'.WellKeyed keyIdOf := by
  obtain ⟨publicKeys, rfl, hget⟩ := insertKey_spec hok
  constructor
  . intro k hk
    dsimp only at hk
    rw [hget] at hk
    split at hk
    . next heq =>
      rw [heq]
      exact huses
    . exact h.used k hk
  . intro k details hk
    dsimp only at hk
    rw [hget] at hk
    split at hk
    . next heq =>
      injection hk with hk
      rw [← hk, heq]
    . exact h.keyed k details hk
  . intro k hk _
    dsimp only
    rw [hget]
    split
    . next heq =>
      subst heq
      obtain ⟨v, rfl⟩ := hverifies hk
      exact ⟨v, block, rfl⟩
    . next hne =>
      apply h.verification k hk
      intro heq
      injection heq with heq
      exact hne heq
  . intro k hk _
    dsimp only
    rw [hget]
    split
    . next heq =>
      subst heq
      obtain ⟨e, rfl⟩ := hagreement hk
      exact ⟨e, block, rfl⟩
    . next hne =>
      apply h.agreement k hk
      intro heq
      injection heq with heq
      exact hne heq

/-
Dropping a key does not touch the roles.
-/
section Frame

variable (k : τ.KeyId) (old : Option τ.KeyId)

@[simp]
theorem removeKeyIfUnused_authenticationKey
    : (d.removeKeyIfUnused k).authenticationKey = d.authenticationKey := by
  unfold removeKeyIfUnused
  split <;> rfl

@[simp]
theorem removeKeyIfUnused_assertionKey
    : (d.removeKeyIfUnused k).assertionKey = d.assertionKey := by
  unfold removeKeyIfUnused
  split <;> rfl

@[simp]
theorem removeKeyIfUnused_delegationKey
    : (d.removeKeyIfUnused k).delegationKey = d.delegationKey := by
  unfold removeKeyIfUnused
  split <;> rfl

@[simp]
theorem removeKeyIfUnused_keyAgreementKeys
    : (d.removeKeyIfUnused k).keyAgreementKeys = d.keyAgreementKeys := by
  unfold removeKeyIfUnused
  split <;> rfl

@[simp]
theorem removeKeyIfUnused_lastTxCounter
    : (d.removeKeyIfUnused k).lastTxCounter = d.lastTxCounter := by
  unfold removeKeyIfUnused
  split <;> rfl

end Frame

section Injective

variable (hinj : Function.Injective keyIdOf)
include hinj

theorem WellKeyedUpTo.verification_notMem_agreement (h : d.WellKeyed keyIdOf)
    (key : DidVerificationKey τ.AccountId)
    : keyIdOf (.publicVerificationKey key) ∉ d.keyAgreementKeys := by
  intro hmem
  obtain ⟨e, block, he⟩ := h.agreement _ hmem nofun
  have heq := hinj (h.keyed _ _ he)
  cases heq

theorem WellKeyedUpTo.encryption_not_verifies (h : d.WellKeyed keyIdOf) (key : DidEncryptionKey)
    : ¬ d.Verifies (keyIdOf (.publicEncryptionKey key)) := by
  intro hverifies
  obtain ⟨v, block, hv⟩ := h.verification _ hverifies nofun
  have heq := hinj (h.keyed _ _ hv)
  cases heq

theorem WellKeyedUpTo.insertVerificationKey {key : DidVerificationKey τ.AccountId}
    {block : UInt32} (h : d.WellKeyed keyIdOf)
    {d1 : DidDetails τ} (hagreement : d1.keyAgreementKeys = d.keyAgreementKeys)
    (h1 : d1.WellKeyedUpTo keyIdOf (some (keyIdOf (.publicVerificationKey key))))
    (hverifies : d1.Verifies (keyIdOf (.publicVerificationKey key)))
    (hok : d1.insertKey keyIdOf (.publicVerificationKey key) block = .ok d')
    : d'.WellKeyed keyIdOf := by
  apply h1.insertKey (.inl hverifies) _ _ hok
  . intro _
    exact ⟨key, rfl⟩
  . intro hmem
    rw [hagreement] at hmem
    exact absurd hmem (h.verification_notMem_agreement hinj key)

theorem WellKeyedUpTo.updateAuthenticationKey {key : DidVerificationKey τ.AccountId}
    {block : UInt32} (h : d.WellKeyed keyIdOf)
    (hok : d.updateAuthenticationKey keyIdOf key block = .ok d') : d'.WellKeyed keyIdOf := by
  apply h.insertVerificationKey hinj _ _ _ hok
  . rw [removeKeyIfUnused_keyAgreementKeys]
  . apply h.removeKeyIfUnused
    . rfl
    . rintro k (rfl | hk) hne
      . exact absurd rfl hne
      . exact .inr hk
    . intro k hk _
      exact hk
    . rintro k ((rfl | hk) | hk)
      . exact .inr rfl
      . exact .inl (.inl (.inr hk))
      . exact .inl (.inr hk)
  . left
    rw [removeKeyIfUnused_authenticationKey]

omit hinj in
theorem WellKeyedUpTo.clearAssertionKey (h : d.WellKeyed keyIdOf)
    : (removeOldKey { d with assertionKey := none } d.assertionKey).WellKeyed keyIdOf := by
  unfold removeOldKey
  split
  . next old hold =>
    apply h.removeKeyIfUnused
    . rfl
    . rintro k (hk | hk | hk) _
      . exact .inl hk
      . cases hk
      . exact .inr (.inr hk)
    . intro k hk _
      exact hk
    . rintro k ((hk | hk | hk) | hk)
      . exact .inl (.inl (.inl hk))
      . right
        rw [hold] at hk
        injection hk with hk
        exact hk.symm
      . exact .inl (.inl (.inr (.inr hk)))
      . exact .inl (.inr hk)
  . next hold =>
    rw [← hold]
    exact h

omit hinj in
theorem WellKeyedUpTo.clearDelegationKey (h : d.WellKeyed keyIdOf)
    : (removeOldKey { d with delegationKey := none } d.delegationKey).WellKeyed keyIdOf := by
  unfold removeOldKey
  split
  . next old hold =>
    apply h.removeKeyIfUnused
    . rfl
    . rintro k (hk | hk | hk) _
      . exact .inl hk
      . exact .inr (.inl hk)
      . cases hk
    . intro k hk _
      exact hk
    . rintro k ((hk | hk | hk) | hk)
      . exact .inl (.inl (.inl hk))
      . exact .inl (.inl (.inr (.inl hk)))
      . right
        rw [hold] at hk
        injection hk with hk
        exact hk.symm
      . exact .inl (.inr hk)
  . next hold =>
    rw [← hold]
    exact h

theorem WellKeyedUpTo.updateAssertionKey {key : DidVerificationKey τ.AccountId} {block : UInt32}
    (h : d.WellKeyed keyIdOf) (hok : d.updateAssertionKey keyIdOf key block = .ok d')
    : d'.WellKeyed keyIdOf := by
  have hclear := h.clearAssertionKey
  have hnone :
      (removeOldKey { d with assertionKey := none } d.assertionKey).assertionKey = none := by
    unfold removeOldKey
    split
    . rw [removeKeyIfUnused_assertionKey]
    . rfl
  apply hclear.insertVerificationKey hinj _ _ _ hok
  . rfl
  . apply hclear.refer
    . rfl
    . rintro k (hk | hk | hk) hne
      . exact .inl hk
      . exact absurd hk.symm hne
      . exact .inr (.inr hk)
    . intro k hk _
      exact hk
    . rintro k ((hk | hk | hk) | hk)
      . exact .inl (.inl hk)
      . rw [hnone] at hk
        cases hk
      . exact .inl (.inr (.inr hk))
      . exact .inr hk
  . exact .inr (.inl rfl)

theorem WellKeyedUpTo.updateDelegationKey {key : DidVerificationKey τ.AccountId} {block : UInt32}
    (h : d.WellKeyed keyIdOf) (hok : d.updateDelegationKey keyIdOf key block = .ok d')
    : d'.WellKeyed keyIdOf := by
  have hclear := h.clearDelegationKey
  have hnone :
      (removeOldKey { d with delegationKey := none } d.delegationKey).delegationKey = none := by
    unfold removeOldKey
    split
    . rw [removeKeyIfUnused_delegationKey]
    . rfl
  apply hclear.insertVerificationKey hinj _ _ _ hok
  . rfl
  . apply hclear.refer
    . rfl
    . rintro k (hk | hk | hk) hne
      . exact .inl hk
      . exact .inr (.inl hk)
      . exact absurd hk.symm hne
    . intro k hk _
      exact hk
    . rintro k ((hk | hk | hk) | hk)
      . exact .inl (.inl hk)
      . exact .inl (.inr (.inl hk))
      . rw [hnone] at hk
        cases hk
      . exact .inr hk
  . exact .inr (.inr rfl)

omit hinj in
theorem WellKeyedUpTo.removeAssertionKey (h : d.WellKeyed keyIdOf)
    (hok : d.removeAssertionKey = .ok d') : d'.WellKeyed keyIdOf := by
  have hclear := h.clearAssertionKey
  unfold DidDetails.removeAssertionKey at hok
  split at hok
  . next old hold =>
    injection hok with hok
    rw [hold] at hclear
    rw [← hok]
    exact hclear
  . cases hok

omit hinj in
theorem WellKeyedUpTo.removeDelegationKey (h : d.WellKeyed keyIdOf)
    (hok : d.removeDelegationKey = .ok d') : d'.WellKeyed keyIdOf := by
  have hclear := h.clearDelegationKey
  unfold DidDetails.removeDelegationKey at hok
  split at hok
  . next old hold =>
    injection hok with hok
    rw [hold] at hclear
    rw [← hok]
    exact hclear
  . cases hok

omit hinj in
theorem WellKeyedUpTo.removeKeyAgreementKey {keyId : τ.KeyId} (h : d.WellKeyed keyIdOf)
    (hok : d.removeKeyAgreementKey keyId = .ok d') : d'.WellKeyed keyIdOf := by
  unfold DidDetails.removeKeyAgreementKey at hok
  split at hok
  . injection hok with hok
    rw [← hok]
    apply h.removeKeyIfUnused
    . rfl
    . intro k hk _
      exact hk
    . intro k hk _
      exact ((BoundedSet.mem_remove _ _ _).mp hk).2
    . rintro k (hk | hk)
      . exact .inl (.inl hk)
      . by_cases heq : k = keyId
        . exact .inr heq
        . exact .inl (.inr ((BoundedSet.mem_remove _ _ _).mpr ⟨heq, hk⟩))
  . cases hok

theorem WellKeyedUpTo.addKeyAgreementKey {key : DidEncryptionKey} {block : UInt32}
    (h : d.WellKeyed keyIdOf) (hok : d.addKeyAgreementKey keyIdOf key block = .ok d')
    : d'.WellKeyed keyIdOf := by
  obtain ⟨d1, keyAgreementKeys, hinsert, hset, hd'⟩ := addKeyAgreementKey_spec hok
  obtain ⟨_, hd1, _⟩ := insertKey_spec hinsert
  have hmem : ∀ k, k ∈ keyAgreementKeys ↔
      k = keyIdOf (.publicEncryptionKey key) ∨ k ∈ d.keyAgreementKeys := by
    rw [hd1] at hset
    exact BoundedSet.mem_tryInsert hset
  rw [hd']
  apply WellKeyedUpTo.insertKey _ _ _ _ (insertKey_setKeyAgreementKeys hinsert)
  . apply h.refer
    . rfl
    . intro k hk _
      exact hk
    . intro k hk hne
      cases (hmem k).mp hk with
      | inl heq =>
        rw [heq] at hne
        exact absurd rfl hne
      | inr hold => exact hold
    . rintro k (hk | hk)
      . exact .inl hk
      . exact .inr ((hmem k).mpr (.inr hk))
  . exact .inr ((hmem _).mpr (.inl rfl))
  . intro hverifies
    exact absurd hverifies (h.encryption_not_verifies hinj key)
  . intro _
    exact ⟨key, rfl⟩

theorem WellKeyedUpTo.addKeyAgreementKeys {keys : List DidEncryptionKey} {block : UInt32}
    (h : d.WellKeyed keyIdOf) (hok : d.addKeyAgreementKeys keyIdOf keys block = .ok d')
    : d'.WellKeyed keyIdOf := by
  induction keys generalizing d with
  | nil =>
    injection hok with hok
    rw [← hok]
    exact h
  | cons key keys ih =>
    obtain ⟨d1, hadd, hrest⟩ := bind_eq_ok.mp hok
    exact ih (h.addKeyAgreementKey hinj hadd) hrest

omit hinj in
theorem WellKeyedUpTo.new {key : DidVerificationKey τ.AccountId} {block : UInt32}
    (hok : DidDetails.new keyIdOf key block = .ok d') : d'.WellKeyed keyIdOf := by
  apply WellKeyedUpTo.insertKey _ _ _ _ hok
  . constructor
    . intro k hk
      cases hk
    . intro k details hk
      cases hk
    . rintro k (rfl | hk | hk) hne
      . exact absurd rfl hne
      . cases hk
      . cases hk
    . intro k hk
      exact absurd hk (BoundedSet.notMem_empty k)
  . exact .inl (.inl rfl)
  . intro _
    exact ⟨key, rfl⟩
  . intro hk
    exact absurd hk (BoundedSet.notMem_empty _)

end Injective

theorem WellKeyedUpTo.getVerificationKey_authentication (h : d.WellKeyed keyIdOf)
    : (d.getVerificationKeyForKeyType .authentication).isSome := by
  obtain ⟨key, block, hkey⟩ := h.verification d.authenticationKey (.inl rfl) nofun
  simp [getVerificationKeyForKeyType, hkey]

/-
No update of the keys touches the nonce.
-/
section Nonce

variable {key : DidVerificationKey τ.AccountId} {block : UInt32}

theorem insertKey_lastTxCounter {key : DidPublicKey τ.AccountId}
    (h : d.insertKey keyIdOf key block = .ok d') : d'.lastTxCounter = d.lastTxCounter := by
  obtain ⟨_, rfl, _⟩ := insertKey_spec h
  rfl

theorem removeOldKey_lastTxCounter (d : DidDetails τ) (old : Option τ.KeyId)
    : (d.removeOldKey old).lastTxCounter = d.lastTxCounter := by
  unfold removeOldKey
  split
  . rw [removeKeyIfUnused_lastTxCounter]
  . rfl

theorem updateAuthenticationKey_lastTxCounter
    (h : d.updateAuthenticationKey keyIdOf key block = .ok d')
    : d'.lastTxCounter = d.lastTxCounter := by
  rw [insertKey_lastTxCounter h, removeKeyIfUnused_lastTxCounter]

theorem updateAssertionKey_lastTxCounter (h : d.updateAssertionKey keyIdOf key block = .ok d')
    : d'.lastTxCounter = d.lastTxCounter := by
  rw [insertKey_lastTxCounter h]
  dsimp only
  rw [removeOldKey_lastTxCounter]

theorem updateDelegationKey_lastTxCounter (h : d.updateDelegationKey keyIdOf key block = .ok d')
    : d'.lastTxCounter = d.lastTxCounter := by
  rw [insertKey_lastTxCounter h]
  dsimp only
  rw [removeOldKey_lastTxCounter]

theorem removeAssertionKey_lastTxCounter (h : d.removeAssertionKey = .ok d')
    : d'.lastTxCounter = d.lastTxCounter := by
  unfold removeAssertionKey at h
  split at h
  . injection h with h
    rw [← h, removeKeyIfUnused_lastTxCounter]
  . cases h

theorem removeDelegationKey_lastTxCounter (h : d.removeDelegationKey = .ok d')
    : d'.lastTxCounter = d.lastTxCounter := by
  unfold removeDelegationKey at h
  split at h
  . injection h with h
    rw [← h, removeKeyIfUnused_lastTxCounter]
  . cases h

theorem removeKeyAgreementKey_lastTxCounter {keyId : τ.KeyId}
    (h : d.removeKeyAgreementKey keyId = .ok d') : d'.lastTxCounter = d.lastTxCounter := by
  unfold removeKeyAgreementKey at h
  split at h
  . injection h with h
    rw [← h, removeKeyIfUnused_lastTxCounter]
  . cases h

theorem addKeyAgreementKey_lastTxCounter {key : DidEncryptionKey}
    (h : d.addKeyAgreementKey keyIdOf key block = .ok d')
    : d'.lastTxCounter = d.lastTxCounter := by
  obtain ⟨d1, _, hinsert, _, rfl⟩ := addKeyAgreementKey_spec h
  dsimp only
  rw [insertKey_lastTxCounter hinsert]

theorem addKeyAgreementKeys_lastTxCounter {keys : List DidEncryptionKey}
    (h : d.addKeyAgreementKeys keyIdOf keys block = .ok d')
    : d'.lastTxCounter = d.lastTxCounter := by
  induction keys generalizing d with
  | nil =>
    injection h with h
    rw [← h]
  | cons key keys ih =>
    obtain ⟨d1, hadd, hrest⟩ := bind_eq_ok.mp h
    rw [ih hrest, addKeyAgreementKey_lastTxCounter hadd]

theorem new_lastTxCounter (h : DidDetails.new keyIdOf key block = .ok d')
    : d'.lastTxCounter = 0 := by
  rw [insertKey_lastTxCounter h]

end Nonce

end DidDetails

end Did
