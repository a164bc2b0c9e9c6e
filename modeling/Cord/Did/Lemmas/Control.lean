import Cord.Did.Lemmas.KeySet

/-!
This module contains who controls a DID that was just created: the key that it is authenticated with belongs
to the account that its identifier stands for, unless it was supplied by a caller to whom it does not belong.
-/

open Frame

namespace Did

section Keys

variable {τ : Types} {keyIdOf : DidPublicKey τ.AccountId → τ.KeyId} {d d' : DidDetails τ}
  {key : DidVerificationKey τ.AccountId} {block : UInt32}

variable (keyIdOf) in
/--
The details are authenticated with the key, which is stored among the public keys.
-/
structure DidDetails.Authenticates (d : DidDetails τ) (key : DidVerificationKey τ.AccountId) : Prop where
  role : d.authenticationKey = keyIdOf (.publicVerificationKey key)
  stored : ∃ block, d.publicKeys.get d.authenticationKey = some ⟨.publicVerificationKey key, block⟩

namespace DidDetails.Authenticates

theorem getVerificationKey (h : d.Authenticates keyIdOf key)
    : d.getVerificationKeyForKeyType .authentication = some key := by
  obtain ⟨block, hstored⟩ := h.stored
  simp [getVerificationKeyForKeyType, hstored]

theorem removeKeyIfUnused (h : d.Authenticates keyIdOf key) (k : τ.KeyId)
    : (d.removeKeyIfUnused k).Authenticates keyIdOf key := by
  rcases removeKeyIfUnused_eq d k with ⟨_, heq⟩ | ⟨hunused, heq⟩
  . rw [heq]
    exact h
  . rw [heq]
    have hne : d.authenticationKey ≠ k := fun hrole => hunused (.inl (.inl hrole))
    refine ⟨h.role, ?_⟩
    dsimp only
    rw [BoundedMap.get_remove, if_neg hne]
    exact h.stored

theorem removeOldKey (h : d.Authenticates keyIdOf key) (old : Option τ.KeyId)
    : (d.removeOldKey old).Authenticates keyIdOf key := by
  cases old with
  | none => exact h
  | some k => exact h.removeKeyIfUnused k

theorem insertKey (hinj : Function.Injective keyIdOf) (h : d.Authenticates keyIdOf key)
    {other : DidPublicKey τ.AccountId} (hok : d.insertKey keyIdOf other block = .ok d')
    : d'.Authenticates keyIdOf key := by
  obtain ⟨publicKeys, rfl, hget⟩ := insertKey_spec hok
  refine ⟨h.role, ?_⟩
  dsimp only
  rw [hget]
  split
  . next heq =>
    rw [h.role] at heq
    exact ⟨block, by rw [← hinj heq]⟩
  . exact h.stored

theorem addKeyAgreementKey (hinj : Function.Injective keyIdOf) (h : d.Authenticates keyIdOf key)
    {other : DidEncryptionKey} (hok : d.addKeyAgreementKey keyIdOf other block = .ok d')
    : d'.Authenticates keyIdOf key := by
  obtain ⟨d1, _, hinsert, _, rfl⟩ := addKeyAgreementKey_spec hok
  have h1 := h.insertKey hinj hinsert
  exact ⟨h1.role, h1.stored⟩

theorem addKeyAgreementKeys (hinj : Function.Injective keyIdOf) (h : d.Authenticates keyIdOf key)
    {others : List DidEncryptionKey} (hok : d.addKeyAgreementKeys keyIdOf others block = .ok d')
    : d'.Authenticates keyIdOf key := by
  induction others generalizing d with
  | nil =>
    injection hok with hok
    rw [← hok]
    exact h
  | cons other others ih =>
    obtain ⟨d1, hadd, hrest⟩ := bind_eq_ok.mp hok
    exact ih (h.addKeyAgreementKey hinj hadd) hrest

theorem updateAssertionKey (hinj : Function.Injective keyIdOf) (h : d.Authenticates keyIdOf key)
    {other : DidVerificationKey τ.AccountId} (hok : d.updateAssertionKey keyIdOf other block = .ok d')
    : d'.Authenticates keyIdOf key := by
  unfold DidDetails.updateAssertionKey at hok
  have hcleared : Authenticates keyIdOf { d with assertionKey := none } key := ⟨h.role, h.stored⟩
  have hold := hcleared.removeOldKey d.assertionKey
  apply insertKey hinj _ hok
  exact ⟨hold.role, hold.stored⟩

theorem updateDelegationKey (hinj : Function.Injective keyIdOf) (h : d.Authenticates keyIdOf key)
    {other : DidVerificationKey τ.AccountId} (hok : d.updateDelegationKey keyIdOf other block = .ok d')
    : d'.Authenticates keyIdOf key := by
  unfold DidDetails.updateDelegationKey at hok
  have hcleared : Authenticates keyIdOf { d with delegationKey := none } key := ⟨h.role, h.stored⟩
  have hold := hcleared.removeOldKey d.delegationKey
  apply insertKey hinj _ hok
  exact ⟨hold.role, hold.stored⟩

theorem new (hok : DidDetails.new keyIdOf key block = .ok d') : d'.Authenticates keyIdOf key := by
  obtain ⟨publicKeys, rfl, hget⟩ := insertKey_spec hok
  refine ⟨rfl, block, ?_⟩
  dsimp only
  rw [hget, if_pos rfl]

end DidDetails.Authenticates

end Keys

variable {T : Config} {s s' : State T} {origin : Origin T.toTypes} {did : T.DidIdentifier}
  {key : DidVerificationKey T.AccountId}

theorem newWithCreationDetails_authenticates (hinj : Function.Injective (calculateKeyId T))
    {details : DidCreationDetails T.toTypes} {block : UInt32} {d' : DidDetails T.toTypes}
    (h : newWithCreationDetails T details key block = .ok d')
    : d'.Authenticates (calculateKeyId T) key := by
  apply newWithCreationDetails_rule _ _ _ _ h
  . intro d hnew
    exact .new hnew
  . intro keys d d' hd hadd
    exact hd.addKeyAgreementKeys hinj hadd
  . intro other d d' hd hupdate
    exact hd.updateAssertionKey hinj hupdate
  . intro other d d' hd hupdate
    exact hd.updateDelegationKey hinj hupdate

section Control

/--
An identifier is an account, and an account is its 32 bytes.
-/
structure Config.IdentifiersAreAccounts (T : Config) : Prop where
  didOfAccount_injective : Function.Injective T.didOfAccount
  didOfAccount_accountOfBytes : ∀ did, T.didOfAccount (T.accountOfBytes (T.didBytes did)) = did

/--
The key that a DID is authenticated with belongs to the account of its identifier.
-/
def State.Controlled (s : State T) (did : T.DidIdentifier) : Prop :=
  ∃ details key, s.did.get did = some details ∧
    details.getVerificationKeyForKeyType .authentication = some key ∧
    T.didOfAccount (key.intoAccount T) = did

def Call.creates (origin : Origin T.toTypes) (call : Call T.toTypes) : Option T.DidIdentifier :=
  match call with
  | .create details _ => some details.did
  | .createFromAccount _ => (ensureSigned origin).map T.didOfAccount
  | _ => none

def Call.SuppliesOwnKey (T : Config) (origin : Origin T.toTypes) (call : Call T.toTypes) : Prop :=
  match call with
  | .createFromAccount key => ensureSigned origin = some (key.intoAccount T)
  | _ => True

theorem intoAccount_of_verifyAndRecoverSignature {payload : Payload} {signature : DidSignature}
    (h : verifyAndRecoverSignature T did payload signature = .ok key)
    : key.intoAccount T = T.accountOfBytes (T.didBytes did) := by
  unfold verifyAndRecoverSignature at h
  dsimp only at h
  cases signature with
  | ed25519 sig | sr25519 sig =>
    obtain ⟨_, _, h⟩ := bind_eq_ok.mp h
    injection h with h
    rw [← h]
    rfl
  | ecdsa sig =>
    dsimp only at h
    split at h
    . split at h
      . next heq =>
        injection h with h
        rw [← h, ← heq]
        rfl
      . cases h
    . cases h

theorem tryInsertDid_stored {details : DidDetails T.toTypes} {sender : T.AccountId}
    (h : Succeeds (tryInsertDid did details sender) s () s') : s'.did.get did = some details := by
  simp only [tryInsertDid, Succeeds.bind_iff, Succeeds.get_iff, Succeeds.ensure_iff,
    Succeeds.modify_iff, depositEvent_iff, and_assoc, exists_and_left, exists_eq_left,
    exists_const] at h
  obtain ⟨_, _, rfl⟩ := h
  exact StorageMap.get_insert_self ..

theorem controlled_iff {details : DidDetails T.toTypes} (hstored : s.did.get did = some details)
    (hkey : details.Authenticates (calculateKeyId T) key)
    : s.Controlled did ↔ T.didOfAccount (key.intoAccount T) = did := by
  constructor
  . rintro ⟨details', key', hstored', hkey', hdid⟩
    rw [hstored] at hstored'
    injection hstored' with hstored'
    rw [← hstored', hkey.getVerificationKey] at hkey'
    injection hkey' with hkey'
    rw [hkey']
    exact hdid
  . intro hdid
    exact ⟨details, key, hstored, hkey.getVerificationKey, hdid⟩

theorem create_controlled (hT : T.IdentifiersAreAccounts) (hinj : Function.Injective (calculateKeyId T))
    {details : DidCreationDetails T.toTypes} {signature : DidSignature}
    (h : Succeeds (create origin details signature) s () s') : s'.Controlled details.did := by
  simp only [create, Succeeds.bind_iff, Succeeds.ensureOrigin_iff, Succeeds.mapErr_iff,
    Succeeds.get_iff, Succeeds.modify_iff, and_assoc, exists_and_left, exists_eq_left,
    exists_const] at h
  obtain ⟨sender, _, _, _, key, hkey, _, _, d, hd, hinsert⟩ := h
  rw [controlled_iff (tryInsertDid_stored hinsert) (newWithCreationDetails_authenticates hinj hd)]
  rw [intoAccount_of_verifyAndRecoverSignature hkey]
  exact hT.didOfAccount_accountOfBytes details.did

theorem createFromAccount_controlled_iff (hT : T.IdentifiersAreAccounts) {sender : T.AccountId}
    (hsender : ensureSigned origin = some sender)
    (h : Succeeds (createFromAccount origin key) s () s')
    : s'.Controlled (T.didOfAccount sender) ↔ key.intoAccount T = sender := by
  simp only [createFromAccount, Succeeds.bind_iff, Succeeds.ensureOrigin_iff, Succeeds.mapErr_iff,
    Succeeds.get_iff, and_assoc, exists_and_left, exists_eq_left, hsender, Option.some.injEq,
    exists_eq_left'] at h
  obtain ⟨d, hd, hinsert⟩ := h
  rw [controlled_iff (tryInsertDid_stored hinsert) (.new hd)]
  exact hT.didOfAccount_injective.eq_iff

/--
A DID that is created from a signature is controlled by its account. One that is created from an account is
if and only if the key that the account has supplied is its own, which nobody checks.
-/
theorem created_controlled_iff (hT : T.IdentifiersAreAccounts)
    (hinj : Function.Injective (calculateKeyId T)) (s s' : State T) (origin : Origin T.toTypes)
    (call : Call T.toTypes) (did : T.DidIdentifier) (hcreates : call.creates origin = some did)
    (h : Succeeds (call.dispatch origin) s () s')
    : s'.Controlled did ↔ call.SuppliesOwnKey T origin := by
  cases call with
  | create details signature =>
    injection hcreates with hcreates
    rw [← hcreates]
    simp only [Call.dispatch] at h
    exact iff_of_true (create_controlled hT hinj h) trivial
  | createFromAccount key =>
    obtain ⟨sender, hsender, rfl⟩ := Option.map_eq_some_iff.mp hcreates
    simp only [Call.dispatch] at h
    rw [createFromAccount_controlled_iff hT hsender h]
    change _ ↔ ensureSigned origin = some (key.intoAccount T)
    rw [hsender, Option.some.injEq]
    exact eq_comm
  | _ => cases hcreates

end Control

section Plain

theorem plain_identifiersAreAccounts : Config.plain.IdentifiersAreAccounts where
  didOfAccount_injective := Function.injective_id
  didOfAccount_accountOfBytes _ := rfl

def fromAccount (key : DidVerificationKey Bytes32) : Call Config.plain.toTypes :=
  .createFromAccount key

theorem ownKey_controlled
    : ∃ s', Succeeds ((fromAccount (.sr25519 (plainAccount 1))).dispatch (.signed (plainAccount 1)))
          (State.genesis .plain ()) () s' ∧
        s'.Controlled (plainAccount 1) := by
  have hsucc : ∃ s', Succeeds
      ((fromAccount (.sr25519 (plainAccount 1))).dispatch (.signed (plainAccount 1)))
      (State.genesis .plain ()) () s' := ⟨_, rfl⟩
  obtain ⟨s', hsucc⟩ := hsucc
  refine ⟨s', hsucc, ?_⟩
  rw [created_controlled_iff plain_identifiersAreAccounts plain_calculateKeyId_injective _ s'
    (.signed (plainAccount 1)) _ (plainAccount 1) rfl hsucc]
  rfl

/- The DID of the first account is created with the key of the second one. -/
theorem otherKey_not_controlled
    : ∃ s', Succeeds ((fromAccount (.sr25519 (plainAccount 2))).dispatch (.signed (plainAccount 1)))
          (State.genesis .plain ()) () s' ∧
        ¬ s'.Controlled (plainAccount 1) := by
  have hsucc : ∃ s', Succeeds (createFromAccount (.signed (plainAccount 1))
      (.sr25519 (plainAccount 2))) (State.genesis .plain ()) () s' := ⟨_, rfl⟩
  obtain ⟨s', hsucc⟩ := hsucc
  refine ⟨s', hsucc, ?_⟩
  intro hcontrolled
  have hkey := (createFromAccount_controlled_iff plain_identifiersAreAccounts rfl hsucc).mp hcontrolled
  exact absurd hkey (by decide)

end Plain

end Did
