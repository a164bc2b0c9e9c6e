import Cord.NetworkScore.Lemmas.Calls

/-!
This module contains the index of the messages that were rated. A call looks up the message for the
provider who makes the call, and writes it for the provider that the entry names.
-/

open Frame Identifier
open ChainSpace (Client)

namespace NetworkScore

variable {T : Config} {s s' : State T} {p p' : Storage T} {origin : T.Origin} {call : Call T}
  {messageId : EncodedValue T} {identifier : T.Ss58Identifier} {record : RatingEntry T}

def MessagesKept (p p' : Storage T) : Prop :=
  ∀ key id, p.messageIdentifiers.get key = some id → p'.messageIdentifiers.get key = some id

structure Storage.Agrees (p : Storage T) : Prop where
  indexed : ∀ messageId providerDid id,
    p.messageIdentifiers.get (messageId, providerDid) = some id →
      ∃ r, p.ratingEntries.get id = some r ∧ r.messageId = messageId ∧
        r.entry.providerDid = providerDid
  listed : ∀ id r, p.ratingEntries.get id = some r →
    p.messageIdentifiers.get (r.messageId, r.entry.providerDid) = some id

def Storage.UnusedFor (p : Storage T) (origin : T.Origin) (messageId : EncodedValue T)
    (providerDid : T.SpaceCreatorId) : Prop :=
  -- Either the provider makes the call, or the provider has not rated the message.
  (∃ creator, T.ensureScoreOrigin origin = some (providerDid, creator)) ∨
    p.messageIdentifiers.get (messageId, providerDid) = none

section Anchors

variable (h : Anchors p origin messageId record identifier p')

include h

theorem Anchors.unusedFor_iff
    : p.UnusedFor origin messageId record.entry.providerDid ↔
        p.messageIdentifiers.get (messageId, record.entry.providerDid) = none := by
  constructor
  . rintro (⟨creator, hcaller⟩ | hnone)
    . obtain ⟨provider, creator', hcaller', hunused⟩ := h.unused
      rw [hcaller] at hcaller'
      injection hcaller' with hcaller'
      injection hcaller' with hprovider _
      rw [hprovider]
      exact hunused
    . exact hnone
  . exact Or.inr

theorem Anchors.get_message
    : p'.messageIdentifiers.get (messageId, record.entry.providerDid) = some identifier := by
  rw [h.messageIdentifiers, StorageMap.get_insert_self]

theorem Anchors.messagesKept
    (hunused : p.messageIdentifiers.get (messageId, record.entry.providerDid) = none)
    : MessagesKept p p' := by
  intro key id hget
  rw [h.messageIdentifiers, StorageMap.get_insert_of_ne]
  . exact hget
  . exact StorageMap.ne_of_get hunused hget

theorem Anchors.messagesKept_iff (hp : Recorded p)
    : MessagesKept p p' ↔ p.UnusedFor origin messageId record.entry.providerDid := by
  rw [h.unusedFor_iff]
  constructor
  . intro hkept
    by_contra hused
    obtain ⟨id, hid⟩ := Option.ne_none_iff_exists'.mp hused
    have heq := hkept _ _ hid
    rw [h.get_message] at heq
    injection heq with heq
    have hsome := hp.indexed _ _ hid
    rw [← heq, h.fresh] at hsome
    cases hsome
  . intro hunused
    exact h.messagesKept hunused

theorem Anchors.agrees_iff (hp : p.Agrees) (hmessage : record.messageId = messageId)
    : p'.Agrees ↔ p.UnusedFor origin messageId record.entry.providerDid := by
  rw [h.unusedFor_iff]
  constructor
  . intro hp'
    by_contra hused
    obtain ⟨id, hid⟩ := Option.ne_none_iff_exists'.mp hused
    obtain ⟨r, hget, hr, hprovider⟩ := hp.indexed _ _ _ hid
    have heq := hp'.listed id r (h.get_of_get hget)
    rw [hr, hprovider, h.get_message] at heq
    injection heq with heq
    rw [← heq, h.fresh] at hget
    cases hget
  . intro hunused
    constructor
    . intro m provider id hget
      rw [h.messageIdentifiers, StorageMap.get_insert] at hget
      split at hget
      . next heq =>
        injection heq with hm hprovider
        injection hget with hget
        rw [← hget, hm, hprovider]
        exact ⟨record, h.get_self, hmessage, rfl⟩
      . obtain ⟨r, hr, hrest⟩ := hp.indexed m provider id hget
        exact ⟨r, h.get_of_get hr, hrest⟩
    . intro id r hget
      rcases h.get_cases hget with ⟨rfl, rfl⟩ | hget
      . rw [hmessage]
        exact h.get_message
      . apply h.messagesKept hunused
        exact hp.listed id r hget

theorem Anchors.not_agrees {target : T.Ss58Identifier} {details : RatingEntry T}
    (hget : p.ratingEntries.get target = some details) (hentry : record.entry = details.entry)
    (hmessage : record.messageId = details.messageId) : ¬ p'.Agrees := by
  -- A copy of an entry is indexed under the message of the entry, or the entry itself is not any
  -- more.
  intro hp'
  have hrecord := hp'.listed identifier record h.get_self
  have hdetails := hp'.listed target details (h.get_of_get hget)
  rw [hentry, hmessage, hdetails] at hrecord
  injection hrecord with heq
  rw [heq, h.fresh] at hget
  cases hget

end Anchors

def MessageUnused (s : State T) (origin : T.Origin) (call : Call T) : Prop :=
  match call with
  | .registerRating entry _ messageId _ | .reviseRating entry _ messageId _ _ =>
    s.pallet.UnusedFor origin messageId entry.providerDid
  | .revokeRating entryIdentifier messageId _ _ =>
    ∀ details ∈ s.pallet.ratingEntries.get entryIdentifier,
      s.pallet.UnusedFor origin messageId details.entry.providerDid

theorem Effect.messagesKept_iff (hs : Recorded s.pallet) (h : Effect s.pallet origin call p')
    : MessagesKept s.pallet p' ↔ MessageUnused s origin call := by
  cases h with
  | register anchors entry_eq message credit reference =>
    rw [anchors.messagesKept_iff hs, entry_eq]
    rfl
  | revoke get anchors entry_eq message debit reference =>
    rw [anchors.messagesKept_iff hs, entry_eq]
    simp [MessageUnused, get]
  | revise get debit anchors entry_eq message credit reference =>
    rw [anchors.messagesKept_iff hs, entry_eq]
    rfl

/--
A message of a provider stays mapped to its entry in exactly those runs in which whoever makes a call
for another provider uses a message that this provider has not rated.
-/
theorem run_messagesKept_iff (exts : List (Extrinsic T))
    : (machine T).EveryStep (fun s _ s' => MessagesKept s.pallet s'.pallet) (State.genesis T) exts ↔
        (machine T).Meets (Client.Extrinsic.Meets MessageUnused) (State.genesis T) exts := by
  apply Machine.everyStep_iff_meets (J := fun s : State T => Recorded s.pallet)
  . intro s ext _ key id hget
    exact hget
  . intro s ext s' hs h
    exact hs.step h
  . intro s ext s' hs h
    cases ext with
    | chainSpace ext =>
      rw [Client.machine_chainSpace h]
      apply iff_of_true _ trivial
      intro key id hget
      exact hget
    | pallet origin timepoint call =>
      unfold machine at h
      rw [Client.machine_pallet] at h
      exact Effect.messagesKept_iff (s := Client.atTime s timepoint) hs (dispatch_effect h)
  . exact genesis_recorded

def IndexesOnce (s : State T) (origin : T.Origin) (call : Call T) : Prop :=
  match call with
  | .registerRating entry _ messageId _ | .reviseRating entry _ messageId _ _ =>
    s.pallet.UnusedFor origin messageId entry.providerDid
  | .revokeRating .. => False

theorem Effect.agrees_iff (hs : s.pallet.Agrees) (h : Effect s.pallet origin call p')
    : p'.Agrees ↔ IndexesOnce s origin call := by
  cases h with
  | register anchors entry_eq message credit reference =>
    rw [anchors.agrees_iff hs message, entry_eq]
    rfl
  | revoke get anchors entry_eq message debit reference =>
    exact iff_of_false (anchors.not_agrees get entry_eq message) not_false
  | revise get debit anchors entry_eq message credit reference =>
    rw [anchors.agrees_iff hs message, entry_eq]
    rfl

theorem genesis_agrees : (State.genesis T).pallet.Agrees := by
  constructor
  . intro m provider id hget
    cases hget
  . intro id r hget
    cases hget

/--
The index and the ledger agree in every state of exactly those runs in which no rating is revoked and
no message is mapped to another entry.
-/
theorem run_agrees_iff (exts : List (Extrinsic T))
    : (machine T).Always (fun s => s.pallet.Agrees) (State.genesis T) exts ↔
        (machine T).Meets (Client.Extrinsic.Meets IndexesOnce) (State.genesis T) exts := by
  apply Client.always_iff_meets (J := fun _ => True)
  . intros
    trivial
  . intro s origin call s' _ hs h
    exact (dispatch_effect h).agrees_iff hs
  . trivial
  . exact genesis_agrees

section Plain

def rateForAnother : List (Extrinsic .plain) :=
  plainSetup ++ [plainRegister 2 1 20 30]

theorem rateForAnother_not_messagesKept
    : ¬ ∀ exts : List (Extrinsic .plain),
        (machine .plain).EveryStep (fun s _ s' => MessagesKept s.pallet s'.pallet)
          (State.genesis .plain) exts := by
  intro h
  have hlast := (h (rateForAnother ++ [plainRegister 2 1 21 30])).last
  have hkept := hlast (plainValue 30, 1) (plainRating 20 30 1) (by decide +kernel)
  revert hkept
  decide +kernel

def revokeOnce : List (Extrinsic .plain) :=
  plainSetup ++ [plainRegister 1 1 20 30, plainRevoke (plainRating 20 30 1) 21 31]

theorem revokeOnce_not_agrees
    : ¬ ∀ exts : List (Extrinsic .plain),
        ((machine .plain).run (State.genesis .plain) exts).pallet.Agrees := by
  intro h
  obtain ⟨r, hget, hmessage, _⟩ := (h revokeOnce).indexed (plainValue 31) 1 (plainRating 21 31 1)
    (by decide +kernel)
  have hrevoked : (((machine .plain).run (State.genesis .plain) revokeOnce).pallet.ratingEntries.get
      (plainRating 21 31 1)).map RatingEntry.messageId = some (plainValue 30) := by
    decide +kernel
  rw [hget, Option.map_some, hmessage] at hrevoked
  revert hrevoked
  decide

end Plain

end NetworkScore
