import Cord.Did.Lemmas.Dispatch
import Mathlib.Data.Multiset.Range

/-!
This module contains the replay protection of `submit_did_call`: the operations that a DID has
authorized carry the nonces 1, 2, 3 and so on, no matter what their calls did to the DID itself.
-/

open Frame

namespace Did

variable {T : Config} {s s' : State T}

def nonces (did : T.DidIdentifier) (operations : List (DidAuthorizedCallOperation T.toTypes))
    : Multiset UInt64 :=
  (operations.filter (·.did = did)).map (·.txCounter)

def consumed (n : Nat) : Multiset UInt64 :=
  (Multiset.range n).map fun i => UInt64.ofNat (i + 1)

theorem nonces_cons (did : T.DidIdentifier) (operation : DidAuthorizedCallOperation T.toTypes)
    (operations : List (DidAuthorizedCallOperation T.toTypes))
    : nonces did (operation :: operations) =
        if operation.did = did then
          operation.txCounter ::ₘ nonces did operations
        else
          nonces did operations := by
  unfold nonces
  split
  . next h => simp [h]
  . next h => simp [h]

theorem nonces_append (did : T.DidIdentifier)
    (xs ys : List (DidAuthorizedCallOperation T.toTypes))
    : nonces did (xs ++ ys) = nonces did xs + nonces did ys := by
  unfold nonces
  rw [List.filter_append, List.map_append, Multiset.coe_add]

theorem consumed_succ (n : Nat) : consumed (n + 1) = UInt64.ofNat (n + 1) ::ₘ consumed n := by
  unfold consumed
  rw [Multiset.range_succ, Multiset.map_cons]

theorem consumed_nodup {n : Nat} (h : n < 2 ^ 64) : (consumed n).Nodup := by
  apply Multiset.Nodup.map_on
  . intro i hi j hj heq
    rw [Multiset.mem_range] at hi hj
    have htoNat := congrArg UInt64.toNat heq
    rw [UInt64.toNat_ofNat_of_lt', UInt64.toNat_ofNat_of_lt'] at htoNat
    . omega
    . simp only [UInt64.size]
      omega
    . simp only [UInt64.size]
      omega
  . exact Multiset.nodup_range n

/--
The nonces of the operations of `did`, those that are pending included, are the first `n`, and `n`
is what is stored for the DID. If there is nothing stored, the counting can only restart for a DID
that never was, the deleted ones are on the blacklist.
-/
structure Counted (did : T.DidIdentifier) (n : Nat)
    (pending : List (DidAuthorizedCallOperation T.toTypes)) (s : State T) : Prop where
  nonces : nonces did (s.accepted ++ pending) = consumed n
  stored : ∀ details, s.did.get did = some details → details.lastTxCounter = UInt64.ofNat n
  fresh : s.did.get did = none → s.didBlacklist.get did = none → n = 0

def ReplayInvariant (pending : List (DidAuthorizedCallOperation T.toTypes)) (s : State T) : Prop :=
  ∀ did, ∃ n, Counted did n pending s

namespace ReplayInvariant

variable {did : T.DidIdentifier} {n : Nat}
  {pending : List (DidAuthorizedCallOperation T.toTypes)}

theorem same (h : SameDids s s') (hs : ReplayInvariant pending s)
    : ReplayInvariant pending s' := by
  intro did
  obtain ⟨n, hn⟩ := hs did
  refine ⟨n, ?_, ?_, ?_⟩
  . rw [h.accepted]
    exact hn.nonces
  . rw [h.did]
    exact hn.stored
  . rw [h.did, h.blacklist]
    exact hn.fresh

theorem step (h : DidStep s s') (hs : ReplayInvariant pending s)
    : ReplayInvariant pending s' := by
  intro did'
  obtain ⟨n, hn⟩ := hs did'
  refine ⟨n, ?_, ?_, ?_⟩
  . cases h with
    | update _ _ _ _ _ haccepted =>
      rw [haccepted]
      exact hn.nonces
    | insert _ _ _ _ _ haccepted =>
      rw [haccepted]
      exact hn.nonces
    | delete _ _ haccepted =>
      rw [haccepted]
      exact hn.nonces
  . intro details' hget
    cases h with
    | update hstored hnonce _ hdid =>
      rw [hdid, StorageMap.get_insert] at hget
      split at hget
      . next heq =>
        injection hget with hget
        rw [← hget, hnonce]
        apply hn.stored
        rw [heq]
        exact hstored
      . exact hn.stored details' hget
    | insert hfresh hdeleted hinitial hdid =>
      rw [hdid, StorageMap.get_insert] at hget
      split at hget
      . next heq =>
        injection hget with hget
        subst heq
        rw [← hget, hinitial.nonce, hn.fresh hfresh hdeleted]
        rfl
      . exact hn.stored details' hget
    | delete hdid =>
      rw [hdid, StorageMap.get_remove] at hget
      split at hget
      . cases hget
      . exact hn.stored details' hget
  . intro hnone hdeleted'
    cases h with
    | update _ _ _ hdid hblacklist =>
      rw [hdid, StorageMap.get_insert] at hnone
      rw [hblacklist] at hdeleted'
      split at hnone
      . cases hnone
      . exact hn.fresh hnone hdeleted'
    | insert _ _ _ hdid hblacklist =>
      rw [hdid, StorageMap.get_insert] at hnone
      rw [hblacklist] at hdeleted'
      split at hnone
      . cases hnone
      . exact hn.fresh hnone hdeleted'
    | delete hdid hblacklist =>
      rw [hdid, StorageMap.get_remove] at hnone
      rw [hblacklist, StorageMap.get_insert] at hdeleted'
      split at hdeleted'
      . cases hdeleted'
      . next hne =>
        rw [if_neg hne] at hnone
        exact hn.fresh hnone hdeleted'

theorem authorize {operation : DidAuthorizedCallOperation T.toTypes}
    {details : DidDetails T.toTypes} (h : Authorized operation details s s')
    (hs : ReplayInvariant pending s) : ReplayInvariant (operation :: pending) s' := by
  intro did
  obtain ⟨n, hn⟩ := hs did
  by_cases heq : operation.did = did
  . subst heq
    have hlast := hn.stored details h.stored
    refine ⟨n + 1, ?_, ?_, ?_⟩
    . have hnonces := hn.nonces
      rw [nonces_append] at hnonces
      rw [h.accepted, nonces_append, nonces_cons, if_pos rfl, Multiset.add_cons, hnonces,
        consumed_succ, h.nonce, hlast, UInt64.ofNat_add]
      rfl
    . intro details' hget
      rw [h.did, StorageMap.get_insert_self] at hget
      injection hget with hget
      rw [← hget, DidDetails.increaseTxCounter, hlast, UInt64.ofNat_add]
      rfl
    . intro hnone
      rw [h.did, StorageMap.get_insert_self] at hnone
      cases hnone
  . have hget : s'.did.get did = s.did.get did := by
      rw [h.did, StorageMap.get_insert_of_ne]
      exact Ne.symm heq
    refine ⟨n, ?_, ?_, ?_⟩
    . rw [h.accepted, nonces_append, nonces_cons, if_neg heq, ← nonces_append]
      exact hn.nonces
    . rw [hget]
      exact hn.stored
    . rw [hget, h.blacklist]
      exact hn.fresh

theorem complete {operation : DidAuthorizedCallOperation T.toTypes} (hdid : s'.did = s.did)
    (hblacklist : s'.didBlacklist = s.didBlacklist)
    (haccepted : s'.accepted = s.accepted ++ [operation])
    (hs : ReplayInvariant (operation :: pending) s) : ReplayInvariant pending s' := by
  intro did
  obtain ⟨n, hn⟩ := hs did
  refine ⟨n, ?_, ?_, ?_⟩
  . rw [haccepted, List.append_assoc]
    exact hn.nonces
  . rw [hdid]
    exact hn.stored
  . rw [hdid, hblacklist]
    exact hn.fresh

theorem dispatchInvariant : DispatchInvariant (T := T) ReplayInvariant where
  same := same
  step := step
  authorize := authorize
  complete := complete

theorem genesis (world : T.World) : ReplayInvariant [] (State.genesis T world) := by
  intro did
  refine ⟨0, rfl, ?_, ?_⟩
  . intro details hget
    cases hget
  . intros
    rfl

end ReplayInvariant

def State.acceptedOf (s : State T) (did : T.DidIdentifier)
    : List (DidAuthorizedCallOperation T.toTypes) :=
  s.accepted.filter (·.did = did)

/--
No operation of a DID takes effect twice, unless the counter of the DID has wrapped around.
-/
theorem run_acceptedOf_nodup (world : T.World) (extrinsics : List (Extrinsic T))
    (did : T.DidIdentifier)
    (h : (((machine T).run (State.genesis T world) extrinsics).acceptedOf did).length < 2 ^ 64)
    : (((machine T).run (State.genesis T world) extrinsics).acceptedOf did).Nodup := by
  obtain ⟨n, hn⟩ := ReplayInvariant.dispatchInvariant.run (.genesis world) extrinsics did
  have hnonces := hn.nonces
  rw [List.append_nil] at hnonces
  -- There are as many nonces as operations, so they did not wrap around either.
  have hcard := congrArg Multiset.card hnonces
  simp only [nonces, consumed, Multiset.coe_card, List.length_map, Multiset.card_map,
    Multiset.card_range] at hcard
  have hnodup := consumed_nodup (n := n) (lt_of_eq_of_lt hcard.symm h)
  rw [← hnonces] at hnodup
  exact List.Nodup.of_map _ (Multiset.coe_nodup.mp hnodup)

/--
The operations of a DID that have taken effect carry the counters from 1 on, each of them once, and the
counter that is stored for the DID is the last one of these.
-/
theorem run_lastTxCounter (world : T.World) (extrinsics : List (Extrinsic T)) (did : T.DidIdentifier)
    (details : DidDetails T.toTypes)
    (h : ((machine T).run (State.genesis T world) extrinsics).did.get did = some details)
    : details.lastTxCounter =
          UInt64.ofNat (((machine T).run (State.genesis T world) extrinsics).acceptedOf did).length ∧
        Multiset.ofList ((((machine T).run (State.genesis T world) extrinsics).acceptedOf did).map
          (·.txCounter)) =
          consumed (((machine T).run (State.genesis T world) extrinsics).acceptedOf did).length := by
  obtain ⟨n, hn⟩ := ReplayInvariant.dispatchInvariant.run (.genesis world) extrinsics did
  have hnonces := hn.nonces
  rw [List.append_nil] at hnonces
  have hcard := congrArg Multiset.card hnonces
  simp only [nonces, consumed, Multiset.coe_card, List.length_map, Multiset.card_map,
    Multiset.card_range] at hcard
  unfold State.acceptedOf
  rw [hcard]
  exact ⟨hn.stored details h, hnonces⟩

def replayRun (account : Bytes32) : List (Extrinsic .plain) :=
  let submit : Extrinsic .plain :=
    {
      origin := .signed account
      blockNumber := 2
      call := .did (.submitDidCall account 1 (.did (.addKeyAgreementKey (.x25519 account))) 1
        account (.sr25519 (.replicate 64 0)))
    }
  [
    {
      origin := .signed account
      blockNumber := 1
      call := .did (.createFromAccount (.sr25519 account))
    },
    submit,
    submit
  ]

theorem replayRun_acceptedOf_nodup
    : (((machine .plain).run (State.genesis .plain ()) (replayRun (.replicate 32 1))).acceptedOf
        (.replicate 32 1)).length = 1 ∧
      (((machine .plain).run (State.genesis .plain ()) (replayRun (.replicate 32 1))).acceptedOf
        (.replicate 32 1)).Nodup := by
  have hlength : (((machine .plain).run (State.genesis .plain ())
      (replayRun (.replicate 32 1))).acceptedOf (.replicate 32 1)).length = 1 := by
    decide +kernel
  refine ⟨hlength, run_acceptedOf_nodup (T := .plain) () _ _ ?_⟩
  rw [hlength]
  decide

theorem replayRun_lastTxCounter
    : ∃ details,
        ((machine .plain).run (State.genesis .plain ()) (replayRun (.replicate 32 1))).did.get
          (.replicate 32 1) = some details ∧
        details.lastTxCounter = UInt64.ofNat
          (((machine .plain).run (State.genesis .plain ())
            (replayRun (.replicate 32 1))).acceptedOf (.replicate 32 1)).length := by
  have hget : ∃ details,
      ((machine .plain).run (State.genesis .plain ()) (replayRun (.replicate 32 1))).did.get
        (.replicate 32 1) = some details := ⟨_, rfl⟩
  obtain ⟨details, hget⟩ := hget
  exact ⟨details, hget, (run_lastTxCounter (T := .plain) () _ _ _ hget).1⟩

end Did
