import Cord.Did.Lemmas.Deletion

/-!
This module contains when `DidEndpointsCount` is the number of service endpoints of a DID. It is as
long as no DID is created with two services that have the same identifier: these are counted twice but
stored once.
-/

open Frame

namespace Did

variable {T : Config} {s s' : State T}

def EndpointsCounted (s : State T) : Prop :=
  ∀ did, (s.didEndpointsCount.getD did 0).toNat = (s.serviceEndpoints.prefixKeys did).card ∧
    s.didEndpointsCount.getD did 0 ≤ T.maxNumberOfServicesPerDid

def Call.ListsDistinct : Call T.toTypes → Prop
  | .create details _ => (details.newServiceDetails.map DidEndpoint.id).Nodup
  | _ => True

namespace DidLife

variable {v v' : DidLife T} {call : Call T.toTypes}

structure Counted (v : DidLife T) : Prop extends v.Sound where
  card_eq : v.services.card = v.count.toNat

theorem Step.counted (hcall : call.ListsDistinct) (h : v.Step call v') (hv : v.Counted)
    : v'.Counted := by
  refine ⟨h.sound hv.toSound, ?_⟩
  cases h with
  | @create details _ hstored hdeleted hlength =>
    have hempty := (hv.empty hstored).1
    calc
      _ = (details.newServiceDetails.map DidEndpoint.id).toFinset.card := by
        rw [hempty, Finset.union_empty]
      _ = (details.newServiceDetails.map DidEndpoint.id).length := List.toFinset_card_of_nodup hcall
      _ = details.newServiceDetails.length := List.length_map _
      _ = _ := (toNat_toUInt32_of_le hlength).symm
  | createFromAccount hstored hdeleted => exact hv.card_eq
  | add hstored hlimit hnew =>
    calc
      _ = v.services.card + 1 := Finset.card_insert_of_notMem hnew
      _ = v.count.toNat + 1 := by rw [hv.card_eq]
      _ = _ := (toNat_count_add hlimit).symm
  | remove hstored hold =>
    calc
      _ = v.services.card - 1 := Finset.card_erase_of_mem hold
      _ = v.count.toNat - 1 := by rw [hv.card_eq]
      _ = _ := (toNat_count_sub v.count).symm
  | delete hstored hlimit hcard => rfl

end DidLife

theorem endpointsCounted_of_lives (hs : ∀ did, (s.life did).Counted) : EndpointsCounted s := by
  intro did
  exact ⟨(hs did).card_eq.symm, UInt32.le_iff_toNat_le.mpr (hs did).count_le⟩

/--
As long as the DIDs that are created have services with distinct identifiers, the counter is the number
of stored endpoints in every state of a run.
-/
theorem run_endpointsCounted (world : T.World) (extrinsics : List (Extrinsic T))
    (h : (machine T).Meets (Extrinsic.Meets .kept fun _ call _ => call.ListsDistinct)
      (State.genesis T world) extrinsics)
    : (machine T).Always EndpointsCounted (State.genesis T world) extrinsics := by
  have hrule := DispatchRule.of_lives (J := fun _ v => v.Counted) (P := Call.ListsDistinct (T := T))
    fun hcall hstep hv => hstep.counted hcall hv
  apply (hrule.always _ h).imp
  . intro s hs
    exact endpointsCounted_of_lives hs
  . intro did
    have hsound := genesis_sound world did
    refine ⟨hsound, ?_⟩
    rw [(hsound.empty rfl).1]
    rfl

def serviceWithId (id : UInt8) : DidEndpoint Config.plain.toTypes where
  id := ⟨[id], Nat.succ_le_succ (Nat.zero_le _)⟩
  serviceTypes := ⟨[], by decide⟩
  urls := ⟨[], by decide⟩

def createRun (account : Bytes32) (ids : List UInt8) : List (Extrinsic .plain) :=
  [
    {
      origin := .signed account
      blockNumber := 1
      call := .did <| .create
        {
          did := account
          submitter := account
          newKeyAgreementKeys := ⟨[], by decide⟩
          newAssertionKey := none
          newDelegationKey := none
          newServiceDetails := ids.map serviceWithId
        }
        (.sr25519 (.replicate 64 0))
    }
  ]

theorem createRun_endpointsCounted
    : ((machine .plain).run (State.genesis .plain ())
        (createRun (.replicate 32 1) [97, 98])).didEndpointsCount.get (.replicate 32 1) = some 2 ∧
      (machine .plain).Always EndpointsCounted (State.genesis .plain ())
        (createRun (.replicate 32 1) [97, 98]) := by
  refine ⟨by decide +kernel, run_endpointsCounted (T := .plain) () _ ⟨?_, trivial⟩⟩
  intro _ _
  show List.Nodup _
  decide

theorem createRun_not_endpointsCounted
    : ¬ EndpointsCounted ((machine .plain).run (State.genesis .plain ())
        (createRun (.replicate 32 1) [97, 97])) := by
  intro h
  have hcount := (h (.replicate 32 1)).1
  revert hcount
  decide +kernel

end Did
