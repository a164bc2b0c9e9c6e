import Cord.Authorities.Lemmas.Calls
import Mathlib.Data.Finset.Dedup

/-!
This module contains when there are enough validators. Both calls that let a validator go look at
the number of members, which is not the number of those that remain at the end of the session.
-/

open Frame

namespace Authorities

variable {T : Config} {s s' : State T}

def State.remaining (s : State T) (leaving : List T.ValidatorId) : Finset T.ValidatorId :=
  (s.queued.toFinset \ leaving.toFinset) ∪ s.incomingAuthorities.toFinset

def Step.leaving : Step T → List T.ValidatorId
  | .extrinsic _ _ (.remove candidate) => (T.validatorIdOf candidate).toList
  | .extrinsic origin _ .goOffline => ((T.ensureSigned origin).bind T.validatorIdOf).toList
  | _ => []

def Step.isOffence : Step T → Bool
  | .offence _ _ => true
  | _ => false

def LeavesEnough (s : State T) (step : Step T) : Prop :=
  -- Whoever goes leaves enough validators, together with those that go already.
  ∀ v ∈ step.leaving,
    T.minAuthorities.toNat ≤ (s.remaining (s.outgoingAuthorities ++ [v])).card

instance (s : State T) (step : Step T) : Decidable (LeavesEnough s step) :=
  inferInstanceAs (Decidable (∀ v ∈ step.leaving, _))

def EnoughRemain (s : State T) : Prop :=
  T.minAuthorities.toNat ≤ (s.remaining s.outgoingAuthorities).card

theorem remaining_subset_nextValidators (s : State T)
    : s.remaining s.outgoingAuthorities ⊆ s.nextValidators.toFinset := by
  intro v hv
  rw [List.mem_toFinset, State.mem_nextValidators]
  unfold State.remaining at hv
  rw [Finset.mem_union, Finset.mem_sdiff, List.mem_toFinset, List.mem_toFinset,
    List.mem_toFinset] at hv
  rcases hv with ⟨hqueued, hout⟩ | hin
  . left
    rw [List.count_eq_zero_of_not_mem hout]
    exact List.count_pos_iff.mpr hqueued
  . exact .inr hin

namespace EnoughRemain

theorem genesis {initial : List T.ValidatorId}
    (h : T.minAuthorities.toNat ≤ initial.toFinset.card)
    : EnoughRemain (State.genesis initial) := by
  unfold EnoughRemain State.remaining State.genesis newSessionGenesis
  simpa using h

theorem of_entering (hs : EnoughRemain s) {v : T.ValidatorId}
    (hin : s'.incomingAuthorities = s.incomingAuthorities ++ [v])
    (hout : s'.outgoingAuthorities = s.outgoingAuthorities)
    (hqueued : s'.queued = s.queued) : EnoughRemain s' := by
  apply Nat.le_trans hs
  apply Finset.card_le_card
  unfold State.remaining
  rw [hin, hout, hqueued, List.toFinset_append]
  apply Finset.union_subset_union_right
  exact Finset.subset_union_left

theorem step {step : Step T} (hs : EnoughRemain s) (hstep : LeavesEnough s step)
    (hoffence : step.isOffence = false) (h : Stepped s step s') : EnoughRemain s' := by
  cases h with
  | nominate => exact hs.of_entering rfl rfl rfl
  | @remove _ _ _ v _ hid =>
    apply hstep v
    simp [Step.leaving, hid]
  | whitelist => exact hs
  | @goOffline _ _ _ v _ hwho hid =>
    apply hstep v
    simp [Step.leaving, hwho, hid]
  | goOnline => exact hs.of_entering rfl rfl rfl
  | blacklist => cases hoffence
  | disconnect => cases hoffence
  | rotate =>
    apply Nat.le_trans hs
    apply Finset.card_le_card
    apply (remaining_subset_nextValidators s).trans
    unfold State.remaining
    simp

end EnoughRemain

/--
If whoever is removed or goes offline leaves enough validators, then there are enough of them in
every set that is returned.
-/
theorem run_newSession_enough (initial : List T.ValidatorId)
    (hinitial : T.minAuthorities.toNat ≤ initial.toFinset.card) (steps : List (Step T))
    (hoffences : ∀ step ∈ steps, step.isOffence = false)
    (hsteps : (machine T).Meets LeavesEnough (State.genesis initial) steps)
    (set : List T.ValidatorId)
    (hset : (newSession ((machine T).run (State.genesis initial) steps).startSession).1 = some set)
    : T.minAuthorities.toNat ≤ set.toFinset.card := by
  have hrun : EnoughRemain ((machine T).run (State.genesis initial) steps) := by
    apply Machine.run_of_meets _ (.genesis hinitial) (hsteps.and_forall hoffences)
    intro s step s' hs hstep h
    exact hs.step hstep.2 hstep.1 (.of_succeeds h)
  rw [newSession_some hset]
  apply Nat.le_trans hrun
  exact Finset.card_le_card (remaining_subset_nextValidators _)

def offline (who : Nat) : Step (.plain 1) :=
  .extrinsic (some who) (fun _ => true) .goOffline

theorem offline_enough
    : (newSession ((machine (.plain 1)).run (State.genesis [1, 2])
        [offline 1]).startSession).1 = some [2] ∧
      (Config.plain 1).minAuthorities.toNat ≤ [2].toFinset.card := by
  refine ⟨by decide, ?_⟩
  exact run_newSession_enough (T := .plain 1) [1, 2] (by decide) [offline 1] (by decide)
    (by decide) [2] (by decide)

theorem offline_not_enough
    : (Config.plain 1).minAuthorities.toNat ≤ [1, 2].toFinset.card ∧
      (∀ step ∈ [offline 1, offline 2], step.isOffence = false) ∧
      (newSession ((machine (.plain 1)).run (State.genesis [1, 2])
        [offline 1, offline 2]).startSession).1 = some [] ∧
      ¬ (Config.plain 1).minAuthorities.toNat ≤ ([] : List Nat).length := by
  -- Two validators go offline, each of them finds that there are enough members without it.
  decide

end Authorities
