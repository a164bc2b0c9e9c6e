import Cord.Authorities.Lemmas.Calls

/-!
This module contains the integrity of the lists of the authorities pallet: none of them has
duplicates, and there are always enough members.
-/

open Frame

namespace Authorities

variable {T : Config} {s s' : State T}

theorem lt_length_of_remainingCount {l : List T.ValidatorId} (hne : l ≠ [])
    (h : T.minAuthorities ≤ remainingCount l) : T.minAuthorities.toNat < l.length := by
  -- The check of the number of members that is made before one of them leaves. The number is
  -- truncated to 32 bits, which can only make it smaller.
  have hpos := List.length_pos_iff.mpr hne
  rw [UInt32.le_iff_toNat_le] at h
  unfold remainingCount at h
  rw [Nat.toUInt32_eq, UInt32.toNat_ofNat'] at h
  have hmod := Nat.mod_le (l.length - 1) (2 ^ 32)
  omega

theorem length_filter_ne {l : List T.ValidatorId} {v : T.ValidatorId} (hnodup : l.Nodup)
    (hmem : v ∈ l) : (l.filter (· ≠ v)).length = l.length - 1 := by
  have herase : l.filter (· ≠ v) = l.erase v := by
    rw [hnodup.erase_eq_filter]
    apply List.filter_congr
    intro x _
    rw [Bool.eq_iff_iff]
    simp
  rw [herase, List.length_erase_of_mem hmem]

structure Integrity (s : State T) : Prop where
  members : s.members.Nodup
  enough : T.minAuthorities.toNat ≤ s.members.length
  blackList : s.blackList.Nodup
  queued : s.queued.Nodup

namespace Integrity

theorem genesis {initial : List T.ValidatorId} (hnodup : initial.Nodup)
    (hmin : T.minAuthorities.toNat ≤ initial.length) : Integrity (State.genesis initial) where
  members := hnodup
  enough := hmin
  blackList := List.nodup_nil
  queued := hnodup

theorem step {step : Step T} (h : Stepped s step s') (hs : Integrity s) : Integrity s' := by
  obtain ⟨hmembers, henough, hblackList, hqueued⟩ := hs
  cases h with
  | nominate _ _ _ _ hnew =>
    refine ⟨?_, ?_, hblackList, hqueued⟩
    . have hconcat := hmembers.concat hnew
      rw [List.concat_eq_append] at hconcat
      exact hconcat
    . dsimp only
      rw [List.length_append]
      omega
  | remove _ hmem hmin =>
    refine ⟨hmembers.filter _, ?_, hblackList, hqueued⟩
    have hlt := lt_length_of_remainingCount (List.ne_nil_of_mem hmem) hmin
    dsimp only
    rw [length_filter_ne hmembers hmem]
    omega
  | whitelist => exact ⟨hmembers, henough, hblackList.filter _, hqueued⟩
  | goOffline => exact ⟨hmembers, henough, hblackList, hqueued⟩
  | goOnline => exact ⟨hmembers, henough, hblackList, hqueued⟩
  | blacklist =>
    exact ⟨hmembers, henough, nodup_foldl_addAuthority _ hblackList, hqueued⟩
  | disconnect => exact ⟨hmembers, henough, hblackList, hqueued⟩
  | rotate => exact ⟨hmembers, henough, hblackList, State.nodup_nextValidators hqueued⟩

theorem of_reachable {initial : List T.ValidatorId} (hnodup : initial.Nodup)
    (hmin : T.minAuthorities.toNat ≤ initial.length)
    (h : (machine T).Reachable (State.genesis initial) s) : Integrity s := by
  apply h.invariant _ (genesis hnodup hmin)
  intro s call s' hs hstep
  exact hs.step (.of_succeeds hstep)

end Integrity

/--
Members and blacklist stay free of duplicates, there are always enough members, every set of
validators that is returned is free of duplicates, and an offender that was reported to be
blacklisted is on the blacklist exactly once.
-/
theorem reachable_integrity (initial : List T.ValidatorId) (hnodup : initial.Nodup)
    (hmin : T.minAuthorities.toNat ≤ initial.length)
    (h : (machine T).Reachable (State.genesis initial) s)
    : s.members.Nodup ∧ T.minAuthorities.toNat ≤ s.members.length ∧ s.blackList.Nodup ∧
        (∀ set, (newSession s.startSession).1 = some set → set.Nodup) ∧
        (∀ offenders offender member, offender ∈ offenders →
          T.validatorIdOf offender = some member →
            (onOffence offenders .blackList s).blackList.count member = 1) := by
  have hs := Integrity.of_reachable hnodup hmin h
  refine ⟨hs.members, hs.enough, hs.blackList, ?_, ?_⟩
  . intro set hset
    rw [newSession_some hset]
    exact State.nodup_nextValidators hs.queued
  . intro offenders offender member hoffender hid
    obtain ⟨events, heq⟩ := onOffence_blackList offenders s
    rw [heq]
    apply List.count_eq_one_of_mem
    . exact nodup_foldl_addAuthority _ hs.blackList
    . rw [mem_foldl_addAuthority]
      right
      exact List.mem_filterMap.mpr ⟨offender, hoffender, hid⟩

def repeatedOffences : List (Step (.plain 1)) :=
  -- One offender is on the blacklist when it is reported again, twice in one list.
  [.offence [3] .blackList, .offence [3, 2, 3] .blackList]

theorem repeatedOffences_integrity
    : ((machine (.plain 1)).run (State.genesis [1, 2, 3]) repeatedOffences).blackList = [3, 2] ∧
      ((machine (.plain 1)).run (State.genesis [1, 2, 3]) repeatedOffences).blackList.Nodup := by
  refine ⟨by decide, ?_⟩
  have h := reachable_integrity (T := .plain 1) [1, 2, 3] (by decide) (by decide)
    ⟨repeatedOffences, rfl⟩
  exact h.2.2.1

end Authorities
