import Cord.Authorities.Impl.Calls
import Mathlib.Data.List.Nodup

/-!
This module contains what the steps of the chain do to the state of the authorities pallet.
-/

open Frame

namespace Authorities

variable {T : Config} {s s' : State T}

section Lists

variable {l : List T.ValidatorId} {v : T.ValidatorId}

theorem deleteAuthority_perm (l : List T.ValidatorId) (v : T.ValidatorId)
    : (deleteAuthority l v).Perm (l.erase v) := by
  unfold deleteAuthority
  split
  . next pos hpos => exact swapRemove_perm_erase hpos
  . next hnone =>
    rw [List.erase_of_not_mem]
    rw [← List.isSome_idxOf?, hnone]
    nofun

theorem foldl_deleteAuthority_perm (vs : List T.ValidatorId) (l : List T.ValidatorId)
    : (vs.foldl deleteAuthority l).Perm (l.diff vs) := by
  induction vs generalizing l with
  | nil => exact List.Perm.refl l
  | cons v vs ih =>
    rw [List.foldl_cons, List.diff_cons]
    apply (ih _).trans
    exact (deleteAuthority_perm l v).diff_right vs

theorem mem_addAuthority {w : T.ValidatorId} : w ∈ addAuthority l v ↔ w ∈ l ∨ w = v := by
  unfold addAuthority
  split
  . next h =>
    constructor
    . exact Or.inl
    . rintro (hw | rfl)
      . exact hw
      . exact h
  . rw [List.mem_append, List.mem_singleton]

theorem nodup_addAuthority (h : l.Nodup) : (addAuthority l v).Nodup := by
  unfold addAuthority
  split
  . exact h
  . next hv =>
    rw [← List.concat_eq_append]
    exact h.concat hv

theorem mem_foldl_addAuthority (vs : List T.ValidatorId) {w : T.ValidatorId}
    : w ∈ vs.foldl addAuthority l ↔ w ∈ l ∨ w ∈ vs := by
  induction vs generalizing l with
  | nil => simp
  | cons v vs ih => rw [List.foldl_cons, ih, mem_addAuthority, List.mem_cons, or_assoc]

theorem nodup_foldl_addAuthority (vs : List T.ValidatorId) (h : l.Nodup)
    : (vs.foldl addAuthority l).Nodup := by
  induction vs generalizing l with
  | nil => exact h
  | cons v vs ih => exact ih (nodup_addAuthority h)

end Lists

def State.nextValidators (s : State T) : List T.ValidatorId :=
  s.incomingAuthorities.foldl addAuthority (s.outgoingAuthorities.foldl deleteAuthority s.queued)

theorem State.mem_nextValidators {v : T.ValidatorId}
    : v ∈ s.nextValidators ↔
        s.outgoingAuthorities.count v < s.queued.count v ∨ v ∈ s.incomingAuthorities := by
  unfold nextValidators
  rw [mem_foldl_addAuthority, (foldl_deleteAuthority_perm _ _).mem_iff]
  rw [← Multiset.mem_coe, ← Multiset.coe_sub, Multiset.mem_sub]
  rw [Multiset.coe_count, Multiset.coe_count]

theorem State.nodup_nextValidators (h : s.queued.Nodup) : s.nextValidators.Nodup := by
  unfold nextValidators
  apply nodup_foldl_addAuthority
  rw [(foldl_deleteAuthority_perm _ _).nodup_iff]
  exact h.diff

theorem newSession_eq (s : State T)
    : (s.incomingAuthorities = [] ∧ s.outgoingAuthorities = [] ∧
        newSession s.startSession = (none, s.startSession)) ∨
      ∃ events, newSession s.startSession =
        (some s.nextValidators,
          { s with
            incomingAuthorities := [], outgoingAuthorities := [], validators := s.queued, events })
    := by
  unfold newSession State.startSession
  dsimp only
  split
  . next h =>
    left
    refine ⟨h.1, h.2, ?_⟩
    rw [h.1, h.2]
  . right
    split
    . exact ⟨_, rfl⟩
    . exact ⟨_, rfl⟩

theorem newSession_some {set : List T.ValidatorId}
    (h : (newSession s.startSession).1 = some set) : set = s.nextValidators := by
  rcases newSession_eq s with ⟨_, _, heq⟩ | ⟨events, heq⟩
  . rw [heq] at h
    cases h
  . rw [heq] at h
    injection h with h
    exact h.symm

theorem rotateSession_eq (s : State T)
    : ∃ events, rotateSession s =
        { s with
          incomingAuthorities := [], outgoingAuthorities := [], validators := s.queued,
          queued := s.nextValidators, events } := by
  unfold rotateSession
  rcases newSession_eq s with ⟨hadd, hdel, heq⟩ | ⟨events, heq⟩
  . rw [heq]
    refine ⟨s.events, ?_⟩
    unfold State.nextValidators State.startSession
    rw [hadd, hdel]
    cases s
    dsimp only at hadd hdel
    subst hadd hdel
    rfl
  . rw [heq]
    exact ⟨events, rfl⟩

/--
The blacklist that the inner `mutate` has written is overwritten by the outer one, so the offender
is added once, and only if it was not there before.
-/
theorem blacklistOffender_eq (offender : T.AccountId) (s : State T)
    : ∃ events, blacklistOffender offender s =
        { s with
          blackList := (T.validatorIdOf offender).toList.foldl addAuthority s.blackList
          outgoingAuthorities := s.outgoingAuthorities ++ (T.validatorIdOf offender).toList
          events } := by
  unfold blacklistOffender State.mutateBlackList
  cases T.validatorIdOf offender with
  | none => exact ⟨s.events, by simp⟩
  | some member => exact ⟨_, rfl⟩

theorem disconnectOffender_eq (offender : T.AccountId) (s : State T)
    : ∃ events, disconnectOffender offender s =
        { s with
          outgoingAuthorities := s.outgoingAuthorities ++ (T.validatorIdOf offender).toList
          events } := by
  unfold disconnectOffender
  cases T.validatorIdOf offender with
  | none => exact ⟨s.events, by simp⟩
  | some member => exact ⟨_, rfl⟩

def offendingValidators (offenders : List T.AccountId) : List T.ValidatorId :=
  offenders.filterMap T.validatorIdOf

theorem onOffence_blackList (offenders : List T.AccountId) (s : State T)
    : ∃ events, onOffence offenders .blackList s =
        { s with
          blackList := (offendingValidators offenders).foldl addAuthority s.blackList
          outgoingAuthorities := s.outgoingAuthorities ++ offendingValidators offenders
          events } := by
  unfold onOffence offendingValidators
  dsimp only
  induction offenders generalizing s with
  | nil => exact ⟨s.events, by simp⟩
  | cons offender offenders ih =>
    obtain ⟨_, hoffender⟩ := blacklistOffender_eq offender s
    obtain ⟨events, hrest⟩ := ih (blacklistOffender offender s)
    refine ⟨events, ?_⟩
    rw [List.foldl_cons, hrest, hoffender]
    cases h : T.validatorIdOf offender with
    | none => simp [h]
    | some member => simp [h]

theorem onOffence_disconnect (offenders : List T.AccountId) (s : State T)
    : ∃ events, onOffence offenders .disconnect s =
        { s with
          outgoingAuthorities := s.outgoingAuthorities ++ offendingValidators offenders
          events } := by
  unfold onOffence offendingValidators
  dsimp only
  induction offenders generalizing s with
  | nil => exact ⟨s.events, by simp⟩
  | cons offender offenders ih =>
    obtain ⟨_, hoffender⟩ := disconnectOffender_eq offender s
    obtain ⟨events, hrest⟩ := ih (disconnectOffender offender s)
    refine ⟨events, ?_⟩
    rw [List.foldl_cons, hrest, hoffender]
    cases h : T.validatorIdOf offender with
    | none => simp [h]
    | some member => simp [h]

inductive Stepped (s : State T) : Step T → State T → Prop where
  | nominate {origin isMember candidate v events} (hid : T.validatorIdOf candidate = some v)
      (hblack : v ∉ s.blackList) (hin : v ∉ s.incomingAuthorities)
      (hout : v ∉ s.outgoingAuthorities) (hnew : v ∉ s.members)
      : Stepped s (.extrinsic origin isMember (.nominate candidate))
          { s with
            members := s.members ++ [v]
            incomingAuthorities := s.incomingAuthorities ++ [v]
            events }
  | remove {origin isMember candidate v events} (hid : T.validatorIdOf candidate = some v)
      (hmem : v ∈ s.members) (hmin : T.minAuthorities ≤ remainingCount s.members)
      : Stepped s (.extrinsic origin isMember (.remove candidate))
          { s with
            members := s.members.filter (· ≠ v)
            outgoingAuthorities := s.outgoingAuthorities ++ [v]
            events }
  | whitelist {origin isMember candidate v events} (hid : T.validatorIdOf candidate = some v)
      (hblack : v ∈ s.blackList)
      : Stepped s (.extrinsic origin isMember (.removeMemberFromBlacklist candidate))
          { s with blackList := s.blackList.filter (· ≠ v), events }
  | goOffline {origin isMember who v events} (hwho : T.ensureSigned origin = some who)
      (hid : T.validatorIdOf who = some v) (hmem : v ∈ s.members)
      (hmin : T.minAuthorities ≤ remainingCount s.members)
      : Stepped s (.extrinsic origin isMember .goOffline)
          { s with outgoingAuthorities := s.outgoingAuthorities ++ [v], events }
  | goOnline {origin isMember who v events} (hwho : T.ensureSigned origin = some who)
      (hid : T.validatorIdOf who = some v) (hblack : v ∉ s.blackList) (hmem : v ∈ s.members)
      : Stepped s (.extrinsic origin isMember .goOnline)
          { s with incomingAuthorities := s.incomingAuthorities ++ [v], events }
  | blacklist {offenders events}
      : Stepped s (.offence offenders .blackList)
          { s with
            blackList := (offendingValidators offenders).foldl addAuthority s.blackList
            outgoingAuthorities := s.outgoingAuthorities ++ offendingValidators offenders
            events }
  | disconnect {offenders events}
      : Stepped s (.offence offenders .disconnect)
          { s with
            outgoingAuthorities := s.outgoingAuthorities ++ offendingValidators offenders
            events }
  | rotate {events}
      : Stepped s .rotate
          { s with
            incomingAuthorities := [], outgoingAuthorities := [], validators := s.queued,
            queued := s.nextValidators, events }

theorem Stepped.of_succeeds {step : Step T} (h : Succeeds ((machine T).dispatch step) s () s')
    : Stepped s step s' := by
  simp only [machine] at h
  match step with
  | .extrinsic origin isMember (.nominate candidate) =>
    simp only [Step.dispatch, Authorities.nominate, addAuthorityMember, Succeeds.bind_iff,
      Succeeds.ensureOrigin_iff, Succeeds.ensure_iff, Succeeds.okOr_iff, Succeeds.get_iff,
      Succeeds.modify_iff, and_assoc, exists_and_left, exists_eq_left, exists_const] at h
    obtain ⟨_, _, _, v, hid, hblack, hin, hout, hnew, rfl⟩ := h
    exact .nominate hid hblack hin hout hnew
  | .extrinsic origin isMember (.remove candidate) =>
    simp only [Step.dispatch, Authorities.remove, removeAuthorityMember, Succeeds.bind_iff,
      Succeeds.ensureOrigin_iff, Succeeds.ensure_iff, Succeeds.okOr_iff, Succeeds.get_iff,
      Succeeds.modify_iff, and_assoc, exists_and_left, exists_eq_left, exists_const] at h
    obtain ⟨_, _, v, hid, hmem, hmin, rfl⟩ := h
    exact .remove hid hmem hmin
  | .extrinsic origin isMember (.removeMemberFromBlacklist candidate) =>
    simp only [Step.dispatch, Authorities.removeMemberFromBlacklist, removeFromBlacklist,
      Succeeds.bind_iff, Succeeds.ensureOrigin_iff, Succeeds.ensure_iff, Succeeds.okOr_iff,
      Succeeds.get_iff, Succeeds.modify_iff, and_assoc, exists_and_left, exists_eq_left,
      exists_const] at h
    obtain ⟨_, _, v, hid, hblack, rfl⟩ := h
    exact .whitelist hid hblack
  | .extrinsic origin isMember .goOffline =>
    simp only [Step.dispatch, Authorities.goOffline, Succeeds.bind_iff, Succeeds.ensureOrigin_iff,
      Succeeds.ensure_iff, Succeeds.okOr_iff, Succeeds.get_iff, Succeeds.modify_iff, and_assoc,
      exists_and_left, exists_eq_left, exists_const] at h
    obtain ⟨who, hwho, v, hid, hmem, hmin, rfl⟩ := h
    exact .goOffline hwho hid hmem hmin
  | .extrinsic origin isMember .goOnline =>
    simp only [Step.dispatch, Authorities.goOnline, Succeeds.bind_iff, Succeeds.ensureOrigin_iff,
      Succeeds.ensure_iff, Succeeds.okOr_iff, Succeeds.get_iff, Succeeds.modify_iff, and_assoc,
      exists_and_left, exists_eq_left, exists_const] at h
    obtain ⟨who, hwho, v, hid, hblack, hmem, rfl⟩ := h
    exact .goOnline hwho hid hblack hmem
  | .offence offenders .blackList =>
    rw [Step.dispatch, Succeeds.modify_iff] at h
    obtain ⟨events, heq⟩ := onOffence_blackList offenders s
    rw [h, heq]
    exact .blacklist
  | .offence offenders .disconnect =>
    rw [Step.dispatch, Succeeds.modify_iff] at h
    obtain ⟨events, heq⟩ := onOffence_disconnect offenders s
    rw [h, heq]
    exact .disconnect
  | .rotate =>
    rw [Step.dispatch, Succeeds.modify_iff] at h
    obtain ⟨events, heq⟩ := rotateSession_eq s
    rw [h, heq]
    exact .rotate

end Authorities
