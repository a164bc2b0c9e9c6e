import Cord.NetworkMembership.Lemmas.Listed

/-!
This module contains the balance of the providers that the pallet counts for its members. A
membership that expires is not taken off the count again, so the balance is kept by exactly the runs
in which no membership expires.
-/

open Frame

namespace NetworkMembership

variable {T : Config} {s s' : State T} {m : T.AccountId}

def ProviderOp.delta : ProviderOp → Int
  | .inc => 1
  | .dec => -1

def State.providerBalance (s : State T) (m : T.AccountId) : Int :=
  s.providers.count (.inc, m) - s.providers.count (.dec, m)

def ProvidersBalanced (s : State T) : Prop :=
  ∀ m, s.providerBalance m = if isMember s m then 1 else 0

def RenewsAll (s : State T) : Step T → Prop
  -- Every membership that ends with the block that begins is renewed.
  | .newBlock => 0 < s.blockNumber + 1 → ∀ m ∈ (s.expiring (s.blockNumber + 1)).toList,
      s.membershipsRenewsOn.containsKey m
  | _ => True

theorem providerBalance_append {op : ProviderOp} {m' : T.AccountId}
    (h : s'.providers = s.providers ++ [(op, m)])
    : s'.providerBalance m' = s.providerBalance m' + if m' = m then op.delta else 0 := by
  unfold State.providerBalance
  rw [h, List.count_append, List.count_append]
  by_cases heq : m' = m
  . subst heq
    cases op with
    | inc =>
      simp [ProviderOp.delta]
      omega
    | dec =>
      simp [ProviderOp.delta]
      omega
  . have hne : ∀ op', ((op, m) == (op', m')) = false := by
      intro op'
      simp [Ne.symm heq]
    simp [List.count_cons, hne, heq]

theorem ProvidersBalanced.addMember (h : ProvidersBalanced s) (hm : s.members.get m = none)
    (expires : Bool) : ProvidersBalanced (s.addMemberAndScheduleExpiry m expires) := by
  have hproviders : (s.addMemberAndScheduleExpiry m expires).providers =
      s.providers ++ [(.inc, m)] := by
    cases expires with
    | true => exact scheduleExpiry_providers
    | false => rfl
  intro m'
  rw [providerBalance_append hproviders, h m']
  by_cases heq : m' = m
  . subst heq
    have hold : isMember s m' = false := by simp [isMember, StorageMap.containsKey, hm]
    have hnew : isMember (s.addMemberAndScheduleExpiry m' expires) m' = true := by
      unfold isMember StorageMap.containsKey
      rw [addMemberAndScheduleExpiry_members_self]
      rfl
    simp [hold, hnew, ProviderOp.delta]
  . have hsame : isMember (s.addMemberAndScheduleExpiry m expires) m' = isMember s m' := by
      unfold isMember StorageMap.containsKey
      rw [addMemberAndScheduleExpiry_members _ _ _ heq]
    simp [hsame, heq]

theorem ProvidersBalanced.genesis (config : GenesisConfig T)
    : ProvidersBalanced (State.genesis config) := by
  apply genesis_induction config
  . intro m
    rfl
  . intro s m expires hs hm
    exact hs.addMember hm expires

theorem ProvidersBalanced.removeMember (h : ProvidersBalanced s) (hm : (s.members.get m).isSome)
    (hmembers : s'.members = s.members.remove m)
    (hproviders : s'.providers = s.providers ++ [(.dec, m)]) : ProvidersBalanced s' := by
  intro m'
  rw [providerBalance_append hproviders, h m']
  unfold isMember StorageMap.containsKey
  rw [hmembers, StorageMap.get_remove]
  by_cases heq : m' = m
  . subst heq
    simp [hm, ProviderOp.delta]
  . simp [heq]

section Loop

variable {todo : List T.AccountId} {b : UInt32}

theorem foldl_providers (todo : List T.AccountId) (b : UInt32) (s : State T)
    : (todo.foldl (fun s m => s.doExpireOrRenewMembership m b) s).providers = s.providers := by
  induction todo generalizing s with
  | nil => rfl
  | cons m todo ih =>
    rw [List.foldl_cons, ih]
    apply doExpireOrRenewMembership_providers

/-
The induction is on the list that was taken. What is decided for one of its members does not change
when the others are dealt with.
-/
theorem foldl_isMember (hnodup : todo.Nodup) (s : State T) (m' : T.AccountId)
    : isMember (todo.foldl (fun s m => s.doExpireOrRenewMembership m b) s) m' =
        if m' ∈ todo then s.membershipsRenewsOn.containsKey m' else isMember s m' := by
  induction todo generalizing s with
  | nil => rfl
  | cons m todo ih =>
    rw [List.nodup_cons] at hnodup
    rw [List.foldl_cons, ih hnodup.2, doExpireOrRenewMembership_renewsOn]
    unfold isMember StorageMap.containsKey
    rw [doExpireOrRenewMembership_members]
    by_cases heq : m' = m
    . subst heq
      simp only [hnodup.1, if_false, if_true, List.mem_cons_self]
      unfold StorageMap.containsKey
      split
      . next hflag => simp [hflag]
      . next hflag => simpa using hflag
    . simp [heq]

/-
Nothing is counted in the loop, so the balance is kept if all of those that were members still are.
-/
theorem ProvidersBalanced.foldl_iff (h : ProvidersBalanced s) (hnodup : todo.Nodup)
    (hmember : ∀ m ∈ todo, isMember s m = true)
    : ProvidersBalanced (todo.foldl (fun s m => s.doExpireOrRenewMembership m b) s) ↔
        ∀ m ∈ todo, s.membershipsRenewsOn.containsKey m := by
  have hbalance : ∀ m, (todo.foldl (fun s m => s.doExpireOrRenewMembership m b) s).providerBalance
      m = if isMember s m then 1 else 0 := by
    intro m
    unfold State.providerBalance
    rw [foldl_providers]
    apply h
  unfold ProvidersBalanced
  simp only [hbalance, foldl_isMember hnodup]
  constructor
  . intro heq m hm
    specialize heq m
    rw [if_pos hm, hmember m hm] at heq
    by_contra hflag
    simp [hflag] at heq
  . intro hflags m
    by_cases hm : m ∈ todo
    . rw [if_pos hm, hflags m hm, hmember m hm]
    . rw [if_neg hm]

end Loop

theorem ProvidersBalanced.newBlock_iff (hlisted : Listed s) (h : ProvidersBalanced s)
    : ProvidersBalanced (newBlock s) ↔ RenewsAll s .newBlock := by
  unfold RenewsAll NetworkMembership.newBlock State.onInitialize
  dsimp only
  split
  . next hpos =>
    simp only [hpos, true_implies]
    apply ProvidersBalanced.foldl_iff
    . exact h
    . apply hlisted.nodup
    . intro m hm
      change (s.members.get m).isSome = true
      rw [hlisted.members _ _ hm]
      rfl
  . next hzero =>
    simp only [hzero, false_implies, iff_true]
    exact h

theorem ProvidersBalanced.step_iff {step : Step T} (hlisted : Listed s) (h : ProvidersBalanced s)
    (hs : Succeeds ((machine T).dispatch step) s () s')
    : ProvidersBalanced s' ↔ RenewsAll s step := by
  cases Stepped.of_succeeds hs with
  | nominate hfresh => exact iff_of_true (h.addMember hfresh _) trivial
  | renew => exact iff_of_true h trivial
  | revoke hget hindex =>
    apply iff_of_true _ trivial
    apply h.removeMember _ rfl rfl
    rw [hget]
    rfl
  | newBlock => exact h.newBlock_iff hlisted

/--
For every account the pallet has counted one provider if it is a member, and none otherwise, in
every state of exactly those runs in which every membership is renewed before it ends.
-/
theorem run_providersBalanced_iff (config : GenesisConfig T) (steps : List (Step T))
    : (machine T).Always ProvidersBalanced (State.genesis config) steps ↔
        (machine T).Meets RenewsAll (State.genesis config) steps := by
  apply Machine.always_iff_meets (J := Listed)
  . intro s step s' hlisted hs
    exact hlisted.step hs
  . intro s step s' hlisted h hs
    exact h.step_iff hlisted hs
  . apply ListedUpTo.genesis
  . apply ProvidersBalanced.genesis

def oneMember : GenesisConfig (.plain 2 2) where
  members := [(1, true)]
  nodup := by simp

/-
The only member is counted when the chain starts, and its membership expires with the second block.
-/
theorem expired_not_providersBalanced
    : ¬ ∀ steps : List (Step (.plain 2 2)),
        ProvidersBalanced ((machine (.plain 2 2)).run (State.genesis oneMember) steps) := by
  intro h
  have hbalance := h [.newBlock, .newBlock] 1
  revert hbalance
  decide +kernel

end NetworkMembership
