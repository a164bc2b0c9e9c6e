import Cord.NetworkMembership.Lemmas.Steps

/-!
This module contains what can always be said about the lists of those that expire at a block: they
are free of duplicates, and whoever is on one of them is a member that expires at that very block.
It holds in every state, also if a list was full when a membership was acquired.
-/

open Frame

namespace NetworkMembership

variable {T : Config} {s s' : State T} {m : T.AccountId} {b : UInt32}

/--
The accounts of `todo` are members that are on no list at the moment.
-/
structure ListedUpTo (todo : List T.AccountId) (s : State T) : Prop where
  members : ∀ m b, m ∈ (s.expiring b).toList → s.members.get m = some ⟨b⟩
  nodup : ∀ b, (s.expiring b).toList.Nodup
  pending : ∀ m ∈ todo, (s.members.get m).isSome ∧ ∀ b, m ∉ (s.expiring b).toList

abbrev Listed (s : State T) : Prop :=
  ListedUpTo [] s

namespace ListedUpTo

variable {todo : List T.AccountId}

theorem notMem_of_not_member (h : ListedUpTo todo s) (hm : s.members.get m = none) (b : UInt32)
    : m ∉ (s.expiring b).toList := by
  intro hmem
  have hget := h.members m b hmem
  rw [hm] at hget
  cases hget

/-
Every change is about one account. The others keep their entries and get on no new list.
-/
theorem update (h : ListedUpTo todo s) (hm : m ∉ todo)
    (hothers : ∀ m', m' ≠ m → s'.members.get m' = s.members.get m')
    (hlists : ∀ m' b, m' ≠ m → m' ∈ (s'.expiring b).toList → m' ∈ (s.expiring b).toList)
    (hself : ∀ b, m ∈ (s'.expiring b).toList → s'.members.get m = some ⟨b⟩)
    (hnodup : ∀ b, (s'.expiring b).toList.Nodup) : ListedUpTo todo s' := by
  constructor
  . intro m' b hmem
    by_cases heq : m' = m
    . subst heq
      apply hself
      exact hmem
    . rw [hothers m' heq]
      apply h.members
      apply hlists m' b heq hmem
  . apply hnodup
  . intro m' hm'
    have hne : m' ≠ m := by
      rintro rfl
      exact hm hm'
    obtain ⟨hsome, hnone⟩ := h.pending m' hm'
    rw [hothers m' hne]
    refine ⟨hsome, ?_⟩
    intro b hmem
    exact hnone b (hlists m' b hne hmem)

theorem congr (h : ListedUpTo todo s) (hmembers : s'.members = s.members)
    (hexpiring : s'.membershipsExpiresOn = s.membershipsExpiresOn) : ListedUpTo todo s' := by
  have hlists := expiring_congr hexpiring
  constructor
  . intro m b
    rw [hlists, hmembers]
    apply h.members
  . intro b
    rw [hlists]
    apply h.nodup
  . intro m hm
    rw [hmembers]
    refine ⟨(h.pending m hm).1, ?_⟩
    intro b
    rw [hlists]
    apply (h.pending m hm).2

theorem insertMember (h : ListedUpTo todo s) (hm : m ∉ todo) (hnone : ∀ b, m ∉ (s.expiring b).toList)
    (b : UInt32) : ListedUpTo todo (s.insertMember m b) := by
  apply h.update hm
  . intro m' hne
    apply StorageMap.get_insert_of_ne _ _ hne
  . intro m' b' _ hmem
    exact hmem
  . intro b' hmem
    exact absurd hmem (hnone b')
  . apply h.nodup

theorem schedule (h : ListedUpTo todo s) (hm : m ∉ todo) (hnone : ∀ b, m ∉ (s.expiring b).toList)
    (b : UInt32) : ListedUpTo todo ((s.insertMember m b).scheduleExpiry m b) := by
  by_cases hroom : (s.expiring b).toList.length < T.maxMembersPerBlock
  . have hlists := expiring_scheduleExpiry (s := s.insertMember m b) (m := m) hroom
    apply h.update hm
    . intro m' hne
      rw [scheduleExpiry_members]
      apply StorageMap.get_insert_of_ne _ _ hne
    . intro m' b' hne hmem
      rw [hlists] at hmem
      split at hmem
      . next hb =>
        rw [List.mem_append, List.mem_singleton] at hmem
        rw [hb]
        apply hmem.resolve_right hne
      . exact hmem
    . intro b' hmem
      rw [hlists] at hmem
      split at hmem
      . next hb =>
        rw [scheduleExpiry_members, hb]
        apply StorageMap.get_insert_self
      . exact absurd hmem (hnone b')
    . intro b'
      rw [hlists]
      split
      . rw [← List.concat_eq_append]
        apply (h.nodup b).concat
        apply hnone
      . apply h.nodup
  . rw [scheduleExpiry_of_full (s := s.insertMember m b) (Nat.le_of_not_lt hroom)]
    apply h.insertMember hm hnone

theorem removeMember (h : ListedUpTo todo s) (hm : m ∉ todo)
    (hnone : ∀ b, m ∉ (s.expiring b).toList)
    : ListedUpTo todo { s with members := s.members.remove m } := by
  apply h.update hm
  . intro m' hne
    apply StorageMap.get_remove_of_ne _ hne
  . intro m' b' _ hmem
    exact hmem
  . intro b' hmem
    exact absurd hmem (hnone b')
  . apply h.nodup

theorem addMember (h : Listed s) (hm : s.members.get m = none) (expires : Bool)
    : Listed (s.addMemberAndScheduleExpiry m expires) := by
  have hcount : Listed (s.countProvider .inc m) := h.congr rfl rfl
  have hnone := h.notMem_of_not_member hm
  cases expires with
  | true => exact hcount.schedule List.not_mem_nil hnone _
  | false => exact hcount.insertMember List.not_mem_nil hnone 0

theorem doExpireOrRenewMembership (h : ListedUpTo (m :: todo) s) (hm : m ∉ todo) (b : UInt32)
    : ListedUpTo todo (s.doExpireOrRenewMembership m b) := by
  have hnone := (h.pending m List.mem_cons_self).2
  have htail : ListedUpTo todo s :=
    ⟨h.members, h.nodup, fun m' hm' => h.pending m' (List.mem_cons_of_mem _ hm')⟩
  unfold State.doExpireOrRenewMembership
  split
  . have hflag : ListedUpTo todo
        { s with membershipsRenewsOn := s.membershipsRenewsOn.remove m } := htail.congr rfl rfl
    exact (hflag.schedule hm hnone _).congr rfl rfl
  . exact (htail.removeMember hm hnone).congr rfl rfl

/-
The induction is on the list that was taken.
-/
theorem foldl (h : ListedUpTo todo s) (hnodup : todo.Nodup) (b : UInt32)
    : Listed (todo.foldl (fun s m => s.doExpireOrRenewMembership m b) s) := by
  induction todo generalizing s with
  | nil => exact h
  | cons m todo ih =>
    rw [List.nodup_cons] at hnodup
    rw [List.foldl_cons]
    apply ih
    . apply h.doExpireOrRenewMembership hnodup.1
    . exact hnodup.2

theorem unique (h : ListedUpTo todo s) {b' : UInt32} (hb : m ∈ (s.expiring b).toList)
    (hb' : m ∈ (s.expiring b').toList) : b' = b := by
  have hget := h.members m b hb
  rw [h.members m b' hb'] at hget
  injection hget with hget
  injection hget

theorem drain (h : Listed s) (hmembers : s'.members = s.members)
    (hexpiring : s'.membershipsExpiresOn = s.membershipsExpiresOn.remove b)
    : ListedUpTo (s.expiring b).toList s' := by
  have hlists : ∀ m b', m ∈ (s'.expiring b').toList ↔ b' ≠ b ∧ m ∈ (s.expiring b').toList := by
    intro m b'
    rw [expiring_of_remove hexpiring]
    split
    . next hb => simp [hb]
    . next hb => simp [hb]
  constructor
  . intro m b' hmem
    rw [hlists] at hmem
    rw [hmembers]
    apply h.members
    exact hmem.2
  . intro b'
    rw [expiring_of_remove hexpiring]
    split
    . apply List.nodup_nil
    . apply h.nodup
  . intro m hm
    rw [hmembers, h.members m b hm]
    refine ⟨rfl, ?_⟩
    intro b' hmem
    rw [hlists] at hmem
    exact hmem.1 (h.unique hm hmem.2)

theorem newBlock (h : Listed s) : Listed (newBlock s) := by
  unfold NetworkMembership.newBlock State.onInitialize
  dsimp only
  split
  . apply ListedUpTo.foldl
    . exact h.drain rfl rfl
    . apply h.nodup
  . exact h.congr rfl rfl

theorem release (h : Listed s) {i : Nat} (hi : (s.expiring b).toList.idxOf? m = some i)
    (hmembers : s'.members = s.members.remove m)
    (hexpiring : s'.membershipsExpiresOn =
      s.membershipsExpiresOn.insert b ((s.expiring b).swapRemove i)) : Listed s' := by
  have hperm := swapRemove_perm_erase hi
  apply h.update List.not_mem_nil
  . intro m' hne
    rw [hmembers]
    apply StorageMap.get_remove_of_ne _ hne
  . intro m' b' _ hmem
    rw [expiring_of_insert hexpiring] at hmem
    split at hmem
    . next hb =>
      rw [hb]
      rw [BoundedVec.toList_swapRemove, hperm.mem_iff] at hmem
      apply List.mem_of_mem_erase hmem
    . exact hmem
  . intro b' hmem
    rw [expiring_of_insert hexpiring] at hmem
    split at hmem
    . rw [BoundedVec.toList_swapRemove, hperm.mem_iff, (h.nodup b).mem_erase_iff] at hmem
      exact absurd rfl hmem.1
    . next hb => exact absurd (h.unique (mem_of_idxOf? hi) hmem) hb
  . intro b'
    rw [expiring_of_insert hexpiring]
    split
    . rw [BoundedVec.toList_swapRemove, hperm.nodup_iff]
      apply (h.nodup b).erase
    . apply h.nodup

theorem step {step : Step T} (h : Listed s) (hs : Succeeds ((machine T).dispatch step) s () s')
    : Listed s' := by
  cases Stepped.of_succeeds hs with
  | nominate hfresh => exact (h.addMember hfresh _).congr rfl rfl
  | renew => exact h.congr rfl rfl
  | revoke _ hindex => exact h.release hindex rfl rfl
  | newBlock => exact h.newBlock

end ListedUpTo

/-
What a genesis configuration and every run that starts from it preserve, given what adding a member
and the steps do. The members of the configuration are distinct.
-/
theorem genesis_induction {I : State T → Prop} (config : GenesisConfig T)
    (hempty : I (State.empty T))
    (hadd : ∀ s m expires, I s → s.members.get m = none →
      I (s.addMemberAndScheduleExpiry m expires))
    : I (State.genesis config) := by
  have hfold : ∀ (entries : List (T.AccountId × Bool)) (s : State T), I s →
      (entries.map Prod.fst).Nodup → (∀ entry ∈ entries, s.members.get entry.1 = none) →
        I (entries.foldl (fun s entry => s.addMemberAndScheduleExpiry entry.1 entry.2) s) := by
    intro entries
    induction entries with
    | nil =>
      intro s hs _ _
      exact hs
    | cons entry entries ih =>
      intro s hs hnodup hnew
      rw [List.map_cons, List.nodup_cons] at hnodup
      rw [List.foldl_cons]
      apply ih
      . apply hadd _ _ _ hs
        apply hnew _ List.mem_cons_self
      . exact hnodup.2
      . rw [List.forall_mem_cons] at hnew
        exact addMemberAndScheduleExpiry_fresh _ _ hnodup.1 hnew.2
  apply hfold _ _ hempty config.nodup
  intro entry _
  rfl

theorem ListedUpTo.genesis (config : GenesisConfig T) : Listed (State.genesis config) := by
  apply genesis_induction config
  . constructor
    . intro m b hmem
      cases hmem
    . intro b
      apply List.nodup_nil
    . intro m hm
      cases hm
  . intro s m expires hs hm
    exact hs.addMember hm expires

end NetworkMembership
