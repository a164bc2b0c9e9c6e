import Cord.NetworkMembership.Lemmas.Listed

/-!
This module contains which memberships can be revoked: those that are on the list of the block they expire
at. A membership that does not expire is on no list, and neither is one whose list was full.
-/

open Frame

namespace NetworkMembership

variable {T : Config} {s s' : State T} {m : T.AccountId} {b : UInt32} {todo : List T.AccountId}

/--
Every membership is revoked by `root` if it is asked to, and then it is gone from all storages.
-/
def Revocable (root : T.Origin) (s : State T) : Prop :=
  ∀ m, isMember s m = true → ∃ s', Succeeds (revoke root m) s () s' ∧ isMember s' m = false ∧
    ∀ b, m ∉ (s'.expiring b).toList

def OnLists (todo : List T.AccountId) (s : State T) : Prop :=
  ∀ m, isMember s m = true → m ∉ todo → ∃ b, m ∈ (s.expiring b).toList

theorem revoke_succeeds {root : T.Origin} (hroot : T.networkMembershipOrigin root = some ())
    (hget : s.members.get m = some ⟨b⟩) (hmem : m ∈ (s.expiring b).toList)
    : ∃ s', Succeeds ((machine T).dispatch (.extrinsic root (.revoke m))) s () s' := by
  obtain ⟨index, hindex⟩ := Option.isSome_iff_exists.mp (List.isSome_idxOf?.mpr hmem)
  simp only [machine, Step.dispatch, revoke, Succeeds.bind_iff, Succeeds.ensureOrigin_iff,
    Succeeds.okOr_iff, Succeeds.get_iff, Succeeds.modify_iff, and_assoc, exists_and_left,
    exists_eq_left, exists_const, hroot, hget, Option.some.injEq, exists_eq_left']
  exact ⟨trivial, _, index, hindex, rfl⟩

theorem revocable_iff {root : T.Origin} (hroot : T.networkMembershipOrigin root = some ())
    (h : Listed s) : Revocable root s ↔ OnLists [] s := by
  constructor
  . intro hrevocable m hm _
    obtain ⟨s', hsucc, _⟩ := hrevocable m hm
    have hstep : Stepped s (.extrinsic root (.revoke m)) s' := .of_succeeds hsucc
    cases hstep with
    | revoke _ hindex => exact ⟨_, mem_of_idxOf? hindex⟩
  . intro honlists m hm
    obtain ⟨b, hmem⟩ := honlists m hm List.not_mem_nil
    obtain ⟨s', hsucc⟩ := revoke_succeeds hroot (h.members m b hmem) hmem
    have hgone : s'.members.get m = none := by
      cases Stepped.of_succeeds hsucc with
      | revoke _ _ => exact StorageMap.get_remove_self ..
    refine ⟨s', hsucc, ?_, (h.step hsucc).notMem_of_not_member hgone⟩
    exact (StorageMap.containsKey_eq_false_iff _ _).mpr hgone

theorem mem_expiring_scheduleExpiry_iff {m' : T.AccountId} {b' : UInt32}
    : m' ∈ ((s.scheduleExpiry m b).expiring b').toList ↔
        m' ∈ (s.expiring b').toList ∨
          (s.expiring b).toList.length < T.maxMembersPerBlock ∧ m' = m ∧ b' = b := by
  by_cases hroom : (s.expiring b).toList.length < T.maxMembersPerBlock
  . rw [expiring_scheduleExpiry hroom]
    by_cases hb : b' = b
    . simp [hb, hroom]
    . simp [hb]
  . rw [scheduleExpiry_of_full (Nat.le_of_not_lt hroom)]
    simp [hroom]

namespace OnLists

/-
What is put on a list was on none before, so it is on one afterwards if there is room.
-/
theorem schedule_iff (hm : m ∉ todo) (hnone : ∀ b, m ∉ (s.expiring b).toList)
    : OnLists todo ((s.insertMember m b).scheduleExpiry m b) ↔
        OnLists (m :: todo) s ∧ (s.expiring b).toList.length < T.maxMembersPerBlock := by
  have hmember : ∀ m', isMember ((s.insertMember m b).scheduleExpiry m b) m' = true ↔
      m' = m ∨ isMember s m' = true := by
    intro m'
    unfold isMember
    rw [scheduleExpiry_members]
    exact StorageMap.containsKey_insert ..
  have hlists : ∀ m' b', m' ∈ (((s.insertMember m b).scheduleExpiry m b).expiring b').toList ↔ _ :=
    fun m' b' => mem_expiring_scheduleExpiry_iff
  constructor
  . intro h
    constructor
    . intro m' hm' hnot
      rw [List.mem_cons, not_or] at hnot
      obtain ⟨b', hmem⟩ := h m' ((hmember m').mpr (.inr hm')) hnot.2
      exact ⟨b', ((hlists m' b').mp hmem).resolve_right fun hpushed => hnot.1 hpushed.2.1⟩
    . obtain ⟨b', hmem⟩ := h m ((hmember m).mpr (.inl rfl)) hm
      exact (((hlists m b').mp hmem).resolve_left (hnone b')).1
  . rintro ⟨h, hroom⟩ m' hm' hnot
    by_cases heq : m' = m
    . exact ⟨b, (hlists m' b).mpr (.inr ⟨hroom, heq, rfl⟩)⟩
    . have hmem := h m' (((hmember m').mp hm').resolve_left heq) (by simp [heq, hnot])
      obtain ⟨b', hmem⟩ := hmem
      exact ⟨b', (hlists m' b').mpr (.inl hmem)⟩

theorem removeMember_iff (hmembers : s'.members = s.members.remove m)
    (hexpiring : s'.membershipsExpiresOn = s.membershipsExpiresOn)
    : OnLists todo s' ↔ OnLists (m :: todo) s := by
  have hmember : ∀ m', isMember s' m' = true ↔ m' ≠ m ∧ isMember s m' = true := by
    intro m'
    unfold isMember
    rw [hmembers]
    exact StorageMap.containsKey_remove ..
  unfold OnLists
  simp only [hmember, expiring_congr hexpiring, List.mem_cons, not_or]
  constructor
  . intro h m' hm' hnot
    exact h m' ⟨hnot.1, hm'⟩ hnot.2
  . intro h m' hm' hnot
    exact h m' hm'.2 ⟨hm'.1, hnot⟩

theorem congr_iff (hmembers : s'.members = s.members)
    (hexpiring : s'.membershipsExpiresOn = s.membershipsExpiresOn)
    : OnLists todo s' ↔ OnLists todo s := by
  unfold OnLists isMember
  simp only [hmembers, expiring_congr hexpiring]

section Loop

theorem doExpireOrRenewMembership_iff (hm : m ∉ todo) (hnone : ∀ b, m ∉ (s.expiring b).toList)
    : OnLists todo (s.doExpireOrRenewMembership m b) ↔
        OnLists (m :: todo) s ∧ (s.membershipsRenewsOn.containsKey m = true →
          (s.expiring (b + T.membershipPeriod)).toList.length < T.maxMembersPerBlock) := by
  unfold State.doExpireOrRenewMembership
  split
  . next hrenews =>
    simp only [hrenews, true_implies]
    exact schedule_iff (s := { s with membershipsRenewsOn := s.membershipsRenewsOn.remove m }) hm hnone
  . next hexpires =>
    simp only [hexpires, Bool.false_eq_true, false_implies, and_true]
    exact removeMember_iff rfl rfl

theorem length_doExpireOrRenewMembership (m : T.AccountId) (b : UInt32) (s : State T)
    : ((s.doExpireOrRenewMembership m b).expiring (b + T.membershipPeriod)).toList.length =
        if s.membershipsRenewsOn.containsKey m = true ∧
            (s.expiring (b + T.membershipPeriod)).toList.length < T.maxMembersPerBlock then
          (s.expiring (b + T.membershipPeriod)).toList.length + 1
        else
          (s.expiring (b + T.membershipPeriod)).toList.length := by
  unfold State.doExpireOrRenewMembership State.renewMembershipAndScheduleExpiry
  split
  . next hrenews =>
    simp only [hrenews, true_and]
    generalize hs' : State.insertMember m (b + T.membershipPeriod)
      { s with membershipsRenewsOn := s.membershipsRenewsOn.remove m } = s'
    have hlists : s'.expiring (b + T.membershipPeriod) = s.expiring (b + T.membershipPeriod) := by
      rw [← hs']
      rfl
    change ((s'.scheduleExpiry m (b + T.membershipPeriod)).expiring _).toList.length = _
    rw [← hlists]
    split
    . next hroom => rw [expiring_scheduleExpiry hroom, if_pos rfl, List.length_append, List.length_singleton]
    . next hfull => rw [scheduleExpiry_of_full (Nat.le_of_not_lt hfull)]
  . next hexpires =>
    simp only [hexpires, Bool.false_eq_true, false_and, if_false]
    rfl

/-
The induction is on the list that was taken, and the list of the later block only grows.
-/
theorem foldl_iff (h : ListedUpTo todo s) (hnodup : todo.Nodup) (b : UInt32)
    : OnLists [] (todo.foldl (fun s m => s.doExpireOrRenewMembership m b) s) ↔
        OnLists todo s ∧ (s.expiring (b + T.membershipPeriod)).toList.length +
          (todo.filter fun m => s.membershipsRenewsOn.containsKey m).length ≤ T.maxMembersPerBlock := by
  induction todo generalizing s with
  | nil =>
    rw [List.foldl_nil, List.filter_nil, List.length_nil, Nat.add_zero]
    exact (and_iff_left (s.expiring _).length_le).symm
  | cons m todo ih =>
    rw [List.nodup_cons] at hnodup
    have hnone := (h.pending m List.mem_cons_self).2
    have hrenews : (todo.filter fun m' =>
        (s.doExpireOrRenewMembership m b).membershipsRenewsOn.containsKey m') =
          todo.filter fun m' => s.membershipsRenewsOn.containsKey m' := by
      apply List.filter_congr
      intro m' hm'
      rw [doExpireOrRenewMembership_renewsOn, if_neg]
      rintro rfl
      exact hnodup.1 hm'
    rw [List.foldl_cons, ih (h.doExpireOrRenewMembership hnodup.1 b) hnodup.2]
    rw [doExpireOrRenewMembership_iff hnodup.1 hnone, hrenews, length_doExpireOrRenewMembership]
    rw [List.filter_cons, and_assoc]
    apply and_congr_right'
    have hfits := (s.expiring (b + T.membershipPeriod)).length_le
    by_cases hflag : s.membershipsRenewsOn.containsKey m = true
    . simp only [hflag, true_implies, true_and, if_true, List.length_cons]
      split
      . next hroom => omega
      . next hroom => omega
    . simp only [hflag, Bool.false_eq_true, false_implies, false_and, if_false, true_and]

end Loop

theorem drain (h : OnLists [] s) (hmembers : s'.members = s.members)
    (hexpiring : s'.membershipsExpiresOn = s.membershipsExpiresOn.remove b)
    : OnLists (s.expiring b).toList s' := by
  intro m hm hnot
  unfold isMember at hm
  rw [hmembers] at hm
  obtain ⟨b', hmem⟩ := h m hm List.not_mem_nil
  refine ⟨b', ?_⟩
  rw [expiring_of_remove hexpiring, if_neg]
  . exact hmem
  . rintro rfl
    exact hnot hmem

end OnLists

def KeepsListed (s : State T) : Step T → Prop
  -- There is room on the list of the block at which a membership expires. When a block begins its
  -- own list is taken before those on it that have asked for it are renewed.
  | .extrinsic _ (.nominate _ expires) =>
    expires = true ∧
      (s.expiring (s.blockNumber + T.membershipPeriod)).toList.length < T.maxMembersPerBlock
  | .newBlock =>
    let n := s.blockNumber + 1
    let taken := { s with membershipsExpiresOn := s.membershipsExpiresOn.remove n }
    0 < n → (taken.expiring (n + T.membershipPeriod)).toList.length +
      ((s.expiring n).toList.filter fun m => s.membershipsRenewsOn.containsKey m).length ≤
        T.maxMembersPerBlock
  | _ => True

instance (s : State T) : (step : Step T) → Decidable (KeepsListed s step)
  | .extrinsic _ (.nominate _ _) => inferInstanceAs (Decidable (_ ∧ _))
  | .extrinsic _ (.renew _) => inferInstanceAs (Decidable True)
  | .extrinsic _ (.revoke _) => inferInstanceAs (Decidable True)
  | .newBlock => inferInstanceAs (Decidable (0 < s.blockNumber + 1 → _ ≤ T.maxMembersPerBlock))

namespace OnLists

theorem absent_iff (hm : s.members.get m = none) : OnLists [m] s ↔ OnLists [] s := by
  constructor
  . intro h m' hm' _
    apply h m' hm'
    rw [List.mem_singleton]
    rintro rfl
    rw [isMember, (StorageMap.containsKey_eq_false_iff _ _).mpr hm] at hm'
    cases hm'
  . intro h m' hm' _
    exact h m' hm' List.not_mem_nil

theorem addMember_iff (hlisted : Listed s) (hm : s.members.get m = none) (expires : Bool)
    : OnLists [] (s.addMemberAndScheduleExpiry m expires) ↔
        OnLists [] s ∧ expires = true ∧
          (s.expiring (s.blockNumber + T.membershipPeriod)).toList.length < T.maxMembersPerBlock := by
  have hnone := hlisted.notMem_of_not_member hm
  cases expires with
  | true =>
    have hself : OnLists [m] (s.countProvider .inc m) ↔ OnLists [] s :=
      absent_iff (s := s.countProvider .inc m) hm
    simp only [true_and]
    rw [← hself]
    exact schedule_iff (s := s.countProvider .inc m) List.not_mem_nil hnone
  | false =>
    simp only [Bool.false_eq_true, false_and, and_false, iff_false]
    intro h
    obtain ⟨b, hmem⟩ := h m ((StorageMap.containsKey_insert ..).mpr (.inl rfl)) List.not_mem_nil
    exact hnone b hmem

theorem newBlock_iff (hlisted : Listed s) (h : OnLists [] s)
    : OnLists [] (newBlock s) ↔ KeepsListed s .newBlock := by
  unfold KeepsListed NetworkMembership.newBlock State.onInitialize
  dsimp only
  split
  . next hpos =>
    simp only [hpos, true_implies]
    refine (foldl_iff ?_ (hlisted.nodup _) _).trans (and_iff_right ?_)
    . exact hlisted.drain rfl rfl
    . exact h.drain rfl rfl
  . next hzero =>
    simp only [hzero, false_implies, iff_true]
    exact h

theorem release (h : OnLists [] s) {i : Nat} (hi : (s.expiring b).toList.idxOf? m = some i)
    (hmembers : s'.members = s.members.remove m)
    (hexpiring : s'.membershipsExpiresOn =
      s.membershipsExpiresOn.insert b ((s.expiring b).swapRemove i)) : OnLists [] s' := by
  intro m' hm' _
  unfold isMember at hm'
  rw [hmembers, StorageMap.containsKey_remove] at hm'
  obtain ⟨b', hmem⟩ := h m' hm'.2 List.not_mem_nil
  refine ⟨b', ?_⟩
  rw [expiring_of_insert hexpiring]
  split
  . next hb =>
    rw [hb] at hmem
    rw [BoundedVec.toList_swapRemove, (swapRemove_perm_erase hi).mem_iff]
    exact (List.mem_erase_of_ne hm'.1).mpr hmem
  . exact hmem

theorem step_iff {step : Step T} (hlisted : Listed s) (h : OnLists [] s)
    (hs : Succeeds ((machine T).dispatch step) s () s') : OnLists [] s' ↔ KeepsListed s step := by
  cases Stepped.of_succeeds hs with
  | nominate hfresh => exact (addMember_iff hlisted hfresh _).trans (and_iff_right h)
  | renew => exact iff_of_true ((congr_iff rfl rfl).mpr h) trivial
  | revoke _ hindex => exact iff_of_true (h.release hindex rfl rfl) trivial
  | newBlock => exact newBlock_iff hlisted h

theorem length_addMember (m : T.AccountId)
    (hroom : (s.expiring (s.blockNumber + T.membershipPeriod)).toList.length < T.maxMembersPerBlock)
    : let s' := s.addMemberAndScheduleExpiry m true
      (s'.expiring (s'.blockNumber + T.membershipPeriod)).toList.length =
        (s.expiring (s.blockNumber + T.membershipPeriod)).toList.length + 1 := by
  dsimp only
  rw [addMemberAndScheduleExpiry_blockNumber]
  change ((State.scheduleExpiry m _ ((s.insertMember m _).countProvider .inc m)).expiring _).toList.length = _
  rw [expiring_scheduleExpiry (s := (s.insertMember m _).countProvider .inc m) hroom, if_pos rfl]
  exact List.length_append

/-
The members of a genesis configuration all expire at the same block.
-/
theorem foldl_addMember_iff (entries : List (T.AccountId × Bool)) (hlisted : Listed s)
    (hnodup : (entries.map Prod.fst).Nodup) (hnew : ∀ entry ∈ entries, s.members.get entry.1 = none)
    : OnLists [] (entries.foldl (fun s entry => s.addMemberAndScheduleExpiry entry.1 entry.2) s) ↔
        OnLists [] s ∧ (∀ entry ∈ entries, entry.2 = true) ∧
          (s.expiring (s.blockNumber + T.membershipPeriod)).toList.length + entries.length ≤
            T.maxMembersPerBlock := by
  induction entries generalizing s with
  | nil =>
    have hfits := (s.expiring (s.blockNumber + T.membershipPeriod)).length_le
    simp [hfits]
  | cons entry entries ih =>
    obtain ⟨m, expires⟩ := entry
    rw [List.map_cons, List.nodup_cons] at hnodup
    rw [List.forall_mem_cons] at hnew
    have hothers := addMemberAndScheduleExpiry_fresh expires s hnodup.1 hnew.2
    rw [List.foldl_cons, ih (hlisted.addMember hnew.1 expires) hnodup.2 hothers]
    rw [addMember_iff hlisted hnew.1, List.forall_mem_cons, List.length_cons]
    constructor
    . rintro ⟨⟨h, rfl, hroom⟩, hexpire, hlength⟩
      rw [length_addMember m hroom] at hlength
      exact ⟨h, ⟨rfl, hexpire⟩, by omega⟩
    . rintro ⟨h, ⟨rfl, hexpire⟩, hlength⟩
      have hroom : (s.expiring (s.blockNumber + T.membershipPeriod)).toList.length <
          T.maxMembersPerBlock := by
        omega
      refine ⟨⟨h, rfl, hroom⟩, hexpire, ?_⟩
      rw [length_addMember m hroom]
      omega

theorem genesis_iff (config : GenesisConfig T)
    : OnLists [] (State.genesis config) ↔
        (∀ entry ∈ config.members, entry.2 = true) ∧
          config.members.length ≤ T.maxMembersPerBlock := by
  have hempty : Listed (State.empty T) := ListedUpTo.genesis ⟨[], List.nodup_nil⟩
  have hiff := foldl_addMember_iff config.members hempty config.nodup fun entry _ => rfl
  refine hiff.trans ?_
  have hlength : ((State.empty T).expiring
      ((State.empty T).blockNumber + T.membershipPeriod)).toList.length = 0 := rfl
  rw [hlength, Nat.zero_add]
  apply and_iff_right
  intro m hm
  cases hm

end OnLists

/--
Every membership can be revoked throughout a run exactly if the memberships of the genesis and those
that are nominated expire, and there is room for each of them on the list of its block, also when it
is renewed.
-/
theorem run_revocable_iff (root : T.Origin) (hroot : T.networkMembershipOrigin root = some ())
    (config : GenesisConfig T) (steps : List (Step T))
    : (machine T).Always (Revocable root) (State.genesis config) steps ↔
        ((∀ entry ∈ config.members, entry.2 = true) ∧
          config.members.length ≤ T.maxMembersPerBlock) ∧
        (machine T).Meets KeepsListed (State.genesis config) steps := by
  have hlisted := ListedUpTo.genesis config
  rw [← OnLists.genesis_iff]
  have hrun : OnLists [] (State.genesis config) →
      ((machine T).Always (Revocable root) (State.genesis config) steps ↔
        (machine T).Meets KeepsListed (State.genesis config) steps) := by
    intro hinit
    apply Machine.always_iff_meets (J := Listed)
    . intro s step s' h hs
      exact h.step hs
    . intro s step s' h hrevocable hs
      rw [revocable_iff hroot (h.step hs)]
      exact OnLists.step_iff h ((revocable_iff hroot h).mp hrevocable) hs
    . exact hlisted
    . exact (revocable_iff hroot hlisted).mpr hinit
  constructor
  . intro h
    have hinit := (revocable_iff hroot hlisted).mp h.head
    exact ⟨hinit, (hrun hinit).mp h⟩
  . rintro ⟨hinit, h⟩
    exact (hrun hinit).mpr h

theorem expiring_revocable
    : (machine (.plain 2 2)).Always (Revocable ())
        (State.genesis ⟨[(1, true)], List.nodup_singleton 1⟩)
        [.extrinsic () (.renew 1), .extrinsic () (.nominate 2 true), .newBlock, .newBlock] := by
  rw [run_revocable_iff (T := .plain 2 2) () rfl]
  decide +kernel

/-
A membership that does not expire is on no list, so the call that revokes it finds no position of it.
-/
theorem permanent_not_revocable
    : ¬ ∀ steps : List (Step (.plain 2 2)),
        (machine (.plain 2 2)).Always (Revocable ()) (State.genesis ⟨[], List.nodup_nil⟩) steps := by
  intro h
  have hnominated := (h [.extrinsic () (.nominate 1 false)]).2
  obtain ⟨s', hrevoke, _⟩ := hnominated 1 rfl
  exact Machine.accepts_eq_false_iff.mp
    (by decide +kernel : (machine (.plain 2 2)).accepts _ (.extrinsic () (.revoke 1)) = false) s' hrevoke

end NetworkMembership
