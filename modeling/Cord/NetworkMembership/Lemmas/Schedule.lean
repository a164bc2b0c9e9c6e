import Cord.Frame.Arith
import Cord.NetworkMembership.Lemmas.Steps

/-!
This module contains the agreement of the members with the lists of those that expire at a block.
An entry that does not fit into the list of its block is lost, the agreement holds as long as there
is room for every membership that is acquired.
-/

open Frame

namespace NetworkMembership

variable {T : Config} {s s' : State T} {m : T.AccountId} {b : UInt32}

theorem toNat_succ {n : UInt32} (h : n + 1 ≠ 0) : (n + 1).toNat = n.toNat + 1 := by
  have hlt := n.toNat_lt
  have hne : (n + 1).toNat ≠ 0 := by
    intro heq
    exact h (UInt32.toNat_inj.mp heq)
  rw [UInt32.toNat_add] at hne ⊢
  change (n.toNat + 1) % 2 ^ 32 ≠ 0 at hne
  change (n.toNat + 1) % 2 ^ 32 = n.toNat + 1
  omega

/--
Every membership that expires is on the list of its block and on no other. The accounts of `todo`
are excepted, they are on no list at all. The lists are those of the next blocks within a membership
period.
-/
structure ScheduledUpTo (todo : List T.AccountId) (s : State T) : Prop where
  members : ∀ m, m ∉ todo → ∀ b,
    (s.members.get m = some ⟨b⟩ ∧ b ≠ 0) ↔ m ∈ (s.expiring b).toList
  pending : ∀ m ∈ todo, ∀ b, m ∉ (s.expiring b).toList
  nodup : ∀ b, (s.expiring b).toList.Nodup
  window : ∀ b m, m ∈ (s.expiring b).toList → s.blockNumber.toNat < b.toNat ∧
    b.toNat ≤ s.blockNumber.toNat + T.membershipPeriod.toNat

abbrev Scheduled (s : State T) : Prop :=
  ScheduledUpTo [] s

namespace ScheduledUpTo

variable {todo : List T.AccountId}

theorem congr (h : ScheduledUpTo todo s) (hmembers : s'.members = s.members)
    (hexpiring : s'.membershipsExpiresOn = s.membershipsExpiresOn)
    (hblock : s'.blockNumber = s.blockNumber) : ScheduledUpTo todo s' := by
  have hlists := expiring_congr hexpiring
  constructor
  . intro m hm b
    rw [hmembers, hlists]
    exact h.members m hm b
  . intro m hm b
    rw [hlists]
    exact h.pending m hm b
  . intro b
    rw [hlists]
    exact h.nodup b
  . intro b m
    rw [hlists, hblock]
    exact h.window b m

theorem of_not_member (h : Scheduled s) (hm : s.members.get m = none)
    : ScheduledUpTo [m] s := by
  constructor
  . intro m' _ b
    exact h.members m' List.not_mem_nil b
  . intro m' hm' b hmem
    rw [List.mem_singleton] at hm'
    have hget := ((h.members m' List.not_mem_nil b).mpr hmem).1
    rw [hm', hm] at hget
    cases hget
  . exact h.nodup
  . exact h.window

theorem settle (h : ScheduledUpTo (m :: todo) s)
    (hself : ∀ b, s'.members.get m = some ⟨b⟩ → b = 0)
    (hothers : ∀ m', m' ≠ m → s'.members.get m' = s.members.get m')
    (hexpiring : s'.membershipsExpiresOn = s.membershipsExpiresOn)
    (hblock : s'.blockNumber = s.blockNumber) : ScheduledUpTo todo s' := by
  have hlists := expiring_congr hexpiring
  constructor
  . intro m' hm' b
    rw [hlists]
    by_cases heq : m' = m
    . rw [heq]
      constructor
      . rintro ⟨hget, hne⟩
        exact absurd (hself b hget) hne
      . intro hmem
        exact absurd hmem (h.pending m List.mem_cons_self b)
    . rw [hothers m' heq]
      apply h.members
      rw [List.mem_cons, not_or]
      exact ⟨heq, hm'⟩
  . intro m' hm' b
    rw [hlists]
    exact h.pending m' (List.mem_cons_of_mem _ hm') b
  . intro b
    rw [hlists]
    exact h.nodup b
  . intro b m'
    rw [hlists, hblock]
    exact h.window b m'

theorem schedule (h : ScheduledUpTo (m :: todo) s) (hm : m ∉ todo)
    (hroom : (s.expiring b).toList.length < T.maxMembersPerBlock)
    (hlt : s.blockNumber.toNat < b.toNat)
    (hle : b.toNat ≤ s.blockNumber.toNat + T.membershipPeriod.toNat)
    : ScheduledUpTo todo ((s.insertMember m b).scheduleExpiry m b) := by
  have hlists : ∀ b', (((s.insertMember m b).scheduleExpiry m b).expiring b').toList =
      if b' = b then (s.expiring b).toList ++ [m] else (s.expiring b').toList := by
    intro b'
    exact expiring_scheduleExpiry (s := s.insertMember m b) hroom b'
  have hne : b ≠ 0 := by
    rintro rfl
    exact absurd hlt (Nat.not_lt_zero _)
  constructor
  . intro m' hm' b'
    rw [hlists, scheduleExpiry_members, State.insertMember, StorageMap.get_insert]
    by_cases heq : m' = m
    . subst heq
      rw [if_pos rfl]
      split
      . next hb =>
        subst hb
        simp [hne]
      . next hb =>
        constructor
        . rintro ⟨hget, _⟩
          injection hget with hget
          injection hget with hget
          exact absurd hget.symm hb
        . intro hmem
          exact absurd hmem (h.pending m' List.mem_cons_self b')
    . rw [if_neg heq, h.members m' (by simp [heq, hm'])]
      split
      . next hb =>
        rw [hb, List.mem_append, List.mem_singleton]
        simp [heq]
      . rfl
  . intro m' hm' b' hmem
    rw [hlists] at hmem
    have hpending := h.pending m' (List.mem_cons_of_mem _ hm')
    split at hmem
    . rw [List.mem_append, List.mem_singleton] at hmem
      rcases hmem with hmem | rfl
      . exact hpending b hmem
      . exact hm hm'
    . exact hpending b' hmem
  . intro b'
    rw [hlists]
    split
    . rw [← List.concat_eq_append]
      exact (h.nodup b).concat (h.pending m List.mem_cons_self b)
    . exact h.nodup b'
  . intro b' m' hmem
    rw [hlists] at hmem
    rw [scheduleExpiry_blockNumber]
    split at hmem
    . next hb =>
      rw [hb]
      exact ⟨hlt, hle⟩
    . exact h.window b' m' hmem

theorem unique (h : Scheduled s) {b' : UInt32} (hb : m ∈ (s.expiring b).toList)
    (hb' : m ∈ (s.expiring b').toList) : b' = b := by
  have hget := ((h.members m List.not_mem_nil b).mpr hb).1
  have hget' := ((h.members m List.not_mem_nil b').mpr hb').1
  rw [hget] at hget'
  injection hget' with heq
  injection heq with heq
  exact heq.symm

theorem release (h : Scheduled s) {i : Nat} (hi : (s.expiring b).toList.idxOf? m = some i)
    (hmembers : s'.members = s.members)
    (hexpiring : s'.membershipsExpiresOn =
      s.membershipsExpiresOn.insert b ((s.expiring b).swapRemove i))
    (hblock : s'.blockNumber = s.blockNumber) : ScheduledUpTo [m] s' := by
  have hperm := swapRemove_perm_erase hi
  -- Every other account is on the same lists as before.
  have hlists : ∀ m' b', m' ∈ (s'.expiring b').toList ↔
      m' ≠ m ∧ m' ∈ (s.expiring b').toList := by
    intro m' b'
    rw [expiring_of_insert hexpiring]
    split
    . next hb =>
      rw [hb, BoundedVec.toList_swapRemove, hperm.mem_iff, (h.nodup b).mem_erase_iff]
    . next hb =>
      constructor
      . intro hmem
        refine ⟨?_, hmem⟩
        rintro rfl
        exact hb (h.unique (mem_of_idxOf? hi) hmem)
      . exact And.right
  constructor
  . intro m' hm' b'
    rw [List.mem_singleton] at hm'
    rw [hlists, hmembers, h.members m' List.not_mem_nil]
    simp [hm']
  . intro m' hm' b'
    rw [List.mem_singleton] at hm'
    rw [hlists]
    simp [hm']
  . intro b'
    rw [expiring_of_insert hexpiring]
    split
    . rw [BoundedVec.toList_swapRemove, hperm.nodup_iff]
      exact (h.nodup b).erase m
    . exact h.nodup b'
  . intro b' m' hmem
    rw [hlists] at hmem
    rw [hblock]
    exact h.window b' m' hmem.2

theorem drain (h : Scheduled s) (hne : s.blockNumber + 1 ≠ 0) (hmembers : s'.members = s.members)
    (hexpiring : s'.membershipsExpiresOn = s.membershipsExpiresOn.remove (s.blockNumber + 1))
    (hblock : s'.blockNumber = s.blockNumber + 1)
    : ScheduledUpTo (s.expiring (s.blockNumber + 1)).toList s' := by
  have hlists : ∀ m b, m ∈ (s'.expiring b).toList ↔
      b ≠ s.blockNumber + 1 ∧ m ∈ (s.expiring b).toList := by
    intro m b
    rw [expiring_of_remove hexpiring]
    split
    . next hb => simp [hb]
    . next hb => simp [hb]
  constructor
  . intro m hm b
    rw [hlists, hmembers, h.members m List.not_mem_nil]
    constructor
    . intro hmem
      refine ⟨?_, hmem⟩
      rintro rfl
      exact hm hmem
    . exact And.right
  . intro m hm b hmem
    rw [hlists] at hmem
    exact hmem.1 (h.unique hm hmem.2)
  . intro b
    rw [expiring_of_remove hexpiring]
    split
    . exact List.nodup_nil
    . exact h.nodup b
  . intro b m hmem
    rw [hlists] at hmem
    have hwindow := h.window b m hmem.2
    have hnext := toNat_succ hne
    have hb : b.toNat ≠ (s.blockNumber + 1).toNat := by
      intro heq
      exact hmem.1 (UInt32.toNat_inj.mp heq)
    rw [hblock]
    omega

theorem doExpireOrRenewMembership (h : ScheduledUpTo (m :: todo) s) (hm : m ∉ todo)
    (hperiod : 0 < T.membershipPeriod.toNat)
    (hrenews : s.membershipsRenewsOn.containsKey m →
      s.blockNumber.toNat + T.membershipPeriod.toNat < 2 ^ 32 ∧
      (s.expiring (s.blockNumber + T.membershipPeriod)).toList.length < T.maxMembersPerBlock)
    : ScheduledUpTo todo (s.doExpireOrRenewMembership m s.blockNumber) := by
  -- A member whose membership expires is renewed or removed. A renewed membership needs room in
  -- the list of the block at which it expires again.
  unfold State.doExpireOrRenewMembership
  split
  . next hcontains =>
    obtain ⟨hlt, hroom⟩ := hrenews hcontains
    have hadd := toNat_add_of_lt32 hlt
    have hs : ScheduledUpTo (m :: todo)
        { s with membershipsRenewsOn := s.membershipsRenewsOn.remove m } :=
      h.congr rfl rfl rfl
    have hschedule := hs.schedule hm hroom (by dsimp only; omega) (by dsimp only; omega)
    exact hschedule.congr rfl rfl rfl
  . refine h.settle ?_ ?_ rfl rfl
    . intro b hget
      change (s.members.remove m).get m = some ⟨b⟩ at hget
      rw [StorageMap.get_remove_self] at hget
      cases hget
    . intro m' hne
      exact StorageMap.get_remove_of_ne _ hne

end ScheduledUpTo

/-
The induction is on the list that was taken, there is room for all of its members.
-/
theorem ScheduledUpTo.foldl {todo : List T.AccountId} {n : UInt32} (h : ScheduledUpTo todo s)
    (hn : s.blockNumber = n) (hnodup : todo.Nodup) (hperiod : 0 < T.membershipPeriod.toNat)
    (hrenews : ∀ m ∈ todo, s.membershipsRenewsOn.containsKey m →
      n.toNat + T.membershipPeriod.toNat < 2 ^ 32)
    (hroom : n.toNat + T.membershipPeriod.toNat < 2 ^ 32 →
      (s.expiring (n + T.membershipPeriod)).toList.length + todo.length ≤ T.maxMembersPerBlock)
    : Scheduled (todo.foldl (fun s m => s.doExpireOrRenewMembership m n) s) := by
  induction todo generalizing s with
  | nil => exact h
  | cons m todo ih =>
    rw [List.nodup_cons] at hnodup
    rw [List.length_cons] at hroom
    rw [List.foldl_cons]
    apply ih
    . rw [← hn]
      apply h.doExpireOrRenewMembership hnodup.1 hperiod
      rw [hn]
      intro hcontains
      have hlt := hrenews m List.mem_cons_self hcontains
      have hlength := hroom hlt
      exact ⟨hlt, by omega⟩
    . rw [doExpireOrRenewMembership_blockNumber, hn]
    . exact hnodup.2
    . intro m' hm' hcontains
      apply hrenews m' (List.mem_cons_of_mem _ hm')
      rw [doExpireOrRenewMembership_renewsOn] at hcontains
      split at hcontains
      . cases hcontains
      . exact hcontains
    . intro hlt
      have hlength := hroom hlt
      have hgrow := doExpireOrRenewMembership_length m n s (n + T.membershipPeriod)
      omega

theorem ScheduledUpTo.addMemberAndScheduleExpiry (h : Scheduled s) {expires : Bool}
    (hm : s.members.get m = none) (hperiod : 0 < T.membershipPeriod.toNat)
    (hroom : expires = true → s.blockNumber.toNat + T.membershipPeriod.toNat < 2 ^ 32 ∧
      (s.expiring (s.blockNumber + T.membershipPeriod)).toList.length < T.maxMembersPerBlock)
    : Scheduled (s.addMemberAndScheduleExpiry m expires) := by
  have hpending := h.of_not_member hm
  cases expires with
  | true =>
    obtain ⟨hlt, hlength⟩ := hroom rfl
    have hadd := toNat_add_of_lt32 hlt
    have hs : ScheduledUpTo [m] (s.countProvider .inc m) := hpending.congr rfl rfl rfl
    refine hs.schedule List.not_mem_nil hlength ?_ ?_
    . change s.blockNumber.toNat < _
      omega
    . change _ ≤ s.blockNumber.toNat + _
      omega
  | false =>
    refine hpending.settle ?_ ?_ rfl rfl
    . intro b hget
      change (s.members.insert m ⟨0⟩).get m = some ⟨b⟩ at hget
      rw [StorageMap.get_insert_self] at hget
      injection hget with hget
      injection hget with hget
      exact hget.symm
    . intro m' hne
      exact StorageMap.get_insert_of_ne _ _ hne

theorem ScheduledUpTo.newBlock (h : Scheduled s) (hperiod : 0 < T.membershipPeriod.toNat)
    (hrenews : ∀ m ∈ (s.expiring (s.blockNumber + 1)).toList,
      s.membershipsRenewsOn.containsKey m →
        (s.blockNumber + 1).toNat + T.membershipPeriod.toNat < 2 ^ 32)
    : Scheduled (newBlock s) := by
  -- The memberships of a block are renewed or expire when it begins. No list reaches further
  -- than one membership period, so there is room for all that are renewed.
  unfold NetworkMembership.newBlock State.onInitialize
  dsimp only
  split
  . next hpos =>
    have hne : s.blockNumber + 1 ≠ 0 := by
      intro heq
      rw [heq] at hpos
      exact absurd hpos (by decide)
    have hnext := toNat_succ hne
    apply ScheduledUpTo.foldl
    . exact h.drain hne rfl rfl rfl
    . rfl
    . exact h.nodup _
    . exact hperiod
    . exact hrenews
    . intro hlt
      have hadd := toNat_add_of_lt32 hlt
      have hempty : (s.expiring (s.blockNumber + 1 + T.membershipPeriod)).toList = [] := by
        rw [List.eq_nil_iff_forall_not_mem]
        intro m hm
        have hwindow := h.window _ m hm
        omega
      rw [expiring_of_remove (s := s) rfl, if_neg]
      . change (s.expiring (s.blockNumber + 1 + T.membershipPeriod)).toList.length + _ ≤ _
        rw [hempty, List.length_nil, Nat.zero_add]
        exact (s.expiring _).length_le
      . intro heq
        have htoNat := congrArg UInt32.toNat heq
        omega
  . next hzero =>
    -- The block number has wrapped around, there is no later block that a list could be of.
    have hnext : s.blockNumber + 1 = 0 := by
      by_contra hne
      apply hzero
      rw [UInt32.lt_iff_toNat_lt, toNat_succ hne]
      exact Nat.succ_pos _
    have hempty : ∀ b, (s.expiring b).toList = [] := by
      intro b
      rw [List.eq_nil_iff_forall_not_mem]
      intro m hm
      have hwindow := h.window b m hm
      have hlt := b.toNat_lt
      have hmod := congrArg UInt32.toNat hnext
      rw [UInt32.toNat_add] at hmod
      change (s.blockNumber.toNat + 1) % 2 ^ 32 = 0 at hmod
      omega
    constructor
    . exact h.members
    . exact h.pending
    . exact h.nodup
    . intro b m hm
      change m ∈ (s.expiring b).toList at hm
      rw [hempty] at hm
      cases hm

def HasRoom (s : State T) : Step T → Prop
  -- There is room for a membership that is acquired, and its block number does not wrap around.
  | .extrinsic _ (.nominate _ true) =>
    s.blockNumber.toNat + T.membershipPeriod.toNat < 2 ^ 32 ∧
      (s.expiring (s.blockNumber + T.membershipPeriod)).toList.length < T.maxMembersPerBlock
  | .newBlock =>
    ∀ m ∈ (s.expiring (s.blockNumber + 1)).toList, s.membershipsRenewsOn.containsKey m →
      (s.blockNumber + 1).toNat + T.membershipPeriod.toNat < 2 ^ 32
  | _ => True

instance (s : State T) : (step : Step T) → Decidable (HasRoom s step)
  | .extrinsic _ (.nominate _ true) => inferInstanceAs (Decidable (_ ∧ _))
  | .extrinsic _ (.nominate _ false) => inferInstanceAs (Decidable True)
  | .extrinsic _ (.renew _) => inferInstanceAs (Decidable True)
  | .extrinsic _ (.revoke _) => inferInstanceAs (Decidable True)
  | .newBlock => inferInstanceAs (Decidable (∀ m ∈ _, _ → _))

theorem ScheduledUpTo.step {step : Step T} (h : Scheduled s)
    (hperiod : 0 < T.membershipPeriod.toNat) (hroom : HasRoom s step)
    (hs : Succeeds ((machine T).dispatch step) s () s') : Scheduled s' := by
  cases Stepped.of_succeeds hs with
  | @nominate _ member expires hfresh =>
    have hadd : Scheduled (s.addMemberAndScheduleExpiry member expires) := by
      apply h.addMemberAndScheduleExpiry hfresh hperiod
      intro hexpires
      subst hexpires
      exact hroom
    exact hadd.congr rfl rfl rfl
  | renew => exact h.congr rfl rfl rfl
  | @revoke _ member details index hget hindex =>
    have hrelease : ScheduledUpTo [member]
        {
          s with
          membershipsExpiresOn := s.membershipsExpiresOn.insert details.expireOn
            ((s.expiring details.expireOn).swapRemove index)
        } :=
      h.release hindex rfl rfl rfl
    refine hrelease.settle ?_ ?_ rfl rfl
    . intro b hb
      change (s.members.remove member).get member = some ⟨b⟩ at hb
      rw [StorageMap.get_remove_self] at hb
      cases hb
    . intro m' hne
      exact StorageMap.get_remove_of_ne _ hne
  | newBlock => exact h.newBlock hperiod hroom

theorem ScheduledUpTo.empty (T : Config) : Scheduled (State.empty T) := by
  constructor
  . intro m _ b
    constructor
    . rintro ⟨hget, _⟩
      cases hget
    . intro hmem
      cases hmem
  . intro m hm
    cases hm
  . intro b
    exact List.nodup_nil
  . intro b m hmem
    cases hmem

/-
The induction is on the members that are still to be added, none of them is a member already.
-/
theorem ScheduledUpTo.foldl_addMember {entries : List (T.AccountId × Bool)} (h : Scheduled s)
    (hblock : s.blockNumber = 0) (hnodup : (entries.map Prod.fst).Nodup)
    (hnew : ∀ entry ∈ entries, s.members.get entry.1 = none)
    (hperiod : 0 < T.membershipPeriod.toNat)
    (hroom : (s.expiring T.membershipPeriod).toList.length + (entries.filter (·.2)).length ≤
      T.maxMembersPerBlock)
    : Scheduled (entries.foldl
        (fun s entry => s.addMemberAndScheduleExpiry entry.1 entry.2) s) := by
  induction entries generalizing s with
  | nil => exact h
  | cons entry entries ih =>
    obtain ⟨m, expires⟩ := entry
    rw [List.map_cons, List.nodup_cons] at hnodup
    have hzero : s.blockNumber + T.membershipPeriod = T.membershipPeriod := by
      rw [hblock, UInt32.zero_add]
    rw [List.foldl_cons]
    apply ih
    . apply h.addMemberAndScheduleExpiry (hnew _ List.mem_cons_self) hperiod
      rintro rfl
      rw [hzero, hblock]
      rw [List.filter_cons_of_pos rfl, List.length_cons] at hroom
      have hlt := T.membershipPeriod.toNat_lt
      refine ⟨?_, by omega⟩
      change 0 + _ < _
      omega
    . rw [addMemberAndScheduleExpiry_blockNumber, hblock]
    . exact hnodup.2
    . rw [List.forall_mem_cons] at hnew
      exact addMemberAndScheduleExpiry_fresh _ _ hnodup.1 hnew.2
    . cases expires with
      | true =>
        rw [List.filter_cons_of_pos rfl, List.length_cons] at hroom
        dsimp only
        have hlength : ((s.addMemberAndScheduleExpiry m true).expiring
            T.membershipPeriod).toList.length ≤ (s.expiring T.membershipPeriod).toList.length + 1 :=
          scheduleExpiry_length m _ (s := (s.insertMember m _).countProvider .inc m) _
        omega
      | false =>
        rw [List.filter_cons_of_neg Bool.false_ne_true] at hroom
        exact hroom

theorem ScheduledUpTo.genesis {config : GenesisConfig T} (hperiod : 0 < T.membershipPeriod.toNat)
    (hroom : (config.members.filter (·.2)).length ≤ T.maxMembersPerBlock)
    : Scheduled (State.genesis config) := by
  apply ScheduledUpTo.foldl_addMember (ScheduledUpTo.empty T) rfl config.nodup _ hperiod
  . change 0 + _ ≤ _
    omega
  . intro entry _
    rfl

/--
If there is room for every membership that is acquired, then in every state that is reached exactly
the memberships that expire are scheduled, each once and for a block that is still to come.
-/
theorem run_scheduled (config : GenesisConfig T) (hperiod : 0 < T.membershipPeriod)
    (hgenesis : (config.members.filter (·.2)).length ≤ T.maxMembersPerBlock)
    (steps : List (Step T))
    (hsteps : (machine T).Meets HasRoom (State.genesis config) steps)
    (s : State T) (hs : (machine T).run (State.genesis config) steps = s)
    : (∀ m b, (s.members.get m = some ⟨b⟩ ∧ b ≠ 0) ↔ m ∈ (s.expiring b).toList) ∧
      (∀ m b, m ∈ (s.expiring b).toList →
        (s.expiring b).toList.count m = 1 ∧ (∀ b', b' ≠ b → m ∉ (s.expiring b').toList) ∧
          s.blockNumber < b) ∧
      (∀ m b, s.members.get m = some ⟨b⟩ → b ≠ 0 → s.blockNumber < b) := by
  rw [UInt32.lt_iff_toNat_lt] at hperiod
  have hrun : Scheduled s := by
    rw [← hs]
    apply Machine.run_of_meets (P := HasRoom) _ (.genesis hperiod hgenesis) hsteps
    intro s step s' h hroom hstep
    exact h.step hperiod hroom hstep
  have hfuture : ∀ m b, m ∈ (s.expiring b).toList → s.blockNumber < b := by
    intro m b hmem
    rw [UInt32.lt_iff_toNat_lt]
    exact (hrun.window b m hmem).1
  refine ⟨fun m b => hrun.members m List.not_mem_nil b, ?_, ?_⟩
  . intro m b hmem
    refine ⟨List.count_eq_one_of_mem (hrun.nodup b) hmem, ?_, hfuture m b hmem⟩
    intro b' hne hmem'
    exact hne (hrun.unique hmem hmem')
  . intro m b hget hne
    exact hfuture m b ((hrun.members m List.not_mem_nil b).mp ⟨hget, hne⟩)

def plainGenesis (period : UInt32) (max : Nat) : GenesisConfig (.plain period max) where
  members := [(1, true), (2, false)]
  nodup := by simp

def renewOne : List (Step (.plain 3 2)) :=
  [.extrinsic () (.nominate 3 true), .extrinsic () (.renew 1), .newBlock, .newBlock, .newBlock]

theorem renewOne_scheduled
    : ((machine (.plain 3 2)).run (State.genesis (plainGenesis 3 2)) renewOne).members.get 1 =
        some ⟨6⟩ ∧
      1 ∈ (((machine (.plain 3 2)).run (State.genesis (plainGenesis 3 2)) renewOne).expiring
        6).toList := by
  have hget : ((machine (.plain 3 2)).run (State.genesis (plainGenesis 3 2)) renewOne).members.get
      1 = some ⟨6⟩ := by
    decide +kernel
  have h := run_scheduled (T := .plain 3 2) (plainGenesis 3 2) (by decide) (by decide) renewOne
    (by decide +kernel) _ rfl
  exact ⟨hget, (h.1 1 6).mp ⟨hget, by decide⟩⟩

def nominateOneTooMany : List (Step (.plain 3 1)) :=
  -- There is room for one of two members that expire at the same block. The other one is not on
  -- the list, and it is still a member when the block has passed.
  [.extrinsic () (.nominate 3 true), .newBlock, .newBlock, .newBlock, .newBlock]

theorem nominateOneTooMany_not_scheduled
    : ((machine (.plain 3 1)).run (State.genesis (plainGenesis 3 1))
        nominateOneTooMany).members.get 3 = some ⟨3⟩ ∧
      3 ∉ (((machine (.plain 3 1)).run (State.genesis (plainGenesis 3 1))
        nominateOneTooMany).expiring 3).toList ∧
      ((machine (.plain 3 1)).run (State.genesis (plainGenesis 3 1))
        nominateOneTooMany).blockNumber = 4 := by
  decide +kernel

end NetworkMembership
