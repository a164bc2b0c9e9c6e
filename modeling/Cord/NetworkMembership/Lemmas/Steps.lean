import Cord.NetworkMembership.Impl

/-!
This module contains what the steps of the network membership pallet do to its storage.
-/

open Frame

namespace NetworkMembership

variable {T : Config} {s s' : State T} {m : T.AccountId} {b : UInt32}

theorem expiring_congr (h : s'.membershipsExpiresOn = s.membershipsExpiresOn) (b : UInt32)
    : s'.expiring b = s.expiring b := by
  unfold State.expiring
  rw [h]

theorem expiring_of_insert {v : BoundedVec T.AccountId T.maxMembersPerBlock}
    (h : s'.membershipsExpiresOn = s.membershipsExpiresOn.insert b v) (b' : UInt32)
    : s'.expiring b' = if b' = b then v else s.expiring b' := by
  unfold State.expiring
  rw [h, StorageMap.getD_insert]

theorem expiring_of_remove (h : s'.membershipsExpiresOn = s.membershipsExpiresOn.remove b)
    (b' : UInt32) : s'.expiring b' = if b' = b then .empty else s.expiring b' := by
  unfold State.expiring
  rw [h, StorageMap.getD_remove]

theorem expiring_scheduleExpiry (hroom : (s.expiring b).toList.length < T.maxMembersPerBlock)
    (b' : UInt32)
    : ((s.scheduleExpiry m b).expiring b').toList =
        if b' = b then (s.expiring b).toList ++ [m] else (s.expiring b').toList := by
  unfold State.scheduleExpiry
  split
  . next members hpush =>
    rw [expiring_of_insert rfl]
    split
    . exact (BoundedVec.tryPush_eq_some hpush).1
    . rfl
  . next hpush =>
    have hfull := BoundedVec.tryPush_eq_none hpush
    omega

@[simp]
theorem scheduleExpiry_members : (s.scheduleExpiry m b).members = s.members := by
  unfold State.scheduleExpiry
  split <;> rfl

@[simp]
theorem scheduleExpiry_blockNumber : (s.scheduleExpiry m b).blockNumber = s.blockNumber := by
  unfold State.scheduleExpiry
  split <;> rfl

@[simp]
theorem scheduleExpiry_membershipsRenewsOn
    : (s.scheduleExpiry m b).membershipsRenewsOn = s.membershipsRenewsOn := by
  unfold State.scheduleExpiry
  split <;> rfl

@[simp]
theorem scheduleExpiry_providers : (s.scheduleExpiry m b).providers = s.providers := by
  unfold State.scheduleExpiry
  split <;> rfl

theorem mem_expiring_scheduleExpiry {m' : T.AccountId} {b' : UInt32}
    (h : m' ∈ (s.expiring b').toList) : m' ∈ ((s.scheduleExpiry m b).expiring b').toList := by
  unfold State.scheduleExpiry
  split
  . next members hpush =>
    rw [expiring_of_insert rfl]
    split
    . next hb =>
      rw [(BoundedVec.tryPush_eq_some hpush).1, ← hb]
      apply List.mem_append_left _ h
    . exact h
  . exact h

theorem scheduleExpiry_of_full (h : T.maxMembersPerBlock ≤ (s.expiring b).toList.length)
    : s.scheduleExpiry m b = s := by
  unfold State.scheduleExpiry
  split
  . next hpush =>
    have hlt := (BoundedVec.tryPush_eq_some hpush).2
    omega
  . rfl

section Loop

variable (m : T.AccountId) (b : UInt32) (s : State T)

@[simp]
theorem doExpireOrRenewMembership_blockNumber
    : (s.doExpireOrRenewMembership m b).blockNumber = s.blockNumber := by
  unfold State.doExpireOrRenewMembership State.renewMembershipAndScheduleExpiry
  split
  . exact scheduleExpiry_blockNumber
  . rfl

@[simp]
theorem doExpireOrRenewMembership_providers
    : (s.doExpireOrRenewMembership m b).providers = s.providers := by
  unfold State.doExpireOrRenewMembership State.renewMembershipAndScheduleExpiry
  split
  . apply scheduleExpiry_providers
  . rfl

theorem doExpireOrRenewMembership_members (m' : T.AccountId)
    : (s.doExpireOrRenewMembership m b).members.get m' =
        if m' = m then
          if s.membershipsRenewsOn.containsKey m then some ⟨b + T.membershipPeriod⟩ else none
        else
          s.members.get m' := by
  unfold State.doExpireOrRenewMembership State.renewMembershipAndScheduleExpiry
  split
  . change (State.scheduleExpiry _ _ _).members.get m' = _
    rw [scheduleExpiry_members]
    apply StorageMap.get_insert
  . apply StorageMap.get_remove

theorem doExpireOrRenewMembership_renewsOn (m' : T.AccountId)
    : (s.doExpireOrRenewMembership m b).membershipsRenewsOn.containsKey m' =
        if m' = m then false else s.membershipsRenewsOn.containsKey m' := by
  unfold State.doExpireOrRenewMembership State.renewMembershipAndScheduleExpiry
  split
  . change (State.scheduleExpiry _ _ _).membershipsRenewsOn.containsKey m' = _
    rw [scheduleExpiry_membershipsRenewsOn]
    change (s.membershipsRenewsOn.remove m).containsKey m' = _
    unfold StorageMap.containsKey
    rw [StorageMap.get_remove]
    split <;> rfl
  . next hnone =>
    change s.membershipsRenewsOn.containsKey m' = _
    split
    . next heq =>
      rw [heq]
      rw [Bool.not_eq_true] at hnone
      exact hnone
    . rfl

theorem mem_expiring_doExpireOrRenewMembership {m' : T.AccountId} {b' : UInt32}
    (h : m' ∈ (s.expiring b').toList)
    : m' ∈ ((s.doExpireOrRenewMembership m b).expiring b').toList := by
  unfold State.doExpireOrRenewMembership State.renewMembershipAndScheduleExpiry
  split
  . apply mem_expiring_scheduleExpiry
    exact h
  . exact h

theorem scheduleExpiry_length (b' : UInt32)
    : ((s.scheduleExpiry m b).expiring b').toList.length ≤
        (s.expiring b').toList.length + 1 := by
  unfold State.scheduleExpiry
  split
  . next members hpush =>
    rw [expiring_of_insert rfl]
    split
    . next hb =>
      rw [(BoundedVec.tryPush_eq_some hpush).1, hb, List.length_append, List.length_singleton]
    . omega
  . omega

theorem doExpireOrRenewMembership_length (b' : UInt32)
    : ((s.doExpireOrRenewMembership m b).expiring b').toList.length ≤
        (s.expiring b').toList.length + 1 := by
  unfold State.doExpireOrRenewMembership State.renewMembershipAndScheduleExpiry
  split
  . apply scheduleExpiry_length
  . apply Nat.le_succ

end Loop

section Add

variable (m : T.AccountId) (expires : Bool) (s : State T)

theorem addMemberAndScheduleExpiry_blockNumber
    : (s.addMemberAndScheduleExpiry m expires).blockNumber = s.blockNumber := by
  cases expires with
  | true => exact scheduleExpiry_blockNumber
  | false => rfl

theorem addMemberAndScheduleExpiry_members {m' : T.AccountId} (hne : m' ≠ m)
    : (s.addMemberAndScheduleExpiry m expires).members.get m' = s.members.get m' := by
  cases expires with
  | true =>
    change (State.scheduleExpiry _ _ _).members.get m' = _
    rw [scheduleExpiry_members]
    exact StorageMap.get_insert_of_ne _ _ hne
  | false => exact StorageMap.get_insert_of_ne _ _ hne

theorem addMemberAndScheduleExpiry_fresh {m : T.AccountId} {entries : List (T.AccountId × Bool)}
    (hm : m ∉ entries.map Prod.fst) (hnew : ∀ entry ∈ entries, s.members.get entry.1 = none)
    : ∀ entry ∈ entries, (s.addMemberAndScheduleExpiry m expires).members.get entry.1 = none := by
  intro entry hentry
  rw [addMemberAndScheduleExpiry_members]
  . exact hnew entry hentry
  . intro heq
    apply hm
    rw [← heq]
    exact List.mem_map_of_mem hentry

theorem addMemberAndScheduleExpiry_renewsOn
    : (s.addMemberAndScheduleExpiry m expires).membershipsRenewsOn = s.membershipsRenewsOn := by
  cases expires with
  | true => exact scheduleExpiry_membershipsRenewsOn
  | false => rfl

theorem addMemberAndScheduleExpiry_members_self
    : (s.addMemberAndScheduleExpiry m expires).members.get m =
        some ⟨if expires then s.blockNumber + T.membershipPeriod else 0⟩ := by
  cases expires with
  | true =>
    change (State.scheduleExpiry _ _ _).members.get m = _
    rw [scheduleExpiry_members]
    apply StorageMap.get_insert_self
  | false => apply StorageMap.get_insert_self

end Add

inductive Stepped (s : State T) : Step T → State T → Prop where
  | nominate {origin : T.Origin} {member : T.AccountId} {expires : Bool}
    (fresh : s.members.get member = none)
    : Stepped s (.extrinsic origin (.nominate member expires))
        ((s.addMemberAndScheduleExpiry member expires).depositEvent (.membershipAcquired member))
  | renew {origin : T.Origin} {member : T.AccountId}
    : Stepped s (.extrinsic origin (.renew member))
        (State.depositEvent (.membershipRenewalRequested member)
          { s with membershipsRenewsOn := s.membershipsRenewsOn.insert member () })
  | revoke {origin : T.Origin} {member : T.AccountId} {details : MemberData} {index : Nat}
    (get : s.members.get member = some details)
    (position : (s.expiring details.expireOn).toList.idxOf? member = some index)
    : Stepped s (.extrinsic origin (.revoke member))
        {
          s with
          members := s.members.remove member
          membershipsExpiresOn := s.membershipsExpiresOn.insert details.expireOn
            ((s.expiring details.expireOn).swapRemove index)
          providers := s.providers ++ [(.dec, member)]
          events := s.events ++ [.membershipRevoked member]
        }
  | newBlock : Stepped s .newBlock (newBlock s)

theorem Stepped.of_succeeds {step : Step T} (h : Succeeds ((machine T).dispatch step) s () s')
    : Stepped s step s' := by
  simp only [machine] at h
  match step with
  | .extrinsic origin (.nominate member expires) =>
    simp only [Step.dispatch, NetworkMembership.nominate, Succeeds.bind_iff,
      Succeeds.ensureOrigin_iff, Succeeds.ensure_iff, Succeeds.get_iff, Succeeds.modify_iff,
      Bool.not_eq_true', StorageMap.containsKey_eq_false_iff, and_assoc, exists_and_left,
      exists_eq_left, exists_const] at h
    obtain ⟨_, _, hfresh, rfl⟩ := h
    exact .nominate hfresh
  | .extrinsic origin (.renew member) =>
    simp only [Step.dispatch, NetworkMembership.renew, Succeeds.bind_iff,
      Succeeds.ensureOrigin_iff, Succeeds.ensure_iff, Succeeds.get_iff, Succeeds.modify_iff,
      and_assoc, exists_and_left, exists_eq_left, exists_const] at h
    obtain ⟨_, _, _, rfl⟩ := h
    exact .renew
  | .extrinsic origin (.revoke member) =>
    simp only [Step.dispatch, NetworkMembership.revoke, Succeeds.bind_iff,
      Succeeds.ensureOrigin_iff, Succeeds.okOr_iff, Succeeds.get_iff, Succeeds.modify_iff,
      and_assoc, exists_and_left, exists_eq_left, exists_const] at h
    obtain ⟨_, _, details, hget, index, hindex, rfl⟩ := h
    exact .revoke hget hindex
  | .newBlock =>
    rw [Step.dispatch, Succeeds.modify_iff] at h
    rw [h]
    exact .newBlock

end NetworkMembership
