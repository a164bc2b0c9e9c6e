import Cord.Frame.History
import Cord.Identity.Lemmas.Calls

/-!
This module contains the usernames that wait to be accepted. The expiration of such a username is recorded
when it is queued, and nothing but the removal of the approval looks at it.
-/

open Frame

namespace Identity

variable {T : Config} {s s' : State T} {origin : T.Origin} {n : UInt32} {username : Username T}

theorem setUsernameFor_queued {source : T.LookupSource} {name : List UInt8}
    (h : Succeeds (setUsernameFor origin source name none) { s with blockNumber := n } () s')
    : ∃ username who, s.pendingUsernames.get username = none ∧
        s'.pendingUsernames = s.pendingUsernames.insert username
          (who, saturatingAdd32 n T.pendingUsernameExpiration) := by
  simp only [setUsernameFor, Succeeds.bind_iff, Succeeds.ensureOrigin_iff, takeAllocation_iff,
    lookup_iff, Succeeds.get_iff, Succeeds.ensure_iff, Succeeds.okOr_iff, Succeeds.mapErr_iff,
    queueAcceptance_iff, and_assoc, exists_and_left, exists_eq_left, exists_const,
    Bool.not_eq_true', StorageMap.containsKey_eq_false_iff] at h
  obtain ⟨sender, _, suffix, _, ⟨properties, _, _, _, rfl⟩, _, _, username, _, _, hunqueued, who, _, rfl⟩ :=
    h
  exact ⟨username, who, hunqueued, rfl⟩

/-
A username that is pending after a call was pending before it with the same expiration, or the call has
queued it.
-/
theorem dispatch_pending {ext : Extrinsic T} {who : T.AccountId} {expiration : UInt32}
    (hsucc : Succeeds ext.dispatch s () s')
    (h : s'.pendingUsernames.get username = some (who, expiration))
    : s.pendingUsernames.get username = some (who, expiration) ∨
        s.pendingUsernames.get username = none ∧
          ∃ origin n call, ext = .pallet origin n call ∧
            expiration = saturatingAdd32 n T.pendingUsernameExpiration := by
  cases dispatch_effect hsucc with
  | @queue origin n source name =>
    simp only [Extrinsic.dispatch, Call.dispatch, Succeeds.bind_iff, Succeeds.modify_iff,
      exists_eq_left, exists_const] at hsucc
    obtain ⟨queued, _, hunqueued, hpending⟩ := setUsernameFor_queued hsucc
    rw [hpending, StorageMap.get_insert] at h
    split at h
    . next heq =>
      injection h with h
      rw [heq]
      exact .inr ⟨hunqueued, origin, n, _, rfl, (Prod.mk.inj h).2.symm⟩
    . exact .inl h
  | accept | expire =>
    rw [StorageMap.get_remove] at h
    split at h
    . cases h
    . exact .inl h
  | _ => exact .inl h

section Accepted

variable (T)

/--
In the run the username is accepted in block `n` after the calls `before`.
-/
def Accepted (exts before : List (Extrinsic T)) (n : UInt32) (username : Username T) : Prop :=
  ∃ origin after, exts = before ++ .pallet origin n (.acceptUsername username) :: after ∧
    (machine T).accepts ((machine T).run (State.genesis T) before)
      (.pallet origin n (.acceptUsername username)) = true

variable {T}

def Extrinsic.queues (username : Username T) (s : State T) (ext : Extrinsic T) : List UInt32 :=
  match ext with
  | .pallet _ n _ =>
    if s.pendingUsernames.containsKey username = false ∧
        ((machine T).next s ext).pendingUsernames.containsKey username = true then
      [n]
    else
      []
  | .reapIdentity _ => []

/--
The block in which a username was queued the last time.
-/
def queuedAt (exts : List (Extrinsic T)) (username : Username T) : Option UInt32 :=
  ((machine T).collect (Extrinsic.queues username) (State.genesis T) exts).getLast?

/--
Every username that is accepted is still pending, with the expiration that was recorded when it was queued,
and this is not over yet.
-/
def AcceptedInTime (exts : List (Extrinsic T)) : Prop :=
  ∀ before n username, Accepted T exts before n username →
    ∃ who m, queuedAt before username = some m ∧
      ((machine T).run (State.genesis T) before).pendingUsernames.get username =
        some (who, saturatingAdd32 m T.pendingUsernameExpiration) ∧
      n ≤ saturatingAdd32 m T.pendingUsernameExpiration

/--
No approval of a username that is accepted could be removed in that block.
-/
def AcceptedUnexpired (exts : List (Extrinsic T)) : Prop :=
  ∀ before n username, Accepted T exts before n username →
    ∀ origin, (machine T).accepts ((machine T).run (State.genesis T) before)
      (.pallet origin n (.removeExpiredApproval username)) = false

def AcceptedWithinPeriod (exts : List (Extrinsic T)) : Prop :=
  ∀ before n username, Accepted T exts before n username →
    ∀ m, queuedAt before username = some m →
      n.toNat ≤ m.toNat + T.pendingUsernameExpiration.toNat

theorem queues_of_rejected {ext : Extrinsic T} (h : (machine T).accepts s ext = false)
    : ext.queues username s = [] := by
  have hnext := Machine.next_of_fails (Machine.accepts_eq_false_iff.mp h)
  unfold Extrinsic.queues
  split
  . rw [hnext, if_neg]
    rintro ⟨hfalse, htrue⟩
    rw [hfalse] at htrue
    cases htrue
  . rfl

def Recorded (username : Username T) (s : State T) (record : List UInt32) : Prop :=
  ∀ who expiration, s.pendingUsernames.get username = some (who, expiration) →
    ∃ m, record.getLast? = some m ∧ expiration = saturatingAdd32 m T.pendingUsernameExpiration

theorem Recorded.step {ext : Extrinsic T} {record : List UInt32} (h : Recorded username s record)
    (hsucc : Succeeds ext.dispatch s () s')
    : Recorded username s' (record ++ ext.queues username s) := by
  have hnext : (machine T).next s ext = s' := Machine.next_of_succeeds hsucc
  intro who expiration hget
  rcases dispatch_pending hsucc hget with hbefore | ⟨hnone, origin, n, call, rfl, hexpiration⟩
  . have hqueues : ext.queues username s = [] := by
      unfold Extrinsic.queues
      rw [StorageMap.containsKey_of_get hbefore]
      split
      . simp
      . rfl
    rw [hqueues, List.append_nil]
    exact h who expiration hbefore
  . have hqueues : Extrinsic.queues username s (.pallet origin n call) = [n] := by
      unfold Extrinsic.queues
      dsimp only
      rw [hnext, StorageMap.containsKey_of_get hget, if_pos]
      exact ⟨(StorageMap.containsKey_eq_false_iff _ _).mpr hnone, rfl⟩
    rw [hqueues, List.getLast?_concat]
    exact ⟨n, rfl, hexpiration⟩

theorem run_recorded (exts : List (Extrinsic T)) {who : T.AccountId} {expiration : UInt32}
    (h : ((machine T).run (State.genesis T) exts).pendingUsernames.get username =
      some (who, expiration))
    : ∃ m, queuedAt exts username = some m ∧
        expiration = saturatingAdd32 m T.pendingUsernameExpiration := by
  have hempty : Recorded username (State.genesis T) [] := by
    intro who expiration hget
    cases hget
  have hrecorded : Recorded username _ ([] ++ (machine T).collect (Extrinsic.queues username) _ exts) :=
    Machine.collect_invariant (fun _ _ => queues_of_rejected) (fun _ _ _ _ => Recorded.step) hempty
  exact hrecorded who expiration h

theorem pending_of_accepts
    (h : (machine T).accepts s (.pallet origin n (.acceptUsername username)) = true)
    : ∃ who expiration, T.ensureSigned origin = some who ∧
        s.pendingUsernames.get username = some (who, expiration) := by
  have hsucc := Machine.accepts_iff.mp h
  simp only [machine, Extrinsic.dispatch, Call.dispatch, acceptUsername, Succeeds.bind_iff,
    Succeeds.modify_iff, Succeeds.ensureOrigin_iff, takePending_iff, Succeeds.ensure_iff, and_assoc,
    exists_and_left, exists_eq_left, exists_const] at hsucc
  obtain ⟨who, hsigned, ⟨_, expiration⟩, hpending, rfl, _⟩ := hsucc
  exact ⟨_, expiration, hsigned, hpending⟩

theorem accepts_removeExpiredApproval_iff {who : T.AccountId} {expiration : UInt32}
    (h : s.pendingUsernames.get username = some (who, expiration))
    : (machine T).accepts s (.pallet origin n (.removeExpiredApproval username)) = true ↔
        (∃ sender, T.ensureSigned origin = some sender) ∧ expiration < n := by
  rw [Machine.accepts_iff_exists]
  simp only [machine, Extrinsic.dispatch, Call.dispatch, removeExpiredApproval, Succeeds.bind_iff,
    Succeeds.modify_iff, Succeeds.ensureOrigin_iff, takePending_iff, Succeeds.get_iff,
    Succeeds.ensure_iff, depositEvent_iff, and_assoc, exists_and_left, exists_eq_left, exists_const,
    h, Option.some.injEq, exists_eq_left']
  constructor
  . rintro ⟨_, sender, hsigned, hexpired, _⟩
    exact ⟨⟨sender, hsigned⟩, hexpired⟩
  . rintro ⟨⟨sender, hsigned⟩, hexpired⟩
    exact ⟨_, sender, hsigned, hexpired, rfl⟩

theorem le_saturatingAdd32_iff {m period : UInt32}
    : n ≤ saturatingAdd32 m period ↔ n.toNat ≤ m.toNat + period.toNat := by
  have hlt := n.toNat_lt
  rw [UInt32.le_iff_toNat_le, toNat_saturatingAdd32]
  omega

/--
Usernames are accepted in time in exactly those runs in which no approval of a username that is accepted
could be removed in the same block, and these are the runs in which every username is accepted within the
period after the block it was queued in.
-/
theorem run_acceptedInTime_iff (exts : List (Extrinsic T))
    : (AcceptedInTime exts ↔ AcceptedUnexpired exts) ∧
        (AcceptedInTime exts ↔ AcceptedWithinPeriod exts) := by
  constructor
  . constructor
    . intro hintime before n username haccepted origin
      obtain ⟨who, m, _, hpending, hle⟩ := hintime before n username haccepted
      rw [← Bool.not_eq_true, accepts_removeExpiredApproval_iff hpending]
      rintro ⟨_, hlt⟩
      exact UInt32.not_le.mpr hlt hle
    . intro hunexpired before n username haccepted
      obtain ⟨origin, after, _, haccepts⟩ := id haccepted
      obtain ⟨who, expiration, hsigned, hpending⟩ := pending_of_accepts haccepts
      obtain ⟨m, hqueued, rfl⟩ := run_recorded before hpending
      refine ⟨who, m, hqueued, hpending, ?_⟩
      -- Whoever accepts the username could have removed its approval as well.
      have hkept := hunexpired before n username haccepted origin
      rw [← Bool.not_eq_true, accepts_removeExpiredApproval_iff hpending] at hkept
      by_contra hexpired
      exact hkept ⟨⟨who, hsigned⟩, UInt32.not_le.mp hexpired⟩
  . constructor
    . intro hintime before n username haccepted m hm
      obtain ⟨who, m', hqueued, _, hle⟩ := hintime before n username haccepted
      rw [hqueued] at hm
      injection hm with hm
      rw [← hm, ← le_saturatingAdd32_iff]
      exact hle
    . intro hwithin before n username haccepted
      obtain ⟨origin, after, _, haccepts⟩ := id haccepted
      obtain ⟨who, expiration, hsigned, hpending⟩ := pending_of_accepts haccepts
      obtain ⟨m, hqueued, rfl⟩ := run_recorded before hpending
      refine ⟨who, m, hqueued, hpending, ?_⟩
      rw [le_saturatingAdd32_iff]
      exact hwithin before n username haccepted m hqueued

end Accepted

section Plain

def queuedUsername : List (Extrinsic .plain) := [
    -- The username `c@a` is queued for `1` in the first block and accepted by it in block 200.
    plainCall none (.addUsernameAuthority 9 [97] 2),
    plainCall (some 9) (.setUsernameFor 1 [99] none)
  ]

def lateUsername : Username .plain :=
  ⟨[99, 64, 97], by decide⟩

theorem lateUsername_not_acceptedInTime
    : ¬ AcceptedInTime (queuedUsername ++ [.pallet (some 1) 200 (.acceptUsername lateUsername)]) ∧
        ¬ AcceptedUnexpired
          (queuedUsername ++ [.pallet (some 1) 200 (.acceptUsername lateUsername)]) := by
  have haccepted : Accepted .plain
      (queuedUsername ++ [.pallet (some 1) 200 (.acceptUsername lateUsername)]) queuedUsername 200
      lateUsername :=
    ⟨some 1, [], rfl, by decide +kernel⟩
  constructor
  . intro hintime
    obtain ⟨who, m, hqueued, _, hle⟩ := hintime _ _ _ haccepted
    have hone : queuedAt queuedUsername lateUsername = some 1 := by
      decide +kernel
    rw [hone] at hqueued
    injection hqueued with hqueued
    rw [← hqueued] at hle
    exact absurd hle (by decide)
  . intro hunexpired
    have hkept := hunexpired _ _ _ haccepted (some 2)
    exact absurd hkept (by decide +kernel)

end Plain

end Identity
