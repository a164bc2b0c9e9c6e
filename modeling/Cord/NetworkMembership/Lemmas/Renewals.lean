import Cord.NetworkMembership.Lemmas.Providers
import Cord.NetworkMembership.Lemmas.Schedule

/-!
This module contains what becomes of renewal requests. They can be made for accounts that are no
members, and they stay when a membership is revoked. As long as neither happens, every request
belongs to a membership that expires, and a membership without a request ends when its period does.
-/

open Frame

namespace NetworkMembership

variable {T : Config} {s s' : State T} {m : T.AccountId} {b : UInt32}

def ExpiringMember (s : State T) (m : T.AccountId) : Prop :=
  ∃ d ∈ s.members.get m, d.expireOn ≠ 0

instance (s : State T) (m : T.AccountId) : Decidable (ExpiringMember s m) :=
  inferInstanceAs (Decidable (∃ d ∈ s.members.get m, d.expireOn ≠ 0))

def RenewalsConfined (s : State T) : Prop :=
  ∀ m, s.membershipsRenewsOn.containsKey m → ExpiringMember s m

def ConfinesRenewals (s : State T) : Step T → Prop
  -- A renewal is requested for a membership that expires, and no membership is revoked that has
  -- a request.
  | .extrinsic _ (.renew m) => ExpiringMember s m
  | .extrinsic _ (.revoke m) => s.membershipsRenewsOn.containsKey m = false
  | _ => True

instance (s : State T) : (step : Step T) → Decidable (ConfinesRenewals s step)
  | .extrinsic _ (.renew m) => inferInstanceAs (Decidable (ExpiringMember s m))
  | .extrinsic _ (.revoke m) =>
    inferInstanceAs (Decidable (s.membershipsRenewsOn.containsKey m = false))
  | .extrinsic _ (.nominate _ _) => inferInstanceAs (Decidable True)
  | .newBlock => inferInstanceAs (Decidable True)

theorem expiringMember_congr (h : s'.members.get m = s.members.get m)
    : ExpiringMember s' m ↔ ExpiringMember s m := by
  unfold ExpiringMember
  rw [h]

theorem not_expiringMember (h : s.members.get m = none) : ¬ ExpiringMember s m := by
  rintro ⟨d, hd, _⟩
  rw [h] at hd
  cases hd

section Loop

variable {todo : List T.AccountId}

theorem foldl_renewsOn (todo : List T.AccountId) (s : State T) (m : T.AccountId)
    : (todo.foldl (fun s m => s.doExpireOrRenewMembership m b) s).membershipsRenewsOn.containsKey m =
        if m ∈ todo then false else s.membershipsRenewsOn.containsKey m := by
  induction todo generalizing s with
  | nil => rfl
  | cons m' todo ih =>
    rw [List.foldl_cons, ih, doExpireOrRenewMembership_renewsOn]
    by_cases hm : m ∈ todo
    . simp [hm]
    . by_cases heq : m = m'
      . simp [heq]
      . simp [heq]

theorem foldl_members_of_notMem (hm : m ∉ todo) (s : State T)
    : (todo.foldl (fun s m => s.doExpireOrRenewMembership m b) s).members.get m =
        s.members.get m := by
  induction todo generalizing s with
  | nil => rfl
  | cons m' todo ih =>
    rw [List.mem_cons, not_or] at hm
    rw [List.foldl_cons, ih hm.2, doExpireOrRenewMembership_members, if_neg hm.1]

end Loop

theorem RenewalsConfined.newBlock (h : RenewalsConfined s) : RenewalsConfined (newBlock s) := by
  unfold NetworkMembership.newBlock State.onInitialize
  dsimp only
  split
  . unfold State.renewOrExpireMemberships
    intro m hflag
    rw [foldl_renewsOn] at hflag
    split at hflag
    . cases hflag
    . next hm =>
      rw [expiringMember_congr (foldl_members_of_notMem hm _)]
      apply h
      exact hflag
  . exact h

theorem RenewalsConfined.step_iff {step : Step T} (h : RenewalsConfined s)
    (hs : Succeeds ((machine T).dispatch step) s () s')
    : RenewalsConfined s' ↔ ConfinesRenewals s step := by
  cases Stepped.of_succeeds hs with
  | @nominate _ member expires hfresh =>
    apply iff_of_true _ trivial
    intro m hflag
    change (s.addMemberAndScheduleExpiry member expires).membershipsRenewsOn.containsKey m at hflag
    rw [addMemberAndScheduleExpiry_renewsOn] at hflag
    have hmember := h m hflag
    have hne : m ≠ member := by
      rintro rfl
      exact not_expiringMember hfresh hmember
    exact (expiringMember_congr (addMemberAndScheduleExpiry_members member expires s hne)).mpr hmember
  | @renew _ member =>
    constructor
    . intro h'
      apply h' member
      change (s.membershipsRenewsOn.insert member ()).containsKey member = true
      simp [StorageMap.containsKey]
    . intro hmember m hflag
      by_cases heq : m = member
      . rw [heq]
        exact hmember
      . apply h
        change (s.membershipsRenewsOn.insert member ()).containsKey m = true at hflag
        simp only [StorageMap.containsKey, StorageMap.get_insert_of_ne _ _ heq] at hflag
        exact hflag
  | @revoke _ member =>
    constructor
    . intro h'
      change s.membershipsRenewsOn.containsKey member = false
      rw [Bool.eq_false_iff]
      intro hflag
      apply not_expiringMember _ (h' member hflag)
      apply StorageMap.get_remove_self
    . intro hnone m hflag
      have hne : m ≠ member := by
        rintro rfl
        rw [ConfinesRenewals] at hnone
        change s.membershipsRenewsOn.containsKey m = true at hflag
        rw [hnone] at hflag
        cases hflag
      rw [expiringMember_congr (s := s) (StorageMap.get_remove_of_ne _ hne)]
      apply h
      exact hflag
  | newBlock => exact iff_of_true h.newBlock trivial

theorem RenewalsConfined.genesis (config : GenesisConfig T)
    : RenewalsConfined (State.genesis config) := by
  have hnone : ∀ m, (State.genesis config).membershipsRenewsOn.containsKey m = false := by
    apply genesis_induction (I := fun s => ∀ m, s.membershipsRenewsOn.containsKey m = false) config
    . intro m
      rfl
    . intro s m expires hs _ m'
      rw [addMemberAndScheduleExpiry_renewsOn]
      apply hs
  intro m hflag
  rw [hnone] at hflag
  cases hflag

def Schedules (s : State T) : Step T → Prop
  -- A membership that is acquired ends with a block that is still to come, and there is room for
  -- it in the list of that block.
  | .extrinsic _ (.nominate _ true) =>
    0 < T.membershipPeriod ∧ s.blockNumber.toNat + T.membershipPeriod.toNat < 2 ^ 32 ∧
      (s.expiring (s.blockNumber + T.membershipPeriod)).toList.length < T.maxMembersPerBlock
  | _ => True

instance (s : State T) : (step : Step T) → Decidable (Schedules s step)
  | .extrinsic _ (.nominate _ true) => inferInstanceAs (Decidable (_ ∧ _ ∧ _))
  | .extrinsic _ (.nominate _ false) => inferInstanceAs (Decidable True)
  | .extrinsic _ (.renew _) => inferInstanceAs (Decidable True)
  | .extrinsic _ (.revoke _) => inferInstanceAs (Decidable True)
  | .newBlock => inferInstanceAs (Decidable True)

def Step.Extends (m : T.AccountId) : Step T → Prop
  | .extrinsic _ (.renew m') => m' = m
  | .extrinsic _ (.nominate m' _) => m' = m
  | _ => False

instance (m : T.AccountId) : (step : Step T) → Decidable (step.Extends m)
  | .extrinsic _ (.renew m') => inferInstanceAs (Decidable (m' = m))
  | .extrinsic _ (.nominate m' _) => inferInstanceAs (Decidable (m' = m))
  | .extrinsic _ (.revoke _) => inferInstanceAs (Decidable False)
  | .newBlock => inferInstanceAs (Decidable False)

def Step.isNewBlock : Step T → Bool
  | .newBlock => true
  | _ => false

/--
The membership of `m` ends with the block `b`, which is `left` blocks ahead.
-/
structure Ending (m : T.AccountId) (b : UInt32) (left : Nat) (s : State T) : Prop where
  listed : m ∈ (s.expiring b).toList
  unflagged : s.membershipsRenewsOn.containsKey m = false
  ahead : s.blockNumber.toNat + left = b.toNat
  pos : 0 < left

namespace Ending

variable {left : Nat}

theorem of_nominate {origin : T.Origin} (hflag : s.membershipsRenewsOn.containsKey m = false)
    (hroom : Schedules s (.extrinsic origin (.nominate m true)))
    : Ending m (s.blockNumber + T.membershipPeriod) T.membershipPeriod.toNat
        (s.addMemberAndScheduleExpiry m true) := by
  obtain ⟨hpos, hlt, hlength⟩ := hroom
  rw [UInt32.lt_iff_toNat_lt] at hpos
  constructor
  . change m ∈ ((State.scheduleExpiry m _ _).expiring _).toList
    rw [expiring_scheduleExpiry]
    . rw [if_pos rfl]
      apply List.mem_append_right
      apply List.mem_singleton_self
    . exact hlength
  . rw [addMemberAndScheduleExpiry_renewsOn]
    exact hflag
  . rw [addMemberAndScheduleExpiry_blockNumber, toNat_add_of_lt32 hlt]
  . exact hpos

theorem congr (h : Ending m b left s)
    (hlists : m ∈ (s.expiring b).toList → m ∈ (s'.expiring b).toList)
    (hflag : s'.membershipsRenewsOn.containsKey m = s.membershipsRenewsOn.containsKey m)
    (hblock : s'.blockNumber = s.blockNumber) : Ending m b left s' := by
  constructor
  . apply hlists
    apply h.listed
  . rw [hflag]
    apply h.unflagged
  . rw [hblock]
    apply h.ahead
  . apply h.pos

theorem foldl {todo : List T.AccountId} (h : Ending m b left s) (hm : m ∉ todo) (n : UInt32)
    : Ending m b left (todo.foldl (fun s m => s.doExpireOrRenewMembership m n) s) := by
  induction todo generalizing s with
  | nil => exact h
  | cons m' todo ih =>
    rw [List.mem_cons, not_or] at hm
    rw [List.foldl_cons]
    apply ih _ hm.2
    apply h.congr
    . apply mem_expiring_doExpireOrRenewMembership
    . rw [doExpireOrRenewMembership_renewsOn, if_neg hm.1]
    . apply doExpireOrRenewMembership_blockNumber

/-
If `b` is the block that begins then the membership ends, otherwise it is one block closer.
-/
theorem newBlock (h : Ending m b left s) (hlisted : Listed s)
    : (newBlock s).members.get m = none ∨
        Ending m b (left - 1) (NetworkMembership.newBlock s) := by
  have hahead := h.ahead
  have hpos := h.pos
  have hlt := b.toNat_lt
  have hne : s.blockNumber + 1 ≠ 0 := by
    intro hzero
    have hmod := congrArg UInt32.toNat hzero
    rw [UInt32.toNat_add] at hmod
    change (s.blockNumber.toNat + 1) % 2 ^ 32 = 0 at hmod
    omega
  have hnext := toNat_succ hne
  have hinit : 0 < s.blockNumber + 1 := by
    rw [UInt32.lt_iff_toNat_lt, hnext]
    apply Nat.succ_pos
  unfold NetworkMembership.newBlock State.onInitialize
  dsimp only
  rw [if_pos hinit]
  by_cases hb : s.blockNumber + 1 = b
  . left
    have hmem : m ∈ (s.expiring (s.blockNumber + 1)).toList := by
      rw [hb]
      apply h.listed
    have hgone := foldl_isMember (b := s.blockNumber + 1) (hlisted.nodup (s.blockNumber + 1))
      {
        s with
        blockNumber := s.blockNumber + 1
        membershipsExpiresOn := s.membershipsExpiresOn.remove (s.blockNumber + 1)
      } m
    rw [if_pos hmem] at hgone
    rw [← StorageMap.containsKey_eq_false_iff]
    apply hgone.trans
    apply h.unflagged
  . right
    apply Ending.foldl
    . constructor
      . rw [expiring_of_remove (s := s) rfl, if_neg (Ne.symm hb)]
        apply h.listed
      . apply h.unflagged
      . dsimp only
        omega
      . have hne : (s.blockNumber + 1).toNat ≠ b.toNat := by
          intro heq
          exact hb (UInt32.toNat_inj.mp heq)
        omega
    . intro hmem
      exact hb (hlisted.unique h.listed hmem)

theorem step {step : Step T} (h : Ending m b left s) (hlisted : Listed s) (hm : ¬ step.Extends m)
    (hs : Succeeds ((machine T).dispatch step) s () s')
    : s'.members.get m = none ∨
        Ending m b (left - if step.isNewBlock then 1 else 0) s' := by
  cases Stepped.of_succeeds hs with
  | @nominate _ member expires hfresh =>
    right
    apply h.congr
    . intro hmem
      cases expires with
      | true => exact mem_expiring_scheduleExpiry hmem
      | false => exact hmem
    . change (s.addMemberAndScheduleExpiry _ _).membershipsRenewsOn.containsKey m = _
      rw [addMemberAndScheduleExpiry_renewsOn]
    . apply addMemberAndScheduleExpiry_blockNumber
  | @renew _ member =>
    right
    apply h.congr
    . exact id
    . change (s.membershipsRenewsOn.insert member ()).containsKey m = _
      unfold StorageMap.containsKey
      rw [StorageMap.get_insert_of_ne]
      intro heq
      exact hm heq.symm
    . rfl
  | @revoke _ member details index hget hindex =>
    by_cases heq : m = member
    . left
      rw [heq]
      apply StorageMap.get_remove_self
    . right
      apply h.congr
      . intro hmem
        rw [expiring_of_insert (s := s) rfl]
        split
        . next hb =>
          rw [BoundedVec.toList_swapRemove, (swapRemove_perm_erase hindex).mem_iff, ← hb]
          exact (List.mem_erase_of_ne heq).mpr hmem
        . exact hmem
      . rfl
      . rfl
  | newBlock => exact h.newBlock hlisted

end Ending

theorem not_member_step {step : Step T} (h : s.members.get m = none) (hlisted : Listed s)
    (hm : ¬ step.Extends m) (hs : Succeeds ((machine T).dispatch step) s () s')
    : s'.members.get m = none := by
  cases Stepped.of_succeeds hs with
  | nominate hfresh =>
    change (s.addMemberAndScheduleExpiry _ _).members.get m = none
    rw [addMemberAndScheduleExpiry_members]
    . exact h
    . intro heq
      exact hm heq.symm
  | renew => exact h
  | revoke =>
    dsimp only
    rw [StorageMap.get_remove]
    split
    . rfl
    . exact h
  | newBlock =>
    unfold NetworkMembership.newBlock State.onInitialize
    dsimp only
    split
    . unfold State.renewOrExpireMemberships
      dsimp only
      rw [foldl_members_of_notMem]
      . exact h
      . apply hlisted.notMem_of_not_member h
    . exact h

theorem Ending.run {left : Nat} {steps : List (Step T)}
    (h : s.members.get m = none ∨ Ending m b left s) (hlisted : Listed s)
    (hsteps : (machine T).Meets (fun _ step => ¬ step.Extends m) s steps)
    : ((machine T).run s steps).members.get m = none ∨
        Ending m b (left - steps.countP Step.isNewBlock) ((machine T).run s steps) := by
  induction steps generalizing s left with
  | nil => exact h
  | cons step steps ih =>
    rw [Machine.run_cons, List.countP_cons]
    rcases Machine.succeeds_or_fails (machine T) s step with hs | hs
    . have hnext : ((machine T).next s step).members.get m = none ∨
          Ending m b (left - if step.isNewBlock then 1 else 0) ((machine T).next s step) := by
        rcases h with h | h
        . left
          exact not_member_step h hlisted (hsteps.1 _ hs) hs
        . exact h.step hlisted (hsteps.1 _ hs) hs
      rw [Nat.add_comm, Nat.sub_add_eq]
      exact ih hnext (hlisted.step hs) hsteps.2
    . have hfalse : step.isNewBlock = false := by
        match step with
        | .extrinsic _ _ => rfl
        | .newBlock => exact absurd (Succeeds.modify_iff.mpr rfl) (hs _)
      have hsteps' := hsteps.2
      rw [Machine.next_of_fails hs] at hsteps' ⊢
      rw [hfalse]
      exact ih h hlisted hsteps'

theorem run_listed (config : GenesisConfig T) (steps : List (Step T))
    : Listed ((machine T).run (State.genesis config) steps) := by
  apply Machine.run_invariant
  . intro s step s' h hs
    exact h.step hs
  . apply ListedUpTo.genesis

theorem run_renewalsConfined_iff (config : GenesisConfig T) (steps : List (Step T))
    : (machine T).Always RenewalsConfined (State.genesis config) steps ↔
        (machine T).Meets ConfinesRenewals (State.genesis config) steps := by
  apply Machine.always_iff_of_step
  . intro s step s' h hs
    exact h.step_iff hs
  . apply RenewalsConfined.genesis

/-
A membership that is acquired has no request yet, otherwise the account would have been a member
already.
-/
theorem Ending.of_accepted {origin : T.Origin} (h : RenewalsConfined s)
    (hs : (machine T).accepts s (.extrinsic origin (.nominate m true)) = true)
    (hroom : Schedules s (.extrinsic origin (.nominate m true)))
    : Ending m (s.blockNumber + T.membershipPeriod) T.membershipPeriod.toNat
        ((machine T).next s (.extrinsic origin (.nominate m true))) := by
  rw [Machine.accepts_iff] at hs
  generalize (machine T).next s (.extrinsic origin (.nominate m true)) = s' at hs
  cases Stepped.of_succeeds hs with
  | nominate hfresh =>
    have hflag : s.membershipsRenewsOn.containsKey m = false := by
      rw [Bool.eq_false_iff]
      intro hflag
      exact not_expiringMember hfresh (h m hflag)
    exact (Ending.of_nominate hflag hroom).congr id rfl rfl

/--
Renewal requests belong to memberships that expire in every state of exactly those runs in which
requests are made for such memberships only and no membership with a request is revoked. If every
membership is scheduled when it is acquired, then it has ended after its period, unless it was
renewed or acquired again in the meantime.
-/
theorem run_renewals (config : GenesisConfig T) (steps : List (Step T))
    : ((machine T).Always RenewalsConfined (State.genesis config) steps ↔
        (machine T).Meets ConfinesRenewals (State.genesis config) steps) ∧
      ((machine T).Meets (fun s step => ConfinesRenewals s step ∧ Schedules s step)
          (State.genesis config) steps →
        ∀ pre origin m post, steps = pre ++ .extrinsic origin (.nominate m true) :: post →
          (machine T).accepts ((machine T).run (State.genesis config) pre)
            (.extrinsic origin (.nominate m true)) = true →
          (machine T).Meets (fun _ step => ¬ step.Extends m)
            ((machine T).run (State.genesis config)
              (pre ++ [.extrinsic origin (.nominate m true)])) post →
          T.membershipPeriod.toNat ≤ post.countP Step.isNewBlock →
          isMember ((machine T).run (State.genesis config) steps) m = false) := by
  refine ⟨run_renewalsConfined_iff config steps, ?_⟩
  intro hsteps pre origin m post heq haccepts hpost hblocks
  subst heq
  rw [Machine.meets_append] at hsteps
  rw [Machine.run_append] at hpost ⊢
  rw [Machine.run_cons] at ⊢
  obtain ⟨hpre, hrest⟩ := hsteps
  have hconfined : RenewalsConfined ((machine T).run (State.genesis config) pre) := by
    apply Machine.run_of_meets _ (RenewalsConfined.genesis config) hpre
    intro s step s' h hstep hs
    exact (h.step_iff hs).mpr hstep.1
  have hroom := (hrest.1 _ (Machine.accepts_iff.mp haccepts)).2
  have hending := Ending.of_accepted hconfined haccepts hroom
  have hlisted := (run_listed config pre).step (Machine.accepts_iff.mp haccepts)
  rw [isMember, StorageMap.containsKey_eq_false_iff]
  rcases Ending.run (.inr hending) hlisted hpost with hgone | hleft
  . exact hgone
  . have hpos := hleft.pos
    omega

def nominateOnly : List (Step (.plain 2 2)) :=
  [.extrinsic () (.nominate 3 true), .newBlock, .newBlock]

theorem nominateOnly_renewals
    : (machine (.plain 2 2)).Always RenewalsConfined (State.genesis oneMember) nominateOnly ∧
      isMember ((machine (.plain 2 2)).run (State.genesis oneMember) nominateOnly) 3 = false :=
  ⟨(run_renewals oneMember nominateOnly).1.mpr (by decide +kernel),
    (run_renewals oneMember nominateOnly).2 (by decide +kernel) [] () 3 [.newBlock, .newBlock] rfl
      (by decide +kernel) (by decide +kernel) (by decide +kernel)⟩

def renewBeforehand : List (Step (.plain 2 2)) :=
  [.extrinsic () (.renew 3)]

def nominateAfterwards : List (Step (.plain 2 2)) :=
  renewBeforehand ++ [.extrinsic () (.nominate 3 true), .newBlock, .newBlock]

/-
The renewal is requested for an account that is no member, and it prolongs the membership that the
account acquires after that.
-/
theorem renewBeforehand_not_confined
    : ¬ RenewalsConfined ((machine (.plain 2 2)).run (State.genesis oneMember) renewBeforehand) ∧
      isMember ((machine (.plain 2 2)).run (State.genesis oneMember) nominateAfterwards) 3 = true ∧
      ((machine (.plain 2 2)).run (State.genesis oneMember) nominateAfterwards).blockNumber = 2 := by
  refine ⟨?_, by decide +kernel, by decide +kernel⟩
  intro h
  have hmember := h 3 (by decide +kernel)
  revert hmember
  decide +kernel

end NetworkMembership
