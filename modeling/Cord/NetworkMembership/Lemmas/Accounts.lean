import Cord.Frame.Refinement
import Cord.NetworkMembership.Extension
import Cord.NetworkMembership.Lemmas.Schedule

/-!
This module contains what the pallet is to a single account: a membership with a clock of its own. The
lists that the pallet walks at every block refine these clocks as long as they have room, and a
transaction is taken exactly if the clock of its signer says so.
-/

open Frame

namespace NetworkMembership

variable {T : Config} {s s' : State T} {m : T.AccountId}

/--
The block at which the membership ends, which is zero if it never does, and whether it is renewed then.
-/
structure Account where
  expireOn : Option UInt32
  renews : Bool
  blockNumber : UInt32
  deriving DecidableEq, Repr

namespace Account

section Machine

variable (T m)

def newBlock (a : Account) : Account :=
  let blockNumber := a.blockNumber + 1
  if 0 < blockNumber ∧ a.expireOn = some blockNumber then
    let expireOn := if a.renews then some (blockNumber + T.membershipPeriod) else none
    { expireOn, renews := false, blockNumber }
  else
    { a with blockNumber }

def Names (m : T.AccountId) : Step T → Prop
  | .extrinsic _ (.nominate member _) => member = m
  | .extrinsic _ (.renew member) => member = m
  | .extrinsic _ (.revoke member) => member = m
  | .newBlock => False

instance (m : T.AccountId) : (step : Step T) → Decidable (Names T m step)
  | .extrinsic _ (.nominate member _) => inferInstanceAs (Decidable (member = m))
  | .extrinsic _ (.renew member) => inferInstanceAs (Decidable (member = m))
  | .extrinsic _ (.revoke member) => inferInstanceAs (Decidable (member = m))
  | .newBlock => inferInstanceAs (Decidable False)

def nominate (origin : T.Origin) (expires : Bool) : DispatchM Account Error Unit := do
  ensureOrigin (T.networkMembershipOrigin origin)
  ensure ((← get).expireOn = none) .membershipAlreadyAcquired
  modify fun a =>
    { a with expireOn := some (if expires then a.blockNumber + T.membershipPeriod else 0) }

def renew (origin : T.Origin) : DispatchM Account Error Unit := do
  ensureOrigin (T.networkMembershipOrigin origin)
  ensure ((← get).renews = false) .membershipRenewalAlreadyRequested
  modify fun a => { a with renews := true }

def revoke (origin : T.Origin) : DispatchM Account Error Unit := do
  ensureOrigin (T.networkMembershipOrigin origin)
  let expireOn ← okOr (← get).expireOn .membershipNotFound
  -- A membership that does not expire is on no list.
  ensure (expireOn ≠ 0) .membershipNotFound
  modify fun a => { a with expireOn := none }

/--
What a step is to the account `m`. Calls about other accounts are nothing to it.
-/
def dispatch (step : Step T) : DispatchM Account Error Unit :=
  match step with
  | .newBlock => modify (newBlock T)
  | .extrinsic origin call =>
    if Names T m (.extrinsic origin call) then
      match call with
      | .nominate _ expires => nominate T origin expires
      | .renew _ => renew T origin
      | .revoke _ => revoke T origin
    else
      pure ()

def machine : Machine Account Error (Step T) where
  dispatch := dispatch T m

end Machine

def ofState (m : T.AccountId) (s : State T) : Account where
  expireOn := (s.members.get m).map MemberData.expireOn
  renews := s.membershipsRenewsOn.containsKey m
  blockNumber := s.blockNumber

def genesis (config : GenesisConfig T) (m : T.AccountId) : Account where
  expireOn := (config.members.lookup m).map fun expires => if expires then T.membershipPeriod else 0
  renews := false
  blockNumber := 0

theorem ofState_congr (hmembers : s'.members.get m = s.members.get m)
    (hrenews : s'.membershipsRenewsOn.containsKey m = s.membershipsRenewsOn.containsKey m)
    (hblock : s'.blockNumber = s.blockNumber) : ofState m s' = ofState m s := by
  unfold ofState
  rw [hmembers, hrenews, hblock]

section Loop

variable {todo : List T.AccountId} {n : UInt32}

/-
The loop over a list comes to every account at most once.
-/
theorem ofState_foldl (hnodup : todo.Nodup) (s : State T) (m : T.AccountId)
    : ofState m (todo.foldl (fun s m => s.doExpireOrRenewMembership m n) s) =
        if m ∈ todo then
          {
            expireOn :=
              if s.membershipsRenewsOn.containsKey m then some (n + T.membershipPeriod) else none
            renews := false
            blockNumber := s.blockNumber
          }
        else
          ofState m s := by
  induction todo generalizing s with
  | nil => rfl
  | cons m' todo ih =>
    rw [List.nodup_cons] at hnodup
    rw [List.foldl_cons, ih hnodup.2, doExpireOrRenewMembership_blockNumber,
      doExpireOrRenewMembership_renewsOn]
    by_cases heq : m = m'
    . subst heq
      rw [if_neg hnodup.1, if_pos List.mem_cons_self]
      unfold ofState
      rw [doExpireOrRenewMembership_members, doExpireOrRenewMembership_renewsOn,
        doExpireOrRenewMembership_blockNumber, if_pos rfl, if_pos rfl]
      split
      . rfl
      . rfl
    . have hmem : m ∈ m' :: todo ↔ m ∈ todo := by
        rw [List.mem_cons]
        exact or_iff_right heq
      rw [if_neg heq]
      simp only [hmem]
      split
      . rfl
      . apply ofState_congr
        . rw [doExpireOrRenewMembership_members, if_neg heq]
        . rw [doExpireOrRenewMembership_renewsOn, if_neg heq]
        . apply doExpireOrRenewMembership_blockNumber

end Loop

theorem listed_iff (h : Scheduled s) {b : UInt32}
    : m ∈ (s.expiring b).toList ↔ (ofState m s).expireOn = some b ∧ b ≠ 0 := by
  rw [← h.members m List.not_mem_nil]
  apply and_congr_left'
  unfold ofState
  rw [Option.map_eq_some_iff]
  constructor
  . intro hget
    exact ⟨_, hget, rfl⟩
  . rintro ⟨_, hget, rfl⟩
    exact hget

theorem ofState_newBlock (h : Scheduled s) (m : T.AccountId)
    : ofState m (NetworkMembership.newBlock s) = newBlock T (ofState m s) := by
  unfold NetworkMembership.newBlock State.onInitialize State.renewOrExpireMemberships newBlock
  dsimp only
  by_cases hpos : 0 < s.blockNumber + 1
  . have hne : s.blockNumber + 1 ≠ 0 := by
      intro hzero
      rw [hzero] at hpos
      exact absurd hpos (by decide)
    have hdue := listed_iff (m := m) h (b := s.blockNumber + 1)
    rw [and_iff_left hne] at hdue
    rw [if_pos hpos]
    refine (ofState_foldl (n := s.blockNumber + 1) (h.nodup (s.blockNumber + 1)) _ m).trans ?_
    by_cases hmem : m ∈ (s.expiring (s.blockNumber + 1)).toList
    . rw [if_pos hmem]
      have hends := hdue.mp hmem
      exact (if_pos (And.intro hpos hends)).symm
    . rw [if_neg hmem]
      exact (if_neg fun hdue' => hmem (hdue.mpr hdue'.2)).symm
  . rw [if_neg hpos, if_neg]
    . rfl
    . rintro ⟨hpos', _⟩
      exact hpos hpos'

variable {step : Step T}

theorem next_of_not_names (a : Account) (hstep : ¬ Names T m step) (hblock : step ≠ .newBlock)
    : (machine T m).next a step = a := by
  cases step with
  | extrinsic origin call =>
    unfold Machine.next machine dispatch
    dsimp only
    rw [if_neg hstep]
    rfl
  | newBlock => exact absurd rfl hblock

/-
A call about another account leaves the membership and the renewal request of `m` alone.
-/
theorem ofState_of_not_names (hs : Succeeds ((NetworkMembership.machine T).dispatch step) s () s')
    (hstep : ¬ Names T m step) (hblock : step ≠ .newBlock) : ofState m s' = ofState m s := by
  cases Stepped.of_succeeds hs with
  | @nominate _ member expires =>
    have hne : m ≠ member := Ne.symm hstep
    apply ofState_congr
    . exact addMemberAndScheduleExpiry_members member expires s hne
    . change (s.addMemberAndScheduleExpiry member expires).membershipsRenewsOn.containsKey m = _
      rw [addMemberAndScheduleExpiry_renewsOn]
    . exact addMemberAndScheduleExpiry_blockNumber member expires s
  | @renew _ member =>
    have hne : m ≠ member := Ne.symm hstep
    apply ofState_congr
    . rfl
    . change (s.membershipsRenewsOn.insert member ()).containsKey m = _
      unfold StorageMap.containsKey
      rw [StorageMap.get_insert_of_ne _ _ hne]
    . rfl
  | @revoke _ member =>
    have hne : m ≠ member := Ne.symm hstep
    apply ofState_congr
    . exact StorageMap.get_remove_of_ne _ hne
    . rfl
    . rfl
  | newBlock => exact absurd rfl hblock

theorem expireOn_eq_none_iff : (ofState m s).expireOn = none ↔ s.members.get m = none :=
  Option.map_eq_none_iff

theorem ofState_addMemberAndScheduleExpiry (expires : Bool) (s : State T) (m : T.AccountId)
    : ofState m (s.addMemberAndScheduleExpiry m expires) =
        {
          ofState m s with
          expireOn := some (if expires then s.blockNumber + T.membershipPeriod else 0)
        } := by
  unfold ofState
  rw [addMemberAndScheduleExpiry_members_self, addMemberAndScheduleExpiry_renewsOn,
    addMemberAndScheduleExpiry_blockNumber]
  rfl

/-
A call about `m` succeeds or fails on its account alone as it does on the whole state.
-/
theorem nominate_ofState (s : State T) (m : T.AccountId) (origin : T.Origin) (expires : Bool)
    : (∀ s', Succeeds (NetworkMembership.nominate origin m expires) s () s' →
        Succeeds (nominate T origin expires) (ofState m s) () (ofState m s')) ∧
      ∀ err, Fails (NetworkMembership.nominate origin m expires) s err →
        Fails (nominate T origin expires) (ofState m s) err := by
  unfold NetworkMembership.nominate nominate
  constructor
  . simp only [Succeeds.bind_iff, Succeeds.ensureOrigin_iff, Succeeds.ensure_iff, Succeeds.get_iff,
      Succeeds.modify_iff, Bool.not_eq_true', StorageMap.containsKey_eq_false_iff, and_assoc,
      exists_and_left, exists_eq_left, exists_const]
    rintro s' ⟨_, horigin, hfresh, rfl⟩
    refine ⟨_, horigin, expireOn_eq_none_iff.mpr hfresh, ?_⟩
    exact ofState_addMemberAndScheduleExpiry expires s m
  . simp only [Fails.bind_iff, Fails.ensureOrigin_iff, Fails.ensure_iff, Fails.get_iff,
      Fails.modify_iff, Succeeds.ensureOrigin_iff, Succeeds.ensure_iff, Succeeds.get_iff,
      Succeeds.modify_iff, Bool.not_eq_true', StorageMap.containsKey_eq_false_iff, and_assoc,
      exists_and_left, exists_eq_left, exists_const, expireOn_eq_none_iff]
    intro err h
    simpa only [or_false] using h

theorem renew_ofState (s : State T) (m : T.AccountId) (origin : T.Origin)
    : (∀ s', Succeeds (NetworkMembership.renew origin m) s () s' →
        Succeeds (renew T origin) (ofState m s) () (ofState m s')) ∧
      ∀ err, Fails (NetworkMembership.renew origin m) s err →
        Fails (renew T origin) (ofState m s) err := by
  unfold NetworkMembership.renew renew
  constructor
  . simp only [Succeeds.bind_iff, Succeeds.ensureOrigin_iff, Succeeds.ensure_iff, Succeeds.get_iff,
      Succeeds.modify_iff, Bool.not_eq_true', and_assoc, exists_and_left, exists_eq_left,
      exists_const]
    rintro s' ⟨_, horigin, hnone, rfl⟩
    refine ⟨_, horigin, hnone, ?_⟩
    unfold ofState
    change Account.mk _ ((s.membershipsRenewsOn.insert m ()).containsKey m) _ = _
    rw [StorageMap.containsKey, StorageMap.get_insert_self]
    rfl
  . simp only [Fails.bind_iff, Fails.ensureOrigin_iff, Fails.ensure_iff, Fails.get_iff,
      Fails.modify_iff, Succeeds.ensureOrigin_iff, Succeeds.ensure_iff, Succeeds.get_iff,
      Succeeds.modify_iff, Bool.not_eq_true', and_assoc, exists_and_left, exists_eq_left,
      exists_const, or_false]
    intro err h
    exact h

theorem revoke_ofState (h : Scheduled s) (m : T.AccountId) (origin : T.Origin)
    : (∀ s', Succeeds (NetworkMembership.revoke origin m) s () s' →
        Succeeds (revoke T origin) (ofState m s) () (ofState m s')) ∧
      ∀ err, Fails (NetworkMembership.revoke origin m) s err →
        Fails (revoke T origin) (ofState m s) err := by
  unfold NetworkMembership.revoke revoke
  constructor
  . simp only [Succeeds.bind_iff, Succeeds.ensureOrigin_iff, Succeeds.ensure_iff, Succeeds.get_iff,
      Succeeds.okOr_iff, Succeeds.modify_iff, and_assoc, exists_and_left, exists_eq_left,
      exists_const]
    rintro s' ⟨_, horigin, details, hget, index, hindex, rfl⟩
    have hlisted := (listed_iff h).mp (mem_of_idxOf? hindex)
    refine ⟨_, horigin, _, hlisted.1, hlisted.2, ?_⟩
    unfold ofState
    change Account.mk (Option.map _ ((s.members.remove m).get m)) _ _ = _
    rw [StorageMap.get_remove_self]
    rfl
  . simp only [Fails.bind_iff, Fails.ensureOrigin_iff, Fails.ensure_iff, Fails.get_iff,
      Fails.okOr_iff, Succeeds.okOr_iff,
      Fails.modify_iff, Succeeds.ensureOrigin_iff, Succeeds.ensure_iff, Succeeds.get_iff,
      Succeeds.modify_iff, and_assoc, exists_and_left, exists_eq_left,
      exists_const]
    rintro err (h | ⟨_, horigin, h | ⟨hget, rfl⟩ | ⟨details, hget, h | h | ⟨hindex, rfl⟩ | ⟨_, _, h⟩⟩⟩)
    . exact .inl h
    . cases h
    . exact .inr ⟨_, horigin, .inr (.inl ⟨expireOn_eq_none_iff.mpr hget, rfl⟩)⟩
    . cases h
    . cases h
    . refine .inr ⟨_, horigin, .inr (.inr ⟨details.expireOn, ?_, .inl ⟨?_, rfl⟩⟩)⟩
      . unfold ofState
        rw [hget]
        rfl
      . intro hne
        have hmem := (h.members m List.not_mem_nil details.expireOn).mp ⟨hget, hne⟩
        exact List.idxOf?_eq_none_iff.mp hindex hmem
    . simp at h


/-
The calls that name `m` are answered as its account answers them.
-/
theorem dispatch_ofState (h : Scheduled s) (hstep : Names T m step)
    : (∀ s', Succeeds ((NetworkMembership.machine T).dispatch step) s () s' →
        Succeeds ((machine T m).dispatch step) (ofState m s) () (ofState m s')) ∧
      ∀ err, Fails ((NetworkMembership.machine T).dispatch step) s err →
        Fails ((machine T m).dispatch step) (ofState m s) err := by
  match step with
  | .newBlock => exact absurd hstep id
  | .extrinsic origin (.nominate member expires) =>
    obtain rfl : member = m := hstep
    have hdispatch : (machine T member).dispatch (.extrinsic origin (.nominate member expires)) =
      nominate T origin expires := if_pos rfl
    rw [hdispatch]
    exact nominate_ofState s member origin expires
  | .extrinsic origin (.renew member) =>
    obtain rfl : member = m := hstep
    have hdispatch : (machine T member).dispatch (.extrinsic origin (.renew member)) =
      renew T origin := if_pos rfl
    rw [hdispatch]
    exact renew_ofState s member origin
  | .extrinsic origin (.revoke member) =>
    obtain rfl : member = m := hstep
    have hdispatch : (machine T member).dispatch (.extrinsic origin (.revoke member)) =
      revoke T origin := if_pos rfl
    rw [hdispatch]
    exact revoke_ofState h member origin

theorem answer_ofState (h : Scheduled s) (hstep : Names T m step)
    : (machine T m).answer (ofState m s) step = (NetworkMembership.machine T).answer s step := by
  rcases Machine.succeeds_or_fails_with (NetworkMembership.machine T) s step with hs | ⟨err, hs⟩
  . rw [Machine.answer_of_succeeds hs,
      Machine.answer_of_succeeds ((dispatch_ofState h hstep).1 _ hs)]
  . rw [Machine.answer_of_fails hs,
      Machine.answer_of_fails ((dispatch_ofState h hstep).2 err hs)]

/--
The pallet refines the accounts: each of them goes through the steps on its own.
-/
theorem refines (T : Config) (m : T.AccountId) (hperiod : 0 < T.membershipPeriod.toNat)
    : Machine.Refines (NetworkMembership.machine T) (machine T m) (ofState m) Scheduled HasRoom where
  keeps _ _ _ h hroom hs := h.step hperiod hroom hs
  succeeds s step s' h _ hs := by
    by_cases hblock : step = .newBlock
    . subst hblock
      cases Stepped.of_succeeds hs
      exact (ofState_newBlock h m).symm
    . by_cases hstep : Names T m step
      . exact Machine.next_of_succeeds ((dispatch_ofState h hstep).1 _ hs)
      . rw [next_of_not_names _ hstep hblock, ofState_of_not_names hs hstep hblock]
  fails s step err h hs := by
    by_cases hblock : step = .newBlock
    . subst hblock
      exact absurd (Fails.modify_iff.mp hs) id
    . by_cases hstep : Names T m step
      . exact Machine.next_of_fails_with ((dispatch_ofState h hstep).2 err hs)
      . exact next_of_not_names _ hstep hblock

/-
The induction is on the members that are still to be added, none of them is a member already.
-/
theorem ofState_foldl_addMember {entries : List (T.AccountId × Bool)}
    (hnodup : (entries.map Prod.fst).Nodup) (s : State T) (m : T.AccountId)
    : ofState m (entries.foldl (fun s entry => s.addMemberAndScheduleExpiry entry.1 entry.2) s) =
        match entries.lookup m with
        | some expires =>
          {
            ofState m s with
            expireOn := some (if expires then s.blockNumber + T.membershipPeriod else 0)
          }
        | none => ofState m s := by
  induction entries generalizing s with
  | nil => rfl
  | cons entry entries ih =>
    obtain ⟨member, expires⟩ := entry
    rw [List.map_cons, List.nodup_cons] at hnodup
    rw [List.foldl_cons, ih hnodup.2, List.lookup_cons]
    by_cases heq : m = member
    . subst heq
      have hnone : entries.lookup m = none := by
        rw [List.lookup_eq_none_iff]
        intro entry hentry
        rw [bne_iff_ne]
        rintro rfl
        exact hnodup.1 (List.mem_map.mpr ⟨entry, hentry, rfl⟩)
      rw [hnone, beq_self_eq_true, ofState_addMemberAndScheduleExpiry]
    . have hframe : ofState m (s.addMemberAndScheduleExpiry member expires) = ofState m s := by
        apply ofState_congr
        . exact addMemberAndScheduleExpiry_members member expires s heq
        . rw [addMemberAndScheduleExpiry_renewsOn]
        . exact addMemberAndScheduleExpiry_blockNumber member expires s
      rw [beq_eq_false_iff_ne.mpr heq, hframe, addMemberAndScheduleExpiry_blockNumber]

theorem ofState_genesis (config : GenesisConfig T) (m : T.AccountId)
    : ofState m (State.genesis config) = genesis config m := by
  unfold State.genesis genesis
  rw [ofState_foldl_addMember config.nodup]
  cases config.members.lookup m with
  | none => rfl
  | some expires =>
    change Account.mk (some (if expires then 0 + T.membershipPeriod else 0)) _ _ = _
    rw [UInt32.zero_add]
    rfl

end Account

/--
The account after steps that started with the genesis configuration.
-/
def account (config : GenesisConfig T) (steps : List (Step T)) (m : T.AccountId) : Account :=
  (Account.machine T m).run (Account.genesis config m) steps

namespace Permissioned

variable {κ : Type}

def memberships : List (Step T κ) → List (NetworkMembership.Step T)
  | [] => []
  | .membership step :: steps => step :: memberships steps
  | .transaction _ _ :: steps => memberships steps

/--
The transactions whose signers are members after the steps of the pallet before them.
-/
def admitted (config : GenesisConfig T)
    : List (NetworkMembership.Step T) → List (Step T κ) → List (T.AccountId × κ)
  | _, [] => []
  | past, .membership step :: steps => admitted config (past ++ [step]) steps
  | past, .transaction who call :: steps =>
    if (account config past who).expireOn.isSome then
      (who, call) :: admitted config past steps
    else
      admitted config past steps

variable {σ ε : Type} {M : Machine σ ε (T.AccountId × κ)}

theorem next_membership (s : State T) (r : σ) (step : NetworkMembership.Step T)
    : (permissioned M).next (s, r) (.membership step) =
        ((NetworkMembership.machine T).next s step, r) := by
  rcases Machine.succeeds_or_fails (NetworkMembership.machine T) s step with hs | hs
  . exact Machine.next_of_succeeds (Succeeds.zoom_iff.mpr ⟨_, hs, rfl⟩)
  . rw [Machine.next_of_fails hs]
    apply Machine.next_of_fails
    intro s' h
    obtain ⟨t, ht, _⟩ := Succeeds.zoom_iff.mp h
    exact hs t ht

theorem preDispatch_iff {s : State T} {who : T.AccountId}
    : CheckNetworkMembership.preDispatch s who = .ok () ↔ isMember s who = true := by
  unfold CheckNetworkMembership.preDispatch CheckNetworkMembership.validate isMember
  split
  . next h => exact iff_of_true rfl h
  . next h =>
    refine iff_of_false ?_ h
    intro hok
    cases hok

theorem transaction_iff {s : State T} {r : σ} {t : State T × σ} {who : T.AccountId} {call : κ}
    : Succeeds ((permissioned M).dispatch (.transaction who call)) (s, r) () t ↔
        isMember s who = true ∧ ∃ r', Succeeds (M.dispatch (who, call)) r () r' ∧ t = (s, r') := by
  simp only [permissioned, Succeeds.bind_iff, Succeeds.get_iff, Succeeds.mapErr_iff,
    Succeeds.zoom_iff, and_assoc, exists_and_left, exists_eq_left]
  constructor
  . rintro ⟨_, hpre, htransaction⟩
    exact ⟨preDispatch_iff.mp hpre, htransaction⟩
  . rintro ⟨hmember, htransaction⟩
    exact ⟨(), preDispatch_iff.mpr hmember, htransaction⟩

theorem next_transaction (s : State T) (r : σ) (who : T.AccountId) (call : κ)
    : (permissioned M).next (s, r) (.transaction who call) =
        (s, if isMember s who then M.next r (who, call) else r) := by
  by_cases hmember : isMember s who = true
  . rw [if_pos hmember]
    rcases Machine.succeeds_or_fails M r (who, call) with hs | hs
    . exact Machine.next_of_succeeds (transaction_iff.mpr ⟨hmember, _, hs, rfl⟩)
    . rw [Machine.next_of_fails hs]
      apply Machine.next_of_fails
      intro t ht
      obtain ⟨_, r', hr', _⟩ := transaction_iff.mp ht
      exact hs r' hr'
  . rw [if_neg hmember]
    apply Machine.next_of_fails
    intro t ht
    exact hmember (transaction_iff.mp ht).1

/-
The induction is on the steps that are left, the accounts have gone through those of the past.
-/
theorem run_admitted {config : GenesisConfig T} (hperiod : 0 < T.membershipPeriod.toNat)
    {past : List (NetworkMembership.Step T)} {s : State T} (hs : Scheduled s)
    (hpast : ∀ m, Account.ofState m s = account config past m) (r : σ) {steps : List (Step T κ)}
    (hsteps : (NetworkMembership.machine T).Meets HasRoom s (memberships steps))
    : (permissioned M).run (s, r) steps =
        ((NetworkMembership.machine T).run s (memberships steps),
          M.run r (admitted config past steps)) := by
  induction steps generalizing s r past with
  | nil => rfl
  | cons step steps ih =>
    cases step with
    | membership step =>
      rw [Machine.run_cons, next_membership, memberships, admitted, Machine.run_cons]
      have hone : (NetworkMembership.machine T).Meets HasRoom s [step] := ⟨hsteps.1, trivial⟩
      apply ih
      . have hnext : Scheduled ((NetworkMembership.machine T).run s [step]) :=
          Machine.run_of_meets (fun _ _ _ h hroom => h.step hperiod hroom) hs hone
        exact hnext
      . intro m
        have hnext := (Account.refines T m hperiod).run hs hone
        unfold account at hpast ⊢
        rw [Machine.run_append, ← hpast]
        exact hnext
      . exact hsteps.2
    | transaction who call =>
      have hmember : isMember s who = (account config past who).expireOn.isSome := by
        rw [← hpast]
        exact (Option.isSome_map).symm
      rw [Machine.run_cons, next_transaction, memberships, admitted, ← hmember]
      split
      . rw [Machine.run_cons]
        exact ih hs hpast _ hsteps
      . exact ih hs hpast _ hsteps

end Permissioned

/--
Every account has a clock of its own, which sees only the calls that name it. The pallet answers these
calls as the clock does, and of the transactions before a runtime exactly those take effect whose
signers are members by their clocks.
-/
theorem run_permissioned {σ ε κ : Type} (M : Machine σ ε (T.AccountId × κ))
    (config : GenesisConfig T) (hperiod : 0 < T.membershipPeriod)
    (hgenesis : (config.members.filter (·.2)).length ≤ T.maxMembersPerBlock) (r : σ)
    (steps : List (Permissioned.Step T κ))
    (hsteps : (machine T).Meets HasRoom (State.genesis config) (Permissioned.memberships steps))
    : ((permissioned M).run (State.genesis config, r) steps).2 =
          M.run r (Permissioned.admitted config [] steps) ∧
        (∀ m, Account.ofState m ((permissioned M).run (State.genesis config, r) steps).1 =
          account config (Permissioned.memberships steps) m) ∧
        ∀ pre step post m, Permissioned.memberships steps = pre ++ step :: post →
          Account.Names T m step →
            (machine T).answer ((machine T).run (State.genesis config) pre) step =
              (Account.machine T m).answer (account config pre m) step := by
  rw [UInt32.lt_iff_toNat_lt] at hperiod
  have hscheduled : Scheduled (State.genesis config) := .genesis hperiod hgenesis
  have hpast : ∀ m, Account.ofState m (State.genesis config) = account config [] m :=
    fun m => Account.ofState_genesis config m
  have hrun := Permissioned.run_admitted (M := M) hperiod hscheduled hpast r hsteps
  rw [hrun]
  have haccount : ∀ steps, (machine T).Meets HasRoom (State.genesis config) steps → ∀ m,
      Account.ofState m ((machine T).run (State.genesis config) steps) = account config steps m := by
    intro steps hmeets m
    rw [(Account.refines T m hperiod).run hscheduled hmeets, Account.ofState_genesis, account]
  refine ⟨rfl, haccount _ hsteps, ?_⟩
  intro pre step post m heq hnames
  rw [heq, Machine.meets_append] at hsteps
  rw [← haccount pre hsteps.1]
  apply (Account.answer_ofState _ hnames).symm
  exact Machine.run_of_meets (fun _ _ _ h hroom => h.step hperiod hroom) hscheduled hsteps.1

def counter : Machine Nat Unit (Nat × Nat) where
  dispatch call := modify (· + call.2)

def plainTransactions : List (Permissioned.Step (.plain 2 2) Nat) :=
  -- The transaction of account 4 is not taken, and that of account 3 only before its period ends.
  [.membership (.extrinsic () (.nominate 3 true)), .transaction 3 5, .transaction 4 7,
    .membership .newBlock, .membership .newBlock, .transaction 3 11, .transaction 2 13]

theorem plainTransactions_permissioned
    : ((permissioned counter).run (State.genesis (plainGenesis 2 2), 0) plainTransactions).2 = 18 := by
  have h := run_permissioned (T := .plain 2 2) counter (plainGenesis 2 2) (by decide) (by decide) 0
    plainTransactions (by decide +kernel)
  rw [h.1]
  decide +kernel

end NetworkMembership
