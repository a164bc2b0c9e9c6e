import Cord.CollectiveMembership.Impl

/-!
This module contains the order of the members: they are strictly increasing, which is what every binary
search relies on, and the prime is one of them. The only call that does not keep this by itself is the
one that replaces all members.
-/

open Frame

namespace CollectiveMembership

variable {T : Config} {s s' : State T} {u : Unit}
  {members : BoundedVec T.AccountId T.maxMembers.toNat}

section Blocks

variable {who : T.AccountId} {location : Nat}

@[simp]
theorem depositEvent_iff {event : Event}
    : Succeeds (depositEvent event) s u s' ↔ s' = { s with events := s.events ++ [event] } := by
  simp [depositEvent]

@[simp]
theorem signal_iff {sig : Signal T}
    : Succeeds (signal sig) s u s' ↔ s' = { s with signals := s.signals ++ [sig] } := by
  simp [signal]

@[simp]
theorem putMembers_iff : Succeeds (putMembers members) s u s' ↔ s' = { s with members } := by
  simp [putMembers]

@[simp]
theorem putPrime_iff {prime : Option T.AccountId}
    : Succeeds (putPrime prime) s u s' ↔ s' = { s with prime } := by
  simp [putPrime]

@[simp]
theorem lookup_iff {source : T.LookupSource}
    : Succeeds (lookup source) s who s' ↔ T.lookup source = some who ∧ s' = s := by
  simp [lookup]

@[simp]
theorem findMember_iff
    : Succeeds (findMember members who) s location s' ↔
        binarySearch members who = .ok location ∧ s' = s := by
  unfold findMember
  cases binarySearch members who with
  | ok i => simp [eq_comm]
  | error i => simp

@[simp]
theorem findPlace_iff
    : Succeeds (findPlace members who) s location s' ↔
        binarySearch members who = .error location ∧ s' = s := by
  unfold findPlace
  cases binarySearch members who with
  | ok i => simp
  | error i => simp [eq_comm]

end Blocks

def keptPrime (members : BoundedVec T.AccountId T.maxMembers.toNat) (prime : Option T.AccountId)
    : Option T.AccountId :=
  prime.filter fun p => (binarySearch members p).isOk

theorem rejigPrime_spec (h : Succeeds (rejigPrime members) s u s')
    : s'.members = s.members ∧ s'.prime = keptPrime members s.prime := by
  simp only [rejigPrime, Succeeds.bind_iff, Succeeds.get_iff, and_assoc, exists_and_left,
    exists_eq_left] at h
  unfold keptPrime
  cases hprime : s.prime with
  | none =>
    simp only [hprime, Succeeds.pure_iff] at h
    rw [h.2, hprime]
    exact ⟨rfl, rfl⟩
  | some p =>
    simp only [hprime] at h
    cases hsearch : binarySearch members p with
    | ok i =>
      simp only [hsearch, signal_iff] at h
      subst h
      simp [hprime, Option.filter, hsearch, Except.isOk, Except.toBool]
    | error i =>
      simp only [hsearch, putPrime_iff] at h
      subst h
      simp [Option.filter, hsearch, Except.isOk, Except.toBool]

def Call.ResetsDistinct : Call T → Prop
  | .resetMembers members => members.Nodup
  | _ => True

instance : (call : Call T) → Decidable call.ResetsDistinct
  | .resetMembers members => inferInstanceAs (Decidable members.Nodup)
  | .addMember .. | .removeMember .. | .swapMember .. | .changeKey .. | .setPrime ..
  | .clearPrime => isTrue trivial

/--
What a successful call has done to the members and to the prime.
-/
inductive MembersStep (s : State T) : Call T → State T → Prop where
  | keep {call : Call T} {s' : State T} (hcall : call.ResetsDistinct)
      (members : s'.members = s.members)
      (prime : s'.prime = s.prime)
      : MembersStep s call s'
  | add {source : T.LookupSource} {s' : State T} {who : T.AccountId} {location : Nat}
      (search : binarySearch s.members who = .error location)
      (members : s'.members.toList = s.members.toList.insertIdx location who)
      (prime : s'.prime = s.prime)
      : MembersStep s (.addMember source) s'
  | remove {source : T.LookupSource} {s' : State T} {who : T.AccountId} {location : Nat}
      (search : binarySearch s.members who = .ok location)
      (members : s'.members = s.members.remove location)
      (prime : s'.prime = keptPrime s'.members s.prime)
      : MembersStep s (.removeMember source) s'
  | swap {source source' : T.LookupSource} {s' : State T} {who new : T.AccountId}
      {location place : Nat}
      (search : binarySearch s.members who = .ok location)
      (fresh : binarySearch s.members new = .error place)
      (members : s'.members = (s.members.set location new).sort)
      (prime : s'.prime = keptPrime s'.members s.prime)
      : MembersStep s (.swapMember source source') s'
  | reset {s' : State T} {members : BoundedVec T.AccountId T.maxMembers.toNat}
      (members_eq : s'.members = members.sort)
      (prime : s'.prime = keptPrime s'.members s.prime)
      : MembersStep s (.resetMembers members.toList) s'
  | changeKey {source : T.LookupSource} {s' : State T} {who new : T.AccountId}
      {location place : Nat}
      (search : binarySearch s.members who = .ok location)
      (fresh : binarySearch s.members new = .error place)
      (members : s'.members = (s.members.set location new).sort)
      (prime : s'.prime = if s.prime = some who then some new else s.prime)
      : MembersStep s (.changeKey source) s'
  | setPrime {source : T.LookupSource} {s' : State T} {who : T.AccountId} {location : Nat}
      (search : binarySearch s.members who = .ok location)
      (members : s'.members = s.members)
      (prime : s'.prime = some who)
      : MembersStep s (.setPrime source) s'
  | clearPrime {s' : State T} (members : s'.members = s.members) (prime : s'.prime = none)
      : MembersStep s .clearPrime s'

theorem replaceMember_iff {remove add : T.AccountId}
    : Succeeds (replaceMember remove add) s members s' ↔
        ∃ location, binarySearch s.members remove = .ok location ∧
          (∃ place, binarySearch s.members add = .error place) ∧
          members = (s.members.set location add).sort ∧
          s' = {
            s with
            members
            signals := s.signals ++ [.changeMembersSorted [add] [remove] members.toList]
          } := by
  simp only [replaceMember, Succeeds.bind_iff, Succeeds.get_iff, findMember_iff, findPlace_iff,
    putMembers_iff, signal_iff, Succeeds.pure_iff, and_assoc, exists_and_left, exists_eq_left,
    exists_const]
  constructor
  . rintro ⟨location, hremove, place, hadd, rfl, rfl⟩
    exact ⟨location, hremove, ⟨place, hadd⟩, rfl, rfl⟩
  . rintro ⟨location, hremove, ⟨place, hadd⟩, rfl, rfl⟩
    exact ⟨location, hremove, place, hadd, rfl, rfl⟩

section Calls

variable {origin : T.Origin} {isMember : T.AccountId → Bool}

theorem addMember_members {who : T.LookupSource}
    (h : Succeeds (addMember origin isMember who) s () s') : MembersStep s (.addMember who) s' := by
  simp only [addMember, Succeeds.bind_iff, Succeeds.ensureOrigin_iff, lookup_iff,
    Succeeds.ensure_iff, Succeeds.get_iff, findPlace_iff, Succeeds.okOr_iff, putMembers_iff,
    signal_iff, depositEvent_iff, and_assoc, exists_and_left, exists_eq_left, exists_const] at h
  obtain ⟨_, _, _, _, _, location, hsearch, members, hinsert, rfl⟩ := h
  exact .add hsearch (BoundedVec.tryFrom_eq_some.mp hinsert) rfl

theorem removeMember_members {who : T.LookupSource} (h : Succeeds (removeMember origin who) s () s')
    : MembersStep s (.removeMember who) s' := by
  simp only [removeMember, Succeeds.bind_iff, Succeeds.ensureOrigin_iff, lookup_iff,
    Succeeds.get_iff, findMember_iff, putMembers_iff, signal_iff, depositEvent_iff, and_assoc,
    exists_and_left, exists_eq_left, exists_const] at h
  obtain ⟨_, _, _, _, location, hsearch, _, t, hrejig, rfl⟩ := h
  obtain ⟨hmembers, hprime⟩ := rejigPrime_spec hrejig
  refine .remove hsearch hmembers ?_
  dsimp only
  rw [hprime, hmembers]

theorem swapMember_members {remove add : T.LookupSource}
    (h : Succeeds (swapMember origin isMember remove add) s () s')
    : MembersStep s (.swapMember remove add) s' := by
  simp only [swapMember, Succeeds.bind_iff, Succeeds.ensureOrigin_iff, lookup_iff,
    Succeeds.ite_iff, Succeeds.pure_iff, Succeeds.ensure_iff, replaceMember_iff, depositEvent_iff,
    and_assoc, exists_and_left, exists_eq_left, exists_const] at h
  obtain ⟨_, _, _, _, _, _, ⟨_, _, rfl⟩ | ⟨_, _, members, _, ⟨location, hremove, ⟨place, hadd⟩,
    rfl, rfl⟩, _, t, hrejig, rfl⟩⟩ := h
  . exact .keep trivial rfl rfl
  . obtain ⟨hmembers, hprime⟩ := rejigPrime_spec hrejig
    refine .swap hremove hadd hmembers ?_
    dsimp only
    rw [hprime, hmembers]

theorem resetMembers_members {members : List T.AccountId}
    (h : Succeeds (resetMembers origin members) s () s')
    : MembersStep s (.resetMembers members) s' := by
  simp only [resetMembers, Succeeds.bind_iff, Succeeds.ensureOrigin_iff, Succeeds.okOr_iff,
    Succeeds.get_iff, signal_iff, putMembers_iff, depositEvent_iff, and_assoc, exists_and_left,
    exists_eq_left, exists_const] at h
  obtain ⟨_, _, v, hv, _, t, hrejig, rfl⟩ := h
  obtain ⟨_, hprime⟩ := rejigPrime_spec hrejig
  rw [← BoundedVec.tryFrom_eq_some.mp hv]
  exact .reset rfl hprime

theorem changeKey_members {new : T.LookupSource}
    (h : Succeeds (changeKey origin isMember new) s () s') : MembersStep s (.changeKey new) s' := by
  simp only [changeKey, Succeeds.bind_iff, Succeeds.ensureOrigin_iff, lookup_iff,
    Succeeds.ite_iff, Succeeds.pure_iff, Succeeds.ensure_iff, Succeeds.get_iff, replaceMember_iff,
    putPrime_iff, signal_iff, depositEvent_iff, and_assoc, exists_and_left, exists_eq_left,
    exists_const] at h
  obtain ⟨_, _, _, _, _, ⟨_, _, rfl⟩ | ⟨_, _, _, ⟨location, hremove, ⟨place, hadd⟩, rfl, rfl⟩,
    h⟩⟩ := h
  . exact .keep trivial rfl rfl
  . rcases h with ⟨hprime, rfl⟩ | ⟨hprime, rfl⟩
    . exact .changeKey hremove hadd rfl (if_pos hprime).symm
    . exact .changeKey hremove hadd rfl (if_neg hprime).symm

theorem setPrime_members {who : T.LookupSource} (h : Succeeds (setPrime origin who) s () s')
    : MembersStep s (.setPrime who) s' := by
  simp only [setPrime, Succeeds.bind_iff, Succeeds.ensureOrigin_iff, lookup_iff,
    Succeeds.get_iff, findMember_iff, putPrime_iff, signal_iff, and_assoc, exists_and_left,
    exists_eq_left, exists_const] at h
  obtain ⟨_, _, _, _, location, hsearch, rfl⟩ := h
  exact .setPrime hsearch rfl rfl

theorem clearPrime_members (h : Succeeds (clearPrime origin) s () s')
    : MembersStep s .clearPrime s' := by
  simp only [clearPrime, Succeeds.bind_iff, Succeeds.ensureOrigin_iff, putPrime_iff, signal_iff,
    and_assoc, exists_and_left, exists_eq_left, exists_const] at h
  obtain ⟨_, _, rfl⟩ := h
  exact .clearPrime rfl rfl

end Calls

theorem dispatch_members {ext : Extrinsic T} (h : Succeeds ext.dispatch s () s')
    : MembersStep s ext.call s' := by
  obtain ⟨origin, isMember, call⟩ := ext
  cases call with
  | addMember who => exact addMember_members h
  | removeMember who => exact removeMember_members h
  | swapMember remove add => exact swapMember_members h
  | resetMembers members => exact resetMembers_members h
  | changeKey new => exact changeKey_members h
  | setPrime who => exact setPrime_members h
  | clearPrime => exact clearPrime_members h

structure State.InOrder (s : State T) : Prop where
  increasing : s.members.toList.Pairwise (· < ·)
  nodup : s.members.toList.Nodup
  search : ∀ who, (∃ location, binarySearch s.members who = .ok location) ↔ who ∈ s.members.toList
  prime : ∀ who ∈ s.prime, who ∈ s.members.toList

theorem binarySearch_ok_iff (h : members.toList.Pairwise (· < ·)) (who : T.AccountId)
    : (∃ location, binarySearch members who = .ok location) ↔ who ∈ members.toList := by
  have hiff : (∃ location, binarySearchByKey members.toList who id = .ok location) ↔
      ∃ member ∈ members.toList, id member = who := exists_binarySearchByKey_ok h
  unfold binarySearch
  simpa using hiff

theorem State.inOrder_of_increasing (hincreasing : s.members.toList.Pairwise (· < ·))
    (hprime : ∀ who ∈ s.prime, who ∈ s.members.toList) : s.InOrder where
  increasing := hincreasing
  nodup := hincreasing.imp ne_of_lt
  search := binarySearch_ok_iff hincreasing
  prime := hprime

theorem mem_of_keptPrime (h : members.toList.Pairwise (· < ·)) {prime : Option T.AccountId}
    : ∀ who ∈ keptPrime members prime, who ∈ members.toList := by
  intro who hwho
  rw [← binarySearch_ok_iff h]
  unfold keptPrime at hwho
  rw [Option.mem_def, Option.filter_eq_some_iff] at hwho
  cases hsearch : binarySearch members who with
  | ok location => exact ⟨location, rfl⟩
  | error location =>
    rw [hsearch] at hwho
    cases hwho.2

theorem State.inOrder_of_keptPrime {prime : Option T.AccountId}
    (hincreasing : s.members.toList.Pairwise (· < ·)) (hprime : s.prime = keptPrime s.members prime)
    : s.InOrder := by
  apply State.inOrder_of_increasing hincreasing
  rw [hprime]
  exact mem_of_keptPrime hincreasing

theorem getElem?_of_binarySearch (h : members.toList.Pairwise (· < ·)) {who : T.AccountId}
    {location : Nat} (hsearch : binarySearch members who = .ok location)
    : members.toList[location]? = some who := by
  obtain ⟨a, ha, hid⟩ := binarySearchByKey_ok h hsearch
  rw [ha, ← hid]

theorem notMem_of_binarySearch (h : members.toList.Pairwise (· < ·)) {who : T.AccountId}
    {location : Nat} (hsearch : binarySearch members who = .error location)
    : who ∉ members.toList := by
  rw [← binarySearch_ok_iff h, hsearch]
  rintro ⟨_, hok⟩
  cases hok

theorem replaced_perm (h : members.toList.Pairwise (· < ·)) {who new : T.AccountId}
    {location : Nat} (hsearch : binarySearch members who = .ok location)
    : (members.set location new).sort.toList.Perm (new :: members.toList.erase who) :=
  (BoundedVec.sort_perm _).trans (set_perm_cons_erase (getElem?_of_binarySearch h hsearch))

theorem replaced_increasing (h : members.toList.Pairwise (· < ·)) {who new : T.AccountId}
    {location place : Nat} (hsearch : binarySearch members who = .ok location)
    (hfresh : binarySearch members new = .error place)
    : (members.set location new).sort.toList.Pairwise (· < ·) := by
  apply BoundedVec.sort_increasing
  rw [← (BoundedVec.sort_perm _).nodup_iff, (replaced_perm h hsearch).nodup_iff, List.nodup_cons]
  have hnodup : members.toList.Nodup := h.imp ne_of_lt
  refine ⟨?_, hnodup.erase who⟩
  intro hmem
  exact notMem_of_binarySearch h hfresh (List.mem_of_mem_erase hmem)

theorem MembersStep.inOrder {call : Call T} (h : MembersStep s call s')
    (hcall : call.ResetsDistinct) (hs : s.InOrder) : s'.InOrder := by
  cases h with
  | keep _ members prime =>
    apply State.inOrder_of_increasing
    . rw [members]
      exact hs.increasing
    . rw [members, prime]
      exact hs.prime
  | @add _ _ who location search members prime =>
    apply State.inOrder_of_increasing
    . rw [members]
      exact pairwise_insertIdx_of_search hs.increasing search rfl
    . rw [members, prime]
      obtain ⟨hle, _⟩ := binarySearchByKey_error hs.increasing search
      intro p hp
      rw [List.mem_insertIdx hle]
      exact .inr (hs.prime p hp)
  | remove search members prime =>
    apply State.inOrder_of_keptPrime _ prime
    rw [members]
    exact hs.increasing.sublist (List.eraseIdx_sublist _ _)
  | swap search fresh members prime =>
    apply State.inOrder_of_keptPrime _ prime
    rw [members]
    exact replaced_increasing hs.increasing search fresh
  | reset members_eq prime =>
    apply State.inOrder_of_keptPrime _ prime
    rw [members_eq]
    exact BoundedVec.sort_increasing hcall
  | @changeKey _ _ who new location place search fresh members prime =>
    have hperm : (s.members.set location new).sort.toList.Perm (new :: s.members.toList.erase who) :=
      replaced_perm hs.increasing search
    apply State.inOrder_of_increasing
    . rw [members]
      exact replaced_increasing hs.increasing search fresh
    . intro p hp
      rw [members, hperm.mem_iff, List.mem_cons]
      rw [prime] at hp
      split at hp
      . left
        exact (Option.some.inj hp).symm
      . next hne =>
        right
        rw [hs.nodup.mem_erase_iff]
        refine ⟨?_, hs.prime p hp⟩
        rintro rfl
        exact hne hp
  | setPrime search members prime =>
    apply State.inOrder_of_increasing
    . rw [members]
      exact hs.increasing
    . rw [members, prime]
      intro p hp
      rw [← Option.some.inj hp]
      exact (hs.search _).mp ⟨_, search⟩
  | clearPrime members prime =>
    apply State.inOrder_of_increasing
    . rw [members]
      exact hs.increasing
    . rw [prime]
      intro p hp
      cases hp

theorem MembersStep.resetsDistinct {call : Call T} (h : MembersStep s call s') (hs' : s'.InOrder)
    : call.ResetsDistinct := by
  cases h with
  | @reset _ members members_eq prime =>
    have hnodup := hs'.nodup
    rw [members_eq, (BoundedVec.sort_perm members).nodup_iff] at hnodup
    exact hnodup
  | keep hcall => exact hcall
  | _ => trivial

theorem build_inOrder (h : GenesisConfig.build members = some s) : s.InOrder := by
  unfold GenesisConfig.build at h
  split at h
  . next hlength =>
    injection h with h
    subst h
    apply State.inOrder_of_increasing
    . apply BoundedVec.sort_increasing
      rw [← List.dedup_eq_self]
      exact (List.dedup_sublist _).eq_of_length hlength
    . intro who hwho
      cases hwho
  . cases h

/--
From any genesis the members are strictly increasing and the prime is one of them in every state of
exactly those runs in which the members are not reset to a list with duplicates.
-/
theorem run_inOrder_iff (h : GenesisConfig.build members = some s) (exts : List (Extrinsic T))
    : (machine T).Always State.InOrder s exts ↔
        (machine T).Meets (fun _ ext => ext.call.ResetsDistinct) s exts := by
  apply Machine.always_iff_of_step _ (build_inOrder h)
  intro s ext s' hs hsucc
  have hstep := dispatch_members hsucc
  exact ⟨hstep.resetsDistinct, fun hcall => hstep.inOrder hcall hs⟩

section Plain

def plainMembers : BoundedVec Config.plain.AccountId Config.plain.maxMembers.toNat :=
  ⟨[3, 1], by decide⟩

def plainGenesis : State .plain where
  members := ⟨[1, 3], by decide⟩
  prime := none
  signals := [.initializeMembers [1, 3]]
  events := []

def plainReset (members : List Nat) : Extrinsic .plain where
  origin := none
  isMember _ := true
  call := .resetMembers members

theorem plainReset_inOrder
    : GenesisConfig.build plainMembers = some plainGenesis ∧
        (machine .plain).Always State.InOrder plainGenesis [plainReset [5, 2, 4]] := by
  have hbuild : GenesisConfig.build plainMembers = some plainGenesis := rfl
  refine ⟨hbuild, ?_⟩
  apply (run_inOrder_iff hbuild _).mpr
  decide +kernel

theorem plainReset_not_inOrder
    : GenesisConfig.build plainMembers = some plainGenesis ∧
        ¬ ((machine .plain).run plainGenesis [plainReset [2, 2]]).InOrder := by
  refine ⟨rfl, ?_⟩
  intro h
  have hnodup := h.nodup
  revert hnodup
  decide +kernel

end Plain

end CollectiveMembership
