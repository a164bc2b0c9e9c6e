import Cord.CollectiveMembership.Lemmas.Order
import Cord.CollectiveMembership.Receiver

/-!
This module contains what a receiver of the signals knows: its copy of the members is the stored vector
in every state of every run, no change it is told of fails its check. Of the prime it is not always told
again after a change that made it forget who that is.
-/

open Frame

namespace CollectiveMembership

variable {T : Config} {s s' : State T} {diff : MembersDiff T}

namespace Receiver

variable {r : Receiver T}

theorem replay_append {signals signals' : List (Signal T)} (h : new.replay diff signals = some r)
    : new.replay diff (signals ++ signals') = r.replay diff signals' := by
  unfold replay at *
  rw [List.foldlM_append, h]
  rfl

theorem changeMembersSorted_of_perm {incoming outgoing new : List T.AccountId}
    (h : (r.members ++ incoming).Perm (new ++ outgoing))
    : r.changeMembersSorted incoming outgoing new = some { members := new, prime := none } := by
  unfold changeMembersSorted
  have hsorted : (r.members ++ incoming).insertionSort (· ≤ ·) =
      (new ++ outgoing).insertionSort (· ≤ ·) := by
    have hperm := (List.perm_insertionSort (· ≤ ·) _).trans
      (h.trans (List.perm_insertionSort (· ≤ ·) _).symm)
    apply hperm.eq_of_pairwise _ (List.pairwise_insertionSort (· ≤ ·) _)
      (List.pairwise_insertionSort (· ≤ ·) _)
    intro a b _ _
    exact le_antisymm
  rw [if_pos hsorted]

end Receiver

def State.Ordered (s : State T) : Prop :=
  -- Unlike `InOrder` this lets a member be stored twice.
  s.members.toList.Pairwise (· ≤ ·)

section Search

variable {members : BoundedVec T.AccountId T.maxMembers.toNat} {who : T.AccountId} {location : Nat}

theorem getElem?_of_search (h : members.toList.Pairwise (· ≤ ·))
    (hsearch : binarySearch members who = .ok location) : members.toList[location]? = some who := by
  obtain ⟨a, ha, hid⟩ := search_ok_of_nondecreasing (nondecreasing_of_pairwise who h) hsearch
  rw [ha, ← hid]

theorem insertIdx_of_search (h : members.toList.Pairwise (· ≤ ·))
    (hsearch : binarySearch members who = .error location)
    : (members.toList.insertIdx location who).Pairwise (· ≤ ·) ∧
        (members.toList ++ [who]).Perm (members.toList.insertIdx location who) := by
  obtain ⟨hle, hbefore, hafter⟩ :=
    search_error_of_nondecreasing (nondecreasing_of_pairwise who h) hsearch
  constructor
  . apply pairwise_insertIdx h hle
    . intro a ha
      exact le_of_lt (hbefore a ha)
    . intro a ha
      exact le_of_lt (hafter a ha)
  . apply List.Perm.trans (List.perm_append_singleton who _)
    exact (List.perm_insertIdx who _ hle).symm

theorem remove_of_search (h : members.toList.Pairwise (· ≤ ·))
    (hsearch : binarySearch members who = .ok location)
    : members.toList.Perm ((members.remove location).toList ++ [who]) := by
  obtain ⟨hlt, hwho⟩ := List.getElem?_eq_some_iff.mp (getElem?_of_search h hsearch)
  apply List.Perm.trans _ (List.perm_append_singleton who _).symm
  rw [← hwho]
  exact (List.getElem_cons_eraseIdx_perm hlt).symm

theorem replace_of_search {new : T.AccountId} (h : members.toList.Pairwise (· ≤ ·))
    (hsearch : binarySearch members who = .ok location)
    : (members.toList ++ [new]).Perm ((members.set location new).sort.toList ++ [who]) := by
  have hwho := getElem?_of_search h hsearch
  have hset : ((members.set location new).sort.toList).Perm (new :: members.toList.erase who) :=
    (BoundedVec.sort_perm _).trans (set_perm_cons_erase hwho)
  have hmem : members.toList.Perm (who :: members.toList.erase who) :=
    List.perm_cons_erase (List.mem_of_getElem? hwho)
  calc (members.toList ++ [new]).Perm (new :: members.toList) := List.perm_append_singleton _ _
    List.Perm _ (new :: who :: members.toList.erase who) := hmem.cons new
    List.Perm _ (who :: new :: members.toList.erase who) := List.Perm.swap _ _ _
    List.Perm _ (who :: (members.set location new).sort.toList) := hset.symm.cons who
    List.Perm _ _ := (List.perm_append_singleton _ _).symm

end Search

theorem MembersStep.ordered {call : Call T} (h : MembersStep s call s') (hs : s.Ordered)
    : s'.Ordered := by
  unfold State.Ordered at *
  cases h with
  | keep _ members prime =>
    rw [members]
    exact hs
  | add search members prime =>
    rw [members]
    exact (insertIdx_of_search hs search).1
  | remove search members prime =>
    rw [members]
    exact hs.sublist (List.eraseIdx_sublist _ _)
  | swap search fresh members prime =>
    rw [members]
    exact List.pairwise_insertionSort (· ≤ ·) _
  | reset members_eq prime =>
    rw [members_eq]
    exact List.pairwise_insertionSort (· ≤ ·) _
  | changeKey search fresh members prime =>
    rw [members]
    exact List.pairwise_insertionSort (· ≤ ·) _
  | setPrime search members prime =>
    rw [members]
    exact hs
  | clearPrime members prime =>
    rw [members]
    exact hs

/--
The calls that change the members and do not say again who the prime is.
-/
def Extrinsic.Forgets (s : State T) (ext : Extrinsic T) : Prop :=
  match ext.call with
  | .addMember _ => True
  | .changeKey new => T.lookup new ≠ T.ensureSigned ext.origin ∧ s.prime ≠ T.ensureSigned ext.origin
  | _ => False

instance (s : State T) (ext : Extrinsic T) : Decidable (ext.Forgets s) := by
  unfold Extrinsic.Forgets
  split <;> infer_instance

def Signal.Changes (s s' : State T) : Signal T → Prop
  | .changeMembersSorted incoming outgoing new =>
    new = s'.members.toList ∧ (s.members.toList ++ incoming).Perm (new ++ outgoing)
  | .setMembersSorted new old =>
    new = s'.members.toList ∧ old = s.members.toList ∧ new.Pairwise (· ≤ ·)
  | _ => False

theorem Signal.changes_of_perm {incoming outgoing : List T.AccountId}
    (h : (s.members.toList ++ incoming).Perm (s'.members.toList ++ outgoing))
    : (Signal.changeMembersSorted incoming outgoing s'.members.toList).Changes s s' :=
  ⟨rfl, h⟩

theorem Signal.Changes.receive {sig : Signal T} (h : sig.Changes s s') (hs : s.Ordered)
    {r : Receiver T} (hr : r.members = s.members.toList)
    : r.receive diff sig = some { members := s'.members.toList, prime := none } := by
  cases sig with
  | changeMembersSorted incoming outgoing new =>
    obtain ⟨rfl, hperm⟩ := h
    rw [← hr] at hperm
    exact Receiver.changeMembersSorted_of_perm hperm
  | setMembersSorted new old =>
    obtain ⟨rfl, rfl, hnew⟩ := h
    have hperm := diff.balanced _ _ hnew hs
    rw [← hr] at hperm
    unfold Receiver.receive Receiver.setMembersSorted
    rw [← hr]
    exact Receiver.changeMembersSorted_of_perm hperm
  | initializeMembers members => cases h
  | setPrime prime => cases h

def toldPrime (prime : Option T.AccountId) : List (Signal T) :=
  match prime with
  | some who => [.setPrime (some who)]
  | none => []

theorem replay_toldPrime {r : Receiver T} {prime : Option T.AccountId} (hr : r.prime = none)
    : r.replay diff (toldPrime prime) = some { r with prime } := by
  obtain ⟨members, prime'⟩ := r
  subst hr
  cases prime with
  | some who => rfl
  | none => rfl

/--
What a successful call has told the receivers, next to what it has done.
-/
inductive SignalsStep (s : State T) (ext : Extrinsic T) (s' : State T) : Prop where
  | keep (resends : ¬ ext.Forgets s)
      (members : s'.members = s.members)
      (prime : s'.prime = s.prime)
      (signals : s'.signals = s.signals)
  | forget {sig : Signal T} (forgets : ext.Forgets s) (changes : sig.Changes s s')
      (prime : s'.prime = s.prime)
      (signals : s'.signals = s.signals ++ [sig])
  | resend {sig : Signal T} (resends : ¬ ext.Forgets s) (changes : sig.Changes s s')
      (signals : s'.signals = s.signals ++ sig :: toldPrime s'.prime)
  | tell (resends : ¬ ext.Forgets s) (members : s'.members = s.members)
      (signals : s'.signals = s.signals ++ [.setPrime s'.prime])

theorem rejigPrime_signals {members : BoundedVec T.AccountId T.maxMembers.toNat} {u : Unit}
    (h : Succeeds (rejigPrime members) s u s') : s'.signals = s.signals ++ toldPrime s'.prime := by
  simp only [rejigPrime, Succeeds.bind_iff, Succeeds.get_iff, and_assoc, exists_and_left,
    exists_eq_left] at h
  cases hprime : s.prime with
  | none =>
    simp only [hprime, Succeeds.pure_iff] at h
    rw [h.2, hprime]
    exact (List.append_nil _).symm
  | some p =>
    simp only [hprime] at h
    cases hsearch : binarySearch members p with
    | ok i =>
      simp only [hsearch, signal_iff] at h
      subst h
      dsimp only
      rw [hprime]
      rfl
    | error i =>
      simp only [hsearch, putPrime_iff] at h
      subst h
      exact (List.append_nil _).symm

section Calls

variable {origin : T.Origin} {isMember : T.AccountId → Bool}

theorem addMember_signals {who : T.LookupSource} (hs : s.Ordered)
    (h : Succeeds (addMember origin isMember who) s () s')
    : SignalsStep s ⟨origin, isMember, .addMember who⟩ s' := by
  simp only [addMember, Succeeds.bind_iff, Succeeds.ensureOrigin_iff, lookup_iff,
    Succeeds.ensure_iff, Succeeds.get_iff, findPlace_iff, Succeeds.okOr_iff, putMembers_iff,
    signal_iff, depositEvent_iff, and_assoc, exists_and_left, exists_eq_left, exists_const] at h
  obtain ⟨_, _, account, _, _, location, hsearch, members, hinsert, rfl⟩ := h
  refine .forget trivial (Signal.changes_of_perm ?_) rfl rfl
  rw [List.append_nil, BoundedVec.tryFrom_eq_some.mp hinsert]
  exact (insertIdx_of_search hs hsearch).2

theorem removeMember_signals {who : T.LookupSource} (hs : s.Ordered)
    (h : Succeeds (removeMember origin who) s () s')
    : SignalsStep s ⟨origin, isMember, .removeMember who⟩ s' := by
  simp only [removeMember, Succeeds.bind_iff, Succeeds.ensureOrigin_iff, lookup_iff,
    Succeeds.get_iff, findMember_iff, putMembers_iff, signal_iff, depositEvent_iff, and_assoc,
    exists_and_left, exists_eq_left, exists_const] at h
  obtain ⟨_, _, _, _, location, hsearch, _, t, hrejig, rfl⟩ := h
  refine .resend id ?_ ((rejigPrime_signals hrejig).trans (List.append_assoc _ _ _))
  obtain ⟨hmembers, _⟩ := rejigPrime_spec hrejig
  refine ⟨by rw [hmembers], ?_⟩
  rw [List.append_nil]
  exact remove_of_search hs hsearch

theorem swapMember_signals {remove add : T.LookupSource} (hs : s.Ordered)
    (h : Succeeds (swapMember origin isMember remove add) s () s')
    : SignalsStep s ⟨origin, isMember, .swapMember remove add⟩ s' := by
  simp only [swapMember, Succeeds.bind_iff, Succeeds.ensureOrigin_iff, lookup_iff,
    Succeeds.ite_iff, Succeeds.pure_iff, Succeeds.ensure_iff, replaceMember_iff, depositEvent_iff,
    and_assoc, exists_and_left, exists_eq_left, exists_const] at h
  obtain ⟨_, _, _, _, _, _, ⟨_, _, rfl⟩ | ⟨_, _, members, _, ⟨location, hremove, _, rfl, rfl⟩, _, t,
    hrejig, rfl⟩⟩ := h
  . exact .keep id rfl rfl rfl
  . refine .resend id ?_ ((rejigPrime_signals hrejig).trans (List.append_assoc _ _ _))
    obtain ⟨hmembers, _⟩ := rejigPrime_spec hrejig
    exact ⟨by rw [hmembers], replace_of_search hs hremove⟩

theorem resetMembers_signals {members : List T.AccountId}
    (h : Succeeds (resetMembers origin members) s () s')
    : SignalsStep s ⟨origin, isMember, .resetMembers members⟩ s' := by
  simp only [resetMembers, Succeeds.bind_iff, Succeeds.ensureOrigin_iff, Succeeds.okOr_iff,
    Succeeds.get_iff, signal_iff, putMembers_iff, depositEvent_iff, and_assoc, exists_and_left,
    exists_eq_left, exists_const] at h
  obtain ⟨_, _, v, hv, _, t, hrejig, rfl⟩ := h
  refine .resend id ?_ ((rejigPrime_signals hrejig).trans (List.append_assoc _ _ _))
  exact ⟨rfl, rfl, List.pairwise_insertionSort (· ≤ ·) _⟩

theorem changeKey_signals {new : T.LookupSource} (hs : s.Ordered)
    (h : Succeeds (changeKey origin isMember new) s () s')
    : SignalsStep s ⟨origin, isMember, .changeKey new⟩ s' := by
  simp only [changeKey, Succeeds.bind_iff, Succeeds.ensureOrigin_iff, lookup_iff,
    Succeeds.ite_iff, Succeeds.pure_iff, Succeeds.ensure_iff, Succeeds.get_iff, replaceMember_iff,
    putPrime_iff, signal_iff, depositEvent_iff, and_assoc, exists_and_left, exists_eq_left,
    exists_const] at h
  obtain ⟨remove, hsigned, account, hlookup, _, ⟨heq, _, rfl⟩ | ⟨hne, _, _, ⟨location, hremove, _,
    rfl, rfl⟩, h⟩⟩ := h
  . refine .keep ?_ rfl rfl rfl
    rintro ⟨hforget, _⟩
    exact hforget (by rw [hlookup, hsigned, heq])
  . have hperm : (s.members.toList ++ [account]).Perm
        ((s.members.set location account).sort.toList ++ [remove]) := replace_of_search hs hremove
    rcases h with ⟨hprime, rfl⟩ | ⟨hprime, rfl⟩
    . refine .resend ?_ (Signal.changes_of_perm hperm) (List.append_assoc _ _ _)
      rintro ⟨_, hforget⟩
      exact hforget (hprime.trans hsigned.symm)
    . refine .forget ?_ (Signal.changes_of_perm hperm) rfl rfl
      constructor
      . dsimp only
        rw [hlookup, hsigned]
        intro heq
        exact hne (Option.some.inj heq).symm
      . dsimp only
        rw [hsigned]
        exact hprime

theorem setPrime_signals {who : T.LookupSource} (h : Succeeds (setPrime origin who) s () s')
    : SignalsStep s ⟨origin, isMember, .setPrime who⟩ s' := by
  simp only [setPrime, Succeeds.bind_iff, Succeeds.ensureOrigin_iff, lookup_iff,
    Succeeds.get_iff, findMember_iff, putPrime_iff, signal_iff, and_assoc, exists_and_left,
    exists_eq_left, exists_const] at h
  obtain ⟨_, _, _, _, _, _, rfl⟩ := h
  exact .tell id rfl rfl

theorem clearPrime_signals (h : Succeeds (clearPrime origin) s () s')
    : SignalsStep s ⟨origin, isMember, .clearPrime⟩ s' := by
  simp only [clearPrime, Succeeds.bind_iff, Succeeds.ensureOrigin_iff, putPrime_iff, signal_iff,
    and_assoc, exists_and_left, exists_eq_left, exists_const] at h
  obtain ⟨_, _, rfl⟩ := h
  exact .tell id rfl rfl

end Calls

theorem dispatch_signals {ext : Extrinsic T} (hs : s.Ordered) (h : Succeeds ext.dispatch s () s')
    : SignalsStep s ext s' := by
  obtain ⟨origin, isMember, call⟩ := ext
  cases call with
  | addMember who => exact addMember_signals hs h
  | removeMember who => exact removeMember_signals hs h
  | swapMember remove add => exact swapMember_signals hs h
  | resetMembers members => exact resetMembers_signals h
  | changeKey new => exact changeKey_signals hs h
  | setPrime who => exact setPrime_signals h
  | clearPrime => exact clearPrime_signals h

def State.heard (diff : MembersDiff T) (s : State T) : Option (Receiver T) :=
  Receiver.new.replay diff s.signals

structure State.Followed (diff : MembersDiff T) (s : State T) (r : Receiver T) : Prop where
  heard : s.heard diff = some r
  members : r.members = s.members.toList
  prime : r.prime = none ∨ r.prime = s.prime

/--
How the prime a receiver knows of goes on: it stays what it was, it is the stored one, or it is gone.
-/
inductive PrimeStep (s : State T) (ext : Extrinsic T) (s' : State T) (prime prime' : Option T.AccountId)
    : Prop where
  | keep (resends : ¬ ext.Forgets s) (stored : s'.prime = s.prime) (heard : prime' = prime)
  | forget (forgets : ext.Forgets s) (stored : s'.prime = s.prime) (heard : prime' = none)
  | resend (resends : ¬ ext.Forgets s) (heard : prime' = s'.prime)

theorem SignalsStep.heard {ext : Extrinsic T} (h : SignalsStep s ext s') (hs : s.Ordered)
    {r : Receiver T} (hr : s.heard diff = some r) (hmembers : r.members = s.members.toList)
    : ∃ prime', s'.heard diff = some { members := s'.members.toList, prime := prime' } ∧
        PrimeStep s ext s' r.prime prime' := by
  unfold State.heard at *
  cases h with
  | keep resends members prime signals =>
    refine ⟨r.prime, ?_, .keep resends prime rfl⟩
    rw [signals, hr, members, ← hmembers]
  | forget forgets changes prime signals =>
    refine ⟨none, ?_, .forget forgets prime rfl⟩
    rw [signals, Receiver.replay_append hr]
    unfold Receiver.replay
    rw [List.foldlM_cons, changes.receive hs hmembers]
    rfl
  | resend resends changes signals =>
    refine ⟨s'.prime, ?_, .resend resends rfl⟩
    rw [signals, Receiver.replay_append hr]
    unfold Receiver.replay
    rw [List.foldlM_cons, changes.receive hs hmembers]
    exact replay_toldPrime rfl
  | tell resends members signals =>
    refine ⟨s'.prime, ?_, .resend resends rfl⟩
    rw [signals, Receiver.replay_append hr, members, ← hmembers]
    rfl

theorem PrimeStep.none_or_eq {ext : Extrinsic T} {prime prime' : Option T.AccountId}
    (h : PrimeStep s ext s' prime prime') (hprime : prime = none ∨ prime = s.prime)
    : prime' = none ∨ prime' = s'.prime := by
  cases h with
  | keep resends stored heard =>
    rw [heard, stored]
    exact hprime
  | forget forgets stored heard => exact .inl heard
  | resend resends heard => exact .inr heard

theorem PrimeStep.eq_iff {ext : Extrinsic T} {prime' : Option T.AccountId}
    (h : PrimeStep s ext s' s.prime prime')
    : prime' = s'.prime ↔ (s.prime.isSome → ¬ ext.Forgets s) := by
  cases h with
  | keep resends stored heard =>
    rw [heard, stored]
    exact iff_of_true rfl fun _ => resends
  | forget forgets stored heard =>
    rw [heard, stored]
    cases s.prime with
    | none => simp
    | some prime => simp [forgets]
  | resend resends heard => exact iff_of_true heard fun _ => resends

theorem build_heard {members : BoundedVec T.AccountId T.maxMembers.toNat}
    (h : GenesisConfig.build members = some s)
    : s.Ordered ∧ s.heard diff = some { members := s.members.toList, prime := s.prime } := by
  unfold GenesisConfig.build at h
  split at h
  . injection h with h
    subst h
    exact ⟨List.pairwise_insertionSort (· ≤ ·) _, rfl⟩
  . cases h

theorem dispatch_followed {ext : Extrinsic T} (hs : s.Ordered ∧ ∃ r, s.Followed diff r)
    (h : Succeeds ext.dispatch s () s') : s'.Ordered ∧ ∃ r, s'.Followed diff r := by
  obtain ⟨hordered, r, hr⟩ := hs
  obtain ⟨prime', hheard, hprime⟩ :=
    (dispatch_signals hordered h).heard hordered hr.heard hr.members
  exact ⟨(dispatch_members h).ordered hordered, _, hheard, rfl, hprime.none_or_eq hr.prime⟩

/--
From any genesis a receiver that starts with nothing and hears every signal has the stored members in
every state of every run, without failing a check on the way, and what it knows of the prime is right or
nothing.
-/
theorem run_followed {members : BoundedVec T.AccountId T.maxMembers.toNat}
    (h : GenesisConfig.build members = some s) (diff : MembersDiff T) (exts : List (Extrinsic T))
    : (machine T).Always (fun s => ∃ r, s.Followed diff r) s exts := by
  obtain ⟨hordered, hheard⟩ : s.Ordered ∧
      s.heard diff = some { members := s.members.toList, prime := s.prime } := build_heard h
  apply Machine.Always.imp (I := fun s => s.Ordered ∧ ∃ r, s.Followed diff r)
  . intro s hs
    exact hs.2
  . apply Machine.always_invariant
    . intro s ext s' hs hsucc
      exact dispatch_followed hs hsucc
    . exact ⟨hordered, _, hheard, rfl, .inr rfl⟩

/--
It knows the stored prime in every state of exactly those runs in which, while there is a prime, no member
is added and nobody but the prime changes a key.
-/
theorem run_prime_heard_iff {members : BoundedVec T.AccountId T.maxMembers.toNat}
    (h : GenesisConfig.build members = some s) (diff : MembersDiff T) (exts : List (Extrinsic T))
    : (machine T).Always
          (fun s => s.heard diff = some { members := s.members.toList, prime := s.prime }) s exts ↔
        (machine T).Meets (fun s ext => s.prime.isSome → ¬ ext.Forgets s) s exts := by
  obtain ⟨hordered, hheard⟩ : s.Ordered ∧
      s.heard diff = some { members := s.members.toList, prime := s.prime } := build_heard h
  apply Machine.always_iff_meets (J := State.Ordered) _ _ hordered hheard
  . intro s ext s' hs hsucc
    exact (dispatch_members hsucc).ordered hs
  . intro s ext s' hs hheard hsucc
    obtain ⟨prime', hheard', hprime⟩ := (dispatch_signals hs hsucc).heard hs hheard rfl
    rw [hheard', ← hprime.eq_iff]
    simp

section Plain

def plainSetPrime (who : Nat) : Extrinsic .plain where
  origin := none
  isMember _ := true
  call := .setPrime who

def plainChangeKey (who new : Nat) : Extrinsic .plain where
  origin := some who
  isMember _ := true
  call := .changeKey new

theorem plainReset_followed
    : GenesisConfig.build plainMembers = some plainGenesis ∧
        (machine .plain).Always (fun s => ∃ r, s.Followed (.plain .plain) r) plainGenesis
          [plainSetPrime 3, plainReset [2, 2]] := by
  have hbuild : GenesisConfig.build plainMembers = some plainGenesis := rfl
  exact ⟨hbuild, run_followed hbuild _ _⟩

theorem plainChangeKey_prime_heard
    : GenesisConfig.build plainMembers = some plainGenesis ∧
        (machine .plain).Always
          (fun s => s.heard (.plain .plain) = some { members := s.members.toList, prime := s.prime })
          plainGenesis [plainSetPrime 3, plainChangeKey 3 2] := by
  have hbuild : GenesisConfig.build plainMembers = some plainGenesis := rfl
  refine ⟨hbuild, ?_⟩
  apply (run_prime_heard_iff hbuild _ _).mpr
  decide +kernel

-- A member that is not the prime changes its key, the receiver no longer knows the prime.
example
    : (((machine .plain).run plainGenesis [plainSetPrime 3, plainChangeKey 1 2]).heard
          (.plain .plain)).map Receiver.prime = some none := by
  decide +kernel

end Plain

end CollectiveMembership
