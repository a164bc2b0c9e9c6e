import Cord.Frame.History
import Cord.Identity.Lemmas.Usernames

/-!
This module contains how many usernames there can be: those that are granted or queued and those that
their authorities may still grant are no more than governance has allotted.
-/

open Frame

namespace Identity

variable {T : Config} {s s' : State T} {ext : Extrinsic T} {username : Username T}
  {p : List UInt8 → Bool}

def suffixOf (username : List UInt8) : List UInt8 :=
  (username.dropWhile fun c => c ≠ delimiter).tail

theorem suffixOf_fullUsername {name suffix : List UInt8} (h : isValidUsername name = true)
    : suffixOf (fullUsername name suffix) = suffix := by
  have hname : ∀ c ∈ name, decide (c ≠ delimiter) = true := by
    intro c hc
    rw [decide_eq_true_eq]
    rintro rfl
    exact delimiter_notMem_name h hc
  unfold suffixOf fullUsername
  rw [List.dropWhile_append_of_pos hname, List.dropWhile_cons_of_neg (by simp), List.tail_cons]

section Weights

-- What is counted are the suffixes that meet `p`.
variable (p)

def usernameWeight (username : Username T) : Nat :=
  if p (suffixOf username.toList) then 1 else 0

def allocationWeight (_ : T.AccountId) (properties : AuthorityProperties T) : Nat :=
  if p properties.suffix.toList then properties.allocation.toNat else 0

/--
The usernames that are there, and those that may still be granted.
-/
def State.outstanding (s : State T) : Nat :=
  s.accountOfUsername.sum (fun username _ => usernameWeight p username) +
    s.pendingUsernames.sum (fun username _ => usernameWeight p username) +
    s.usernameAuthorities.sum (allocationWeight p)

def Extrinsic.allots (ext : Extrinsic T) : List Nat :=
  match ext with
  | .pallet _ _ (.addUsernameAuthority _ suffix allocation) =>
    if p suffix then [allocation.toNat] else []
  | _ => []

def allotment (s : State T) (ext : Extrinsic T) : List Nat :=
  if (machine T).accepts s ext then ext.allots p else []

def allotted (T : Config) (exts : List (Extrinsic T)) : Nat :=
  ((machine T).collect (allotment p) (State.genesis T) exts).sum

end Weights

/--
What a call that sets a username has taken from the allocation of an authority, and for what.
-/
structure State.Takes (s : State T) (username : Username T) (s' : State T) : Prop where
  authority : ∃ sender properties, s.usernameAuthorities.get sender = some properties ∧
    0 < properties.allocation ∧ suffixOf username.toList = properties.suffix.toList ∧
    s'.usernameAuthorities = s.usernameAuthorities.insert sender
      { properties with allocation := saturatingSub32 properties.allocation 1 }
  username :
    s'.accountOfUsername = s.accountOfUsername ∧
        s.pendingUsernames.get username = none ∧
        (∃ pending, s'.pendingUsernames = s.pendingUsernames.insert username pending) ∨
      s'.pendingUsernames = s.pendingUsernames ∧
        s.accountOfUsername.get username = none ∧
        ∃ who, s'.accountOfUsername = s.accountOfUsername.insert username who

theorem setUsernameFor_takes {origin : T.Origin} {n : UInt32} {source : T.LookupSource}
    {name : List UInt8} {signature : Option T.OffchainSignature}
    (h : Succeeds (setUsernameFor origin source name signature) { s with blockNumber := n } () s')
    : ∃ username, s.Takes username s' := by
  simp only [setUsernameFor, Succeeds.bind_iff, Succeeds.ensureOrigin_iff, takeAllocation_iff,
    lookup_iff, Succeeds.get_iff, Succeeds.ensure_iff, Succeeds.okOr_iff, Succeeds.mapErr_iff,
    and_assoc, exists_and_left, exists_eq_left, exists_const, Bool.not_eq_true',
    StorageMap.containsKey_eq_false_iff] at h
  obtain ⟨sender, _, suffix, _, ⟨properties, hauthority, hpos, rfl, rfl⟩, _, hvalid, username,
    husername, huntaken, hunqueued, who, _, h⟩ := h
  have hsuffix : suffixOf username.toList = properties.suffix.toList := by
    rw [BoundedVec.tryFrom_eq_some.mp husername]
    exact suffixOf_fullUsername (validateUsername_ok hvalid).2
  cases signature with
  | some signature =>
    simp only [Succeeds.bind_iff, Succeeds.mapErr_iff, and_assoc, exists_and_left,
      exists_eq_left] at h
    obtain ⟨_, _, h⟩ := h
    obtain ⟨_, _, _, _, rfl⟩ := insertUsername_spec h
    exact ⟨username, ⟨sender, properties, hauthority, hpos, hsuffix, rfl⟩,
      .inr ⟨rfl, huntaken, who, rfl⟩⟩
  | none =>
    rw [queueAcceptance_iff] at h
    rw [h]
    exact ⟨username, ⟨sender, properties, hauthority, hpos, hsuffix, rfl⟩,
      .inl ⟨rfl, hunqueued, _, rfl⟩⟩

/-
A username costs its authority one of the allocation.
-/
theorem State.Takes.outstanding_le (h : s.Takes username s')
    : s'.outstanding p ≤ s.outstanding p := by
  obtain ⟨⟨sender, properties, hauthority, hpos, hsuffix, hauthorities⟩, husername⟩ := h
  have hpaid := StorageMap.sum_insert_of_get_some (allocationWeight p)
    { properties with allocation := saturatingSub32 properties.allocation 1 } hauthority
  have hweight : usernameWeight p username + allocationWeight p sender
      { properties with allocation := saturatingSub32 properties.allocation 1 } =
      allocationWeight p sender properties := by
    rw [UInt32.lt_iff_toNat_lt] at hpos
    unfold usernameWeight allocationWeight
    rw [hsuffix, toNat_saturatingSub32]
    split
    . exact Nat.add_sub_cancel' hpos
    . rfl
  unfold State.outstanding
  rw [hauthorities]
  rcases husername with ⟨haccounts, hunqueued, pending, hpending⟩ |
    ⟨hpending, huntaken, who, haccounts⟩
  . rw [haccounts, hpending, StorageMap.sum_insert_of_get_none _ _ hunqueued]
    omega
  . rw [haccounts, hpending, StorageMap.sum_insert_of_get_none _ _ huntaken]
    omega

/-
What the other calls do to the three maps: they take away from one of them, or a username that is queued is
granted.
-/
theorem outstanding_of_forget (primary : Option (Username T))
    (haccounts : s'.accountOfUsername = forget s.accountOfUsername primary)
    (hpending : s'.pendingUsernames = s.pendingUsernames)
    (hauthorities : s'.usernameAuthorities = s.usernameAuthorities)
    : s'.outstanding p ≤ s.outstanding p := by
  unfold State.outstanding
  rw [haccounts, hpending, hauthorities]
  cases primary with
  | none => exact Nat.le_refl _
  | some username =>
    have hforget := StorageMap.sum_remove_le s.accountOfUsername
      (fun username _ => usernameWeight p username) username
    rw [forget]
    omega

theorem outstanding_of_expire
    (haccounts : s'.accountOfUsername = s.accountOfUsername)
    (hpending : s'.pendingUsernames = s.pendingUsernames.remove username)
    (hauthorities : s'.usernameAuthorities = s.usernameAuthorities)
    : s'.outstanding p ≤ s.outstanding p := by
  have hremove := StorageMap.sum_remove_le s.pendingUsernames
    (fun username _ => usernameWeight p username) username
  unfold State.outstanding
  rw [haccounts, hpending, hauthorities]
  omega

theorem outstanding_of_accept {pending : T.AccountId × UInt32} {who : T.AccountId}
    (hqueued : s.pendingUsernames.get username = some pending)
    (haccounts : s'.accountOfUsername = s.accountOfUsername.insert username who)
    (hpending : s'.pendingUsernames = s.pendingUsernames.remove username)
    (hauthorities : s'.usernameAuthorities = s.usernameAuthorities)
    : s'.outstanding p ≤ s.outstanding p := by
  have htaken := StorageMap.sum_remove (fun username _ => usernameWeight p username) hqueued
  have hgranted := StorageMap.sum_insert_le s.accountOfUsername
    (fun username _ => usernameWeight p username) username who
  unfold State.outstanding
  rw [haccounts, hpending, hauthorities]
  omega

theorem outstanding_of_removeAuthority {authority : T.AccountId}
    (haccounts : s'.accountOfUsername = s.accountOfUsername)
    (hpending : s'.pendingUsernames = s.pendingUsernames)
    (hauthorities : s'.usernameAuthorities = s.usernameAuthorities.remove authority)
    : s'.outstanding p ≤ s.outstanding p := by
  have hremove := StorageMap.sum_remove_le s.usernameAuthorities (allocationWeight p) authority
  unfold State.outstanding
  rw [haccounts, hpending, hauthorities]
  omega

theorem outstanding_of_addAuthority {authority : T.AccountId} {properties : AuthorityProperties T}
    (haccounts : s'.accountOfUsername = s.accountOfUsername)
    (hpending : s'.pendingUsernames = s.pendingUsernames)
    (hauthorities : s'.usernameAuthorities = s.usernameAuthorities.insert authority properties)
    : s'.outstanding p ≤ s.outstanding p + allocationWeight p authority properties := by
  have hinsert := StorageMap.sum_insert_le s.usernameAuthorities (allocationWeight p) authority
    properties
  unfold State.outstanding
  rw [haccounts, hpending, hauthorities]
  omega

theorem sum_allots_addUsernameAuthority {origin : T.Origin} {n allocation : UInt32}
    {source : T.LookupSource} (authority : T.AccountId) (suffix : Suffix T)
    : (Extrinsic.allots p
        (.pallet origin n (.addUsernameAuthority source suffix.toList allocation) : Extrinsic T)).sum =
        allocationWeight p authority { suffix, allocation } := by
  unfold Extrinsic.allots allocationWeight
  dsimp only
  split
  . rw [List.sum_singleton]
  . rw [List.sum_nil]

theorem dispatch_outstanding (h : Succeeds ((machine T).dispatch ext) s () s')
    : s'.outstanding p ≤ s.outstanding p + (allotment p s ext).sum := by
  rw [allotment, if_pos (Machine.Succeeds.accepts h)]
  by_cases hext : ∃ origin n source name signature,
      ext = .pallet origin n (.setUsernameFor source name signature)
  . obtain ⟨origin, n, source, name, signature, rfl⟩ := hext
    obtain ⟨_, t, ht, hcall⟩ := Succeeds.bind_iff.mp h
    obtain rfl := Succeeds.modify_iff.mp ht
    obtain ⟨username, htakes⟩ := setUsernameFor_takes hcall
    exact htakes.outstanding_le
  . cases dispatch_effect h with
    | grant => exact absurd ⟨_, _, _, _, _, rfl⟩ hext
    | queue => exact absurd ⟨_, _, _, _, _, rfl⟩ hext
    | @addUsernameAuthority _ _ _ _ _ authority _ _ valid bounded_eq =>
      subst bounded_eq
      rw [sum_allots_addUsernameAuthority authority]
      exact outstanding_of_addAuthority rfl rfl rfl
    | removeUsernameAuthority => exact outstanding_of_removeAuthority rfl rfl rfl
    | accept queued named => exact outstanding_of_accept queued rfl rfl rfl
    | expire => exact outstanding_of_expire rfl rfl rfl
    | clearIdentity => exact outstanding_of_forget _ rfl rfl rfl
    | killIdentity => exact outstanding_of_forget _ rfl rfl rfl
    | removeDangling => exact outstanding_of_forget (some _) rfl rfl rfl
    | _ => exact outstanding_of_forget none rfl rfl rfl

theorem allotment_of_rejected (h : (machine T).accepts s ext = false)
    : allotment p s ext = [] := by
  rw [allotment, h]
  rfl

/-
What is outstanding is within what the record of the allotments adds up to.
-/
def State.Within (p : List UInt8 → Bool) (s : State T) (record : List Nat) : Prop :=
  s.outstanding p ≤ record.sum

theorem State.Within.step {record : List Nat} (hs : s.Within p record)
    (h : Succeeds ((machine T).dispatch ext) s () s')
    : s'.Within p (record ++ allotment p s ext) := by
  unfold State.Within
  rw [List.sum_append]
  exact Nat.le_trans (dispatch_outstanding h) (Nat.add_le_add_right hs _)

/--
Of the usernames with certain suffixes there are never more than governance has allotted to authorities
with these suffixes, not even together with those that can still be granted.
-/
theorem run_outstanding_le (p : List UInt8 → Bool) (exts : List (Extrinsic T))
    : ((machine T).run (State.genesis T) exts).outstanding p ≤ allotted p T exts := by
  have hgenesis : (State.genesis T).Within p [] := Nat.le_refl 0
  exact Machine.collect_invariant (I := State.Within p) (fun _ _ => allotment_of_rejected)
    (fun _ _ _ _ => State.Within.step) hgenesis

end Identity
