import Cord.Frame.Mirrored
import Cord.Identity.Lemmas.Calls

/-!
This module contains that the sub accounts of an account are exactly those that have it for their super
account, and that only accounts with an identity have sub accounts.
-/

open Frame

namespace Identity

variable {T : Config} {s s' : State T} {who : T.AccountId}

def superAccount (superOf : StorageMap T.AccountId (T.AccountId × Data)) (sub : T.AccountId)
    : Option T.AccountId :=
  (superOf.get sub).map Prod.fst

structure State.SubsAgree (s : State T) : Prop where
  agree : Mirrored (fun who => (s.subs who).toList) (superAccount s.superOf)
  named : ∀ who, (s.subs who).toList ≠ [] → s.identityOf.containsKey who = true

section Maps

variable {superOf : StorageMap T.AccountId (T.AccountId × Data)}

theorem superAccount_insert {sub : T.AccountId} {data : Data} (x : T.AccountId)
    : superAccount (superOf.insert sub (who, data)) x =
        if x = sub then some who else superAccount superOf x := by
  unfold superAccount
  rw [StorageMap.get_insert]
  split <;> rfl

theorem superAccount_remove {sub : T.AccountId} (x : T.AccountId)
    : superAccount (superOf.remove sub) x = if x = sub then none else superAccount superOf x := by
  unfold superAccount
  rw [StorageMap.get_remove]
  split <;> rfl

theorem superAccount_removeSupers (subs : List T.AccountId) (x : T.AccountId)
    : superAccount (removeSupers superOf subs) x =
        if x ∈ subs then none else superAccount superOf x := by
  have hget : (removeSupers superOf subs).get x = if x ∈ subs then none else superOf.get x := by
    have hmap := StorageMap.get_foldl_remove_map id subs superOf x
    rw [List.map_id] at hmap
    exact hmap
  unfold superAccount
  rw [hget]
  split <;> rfl

theorem superAccount_insertSupers (subs : List (T.AccountId × Data)) (x : T.AccountId)
    : superAccount (insertSupers who superOf subs) x =
        if x ∈ subs.map Prod.fst then some who else superAccount superOf x := by
  unfold insertSupers
  induction subs generalizing superOf with
  | nil => simp
  | cons sub subs ih =>
    rw [List.foldl_cons, ih, superAccount_insert, List.map_cons]
    by_cases hx : x = sub.1
    . simp [hx]
    . simp only [List.mem_cons, hx, false_or, if_false]

end Maps

theorem subs_insert {subs : BoundedVec T.AccountId T.maxSubAccounts.toNat}
    (h : s'.subsOf = s.subsOf.insert who subs) (a : T.AccountId)
    : s'.subs a = if a = who then subs else s.subs a := by
  unfold State.subs
  rw [h, StorageMap.getD_insert]

theorem subs_remove (h : s'.subsOf = s.subsOf.remove who) (a : T.AccountId)
    : s'.subs a = if a = who then .empty else s.subs a := by
  unfold State.subs
  rw [h, StorageMap.getD_remove]

theorem State.SubsAgree.keep (h : s.SubsAgree) (hsubs : s'.subsOf = s.subsOf)
    (hsuper : s'.superOf = s.superOf)
    (hnamed : ∀ who, s.identityOf.containsKey who = true → s'.identityOf.containsKey who = true)
    : s'.SubsAgree where
  agree := by
    unfold State.subs
    rw [hsubs, hsuper]
    exact h.agree
  named who hwho := by
    unfold State.subs at hwho
    rw [hsubs] at hwho
    exact hnamed who (h.named who hwho)

theorem State.SubsAgree.insertIdentity {v : Registration T × Option (Username T)} (h : s.SubsAgree)
    (hsubs : s'.subsOf = s.subsOf) (hsuper : s'.superOf = s.superOf)
    (hidentity : s'.identityOf = s.identityOf.insert who v) : s'.SubsAgree := by
  apply h.keep hsubs hsuper
  intro a ha
  rw [hidentity, StorageMap.containsKey_insert]
  exact .inr ha

theorem State.SubsAgree.reassign (h : s.SubsAgree) (who : T.AccountId)
    (hothers : ∀ a, a ≠ who → s'.subs a = s.subs a)
    (hsuper : ∀ sub, superAccount s'.superOf sub =
      if sub ∈ (s'.subs who).toList then some who
      else if sub ∈ (s.subs who).toList then none
      else superAccount s.superOf sub)
    (hfree : ∀ sub ∈ (s'.subs who).toList, ∀ a, superAccount s.superOf sub = some a → a = who)
    (hnamed : (s'.subs who).toList ≠ [] → s'.identityOf.containsKey who = true)
    (hidentity : ∀ a, a ≠ who → s'.identityOf.containsKey a = s.identityOf.containsKey a)
    : s'.SubsAgree where
  agree := by
    apply h.agree.reassign _ hsuper hfree
    intro a ha
    rw [hothers a ha]
  named a hsubs := by
    by_cases ha : a = who
    . rw [ha] at hsubs ⊢
      exact hnamed hsubs
    . rw [hothers a ha] at hsubs
      rw [hidentity a ha]
      exact h.named a hsubs

theorem State.SubsAgree.mem_of_get (h : s.SubsAgree) {sub : T.AccountId} {data : Data}
    (hget : s.superOf.get sub = some (who, data)) : sub ∈ (s.subs who).toList := by
  have hagree := (h.agree who sub).mpr
  apply hagree
  rw [superAccount, hget]
  rfl

theorem State.SubsAgree.setSubs {subs : List (T.AccountId × Data)}
    {ids : BoundedVec T.AccountId T.maxSubAccounts.toNat} (h : s.SubsAgree)
    (hnamed : s.identityOf.containsKey who = true) (hids : ids.toList = subs.map Prod.fst)
    (hfree : ∀ sub ∈ subs, ∀ x, s.superOf.get sub.1 = some x → x.1 = who)
    (hsubs : s'.subsOf =
      if ids.toList.isEmpty then s.subsOf.remove who else s.subsOf.insert who ids)
    (hsuper : s'.superOf = insertSupers who (removeSupers s.superOf (s.subs who).toList) subs)
    (hidentity : s'.identityOf = s.identityOf) : s'.SubsAgree := by
  have hsubs' : ∀ a, s'.subs a = if a = who then ids else s.subs a := by
    intro a
    split at hsubs
    . next hempty =>
      have hids' : ids = .empty := BoundedVec.toList_injective (List.isEmpty_iff.mp hempty)
      rw [subs_remove hsubs, hids']
    . exact subs_insert hsubs a
  have hwho : (s'.subs who).toList = subs.map Prod.fst := by
    rw [hsubs', if_pos rfl, hids]
  apply h.reassign who
  . intro a ha
    rw [hsubs', if_neg ha]
  . intro sub
    rw [hsuper, hwho, superAccount_insertSupers, superAccount_removeSupers]
  . intro sub hsub a ha
    rw [hwho, List.mem_map] at hsub
    obtain ⟨x, hx, rfl⟩ := hsub
    obtain ⟨y, hy, rfl⟩ := Option.map_eq_some_iff.mp ha
    exact hfree x hx y hy
  . intro _
    rw [hidentity]
    exact hnamed
  . intro a _
    rw [hidentity]

theorem State.SubsAgree.addSub {sub : T.AccountId} {data : Data}
    {subIds : BoundedVec T.AccountId T.maxSubAccounts.toNat} (h : s.SubsAgree)
    (hnamed : s.identityOf.containsKey who = true) (hfree : s.superOf.get sub = none)
    (hpush : subIds.toList = (s.subs who).toList ++ [sub])
    (hsubs : s'.subsOf = s.subsOf.insert who subIds)
    (hsuper : s'.superOf = s.superOf.insert sub (who, data))
    (hidentity : s'.identityOf = s.identityOf) : s'.SubsAgree := by
  have hwho : (s'.subs who).toList = (s.subs who).toList ++ [sub] := by
    rw [subs_insert hsubs, if_pos rfl, hpush]
  apply h.reassign who
  . intro a ha
    rw [subs_insert hsubs, if_neg ha]
  . intro x
    rw [hsuper, hwho, superAccount_insert]
    simp only [List.mem_append, List.mem_singleton]
    by_cases hx : x = sub
    . simp only [hx, or_true, if_true]
    . by_cases hmem : x ∈ (s.subs who).toList
      . simp only [hx, hmem, true_or, if_true, if_false]
        exact (h.agree who x).mp hmem
      . simp only [hx, hmem, or_self, if_false]
  . intro x hx a ha
    rw [hwho, List.mem_append, List.mem_singleton] at hx
    rcases hx with hx | rfl
    . rw [h.agree who x, ha, Option.some.injEq] at hx
      exact hx
    . rw [superAccount, hfree] at ha
      cases ha
  . intro _
    rw [hidentity]
    exact hnamed
  . intro a _
    rw [hidentity]

theorem State.SubsAgree.renameSub {sub : T.AccountId} {data old : Data} (h : s.SubsAgree)
    (howned : s.superOf.get sub = some (who, old)) (hsubs : s'.subsOf = s.subsOf)
    (hsuper : s'.superOf = s.superOf.insert sub (who, data))
    (hidentity : s'.identityOf = s.identityOf) : s'.SubsAgree := by
  have hkeep : superAccount s'.superOf = superAccount s.superOf := by
    funext x
    rw [hsuper, superAccount_insert]
    split
    . next hx =>
      rw [hx, superAccount, howned]
      rfl
    . rfl
  constructor
  . unfold State.subs
    rw [hsubs, hkeep]
    exact h.agree
  . unfold State.subs
    rw [hsubs, hidentity]
    exact h.named

theorem State.SubsAgree.dropSub {sub : T.AccountId} {data : Data} (h : s.SubsAgree)
    (howned : s.superOf.get sub = some (who, data))
    (hsubs : s'.subsOf = s.subsOf.insert who ((s.subs who).retain fun x => x ≠ sub))
    (hsuper : s'.superOf = s.superOf.remove sub) (hidentity : s'.identityOf = s.identityOf)
    : s'.SubsAgree := by
  have hmem : ∀ x, x ∈ (s'.subs who).toList ↔ x ∈ (s.subs who).toList ∧ x ≠ sub := by
    intro x
    rw [subs_insert hsubs, if_pos rfl, BoundedVec.toList_retain, List.mem_filter]
    simp
  have hsub := h.mem_of_get howned
  apply h.reassign who
  . intro a ha
    rw [subs_insert hsubs, if_neg ha]
  . intro x
    rw [hsuper, superAccount_remove]
    simp only [hmem]
    by_cases hx : x = sub
    . simp only [hx, hsub, ne_eq, not_true, and_false, if_true, if_false]
    . by_cases hx' : x ∈ (s.subs who).toList
      . simp only [hx, hx', ne_eq, not_false_eq_true, and_self, if_true, if_false]
        exact (h.agree who x).mp hx'
      . simp only [hx, hx', false_and, if_false]
  . intro x hx a ha
    have hx' := (h.agree who x).mp ((hmem x).mp hx).1
    rw [ha, Option.some.injEq] at hx'
    exact hx'
  . intro _
    rw [hidentity]
    exact h.named who (List.ne_nil_of_mem hsub)
  . intro a _
    rw [hidentity]

theorem State.SubsAgree.withoutIdentity (h : s.SubsAgree) (who : T.AccountId)
    : (s.withoutIdentity who).SubsAgree := by
  have hsubs : ∀ a, (s.withoutIdentity who).subs a = if a = who then .empty else s.subs a :=
    subs_remove rfl
  have hwho : ((s.withoutIdentity who).subs who).toList = [] := by
    rw [hsubs, if_pos rfl, BoundedVec.toList_empty]
  apply h.reassign who
  . intro a ha
    rw [hsubs, if_neg ha]
  . intro sub
    rw [hwho]
    simp only [List.not_mem_nil, if_false]
    exact superAccount_removeSupers _ sub
  . intro sub hsub
    rw [hwho] at hsub
    cases hsub
  . intro hne
    exact absurd hwho hne
  . intro a ha
    exact StorageMap.containsKey_remove_of_ne _ ha

theorem Effect.subsAgree {ext : Extrinsic T} (he : Effect s ext s') (h : s.SubsAgree)
    : s'.SubsAgree := by
  cases he with
  | setIdentity | newIdentity | requestJudgement | cancelRequest | provideJudgement
  | setPrimaryUsername | grant | accept => exact h.insertIdentity rfl rfl rfl
  | setSubs named ids_eq unclaimed => exact h.setSubs named ids_eq unclaimed rfl rfl rfl
  | addSub named unclaimed pushed => exact h.addSub named unclaimed pushed rfl rfl rfl
  | renameSub owned => exact h.renameSub owned rfl rfl rfl
  | removeSub owned | quitSub owned => exact h.dropSub owned rfl rfl rfl
  | clearIdentity | killIdentity => exact (h.withoutIdentity _).keep rfl rfl fun _ ha => ha
  | reap => exact h.withoutIdentity _
  | _ => exact h.keep rfl rfl fun _ ha => ha

/--
In every state of every run an account is among the sub accounts of another one exactly if it has that
one for its super account, and an account with sub accounts has an identity.
-/
theorem run_subsAgree (exts : List (Extrinsic T))
    : (machine T).Always State.SubsAgree (State.genesis T) exts := by
  apply Machine.always_invariant
  . intro s ext s' hs h
    exact (dispatch_effect h).subsAgree hs
  . constructor
    . intro a sub
      simp [State.genesis, State.subs, StorageMap.getD, superAccount]
    . intro a ha
      exact absurd rfl ha

end Identity
