import Cord.Identity.Lemmas.Usernames

/-!
This module contains when primary usernames are owned, that is mapped to the account whose identity
they are the primary username of. Choosing a primary username only checks that it is mapped to some
account, so this depends on what the accounts choose.
-/

open Frame

namespace Identity

variable {T : Config} {s s' : State T} {ext : Extrinsic T} {who : T.AccountId}
  {username : Username T}

def State.PrimaryOwned (s : State T) : Prop :=
  ∀ who id username, s.identityOf.get who = some (id, some username) →
    s.accountOfUsername.get username = some who

def OthersKept (s : State T) (ext : Extrinsic T) (s' : State T) : Prop :=
  -- Taking away the identity of one account leaves the usernames of all others.
  ∀ who, ext.cleared = some who → ∀ username other, other ≠ who →
    s.accountOfUsername.get username = some other →
      s'.accountOfUsername.get username = some other

def Extrinsic.ChoosesOwn (s : State T) (ext : Extrinsic T) : Prop :=
  -- The account only chooses a username that is mapped to it.
  match ext with
  | .pallet origin _ (.setPrimaryUsername username) =>
    ∀ who, T.ensureSigned origin = some who → s.accountOfUsername.get username = some who
  | _ => True

namespace State.PrimaryOwned

theorem insert {id : Registration T} {primary : Option (Username T)} (h : s.PrimaryOwned)
    (howned : ∀ username, primary = some username →
      s'.accountOfUsername.get username = some who)
    (hkept : ∀ username account, s.accountOfUsername.get username = some account →
      s'.accountOfUsername.get username = some account)
    (hinsert : s'.identityOf = s.identityOf.insert who (id, primary)) : s'.PrimaryOwned := by
  intro other id' username' hget
  rw [hinsert, StorageMap.get_insert] at hget
  split at hget
  . next heq =>
    rw [Option.some.injEq, Prod.mk.injEq] at hget
    rw [heq]
    exact howned username' hget.2
  . exact hkept username' other (h other id' username' hget)

theorem update {id id' : Registration T} {primary : Option (Username T)} (h : s.PrimaryOwned)
    (hstored : s.identityOf.get who = some (id, primary))
    (haccounts : s'.accountOfUsername = s.accountOfUsername)
    (hinsert : s'.identityOf = s.identityOf.insert who (id', primary)) : s'.PrimaryOwned := by
  refine h.insert ?_ ?_ hinsert
  . rintro username rfl
    rw [haccounts]
    exact h who id username hstored
  . intro username account hget
    rw [haccounts]
    exact hget

theorem named {id : Registration T} {primary : Username T} (h : s.PrimaryOwned)
    (hfresh : s.accountOfUsername.get username = none)
    (hnamed : Named s.identityOf who username id primary)
    (haccounts : s'.accountOfUsername = s.accountOfUsername.insert username who)
    (hinsert : s'.identityOf = s.identityOf.insert who (id, some primary)) : s'.PrimaryOwned := by
  have hkept : ∀ other account, s.accountOfUsername.get other = some account →
      s'.accountOfUsername.get other = some account := by
    intro other account hget
    have hne : other ≠ username := StorageMap.ne_of_get hfresh hget
    rw [haccounts, StorageMap.get_insert_of_ne _ _ hne, hget]
  have hnew : s'.accountOfUsername.get username = some who := by
    rw [haccounts, StorageMap.get_insert_self]
  refine h.insert ?_ hkept hinsert
  intro other hother
  obtain rfl := Option.some.inj hother
  cases hnamed with
  | kept stored => exact hkept _ _ (h _ _ _ stored)
  | first _ => exact hnew
  | fresh _ => exact hnew

theorem remove {id : Registration T} {primary : Option (Username T)} (h : s.PrimaryOwned)
    (hstored : s.identityOf.get who = some (id, primary))
    (haccounts : s'.accountOfUsername = forget s.accountOfUsername primary)
    (hremove : s'.identityOf = s.identityOf.remove who) : s'.PrimaryOwned := by
  intro other id' username' hget
  rw [hremove, StorageMap.get_remove] at hget
  split at hget
  . cases hget
  . next hne =>
    have howned := h other id' username' hget
    rw [haccounts, get_forget]
    split
    . next heq =>
      -- The primary username of the account is not the one of another account.
      subst heq
      rw [h who id username' hstored, Option.some.injEq] at howned
      exact absurd howned.symm hne
    . exact howned

theorem reap (h : s.PrimaryOwned) (who : T.AccountId) : (s.withoutIdentity who).PrimaryOwned := by
  intro other id username hget
  have hget' : (s.identityOf.remove who).get other = some (id, some username) := hget
  rw [StorageMap.get_remove] at hget'
  split at hget'
  . cases hget'
  . exact h other id username hget'

theorem removeDangling (h : s.PrimaryOwned)
    (hstored : s.accountOfUsername.get username = some who)
    (hdangling : s.identityOf.get who = none)
    (haccounts : s'.accountOfUsername = s.accountOfUsername.remove username)
    (hidentity : s'.identityOf = s.identityOf) : s'.PrimaryOwned := by
  intro other id username' hget
  rw [hidentity] at hget
  have howned := h other id username' hget
  rw [haccounts, StorageMap.get_remove]
  split
  . next heq =>
    rw [heq, hstored, Option.some.injEq] at howned
    rw [← howned, hdangling] at hget
    cases hget
  . exact howned

end State.PrimaryOwned

theorem Effect.primaryOwned_iff (he : Effect s ext s') (hwell : s.WellNamed) (h : s.PrimaryOwned)
    : s'.PrimaryOwned ↔ ext.ChoosesOwn s := by
  cases he with
  | setPrimaryUsername signed stored =>
    constructor
    . intro h' who' hsigned
      rw [signed, Option.some.injEq] at hsigned
      rw [← hsigned]
      exact h' _ _ _ (StorageMap.get_insert_self ..)
    . intro hown
      refine h.insert ?_ (fun _ _ hget => hget) rfl
      intro username husername
      obtain rfl := Option.some.inj husername
      exact hown _ signed
  | setIdentity stored | requestJudgement stored | cancelRequest stored
  | provideJudgement _ _ _ stored => exact iff_of_true (h.update stored rfl rfl) trivial
  | newIdentity =>
    refine iff_of_true (h.insert ?_ (fun _ _ hget => hget) rfl) trivial
    intro username husername
    cases husername
  | grant _ _ _ untaken _ named => exact iff_of_true (h.named untaken named rfl rfl) trivial
  | accept queued named =>
    exact iff_of_true (h.named (hwell.not_granted queued) named rfl rfl) trivial
  | clearIdentity _ stored | killIdentity _ stored =>
    exact iff_of_true (h.remove stored rfl rfl) trivial
  | reap => exact iff_of_true (h.reap _) trivial
  | removeDangling stored dangling =>
    exact iff_of_true (h.removeDangling stored dangling rfl rfl) trivial
  | _ => exact iff_of_true h trivial

theorem OthersKept.remove {id : Registration T} {primary : Option (Username T)}
    (h : s.PrimaryOwned) (hstored : s.identityOf.get who = some (id, primary))
    (haccounts : s'.accountOfUsername = forget s.accountOfUsername primary)
    (hcleared : ext.cleared = some who) : OthersKept s ext s' := by
  intro who' hwho' username other hne hget
  obtain rfl := Option.some.inj (hcleared.symm.trans hwho')
  rw [haccounts, get_forget]
  split
  . next heq =>
    subst heq
    rw [h who id username hstored, Option.some.injEq] at hget
    exact absurd hget.symm hne
  . exact hget

theorem Effect.othersKept (he : Effect s ext s') (h : s.PrimaryOwned) : OthersKept s ext s' := by
  cases he with
  | clearIdentity cleared stored | killIdentity cleared stored => exact .remove h stored rfl cleared
  | _ =>
    intro who hcleared
    cases hcleared

/--
In exactly those runs in which every account that chooses a primary username chooses one of its own,
primary usernames are owned in every state. In these runs taking away an identity never removes a
username of another account.
-/
theorem run_primaryOwned_iff (exts : List (Extrinsic T))
    : ((machine T).Always State.PrimaryOwned (State.genesis T) exts ∧
        (machine T).EveryStep OthersKept (State.genesis T) exts) ↔
        (machine T).Meets (fun s ext => ext.ChoosesOwn s) (State.genesis T) exts := by
  rw [and_iff_left_of_imp]
  . apply Machine.always_iff_meets (J := State.WellNamed)
    . intro s ext s' hs hsucc
      exact (dispatch_effect hsucc).wellNamed hs
    . intro s ext s' hwell hs hsucc
      exact (dispatch_effect hsucc).primaryOwned_iff hwell hs
    . exact (run_wellNamed []).head
    . intro who id username hget
      cases hget
  . apply Machine.everyStep_of_always
    . intro s ext _ who _ username other _ hget
      exact hget
    . intro s ext s' hs hsucc
      exact (dispatch_effect hsucc).othersKept hs

section Plain

def plainUsername : Username .plain :=
  ⟨[98, 64, 97], by decide⟩

def chosenUsername : List (Extrinsic .plain) := [
    -- The username `b@a` is granted to `1`, then `2` chooses it.
    plainCall none (.addUsernameAuthority 9 [97] 2),
    plainCall (some 9) (.setUsernameFor 1 [98] (some (1, 12 :: plainUsername.toList))),
    plainCall (some 2) (.setIdentity 7),
    plainCall (some 2) (.setPrimaryUsername plainUsername)
  ]

theorem chosenUsername_not_primaryOwned
    : ¬ ((machine .plain).run (State.genesis .plain) chosenUsername).PrimaryOwned ∧
        ((machine .plain).run (State.genesis .plain) chosenUsername).accountOfUsername.get
          plainUsername = some 1 ∧
        ((machine .plain).run (State.genesis .plain)
          (chosenUsername ++ [plainCall (some 2) .clearIdentity])).accountOfUsername.get
          plainUsername = none := by
  have howner : ((machine .plain).run (State.genesis .plain)
      chosenUsername).accountOfUsername.get plainUsername = some 1 := by
    decide +kernel
  refine ⟨?_, howner, by decide +kernel⟩
  intro h
  have hchosen : (((machine .plain).run (State.genesis .plain) chosenUsername).identityOf.get 2).map
      Prod.snd = some (some plainUsername) := by
    decide +kernel
  obtain ⟨⟨id, _⟩, hget, rfl⟩ := Option.map_eq_some_iff.mp hchosen
  have howned := h 2 id plainUsername hget
  rw [howner] at howned
  cases howned

end Plain

end Identity
