import Cord.Identity.Lemmas.Calls

/-!
This module contains when the registrars have different accounts. Adding a registrar checks that, but a
registrar can give its place to any account, also to the one of another registrar. All calls act on the
first registrar with an account, so removing such an account leaves it a registrar.
-/

open Frame

namespace Identity

variable {T : Config} {s s' : State T} {ext : Extrinsic T} {who account : T.AccountId}

section Accounts

variable {registrars : List (Option (RegistrarInfo T))}

def accountsOf (registrars : List (Option (RegistrarInfo T))) : List T.AccountId :=
  registrars.filterMap fun registrar => registrar.map RegistrarInfo.account

theorem accountsOf_append (registrars registrars' : List (Option (RegistrarInfo T)))
    : accountsOf (registrars ++ registrars') = accountsOf registrars ++ accountsOf registrars' :=
  List.filterMap_append

theorem accountsOf_cons_some (r : RegistrarInfo T)
    : accountsOf (some r :: registrars) = r.account :: accountsOf registrars := rfl

theorem any_hasAccount_iff : registrars.any (hasAccount who) = true ↔ who ∈ accountsOf registrars := by
  unfold accountsOf
  rw [List.any_eq_true, List.mem_filterMap]
  constructor
  . rintro ⟨registrar, hmem, hwho⟩
    cases registrar with
    | none => cases hwho
    | some r => exact ⟨some r, hmem, congrArg some (of_decide_eq_true hwho)⟩
  . rintro ⟨registrar, hmem, hwho⟩
    cases registrar with
    | none => cases hwho
    | some r => exact ⟨some r, hmem, decide_eq_true (Option.some.inj hwho)⟩

theorem accountsOf_modify {f : RegistrarInfo T → RegistrarInfo T}
    (hf : ∀ r, (f r).account = r.account) (i : Nat)
    : accountsOf (registrars.modify i (Option.map f)) = accountsOf registrars := by
  induction registrars generalizing i with
  | nil => simp
  | cons registrar registrars ih =>
    cases i with
    | zero =>
      cases registrar with
      | none => rfl
      | some r =>
        rw [List.modify_zero_cons, Option.map_some, accountsOf_cons_some, accountsOf_cons_some, hf]
    | succ i =>
      have hcons := accountsOf_append [registrar]
      rw [List.modify_succ_cons, ← List.singleton_append, hcons, ih, ← hcons]
      rfl

theorem split_of_found {i : Nat} (h : registrars.findIdx? (hasAccount who) = some i)
    : ∃ before r after, registrars = before ++ some r :: after ∧ r.account = who ∧
        (∀ f, registrars.modify i f = before ++ f (some r) :: after) ∧
        registrars.eraseIdx i = before ++ after := by
  obtain ⟨hi, hwho, _⟩ := List.findIdx?_eq_some_iff_getElem.mp h
  match hget : registrars[i] with
  | none =>
    rw [hget] at hwho
    cases hwho
  | some r =>
    rw [hget] at hwho
    refine ⟨registrars.take i, r, registrars.drop (i + 1), ?_, of_decide_eq_true hwho, ?_, ?_⟩
    . rw [← hget, List.cons_getElem_drop_succ, List.take_append_drop]
    . intro f
      rw [List.modify_eq_take_cons_drop hi, hget]
    . rw [List.eraseIdx_eq_take_drop_succ]

theorem nodup_replace_iff {α : Type} {before after : List α} {a b : α}
    (h : (before ++ a :: after).Nodup)
    : (before ++ b :: after).Nodup ↔ b = a ∨ b ∉ before ++ a :: after := by
  rw [List.nodup_middle, List.nodup_cons] at h ⊢
  simp only [List.mem_append, List.mem_cons] at h ⊢
  constructor
  . rintro ⟨hb, _⟩
    by_cases hab : b = a
    . exact .inl hab
    . simp_all
  . rintro (rfl | hb)
    . exact h
    . simp_all

end Accounts

def State.registrarAccounts (s : State T) : List T.AccountId :=
  accountsOf s.registrars.toList

def State.RegistrarsDistinct (s : State T) : Prop :=
  s.registrarAccounts.Nodup

def Extrinsic.removesRegistrar (ext : Extrinsic T) : Option T.AccountId :=
  match ext with
  | .pallet _ _ (.removeRegistrar source) => T.lookup source
  | _ => none

def Extrinsic.appoints (ext : Extrinsic T) : Option T.AccountId :=
  match ext with
  | .pallet _ _ (.addRegistrar source) => T.lookup source
  | .pallet _ _ (.setAccountId source) => T.lookup source
  | _ => none

def RemovalSilences (s : State T) (ext : Extrinsic T) (s' : State T) : Prop :=
  -- A registrar that has been removed gives no judgement as long as it is not appointed again.
  ∀ account, ext.removesRegistrar = some account → (machine T).accepts s ext = true →
    ∀ exts : List (Extrinsic T), (∀ ext ∈ exts, ext.appoints ≠ some account) →
      ∀ origin n target judgement identity, T.ensureSigned origin = some account →
        (machine T).accepts ((machine T).run s' exts)
          (.pallet origin n (.provideJudgement target judgement identity)) = false

def Extrinsic.KeepsDistinct (s : State T) (ext : Extrinsic T) : Prop :=
  -- A registrar only gives its place to an account that is no registrar.
  match ext with
  | .pallet origin _ (.setAccountId source) =>
    ∀ who new, T.ensureSigned origin = some who → T.lookup source = some new →
      new = who ∨ new ∉ s.registrarAccounts
  | _ => True

section Registrars

variable {i : Nat}

theorem addRegistrar_accounts
    (hpushed : s'.registrars.toList =
      s.registrars.toList ++ [some { account, fields := T.defaultFields }])
    : s'.registrarAccounts = s.registrarAccounts ++ [account] := by
  unfold State.registrarAccounts
  rw [hpushed, accountsOf_append]
  rfl

theorem setFields_accounts {fields : T.FieldsIdentifier}
    (hregistrars : s'.registrars = s.registrars.modify i (Option.map fun r => { r with fields }))
    : s'.registrarAccounts = s.registrarAccounts := by
  unfold State.registrarAccounts
  rw [hregistrars, BoundedVec.toList_modify, accountsOf_modify]
  intro r
  rfl

theorem setAccountId_accounts {new : T.AccountId}
    (hfound : s.registrars.toList.findIdx? (hasAccount who) = some i)
    (hregistrars : s'.registrars =
      s.registrars.modify i (Option.map fun r => { r with account := new }))
    : ∃ before after, s.registrarAccounts = before ++ who :: after ∧
        s'.registrarAccounts = before ++ new :: after := by
  obtain ⟨before, r, after, hsplit, rfl, hmodify, _⟩ := split_of_found hfound
  refine ⟨accountsOf before, accountsOf after, ?_, ?_⟩
  . rw [State.registrarAccounts, hsplit, accountsOf_append, accountsOf_cons_some]
  . rw [State.registrarAccounts, hregistrars, BoundedVec.toList_modify, hmodify, accountsOf_append,
      Option.map_some, accountsOf_cons_some]

theorem removeRegistrar_accounts
    (hfound : s.registrars.toList.findIdx? (hasAccount who) = some i)
    (hregistrars : s'.registrars = s.registrars.remove i)
    : ∃ before after, s.registrarAccounts = before ++ who :: after ∧
        s'.registrarAccounts = before ++ after := by
  obtain ⟨before, r, after, hsplit, rfl, _, herase⟩ := split_of_found hfound
  refine ⟨accountsOf before, accountsOf after, ?_, ?_⟩
  . rw [State.registrarAccounts, hsplit, accountsOf_append, accountsOf_cons_some]
  . rw [State.registrarAccounts, hregistrars, BoundedVec.toList_remove, herase, accountsOf_append]

theorem State.RegistrarsDistinct.addRegistrar (h : s.RegistrarsDistinct)
    (hfresh : s.registrars.toList.any (hasAccount account) = false)
    (hpushed : s'.registrars.toList =
      s.registrars.toList ++ [some { account, fields := T.defaultFields }])
    : s'.RegistrarsDistinct := by
  unfold State.RegistrarsDistinct
  rw [addRegistrar_accounts hpushed, List.nodup_append_comm, List.singleton_append, List.nodup_cons]
  refine ⟨?_, h⟩
  rw [State.registrarAccounts, ← any_hasAccount_iff, hfresh]
  exact Bool.false_ne_true

theorem State.RegistrarsDistinct.setAccountId_iff {new : T.AccountId} (h : s.RegistrarsDistinct)
    (hfound : s.registrars.toList.findIdx? (hasAccount who) = some i)
    (hregistrars : s'.registrars =
      s.registrars.modify i (Option.map fun r => { r with account := new }))
    : s'.RegistrarsDistinct ↔ new = who ∨ new ∉ s.registrarAccounts := by
  obtain ⟨before, after, hs, hs'⟩ := setAccountId_accounts hfound hregistrars
  unfold State.RegistrarsDistinct at h ⊢
  rw [hs] at h ⊢
  rw [hs', nodup_replace_iff h]

theorem State.RegistrarsDistinct.removeRegistrar (h : s.RegistrarsDistinct)
    (hfound : s.registrars.toList.findIdx? (hasAccount who) = some i)
    (hregistrars : s'.registrars = s.registrars.remove i)
    : s'.RegistrarsDistinct ∧ who ∉ s'.registrarAccounts := by
  obtain ⟨before, after, hs, hs'⟩ := removeRegistrar_accounts hfound hregistrars
  unfold State.RegistrarsDistinct at h ⊢
  rw [hs, List.nodup_middle, List.nodup_cons] at h
  rw [hs']
  exact h.symm

theorem mem_of_setAccountId {new : T.AccountId}
    (hfound : s.registrars.toList.findIdx? (hasAccount who) = some i)
    (hregistrars : s'.registrars =
      s.registrars.modify i (Option.map fun r => { r with account := new }))
    (h : account ∈ s'.registrarAccounts) : account = new ∨ account ∈ s.registrarAccounts := by
  obtain ⟨before, after, hs, hs'⟩ := setAccountId_accounts hfound hregistrars
  rw [hs', List.mem_append, List.mem_cons] at h
  rw [hs, List.mem_append, List.mem_cons]
  rcases h with h | h | h
  . exact .inr (.inl h)
  . exact .inl h
  . exact .inr (.inr (.inr h))

theorem mem_of_removeRegistrar (hregistrars : s'.registrars = s.registrars.remove i)
    (h : account ∈ s'.registrarAccounts) : account ∈ s.registrarAccounts := by
  have hsub := (List.eraseIdx_sublist s.registrars.toList i).filterMap
    fun registrar => registrar.map RegistrarInfo.account
  unfold State.registrarAccounts at h
  rw [hregistrars] at h
  exact hsub.mem h

end Registrars

theorem Effect.registrarsDistinct_iff (he : Effect s ext s') (h : s.RegistrarsDistinct)
    : s'.RegistrarsDistinct ↔ ext.KeepsDistinct s := by
  cases he with
  | addRegistrar _ fresh pushed => exact iff_of_true (h.addRegistrar fresh pushed) trivial
  | setAccountId signed lookup found =>
    refine (h.setAccountId_iff found (by rfl)).trans ?_
    constructor
    . intro hnew who' new' hsigned hlookup
      rw [signed, Option.some.injEq] at hsigned
      rw [lookup, Option.some.injEq] at hlookup
      rw [← hsigned, ← hlookup]
      exact hnew
    . intro hkeeps
      exact hkeeps _ _ signed lookup
  | setFields =>
    refine iff_of_true ?_ trivial
    unfold State.RegistrarsDistinct
    rw [setFields_accounts (s := s) (by rfl)]
    exact h
  | removeRegistrar _ found => exact iff_of_true (h.removeRegistrar found (by rfl)).1 trivial
  | _ => exact iff_of_true h trivial

theorem Effect.mem_registrarAccounts (he : Effect s ext s') (hext : ext.appoints ≠ some account)
    (h : account ∈ s'.registrarAccounts) : account ∈ s.registrarAccounts := by
  cases he with
  | addRegistrar lookup _ pushed =>
    rw [addRegistrar_accounts pushed, List.mem_append, List.mem_singleton] at h
    rcases h with h | rfl
    . exact h
    . exact absurd lookup hext
  | setAccountId _ lookup found =>
    rcases mem_of_setAccountId found (by rfl) h with rfl | h
    . exact absurd lookup hext
    . exact h
  | setFields =>
    rw [setFields_accounts (s := s) (by rfl)] at h
    exact h
  | removeRegistrar => exact mem_of_removeRegistrar (by rfl) h
  | _ => exact h

theorem run_not_mem_registrarAccounts {exts : List (Extrinsic T)}
    (hexts : ∀ ext ∈ exts, ext.appoints ≠ some account) (h : account ∉ s.registrarAccounts)
    : account ∉ ((machine T).run s exts).registrarAccounts := by
  have hmeets : (machine T).Meets (fun _ _ => True) s exts :=
    Machine.meets_of_forall (fun _ _ => trivial) s exts
  apply Machine.run_of_meets (I := fun s => account ∉ s.registrarAccounts) _ h
    (hmeets.and_forall hexts)
  intro s ext s' hs hext hsucc hmem
  exact hs ((dispatch_effect hsucc).mem_registrarAccounts hext.1 hmem)

theorem provideJudgement_rejected {origin : T.Origin} {n : UInt32} {target : T.LookupSource}
    {judgement : Judgement} {identity : T.Hash} (hsigned : T.ensureSigned origin = some account)
    (h : account ∉ s.registrarAccounts)
    : (machine T).accepts s (.pallet origin n (.provideJudgement target judgement identity)) =
        false := by
  rw [Machine.accepts_eq_false_iff]
  intro s' hs'
  have he : Effect s (.pallet origin n (.provideJudgement target judgement identity)) s' :=
    dispatch_effect hs'
  cases he with
  | provideJudgement signed _ found _ _ =>
    rw [hsigned, Option.some.injEq] at signed
    rw [← signed, any_hasAccount_iff] at found
    exact h found

theorem Effect.removalSilences (he : Effect s ext s') (h : s.RegistrarsDistinct)
    : RemovalSilences s ext s' := by
  intro account hext _ exts hexts origin n target judgement identity hsigned
  apply provideJudgement_rejected hsigned
  apply run_not_mem_registrarAccounts hexts
  cases he with
  | removeRegistrar lookup found =>
    obtain rfl := Option.some.inj (lookup.symm.trans hext)
    exact (h.removeRegistrar found (by rfl)).2
  | _ => cases hext

/--
In exactly those runs in which a registrar never gives its place to another registrar, the accounts of
the registrars are different in every state. In these runs a registrar that is removed can give no
judgement any more.
-/
theorem run_registrarsDistinct_iff (exts : List (Extrinsic T))
    : ((machine T).Always State.RegistrarsDistinct (State.genesis T) exts ∧
        (machine T).EveryStep RemovalSilences (State.genesis T) exts) ↔
        (machine T).Meets (fun s ext => ext.KeepsDistinct s) (State.genesis T) exts := by
  rw [and_iff_left_of_imp]
  . apply Machine.always_iff_of_step
    . intro s ext s' hs hsucc
      exact (dispatch_effect hsucc).registrarsDistinct_iff hs
    . exact List.nodup_nil
  . apply Machine.everyStep_of_always
    . intro s ext hrejected account _ haccepts
      rw [hrejected] at haccepts
      cases haccepts
    . intro s ext s' hs hsucc
      exact (dispatch_effect hsucc).removalSilences hs

section Plain

def renamedRegistrar : List (Extrinsic .plain) := [
    -- The registrar `1` gives its place to `2`, which is a registrar already.
    plainCall none (.addRegistrar 1),
    plainCall none (.addRegistrar 2),
    plainCall (some 3) (.setIdentity 7),
    plainCall (some 1) (.setAccountId 2)
  ]

theorem renamedRegistrar_not_distinct
    : ¬ ((machine .plain).run (State.genesis .plain) renamedRegistrar).RegistrarsDistinct ∧
        (machine .plain).accepts ((machine .plain).run (State.genesis .plain) renamedRegistrar)
          (plainCall none (.removeRegistrar 2)) = true ∧
        (machine .plain).accepts
          ((machine .plain).run (State.genesis .plain)
            (renamedRegistrar ++ [plainCall none (.removeRegistrar 2)]))
          (plainCall (some 2) (.provideJudgement 3 .knownGood 7)) = true := by
  refine ⟨?_, by decide +kernel, by decide +kernel⟩
  unfold State.RegistrarsDistinct
  decide +kernel

end Plain

end Identity
