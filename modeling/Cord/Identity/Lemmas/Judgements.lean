import Cord.Identity.Lemmas.Calls

/-!
This module contains the discipline of the judgements: those of an identity are strictly sorted by the
registrars, so they can be searched, and one that is erroneous stays until its registrar gives another
one or the identity is removed.
-/

open Frame

namespace Identity

variable {T : Config} {s s' : State T} {ext : Extrinsic T}

abbrev Judgements (T : Config) := BoundedVec (T.AccountId × Judgement) T.maxRegistrars.toNat

variable {judgements judgements' : Judgements T} {registrar r : T.AccountId} {j : Judgement}

def Sorted (judgements : Judgements T) : Prop :=
  judgements.toList.Pairwise fun x y => x.1 < y.1

/--
A search finds the judgement of a registrar exactly if there is one, and there is at most one.
-/
structure Disciplined (judgements : Judgements T) : Prop where
  sorted : Sorted judgements
  found : ∀ registrar i, searchJudgement judgements registrar = .ok i →
    ∃ j, judgements.toList[i]? = some (registrar, j)
  missing : ∀ registrar i, searchJudgement judgements registrar = .error i →
    ∀ j, (registrar, j) ∉ judgements.toList
  unique : (judgements.toList.map Prod.fst).Nodup

def State.Disciplined (s : State T) : Prop :=
  ∀ who id username, s.identityOf.get who = some (id, username) → Identity.Disciplined id.judgements

def State.Erroneous (s : State T) (who registrar : T.AccountId) : Prop :=
  ∃ id username, s.identityOf.get who = some (id, username) ∧
    (registrar, .erroneous) ∈ id.judgements.toList

def Extrinsic.judges (ext : Extrinsic T) : Option (T.AccountId × T.AccountId) :=
  -- The registrar that gives a judgement, and the account it is about.
  match ext with
  | .pallet origin _ (.provideJudgement target _ _) => do
    let registrar ← T.ensureSigned origin
    let target ← T.lookup target
    return (registrar, target)
  | _ => none

def Extrinsic.removes (ext : Extrinsic T) : Option T.AccountId :=
  match ext with
  | .reapIdentity who => some who
  | ext => ext.cleared

def ErroneousKept (s : State T) (ext : Extrinsic T) (s' : State T) : Prop :=
  ∀ who registrar, s.Erroneous who registrar →
    s'.Erroneous who registrar ∨
      ((machine T).accepts s ext = true ∧ ext.judges = some (registrar, who)) ∨
      (ext.removes = some who ∧ s'.identityOf.get who = none)

theorem Sorted.found (h : Sorted judgements) {i : Nat}
    (hsearch : searchJudgement judgements registrar = .ok i)
    : ∃ j, judgements.toList[i]? = some (registrar, j) := by
  obtain ⟨⟨_, j⟩, hi, rfl⟩ := binarySearchByKey_ok h hsearch
  exact ⟨j, hi⟩

theorem Sorted.unique (h : Sorted judgements) {j' : Judgement}
    (hj : (registrar, j) ∈ judgements.toList) (hj' : (registrar, j') ∈ judgements.toList)
    : j = j' := by
  have heq := List.inj_on_of_nodup_map (nodup_map_of_pairwise h) hj hj' rfl
  exact congrArg Prod.snd heq

theorem Sorted.disciplined (h : Sorted judgements) : Disciplined judgements where
  sorted := h
  found _ _ hsearch := h.found hsearch
  missing registrar i hsearch j hmem := by
    obtain ⟨k, hk⟩ := (exists_binarySearchByKey_ok h).mpr ⟨(registrar, j), hmem, rfl⟩
    unfold searchJudgement at hsearch
    rw [hsearch] at hk
    cases hk
  unique := nodup_map_of_pairwise h

theorem Sorted.judgementAt_of_mem (h : Sorted judgements) {i : Nat}
    (hsearch : searchJudgement judgements registrar = .ok i)
    (hmem : (registrar, j) ∈ judgements.toList) : judgementAt judgements i = j := by
  obtain ⟨j', hi⟩ := h.found hsearch
  unfold judgementAt
  rw [hi]
  exact h.unique (List.mem_of_getElem? hi) hmem

theorem sorted_empty : Sorted (.empty : Judgements T) :=
  List.Pairwise.nil

theorem Sorted.retain (h : Sorted judgements) (p : T.AccountId × Judgement → Bool)
    : Sorted (judgements.retain p) :=
  h.sublist List.filter_sublist

theorem Sorted.remove (h : Sorted judgements) (i : Nat) : Sorted (judgements.remove i) :=
  h.sublist (List.eraseIdx_sublist _ i)

theorem Sorted.putJudgement (h : Sorted judgements)
    (hput : putJudgement judgements registrar j = some judgements') : Sorted judgements' := by
  unfold Identity.putJudgement at hput
  split at hput
  . next i hsearch =>
    rw [Option.some.injEq] at hput
    rw [← hput]
    exact pairwise_modify_of_search h hsearch rfl
  . next i hsearch =>
    unfold Sorted
    rw [BoundedVec.tryFrom_eq_some.mp hput]
    exact pairwise_insertIdx_of_search h hsearch rfl

theorem mem_putJudgement (h : Sorted judgements)
    (hput : putJudgement judgements registrar j = some judgements') {x : T.AccountId × Judgement}
    (hx : x ∈ judgements.toList) (hne : x.1 ≠ registrar) : x ∈ judgements'.toList := by
  unfold Identity.putJudgement at hput
  split at hput
  . next i hsearch =>
    rw [Option.some.injEq] at hput
    rw [← hput]
    exact mem_modify_of_search h hsearch hx hne
  . next i hsearch =>
    rw [BoundedVec.tryFrom_eq_some.mp hput,
      List.mem_insertIdx (binarySearchByKey_error h hsearch).1]
    exact .inr hx

theorem mem_remove_of_requested {pos : Nat}
    (hrequested : judgementAt judgements pos = .requested) {x : T.AccountId × Judgement}
    (hx : x ∈ judgements.toList) (hne : x.2 ≠ .requested) : x ∈ (judgements.remove pos).toList := by
  obtain ⟨i, hi⟩ := List.mem_iff_getElem?.mp hx
  rw [BoundedVec.toList_remove, List.mem_eraseIdx_iff_getElem?]
  refine ⟨i, ?_, hi⟩
  rintro rfl
  unfold judgementAt at hrequested
  rw [hi] at hrequested
  exact hne hrequested

variable {who : T.AccountId} {id id' : Registration T} {username username' : Option (Username T)}

def State.Sorted (s : State T) : Prop :=
  ∀ who id username, s.identityOf.get who = some (id, username) → Identity.Sorted id.judgements

theorem State.Sorted.disciplined (h : s.Sorted) : s.Disciplined := by
  intro who id username hget
  exact (h who id username hget).disciplined

theorem State.Sorted.insert (h : s.Sorted) (hid : Identity.Sorted id.judgements)
    (hinsert : s'.identityOf = s.identityOf.insert who (id, username)) : s'.Sorted := by
  intro a id' username' hget
  rw [hinsert, StorageMap.get_insert] at hget
  split at hget
  . cases hget
    exact hid
  . exact h a id' username' hget

theorem State.Sorted.remove (h : s.Sorted) (hremove : s'.identityOf = s.identityOf.remove who)
    : s'.Sorted := by
  intro a id username hget
  rw [hremove, StorageMap.get_remove] at hget
  split at hget
  . cases hget
  . exact h a id username hget

theorem State.Sorted.named {name primary : Username T} (h : s.Sorted)
    (hnamed : Named s.identityOf who name id primary) : Identity.Sorted id.judgements := by
  cases hnamed with
  | kept stored => exact h _ _ _ stored
  | first stored => exact h _ _ _ stored
  | fresh _ => exact sorted_empty

theorem Effect.sorted (he : Effect s ext s') (h : s.Sorted) : s'.Sorted := by
  cases he with
  | setIdentity stored => exact h.insert ((h _ _ _ stored).retain _) rfl
  | newIdentity => exact h.insert sorted_empty rfl
  | requestJudgement stored _ put => exact h.insert ((h _ _ _ stored).putJudgement put) rfl
  | cancelRequest stored => exact h.insert ((h _ _ _ stored).remove _) rfl
  | provideJudgement _ _ _ stored put => exact h.insert ((h _ _ _ stored).putJudgement put) rfl
  | setPrimaryUsername _ stored => exact h.insert (h _ _ _ stored) rfl
  | grant _ _ _ _ _ named => exact h.insert (h.named named) rfl
  | accept _ named => exact h.insert (h.named named) rfl
  | clearIdentity | killIdentity => exact h.remove rfl
  | reap => exact h.remove rfl
  | _ => exact h

theorem State.Erroneous.insert {a : T.AccountId} (h : s.Erroneous a r)
    (hinsert : s'.identityOf = s.identityOf.insert who (id', username'))
    (hkeep : ∀ id username, a = who → s.identityOf.get who = some (id, username) →
      (r, .erroneous) ∈ id.judgements.toList → (r, .erroneous) ∈ id'.judgements.toList)
    : s'.Erroneous a r := by
  obtain ⟨id, username, hget, hmem⟩ := h
  by_cases ha : a = who
  . subst ha
    refine ⟨id', username', ?_, hkeep id username rfl hget hmem⟩
    rw [hinsert, StorageMap.get_insert_self]
  . refine ⟨id, username, ?_, hmem⟩
    rw [hinsert, StorageMap.get_insert_of_ne _ _ ha, hget]

theorem State.Erroneous.update {a : T.AccountId} (h : s.Erroneous a r)
    (hstored : s.identityOf.get who = some (id, username))
    (hinsert : s'.identityOf = s.identityOf.insert who (id', username'))
    (hkeep : a = who → (r, .erroneous) ∈ id.judgements.toList →
      (r, .erroneous) ∈ id'.judgements.toList)
    : s'.Erroneous a r := by
  apply h.insert hinsert
  intro id'' username'' ha hget hmem
  rw [hstored, Option.some.injEq, Prod.mk.injEq] at hget
  rw [← hget.1] at hmem
  exact hkeep ha hmem

theorem State.Erroneous.insert_fresh {a : T.AccountId} (h : s.Erroneous a r)
    (hfresh : s.identityOf.get who = none)
    (hinsert : s'.identityOf = s.identityOf.insert who (id', username')) : s'.Erroneous a r := by
  apply h.insert hinsert
  intro id username _ hget
  rw [hfresh] at hget
  cases hget

theorem State.Erroneous.named {a : T.AccountId} {name primary : Username T} (h : s.Erroneous a r)
    (hnamed : Named s.identityOf who name id' primary)
    (hinsert : s'.identityOf = s.identityOf.insert who (id', username')) : s'.Erroneous a r := by
  cases hnamed with
  | kept stored => exact h.update stored hinsert fun _ hmem => hmem
  | first stored => exact h.update stored hinsert fun _ hmem => hmem
  | fresh unnamed => exact h.insert_fresh unnamed hinsert

theorem State.Erroneous.remove {a : T.AccountId} (h : s.Erroneous a r)
    (hremove : s'.identityOf = s.identityOf.remove who) (hext : ext.removes = some who)
    : s'.Erroneous a r ∨ ext.judges = some (r, a) ∨
        (ext.removes = some a ∧ s'.identityOf.get a = none) := by
  by_cases ha : a = who
  . right
    right
    rw [hremove, ha, StorageMap.get_remove_self]
    exact ⟨hext, rfl⟩
  . left
    obtain ⟨id, username, hget, hmem⟩ := h
    refine ⟨id, username, ?_, hmem⟩
    rw [hremove, StorageMap.get_remove_of_ne _ ha, hget]

theorem Sorted.ne_of_free (h : Sorted judgements)
    (hfree : ∀ i, searchJudgement judgements registrar = .ok i →
      (judgementAt judgements i).isSticky = false)
    (hmem : (r, .erroneous) ∈ judgements.toList) : r ≠ registrar := by
  -- The judgement would have been found, and it is sticky.
  rintro rfl
  obtain ⟨i, hi⟩ := (exists_binarySearchByKey_ok h).mpr ⟨_, hmem, rfl⟩
  have hsticky := hfree i hi
  rw [h.judgementAt_of_mem hi hmem] at hsticky
  cases hsticky

theorem Effect.erroneous {a : T.AccountId} (he : Effect s ext s') (hs : s.Sorted)
    (h : s.Erroneous a r)
    : s'.Erroneous a r ∨ ext.judges = some (r, a) ∨
        (ext.removes = some a ∧ s'.identityOf.get a = none) := by
  cases he with
  | setIdentity stored =>
    left
    apply h.update stored rfl
    intro _ hmem
    exact List.mem_filter.mpr ⟨hmem, rfl⟩
  | newIdentity fresh => exact .inl (h.insert_fresh fresh rfl)
  | requestJudgement stored free put =>
    left
    apply h.update stored rfl
    intro _ hmem
    have hsorted := hs _ _ _ stored
    exact mem_putJudgement hsorted put hmem (hsorted.ne_of_free free hmem)
  | cancelRequest stored _ requested =>
    left
    apply h.update stored rfl
    intro _ hmem
    exact mem_remove_of_requested requested hmem Judgement.noConfusion
  | @provideJudgement _ _ _ _ _ registrar target _ _ _ _ signed lookup _ stored put =>
    by_cases hjudges : registrar = r ∧ target = a
    . obtain ⟨rfl, rfl⟩ := hjudges
      right
      left
      simp [Extrinsic.judges, signed, lookup]
    . left
      apply h.update stored rfl
      intro ha hmem
      apply mem_putJudgement (hs _ _ _ stored) put hmem
      intro hr
      exact hjudges ⟨hr.symm, ha.symm⟩
  | setPrimaryUsername _ stored => exact .inl (h.update stored rfl fun _ hmem => hmem)
  | grant _ _ _ _ _ named => exact .inl (h.named named rfl)
  | accept _ named => exact .inl (h.named named rfl)
  | clearIdentity cleared | killIdentity cleared => exact h.remove rfl cleared
  | reap => exact h.remove rfl rfl
  | _ => exact .inl h

/--
In every state of every run the judgements of an identity are sorted by their registrars. In every step
an erroneous judgement stays as it is, unless the registrar successfully gives another one to the account
or the identity of the account is removed.
-/
theorem run_disciplined (exts : List (Extrinsic T))
    : (machine T).Always State.Disciplined (State.genesis T) exts ∧
        (machine T).EveryStep ErroneousKept (State.genesis T) exts := by
  have hsorted : (machine T).Always State.Sorted (State.genesis T) exts := by
    apply Machine.always_invariant
    . intro s ext s' hs h
      exact (dispatch_effect h).sorted hs
    . intro who id username hget
      cases hget
  constructor
  . apply Machine.Always.imp _ hsorted
    intro s hs
    exact hs.disciplined
  . apply Machine.everyStep_of_always _ _ hsorted
    . intro s ext _ who registrar h
      exact .inl h
    . intro s ext s' hs hsucc who registrar h
      rcases (dispatch_effect hsucc).erroneous hs h with h | hjudges | hremoves
      . exact .inl h
      . exact .inr (.inl ⟨Machine.Succeeds.accepts hsucc, hjudges⟩)
      . exact .inr (.inr hremoves)

end Identity
