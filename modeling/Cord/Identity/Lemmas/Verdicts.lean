import Cord.Frame.History
import Cord.Identity.Lemmas.Judgements

/-!
This module contains what the judgements of an identity say: for every registrar what was said last, and
unless it is an outstanding request or erroneous it is about the information that is stored.
-/

open Frame

namespace Identity

variable {T : Config} {s s' : State T} {ext : Extrinsic T} {who registrar : T.AccountId}
  {id id' : Registration T} {username : Option (Username T)}

section Remarks

/--
What an accepted call says about the judgements of an account.
-/
inductive Remark (T : Config) where
  | informed (info : T.IdentityInformation)
  | requested (registrar : T.AccountId)
  | unrequested (registrar : T.AccountId)
  | judged (registrar : T.AccountId) (judgement : Judgement) (identity : T.Hash)
  | removed

def Remark.apply (remark : Remark T) (verdict : T.AccountId → Option Judgement)
    : T.AccountId → Option Judgement :=
  match remark with
  | .informed _ => fun registrar => (verdict registrar).filter Judgement.isSticky
  | .requested registrar => Function.update verdict registrar (some .requested)
  | .unrequested registrar => Function.update verdict registrar none
  | .judged registrar judgement _ => Function.update verdict registrar (some judgement)
  | .removed => fun _ => none

def verdict (remarks : List (Remark T)) : T.AccountId → Option Judgement :=
  remarks.foldl (fun verdict remark => remark.apply verdict) fun _ => none

@[simp]
theorem verdict_concat (remarks : List (Remark T)) (remark : Remark T)
    : verdict (remarks ++ [remark]) = remark.apply (verdict remarks) := by
  unfold verdict
  rw [List.foldl_concat]

def Extrinsic.remark? (ext : Extrinsic T) : Option (T.AccountId × Remark T) :=
  match ext with
  | .pallet origin _ (.setIdentity info) =>
    (T.ensureSigned origin).map fun sender => (sender, .informed info)
  | .pallet origin _ (.requestJudgement registrar) =>
    (T.ensureSigned origin).map fun sender => (sender, .requested registrar)
  | .pallet origin _ (.cancelRequest registrar) =>
    (T.ensureSigned origin).map fun sender => (sender, .unrequested registrar)
  | .pallet origin _ (.provideJudgement target judgement identity) => do
    let registrar ← T.ensureSigned origin
    let target ← T.lookup target
    return (target, .judged registrar judgement identity)
  | ext => ext.removes.map fun who => (who, .removed)

def Extrinsic.remarkOn (ext : Extrinsic T) (who : T.AccountId) : Option (Remark T) :=
  match ext.remark? with
  | some (target, remark) => if who = target then some remark else none
  | none => none

def remarkMade (who : T.AccountId) (s : State T) (ext : Extrinsic T) : List (Remark T) :=
  if (machine T).accepts s ext then (ext.remarkOn who).toList else []

def remarks (T : Config) (who : T.AccountId) (exts : List (Extrinsic T)) : List (Remark T) :=
  (machine T).collect (remarkMade who) (State.genesis T) exts

theorem remarkOn_self {remark : Remark T} (h : ext.remark? = some (who, remark))
    : ext.remarkOn who = some remark := by
  unfold Extrinsic.remarkOn
  rw [h]
  exact if_pos rfl

theorem remarkOn_of_ne {a : T.AccountId} {remark : Remark T}
    (h : ext.remark? = some (who, remark)) (ha : a ≠ who) : ext.remarkOn a = none := by
  unfold Extrinsic.remarkOn
  rw [h]
  exact if_neg ha

theorem remarkOn_of_none (h : ext.remark? = none) : ext.remarkOn who = none := by
  unfold Extrinsic.remarkOn
  rw [h]

end Remarks

section Steps

def State.registration (s : State T) (who : T.AccountId) : Option (Registration T) :=
  (s.identityOf.get who).map Prod.fst

/--
What is written to the registration of an account together with a remark. Without one it stays as it is, or
it is made up for a username.
-/
inductive Writes : Option (Remark T) → Option (Registration T) → Option (Registration T) → Prop where
  | keep {o : Option (Registration T)} : Writes none o o
  | named : Writes none none (some { judgements := .empty, info := T.defaultInformation })
  | informed {id : Registration T} {info : T.IdentityInformation}
      : Writes (some (.informed info)) (some id)
          (some { judgements := id.judgements.retain fun j => j.2.isSticky, info })
  | registered {info : T.IdentityInformation}
      : Writes (some (.informed info)) none (some { judgements := .empty, info })
  | requested {id : Registration T} {registrar : T.AccountId} {judgements : Judgements T}
      (put : putJudgement id.judgements registrar .requested = some judgements)
      : Writes (some (.requested registrar)) (some id) (some { id with judgements })
  | unrequested {id : Registration T} {registrar : T.AccountId} {pos : Nat}
      (found : searchJudgement id.judgements registrar = .ok pos)
      : Writes (some (.unrequested registrar)) (some id)
          (some { id with judgements := id.judgements.remove pos })
  | judged {id : Registration T} {registrar : T.AccountId} {judgement : Judgement}
      {judgements : Judgements T}
      (put : putJudgement id.judgements registrar judgement = some judgements)
      : Writes (some (.judged registrar judgement (T.hashOf id.info))) (some id)
          (some { id with judgements })
  | removed {o : Option (Registration T)} : Writes (some .removed) o none

theorem registration_of_get (h : s.identityOf.get who = some (id, username))
    : s.registration who = some id := by
  unfold State.registration
  rw [h]
  rfl

theorem registration_of_none (h : s.identityOf.get who = none) : s.registration who = none := by
  unfold State.registration
  rw [h]
  rfl

theorem registration_insert {a : T.AccountId}
    (h : s'.identityOf = s.identityOf.insert who (id, username))
    : s'.registration a = if a = who then some id else s.registration a := by
  unfold State.registration
  rw [h, StorageMap.get_insert]
  split
  . rfl
  . rfl

theorem registration_remove {a : T.AccountId} (h : s'.identityOf = s.identityOf.remove who)
    : s'.registration a = if a = who then none else s.registration a := by
  unfold State.registration
  rw [h, StorageMap.get_remove]
  split
  . rfl
  . rfl

theorem writes_of_insert {remark : Remark T} (hremark : ext.remark? = some (who, remark))
    (hinsert : s'.identityOf = s.identityOf.insert who (id, username))
    (hwrites : Writes (some remark) (s.registration who) (some id)) (a : T.AccountId)
    : Writes (ext.remarkOn a) (s.registration a) (s'.registration a) := by
  rw [registration_insert hinsert]
  split
  . next heq =>
    rw [heq, remarkOn_self hremark]
    exact hwrites
  . next hne =>
    rw [remarkOn_of_ne hremark hne]
    exact .keep

theorem writes_of_remove (hremark : ext.remark? = some (who, .removed))
    (hremove : s'.identityOf = s.identityOf.remove who) (a : T.AccountId)
    : Writes (ext.remarkOn a) (s.registration a) (s'.registration a) := by
  rw [registration_remove hremove]
  split
  . next heq =>
    rw [heq, remarkOn_self hremark]
    exact .removed
  . next hne =>
    rw [remarkOn_of_ne hremark hne]
    exact .keep

theorem writes_of_eq (hremark : ext.remark? = none) (h : s'.identityOf = s.identityOf)
    (a : T.AccountId) : Writes (ext.remarkOn a) (s.registration a) (s'.registration a) := by
  unfold State.registration
  rw [remarkOn_of_none hremark, h]
  exact .keep

/-
A username leaves the registration alone.
-/
theorem writes_of_rename (hremark : ext.remark? = none)
    (hwrites : Writes none (s.registration who) (some id))
    (hinsert : s'.identityOf = s.identityOf.insert who (id, username)) (a : T.AccountId)
    : Writes (ext.remarkOn a) (s.registration a) (s'.registration a) := by
  rw [registration_insert hinsert, remarkOn_of_none hremark]
  split
  . next heq =>
    rw [heq]
    exact hwrites
  . exact .keep

theorem Named.writes {name primary : Username T} (h : Named s.identityOf who name id primary)
    : Writes none (s.registration who) (some id) := by
  cases h with
  | kept stored =>
    rw [registration_of_get stored]
    exact .keep
  | first stored =>
    rw [registration_of_get stored]
    exact .keep
  | fresh unnamed =>
    rw [registration_of_none unnamed]
    exact .named

end Steps

section Calls

variable {origin : T.Origin} {n : UInt32}

theorem setIdentity_writes {info : T.IdentityInformation}
    (h : Succeeds (setIdentity origin info) { s with blockNumber := n } () s') (a : T.AccountId)
    : Writes (Extrinsic.remarkOn (.pallet origin n (.setIdentity info)) a) (s.registration a)
        (s'.registration a) := by
  simp only [setIdentity, Succeeds.bind_iff, Succeeds.ensureOrigin_iff, Succeeds.get_iff, and_assoc,
    exists_and_left, exists_eq_left] at h
  obtain ⟨sender, hsigned, h⟩ := h
  have hremark : Extrinsic.remark? (.pallet origin n (.setIdentity info)) =
      some (sender, .informed info) := by
    rw [Extrinsic.remark?, hsigned]
    rfl
  cases hget : s.identityOf.get sender with
  | some identity =>
    obtain ⟨id, username⟩ := identity
    simp only [hget, Succeeds.bind_iff, insertIdentity_iff, depositEvent_iff, exists_eq_left,
      exists_const] at h
    subst h
    apply writes_of_insert hremark rfl
    rw [registration_of_get hget]
    exact .informed
  | none =>
    simp only [hget, Succeeds.bind_iff, insertIdentity_iff, depositEvent_iff, exists_eq_left,
      exists_const] at h
    subst h
    apply writes_of_insert hremark rfl
    rw [registration_of_none hget]
    exact .registered

theorem requestJudgement_writes
    (h : Succeeds (requestJudgement origin registrar) { s with blockNumber := n } () s')
    (a : T.AccountId)
    : Writes (Extrinsic.remarkOn (.pallet origin n (.requestJudgement registrar)) a)
        (s.registration a) (s'.registration a) := by
  simp only [requestJudgement, Succeeds.bind_iff, Succeeds.ensureOrigin_iff, Succeeds.get_iff,
    Succeeds.ensure_iff, Succeeds.okOr_iff, and_assoc, exists_and_left, exists_eq_left,
    exists_const] at h
  obtain ⟨sender, hsigned, _, ⟨id, username⟩, hstored, h⟩ := h
  have hremark : Extrinsic.remark? (.pallet origin n (.requestJudgement registrar)) =
      some (sender, .requested registrar) := by
    rw [Extrinsic.remark?, hsigned]
    rfl
  cases hsearch : searchJudgement id.judgements registrar with
  | ok i =>
    simp only [hsearch, Succeeds.bind_iff, Succeeds.ensure_iff, Succeeds.okOr_iff,
      insertIdentity_iff, depositEvent_iff, and_assoc, exists_and_left, exists_eq_left,
      exists_const] at h
    obtain ⟨_, judgements, hput, rfl⟩ := h
    apply writes_of_insert hremark rfl
    rw [registration_of_get hstored]
    exact .requested hput
  | error i =>
    simp only [hsearch, Succeeds.bind_iff, Succeeds.okOr_iff, insertIdentity_iff,
      depositEvent_iff, and_assoc, exists_and_left, exists_eq_left, exists_const] at h
    obtain ⟨judgements, hput, rfl⟩ := h
    apply writes_of_insert hremark rfl
    rw [registration_of_get hstored]
    exact .requested hput

theorem cancelRequest_writes
    (h : Succeeds (cancelRequest origin registrar) { s with blockNumber := n } () s')
    (a : T.AccountId)
    : Writes (Extrinsic.remarkOn (.pallet origin n (.cancelRequest registrar)) a)
        (s.registration a) (s'.registration a) := by
  simp only [cancelRequest, Succeeds.bind_iff, Succeeds.ensureOrigin_iff, Succeeds.get_iff,
    Succeeds.ensure_iff, Succeeds.okOr_iff, Succeeds.mapErr_iff, insertIdentity_iff,
    depositEvent_iff, and_assoc, exists_and_left, exists_eq_left, exists_const] at h
  obtain ⟨sender, hsigned, ⟨id, username⟩, hstored, pos, hfound, _, rfl⟩ := h
  have hremark : Extrinsic.remark? (.pallet origin n (.cancelRequest registrar)) =
      some (sender, .unrequested registrar) := by
    rw [Extrinsic.remark?, hsigned]
    rfl
  apply writes_of_insert hremark rfl
  rw [registration_of_get hstored]
  exact .unrequested hfound

theorem provideJudgement_writes {source : T.LookupSource} {judgement : Judgement}
    {identity : T.Hash}
    (h : Succeeds (provideJudgement origin source judgement identity)
      { s with blockNumber := n } () s') (a : T.AccountId)
    : Writes (Extrinsic.remarkOn (.pallet origin n (.provideJudgement source judgement identity)) a)
        (s.registration a) (s'.registration a) := by
  simp only [provideJudgement, Succeeds.bind_iff, Succeeds.ensureOrigin_iff, lookup_iff,
    Succeeds.get_iff, Succeeds.ensure_iff, Succeeds.okOr_iff, insertIdentity_iff, depositEvent_iff,
    and_assoc, exists_and_left, exists_eq_left, exists_const] at h
  obtain ⟨registrar, hsigned, target, hlookup, _, _, ⟨id, username⟩, hstored, rfl, judgements,
    hput, rfl⟩ := h
  have hremark : Extrinsic.remark?
      (.pallet origin n (.provideJudgement source judgement (T.hashOf id.info))) =
        some (target, .judged registrar judgement (T.hashOf id.info)) := by
    rw [Extrinsic.remark?, hsigned, hlookup]
    rfl
  apply writes_of_insert hremark rfl
  rw [registration_of_get hstored]
  exact .judged hput

theorem dispatch_pallet {call : Call T} (h : Succeeds (Extrinsic.dispatch (.pallet origin n call)) s () s')
    : Succeeds (call.dispatch origin) { s with blockNumber := n } () s' := by
  simpa only [Extrinsic.dispatch, Succeeds.bind_iff, Succeeds.modify_iff, exists_eq_left,
    exists_const] using h

theorem dispatch_writes (h : Succeeds ext.dispatch s () s') (a : T.AccountId)
    : Writes (ext.remarkOn a) (s.registration a) (s'.registration a) := by
  have heffect := dispatch_effect h
  cases heffect with
  | setIdentity | newIdentity => exact setIdentity_writes (dispatch_pallet h) a
  | requestJudgement => exact requestJudgement_writes (dispatch_pallet h) a
  | cancelRequest => exact cancelRequest_writes (dispatch_pallet h) a
  | provideJudgement => exact provideJudgement_writes (dispatch_pallet h) a
  | clearIdentity signed | killIdentity lookup =>
    apply writes_of_remove _ rfl
    simp_all [Extrinsic.remark?, Extrinsic.removes, Extrinsic.cleared]
  | reap => exact writes_of_remove rfl rfl a
  | setPrimaryUsername _ stored =>
    refine writes_of_rename rfl ?_ rfl a
    rw [registration_of_get stored]
    exact .keep
  | grant _ _ _ _ _ named | accept _ named => exact writes_of_rename rfl named.writes rfl a
  | _ => exact writes_of_eq rfl rfl a

end Calls

section Verdicts

variable {judgements judgements' : Judgements T} {r : T.AccountId} {j : Judgement}
  {v : T.AccountId → Option Judgement}

def Reads (judgements : Judgements T) (v : T.AccountId → Option Judgement) : Prop :=
  ∀ registrar j, (registrar, j) ∈ judgements.toList ↔ v registrar = some j

theorem reads_empty : Reads (.empty : Judgements T) fun _ => none := by
  intro registrar j
  rw [BoundedVec.toList_empty]
  exact iff_of_false List.not_mem_nil (Option.some_ne_none j).symm

theorem Reads.retain (h : Reads judgements v)
    : Reads (judgements.retain fun x => x.2.isSticky)
        fun registrar => (v registrar).filter Judgement.isSticky := by
  intro registrar j
  rw [BoundedVec.toList_retain, List.mem_filter, h, Option.filter_eq_some_iff]

theorem mem_of_mem_putJudgement (h : Sorted judgements)
    (hput : putJudgement judgements registrar j = some judgements') {x : T.AccountId × Judgement}
    (hx : x ∈ judgements'.toList) : x = (registrar, j) ∨ x ∈ judgements.toList := by
  unfold putJudgement at hput
  split at hput
  . obtain rfl := Option.some.inj hput
    exact mem_of_mem_modify hx
  . next hsearch =>
    rw [BoundedVec.tryFrom_eq_some.mp hput] at hx
    exact (List.mem_insertIdx (binarySearchByKey_error h hsearch).1).mp hx

theorem mem_putJudgement_self (h : Sorted judgements)
    (hput : putJudgement judgements registrar j = some judgements')
    : (registrar, j) ∈ judgements'.toList := by
  unfold putJudgement at hput
  split at hput
  . next i hsearch =>
    obtain ⟨j', hi⟩ := h.found hsearch
    obtain rfl := Option.some.inj hput
    rw [BoundedVec.toList_modify]
    apply List.mem_of_getElem?
    rw [List.getElem?_modify_eq, hi]
    rfl
  . next hsearch =>
    rw [BoundedVec.tryFrom_eq_some.mp hput,
      List.mem_insertIdx (binarySearchByKey_error h hsearch).1]
    exact .inl rfl

theorem Reads.put (h : Reads judgements v) (hsorted : Sorted judgements)
    (hput : putJudgement judgements registrar j = some judgements')
    : Reads judgements' (Function.update v registrar (some j)) := by
  intro r j'
  by_cases hr : r = registrar
  . subst hr
    rw [Function.update_self, Option.some.injEq]
    constructor
    . intro hmem
      exact (hsorted.putJudgement hput).unique (mem_putJudgement_self hsorted hput) hmem
    . rintro rfl
      exact mem_putJudgement_self hsorted hput
  . rw [Function.update_of_ne hr, ← h]
    constructor
    . intro hmem
      rcases mem_of_mem_putJudgement hsorted hput hmem with heq | hmem
      . exact absurd (congrArg Prod.fst heq) hr
      . exact hmem
    . intro hmem
      exact mem_putJudgement hsorted hput hmem hr

theorem Reads.remove (h : Reads judgements v) (hsorted : Sorted judgements) {pos : Nat}
    (hfound : searchJudgement judgements registrar = .ok pos)
    : Reads (judgements.remove pos) (Function.update v registrar none) := by
  intro r j
  rw [BoundedVec.toList_remove, mem_eraseIdx_of_search hsorted hfound, h]
  by_cases hr : r = registrar
  . subst hr
    rw [Function.update_self]
    exact iff_of_false (fun hmem => hmem.2 rfl) (Option.some_ne_none j).symm
  . rw [Function.update_of_ne hr]
    exact and_iff_left hr

def judgementsOf (o : Option (Registration T)) : Judgements T :=
  match o with
  | some id => id.judgements
  | none => .empty

def Current (id : Registration T) (remarks : List (Remark T)) : Prop :=
  ∀ registrar j, (registrar, j) ∈ id.judgements.toList → j.isSticky = false →
    .judged registrar j (T.hashOf id.info) ∈ remarks

/--
What the judgements in a registration are by the remarks on it.
-/
structure Judged (o : Option (Registration T)) (remarks : List (Remark T)) : Prop where
  sorted : Sorted (judgementsOf o)
  reads : Reads (judgementsOf o) (verdict remarks)
  current : ∀ id, o = some id → Current id remarks

variable {o o' : Option (Registration T)} {remarks : List (Remark T)} {remark : Remark T}

theorem Judged.concat (hsorted : Sorted id.judgements)
    (hreads : Reads id.judgements (remark.apply (verdict remarks)))
    (hcurrent : Current id (remarks ++ [remark])) : Judged (some id) (remarks ++ [remark]) where
  sorted := hsorted
  reads := by
    rw [verdict_concat]
    exact hreads
  current id' hid' := by
    obtain rfl := Option.some.inj hid'
    exact hcurrent

theorem current_empty {info : T.IdentityInformation}
    : Current { judgements := .empty, info } remarks := by
  intro registrar j hmem
  cases hmem

/-
The judgement that is put is about the information that is stored, or it is sticky.
-/
theorem Judged.put {judgement : Judgement} (h : Judged (some id) remarks)
    (hput : putJudgement id.judgements registrar judgement = some judgements)
    (happly : ∀ v, remark.apply v = Function.update v registrar (some judgement))
    (hremark : judgement.isSticky = false →
      remark = .judged registrar judgement (T.hashOf id.info))
    : Judged (some { id with judgements }) (remarks ++ [remark]) := by
  have hsorted : Sorted id.judgements := h.sorted
  apply Judged.concat
  . exact hsorted.putJudgement hput
  . rw [happly]
    exact h.reads.put hsorted hput
  . intro r j hmem hsticky
    rcases mem_of_mem_putJudgement hsorted hput hmem with heq | hmem
    . cases heq
      rw [hremark hsticky]
      exact List.mem_concat_self
    . exact List.mem_append_left _ (h.current id rfl r j hmem hsticky)

theorem Judged.writes {remark? : Option (Remark T)} (h : Judged o remarks)
    (hwrites : Writes remark? o o') : Judged o' (remarks ++ remark?.toList) := by
  have hsorted := h.sorted
  have hreads := h.reads
  cases hwrites with
  | keep =>
    rw [Option.toList_none, List.append_nil]
    exact h
  | named =>
    rw [Option.toList_none, List.append_nil]
    refine ⟨sorted_empty, hreads, ?_⟩
    intro id hid
    obtain rfl := Option.some.inj hid
    exact current_empty
  | informed =>
    apply Judged.concat (hsorted.retain _) hreads.retain
    intro registrar j hmem hsticky
    have hkept := (List.mem_filter.mp hmem).2
    rw [hsticky] at hkept
    cases hkept
  | registered => exact .concat sorted_empty hreads.retain current_empty
  | requested put =>
    apply h.put put fun _ => rfl
    intro hsticky
    cases hsticky
  | unrequested found =>
    apply Judged.concat (hsorted.remove _) (hreads.remove hsorted found)
    intro registrar j hmem hsticky
    have hkept := ((mem_eraseIdx_of_search hsorted found).mp hmem).1
    exact List.mem_append_left _ (h.current _ rfl registrar j hkept hsticky)
  | judged put => exact h.put put (fun _ => rfl) fun _ => rfl
  | removed =>
    refine ⟨sorted_empty, ?_, nofun⟩
    rw [Option.toList_some, verdict_concat]
    exact reads_empty

theorem remarkMade_of_rejected (h : (machine T).accepts s ext = false)
    : remarkMade who s ext = [] := by
  rw [remarkMade, h]
  rfl

def State.Judged (who : T.AccountId) (s : State T) (remarks : List (Remark T)) : Prop :=
  Identity.Judged (s.registration who) remarks

theorem State.Judged.step (h : s.Judged who remarks)
    (hs : Succeeds ((machine T).dispatch ext) s () s')
    : s'.Judged who (remarks ++ remarkMade who s ext) := by
  rw [remarkMade, if_pos (Machine.Succeeds.accepts hs)]
  exact Identity.Judged.writes h (dispatch_writes hs who)

/--
A judgement is stored exactly if it is what its registrar was heard to say last, and unless it is sticky it
was said about the information that is stored.
-/
theorem run_verdicts (exts : List (Extrinsic T)) (who registrar : T.AccountId) (j : Judgement)
    : let o := ((machine T).run (State.genesis T) exts).registration who
      ((registrar, j) ∈ (judgementsOf o).toList ↔
          verdict (Identity.remarks T who exts) registrar = some j) ∧
        ∀ id, o = some id → (registrar, j) ∈ id.judgements.toList → j.isSticky = false →
          .judged registrar j (T.hashOf id.info) ∈ Identity.remarks T who exts := by
  have hgenesis : State.Judged who (State.genesis T) [] :=
    ⟨sorted_empty, reads_empty, nofun⟩
  have hjudged : State.Judged who _ ([] ++ Identity.remarks T who exts) :=
    Machine.collect_invariant (I := State.Judged who) (fun _ _ => remarkMade_of_rejected)
      (fun _ _ _ _ => State.Judged.step) hgenesis
  exact ⟨hjudged.reads registrar j, fun id ho => hjudged.current id ho registrar j⟩

end Verdicts

end Identity
