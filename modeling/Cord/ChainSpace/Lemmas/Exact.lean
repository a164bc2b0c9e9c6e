import Cord.ChainSpace.Impl.Checked
import Cord.ChainSpace.Lemmas.Steps

/-!
This module contains when the arithmetic of capacities is exact. The calls with overflow checks do what
the calls without them do unless they overflow, and when that happens is a matter of the counters that are
stored and of the new capacity.
-/

open Frame Identifier

namespace ChainSpace

variable {T : Config} {s s' : State T} {origin : T.Origin}

theorem updateParentReserve_checks (parent : T.Ss58Identifier) (p d : SpaceDetails T)
    (newTxnCapacity : UInt64)
    : Checks (updateParentReserve parent p d newTxnCapacity)
        (Checked.updateParentReserve parent p d newTxnCapacity) := by
  unfold updateParentReserve Checked.updateParentReserve
  apply Checks.add
  apply Checks.add
  apply Checks.sub
  apply Checks.bind (.lift _)
  intro _
  apply Checks.sub
  apply Checks.add
  apply Checks.lift

theorem dispatchChecked_checks (call : Call T) (origin : T.Origin)
    : Checks (call.dispatch origin) (call.dispatchChecked origin) := by
  -- The two follow the same path, an operation of the checked one is an operand of the other.
  cases call with
  | updateTransactionCapacity spaceId newTxnCapacity =>
    apply Checks.lift_bind
    intro _
    apply Checks.lift_bind
    intro d
    apply Checks.lift_bind
    intro _
    apply Checks.lift_bind
    intro _
    apply Checks.add
    apply Checks.lift_bind
    intro _
    apply Checks.ite
    . apply Checks.lift_bind
      intro p
      apply Checks.bind (updateParentReserve_checks _ _ _ _)
      intro _
      apply Checks.lift
    . apply Checks.lift
  | updateTransactionCapacitySub spaceId newTxnCapacity =>
    apply Checks.lift_bind
    intro _
    apply Checks.lift_bind
    intro d
    apply Checks.lift_bind
    intro _
    apply Checks.lift_bind
    intro _
    apply Checks.add
    apply Checks.lift_bind
    intro _
    apply Checks.lift_bind
    intro _
    apply Checks.lift_bind
    intro p
    apply Checks.lift_bind
    intro _
    apply Checks.bind (updateParentReserve_checks _ _ _ _)
    intro _
    apply Checks.lift
  | subspaceCreate spaceCode count spaceId =>
    apply Checks.lift_bind
    intro _
    apply Checks.lift_bind
    intro d
    apply Checks.lift_bind
    intro _
    apply Checks.lift_bind
    intro _
    apply Checks.lift_bind
    intro _
    apply Checks.lift_bind
    intro value
    apply Checks.add
    apply Checks.sub
    apply Checks.lift_bind
    intro _
    apply Checks.lift_bind
    intro ids
    apply Checks.add
    apply Checks.add
    apply Checks.lift
  | _ => apply Checks.lift

section Fits

variable {spaceId : T.Ss58Identifier} {d p : SpaceDetails T} {newTxnCapacity : UInt64}

/--
The new capacity of a sub space can be computed with: it does not take the usage of the parent beyond 64
bits, and the parent has reserved what the sub space has so far.
-/
def SpaceDetails.Affords (p d : SpaceDetails T) (newTxnCapacity : UInt64) : Prop :=
  p.txnCount.toNat + p.txnReserve.toNat + newTxnCapacity.toNat < 2 ^ 64 ∧
    d.txnCapacity.toNat ≤ p.txnCount.toNat + p.txnReserve.toNat + newTxnCapacity.toNat ∧
    (p.txnCount.toNat + p.txnReserve.toNat + newTxnCapacity.toNat ≤
        p.txnCapacity.toNat + d.txnCapacity.toNat →
      d.txnCapacity.toNat ≤ p.txnReserve.toNat)

theorem updateParentReserve_overflows
    : Overflows (Checked.updateParentReserve spaceId p d newTxnCapacity) s ↔
        ¬ p.Affords d newTxnCapacity := by
  simp only [Checked.updateParentReserve, Overflows.addChecked_bind, Overflows.subChecked_bind,
    Overflows.lift_bind, Overflows.liftChecked_iff, Succeeds.ensure_iff, ge_iff_le,
    UInt64.le_iff_toNat_le, and_assoc, exists_and_left, exists_eq_left, exists_const,
    imp_false, SpaceDetails.Affords]
  by_cases hsum : p.txnCount.toNat + p.txnReserve.toNat + newTxnCapacity.toNat < 2 ^ 64
  . have husage : (p.txnCount + p.txnReserve).toNat = p.txnCount.toNat + p.txnReserve.toNat := by
      apply toNat_add_of_lt
      omega
    have hnew : (p.txnCount + p.txnReserve + newTxnCapacity).toNat =
        p.txnCount.toNat + p.txnReserve.toNat + newTxnCapacity.toNat := by
      rw [← husage]
      apply toNat_add_of_lt
      omega
    rw [husage, hnew]
    by_cases hle : d.txnCapacity.toNat ≤
        p.txnCount.toNat + p.txnReserve.toNat + newTxnCapacity.toNat
    . rw [toNat_sub_of_le (by rw [hnew]; exact hle), hnew]
      by_cases hreserve : d.txnCapacity.toNat ≤ p.txnReserve.toNat
      . have hmoved := toNat_sub_of_le hreserve
        rw [hmoved]
        omega
      . omega
    . omega
  . have husage : (p.txnCount + p.txnReserve).toNat =
        (p.txnCount.toNat + p.txnReserve.toNat) % 2 ^ 64 := UInt64.toNat_add _ _
    rw [husage]
    omega

def SpaceDetails.UsageFits (d : SpaceDetails T) : Prop :=
  d.txnCount.toNat + d.txnReserve.toNat < 2 ^ 64

def Anchors (spaces : StorageMap T.Ss58Identifier (SpaceDetails T)) (spaceCode : T.Hash)
    (creator : T.SpaceCreatorId) : Prop :=
  ∃ identifier authorizationId, spaceIdentifier T spaceCode creator = some identifier ∧
    spaces.get identifier = none ∧
    authorizationIdentifier T identifier creator creator = some authorizationId ∧
    0 < T.maxSpaceDelegates

def Call.Fits (call : Call T) (origin : T.Origin)
    (spaces : StorageMap T.Ss58Identifier (SpaceDetails T)) : Prop :=
  match call with
  | .updateTransactionCapacity spaceId newTxnCapacity =>
    ∀ d ∈ spaces.get spaceId, (T.chainSpaceOrigin origin).isSome → d.archive = false →
      d.approved = true →
        d.UsageFits ∧
          (d.txnCount.toNat + d.txnReserve.toNat ≤ newTxnCapacity.toNat → spaceId ≠ d.parent →
            ∀ p ∈ spaces.get d.parent, p.Affords d newTxnCapacity)
  | .updateTransactionCapacitySub spaceId newTxnCapacity =>
    ∀ d ∈ spaces.get spaceId, ∀ creator ∈ T.ensureOrigin origin, d.archive = false →
      d.approved = true →
        d.UsageFits ∧
          (d.txnCount.toNat + d.txnReserve.toNat ≤ newTxnCapacity.toNat → spaceId ≠ d.parent →
            ∀ p ∈ spaces.get d.parent, p.creator = creator → p.Affords d newTxnCapacity)
  | .subspaceCreate spaceCode count spaceId =>
    ∀ d ∈ spaces.get spaceId, ∀ creator ∈ T.ensureOrigin origin, d.archive = false →
      d.approved = true → d.creator = creator → ∀ value ∈ subspaceCapacity T count,
        d.txnCount.toNat + d.txnReserve.toNat ≤ d.txnCapacity.toNat ∧
          (d.txnCount.toNat + d.txnReserve.toNat + value.toNat ≤ d.txnCapacity.toNat →
            Anchors spaces spaceCode creator → d.txnCount.toNat + 1 < 2 ^ 64)
  | _ => True

theorem updateTransactionCapacity_overflows
    : Overflows (Checked.updateTransactionCapacity origin spaceId newTxnCapacity) s ↔
        ¬ (Call.updateTransactionCapacity spaceId newTxnCapacity).Fits origin s.spaces := by
  simp only [Checked.updateTransactionCapacity, Overflows.addChecked_bind, Overflows.lift_bind,
    Overflows.bind_lift, Overflows.ite_iff, Overflows.liftChecked_iff,
    updateParentReserve_overflows, Succeeds.ensureOrigin_iff, getSpace_iff, Succeeds.ensure_iff,
    ge_iff_le, Bool.not_eq_true', UInt64.le_iff_toNat_le, and_assoc, exists_and_left,
    exists_eq_left, exists_const, and_false, or_false, Call.Fits]
  constructor
  . rintro ⟨u, horigin, d, hd, harchive, happroved, hover⟩ hfits
    obtain ⟨husage, hparent⟩ := hfits d hd (by rw [horigin]; rfl) harchive happroved
    obtain ⟨hle, hsub, p, hp, hnot⟩ := hover husage
    rw [toNat_add_of_lt husage] at hle
    exact hnot (hparent hle hsub p hp)
  . intro h
    push Not at h
    obtain ⟨d, hd, horigin, harchive, happroved, hnot⟩ := h
    obtain ⟨u, hu⟩ := Option.isSome_iff_exists.mp horigin
    refine ⟨u, hu, d, hd, harchive, happroved, ?_⟩
    intro husage
    rw [toNat_add_of_lt husage]
    exact hnot husage

theorem updateTransactionCapacitySub_overflows
    : Overflows (Checked.updateTransactionCapacitySub origin spaceId newTxnCapacity) s ↔
        ¬ (Call.updateTransactionCapacitySub spaceId newTxnCapacity).Fits origin s.spaces := by
  simp only [Checked.updateTransactionCapacitySub, Overflows.addChecked_bind, Overflows.lift_bind,
    Overflows.bind_lift, updateParentReserve_overflows, Succeeds.ensureOrigin_iff, getSpace_iff,
    Succeeds.ensure_iff, ge_iff_le, Bool.not_eq_true', UInt64.le_iff_toNat_le, and_assoc,
    exists_and_left, exists_eq_left, exists_const, Call.Fits]
  constructor
  . rintro ⟨creator, horigin, d, hd, harchive, happroved, hover⟩ hfits
    obtain ⟨husage, hparent⟩ := hfits d hd creator horigin harchive happroved
    obtain ⟨hle, hsub, p, hp, hcreator, hnot⟩ := hover husage
    rw [toNat_add_of_lt husage] at hle
    exact hnot (hparent hle hsub.symm p hp hcreator)
  . intro h
    push Not at h
    obtain ⟨d, hd, creator, horigin, harchive, happroved, hnot⟩ := h
    refine ⟨creator, horigin, d, hd, harchive, happroved, ?_⟩
    intro husage
    obtain ⟨hle, hsub, hparent⟩ := hnot husage
    rw [toNat_add_of_lt husage]
    exact ⟨hle, hsub.symm, hparent⟩

theorem anchorSpace_succeeds_iff {spaceCode : T.Hash} {creator : T.SpaceCreatorId}
    : (∃ ids t, Succeeds (anchorSpace spaceCode creator) s ids t) ↔
        Anchors s.spaces spaceCode creator := by
  simp only [anchorSpace, Succeeds.bind_iff, Succeeds.ensure_iff, Succeeds.okOr_iff,
    Succeeds.get_iff, insertDelegates_iff, insertAuthorization_iff, Succeeds.pure_iff,
    Bool.not_eq_true', StorageMap.containsKey_eq_false_iff, and_assoc, exists_and_left,
    exists_eq_left, exists_const]
  constructor
  . rintro ⟨_, _, identifier, hid, hfresh, authorizationId, hauth, delegates, hpush, _⟩
    have hlt := (BoundedVec.tryPush_eq_some hpush).2
    exact ⟨identifier, authorizationId, hid, hfresh, hauth, hlt⟩
  . rintro ⟨identifier, authorizationId, hid, hfresh, hauth, hlt⟩
    exact ⟨_, _, identifier, hid, hfresh, authorizationId, hauth, _, dif_pos hlt, rfl, rfl⟩

theorem SpaceDetails.allots_overflows {value : UInt64} {anchors : Prop}
    : (d.txnCount.toNat + d.txnReserve.toNat < 2 ^ 64 →
        (d.txnCount + d.txnReserve).toNat ≤ d.txnCapacity.toNat →
          value.toNat ≤ (d.txnCapacity - (d.txnCount + d.txnReserve)).toNat ∧ anchors ∧
            (d.txnCount.toNat + UInt64.toNat 1 < 2 ^ 64 →
              d.txnReserve.toNat + value.toNat < 2 ^ 64 → False)) ↔
      ¬ (d.txnCount.toNat + d.txnReserve.toNat ≤ d.txnCapacity.toNat ∧
        (d.txnCount.toNat + d.txnReserve.toNat + value.toNat ≤ d.txnCapacity.toNat → anchors →
          d.txnCount.toNat + 1 < 2 ^ 64)) := by
  have hcapacity := UInt64.toNat_lt d.txnCapacity
  have hone : UInt64.toNat 1 = 1 := rfl
  by_cases hle : d.txnCount.toNat + d.txnReserve.toNat ≤ d.txnCapacity.toNat
  . have husage : (d.txnCount + d.txnReserve).toNat = d.txnCount.toNat + d.txnReserve.toNat := by
      apply toNat_add_of_lt
      omega
    rw [toNat_sub_of_le (by rw [husage]; exact hle), husage, hone]
    by_cases hanchors : anchors
    . simp only [hanchors, true_and, true_implies, imp_false]
      omega
    . simp only [hanchors, false_and, and_false, false_implies, implies_true, and_true, imp_false]
      omega
  . apply iff_of_true
    . intro hlt hle'
      rw [toNat_add_of_lt hlt] at hle'
      exact absurd hle' hle
    . intro h
      exact hle h.1

theorem subspaceCreate_overflows {spaceCode : T.Hash} {count : Option UInt64}
    : Overflows (Checked.subspaceCreate origin spaceCode count spaceId) s ↔
        ¬ (Call.subspaceCreate spaceCode count spaceId).Fits origin s.spaces := by
  simp only [Checked.subspaceCreate, Overflows.addChecked_bind, Overflows.subChecked_bind,
    Overflows.lift_bind, Overflows.liftChecked_iff, Succeeds.ensureOrigin_iff, getSpace_iff,
    Succeeds.ensure_iff, Succeeds.okOr_iff, Bool.not_eq_true', UInt64.le_iff_toNat_le, and_assoc,
    exists_and_left, exists_eq_left, exists_const, exists_and_right, anchorSpace_succeeds_iff,
    SpaceDetails.allots_overflows, Call.Fits]
  constructor
  . rintro ⟨creator, horigin, d, hd, harchive, happroved, hcreator, value, hvalue, hover⟩ hfits
    exact hover (hfits d hd creator horigin harchive happroved hcreator value hvalue)
  . intro h
    push Not at h
    obtain ⟨d, hd, creator, horigin, harchive, happroved, hcreator, value, hvalue, hnot⟩ := h
    refine ⟨creator, horigin, d, hd, harchive, happroved, hcreator, value, hvalue, ?_⟩
    push Not
    exact hnot

theorem dispatchChecked_overflows {call : Call T}
    : Overflows (call.dispatchChecked origin) s ↔ ¬ call.Fits origin s.spaces := by
  cases call with
  | updateTransactionCapacity => exact updateTransactionCapacity_overflows
  | updateTransactionCapacitySub => exact updateTransactionCapacitySub_overflows
  | subspaceCreate => exact subspaceCreate_overflows
  | _ =>
    apply iff_of_false
    . exact Overflows.liftChecked_iff.mp
    . intro h
      exact h trivial

end Fits

def Call.WithinLeft (spaces : StorageMap T.Ss58Identifier (SpaceDetails T)) : Call T → Prop
  | .updateTransactionCapacity spaceId newTxnCapacity
  | .updateTransactionCapacitySub spaceId newTxnCapacity =>
    -- What the sub space has so far is left as well.
    ∀ d ∈ spaces.get spaceId, spaceId ≠ d.parent → ∀ p ∈ spaces.get d.parent,
      p.txnCount.toNat + p.txnReserve.toNat + newTxnCapacity.toNat ≤
        p.txnCapacity.toNat + d.txnCapacity.toNat
  | .subspaceCreate _ count spaceId =>
    ∀ d ∈ spaces.get spaceId, ∀ value ∈ subspaceCapacity T count,
      d.txnCount.toNat + d.txnReserve.toNat + value.toNat ≤ d.txnCapacity.toNat
  | _ => True

theorem updateParentReserve_withinLeft {parent : T.Ss58Identifier} {p d : SpaceDetails T}
    {newTxnCapacity : UInt64} {u : Unit}
    (h : Succeeds (Checked.updateParentReserve parent p d newTxnCapacity) s u s')
    : p.txnCount.toNat + p.txnReserve.toNat + newTxnCapacity.toNat ≤
        p.txnCapacity.toNat + d.txnCapacity.toNat := by
  simp only [Checked.updateParentReserve, Succeeds.bind_iff, Succeeds.addChecked_iff,
    Succeeds.subChecked_iff, Succeeds.liftChecked_iff, Succeeds.ensure_iff, ge_iff_le,
    UInt64.le_iff_toNat_le, and_assoc, exists_and_left, exists_eq_left, exists_const] at h
  obtain ⟨hsum, hnew, hle, hguard, _⟩ := h
  rw [toNat_sub_of_le hle] at hguard
  rw [toNat_add_of_lt hnew, toNat_add_of_lt hsum] at hguard hle
  omega

theorem dispatchChecked_withinLeft {call : Call T}
    (h : Succeeds (call.dispatchChecked origin) s () s') : call.WithinLeft s.spaces := by
  cases call with
  | updateTransactionCapacity spaceId newTxnCapacity =>
    simp only [Call.dispatchChecked, Checked.updateTransactionCapacity, Succeeds.bind_iff,
      Succeeds.liftChecked_iff, Succeeds.addChecked_iff, Succeeds.ensureOrigin_iff, getSpace_iff,
      Succeeds.ensure_iff, Succeeds.ite_iff, and_assoc, exists_and_left, exists_eq_left,
      exists_const] at h
    obtain ⟨_, _, d, hd, _, _, _, _, hrest⟩ := h
    simp only [Call.WithinLeft, hd, Option.mem_def, Option.some.injEq, forall_eq']
    rcases hrest with ⟨_, p, hp, _, t, hreserve, _⟩ | ⟨htop, _⟩
    . simp only [hp, Option.some.injEq, forall_eq']
      intro _
      exact updateParentReserve_withinLeft hreserve
    . intro hsub
      exact absurd hsub htop
  | updateTransactionCapacitySub spaceId newTxnCapacity =>
    simp only [Call.dispatchChecked, Checked.updateTransactionCapacitySub, Succeeds.bind_iff,
      Succeeds.liftChecked_iff, Succeeds.addChecked_iff, Succeeds.ensureOrigin_iff, getSpace_iff,
      Succeeds.ensure_iff, and_assoc, exists_and_left, exists_eq_left, exists_const] at h
    obtain ⟨_, _, d, hd, _, _, _, _, _, p, hp, _, _, t, hreserve, _⟩ := h
    simp only [Call.WithinLeft, hd, hp, Option.mem_def, Option.some.injEq, forall_eq']
    intro _
    exact updateParentReserve_withinLeft hreserve
  | subspaceCreate spaceCode count spaceId =>
    simp only [Call.dispatchChecked, Checked.subspaceCreate, Succeeds.bind_iff,
      Succeeds.liftChecked_iff, Succeeds.addChecked_iff, Succeeds.subChecked_iff,
      Succeeds.ensureOrigin_iff, getSpace_iff, Succeeds.ensure_iff, Succeeds.okOr_iff,
      UInt64.le_iff_toNat_le, and_assoc, exists_and_left, exists_eq_left, exists_const] at h
    obtain ⟨_, _, d, hd, _, _, _, value, hvalue, hsum, hle, hguard, _⟩ := h
    simp only [Call.WithinLeft, hd, hvalue, Option.mem_def, Option.some.injEq, forall_eq']
    rw [toNat_sub_of_le hle] at hguard
    rw [toNat_add_of_lt hsum] at hguard hle
    omega
  | _ => trivial

def Extrinsic.Exact (ext : Extrinsic T) (s : State T) : Prop :=
  ¬ Overflows (ext.call.dispatchChecked ext.origin) { s with timepoint := ext.timepoint }

theorem Extrinsic.exact_iff {ext : Extrinsic T}
    : ext.Exact s ↔ ext.call.Fits ext.origin s.spaces := by
  unfold Extrinsic.Exact
  rw [dispatchChecked_overflows, not_not]

theorem Extrinsic.Exact.withinLeft {ext : Extrinsic T} (h : ext.Exact s)
    (hs : Succeeds ((machine T).dispatch ext) s () s') : ext.call.WithinLeft s.spaces := by
  have hcall := Extrinsic.dispatch_iff.mp hs
  have hchecked := (dispatchChecked_checks ext.call ext.origin _ h () s').mpr hcall
  exact dispatchChecked_withinLeft (s := { s with timepoint := ext.timepoint }) hchecked

/--
No operation of a run wraps around, and no call of it is accepted that allots more than is left, exactly
if the counters and the new capacities that its calls find fit each other.
-/
theorem run_exact_iff (exts : List (Extrinsic T))
    : (machine T).EveryStep
        (fun s ext _ => ext.Exact s ∧
          ((machine T).accepts s ext = true → ext.call.WithinLeft s.spaces))
        (State.genesis T) exts
        ↔
      (machine T).EveryStep (fun s ext _ => ext.call.Fits ext.origin s.spaces) (State.genesis T)
        exts := by
  apply Machine.everyStep_congr (J := fun _ => True)
  . intros
    trivial
  . intro s ext _
    rw [← Extrinsic.exact_iff]
    constructor
    . intro h
      exact h.1
    . intro h
      refine ⟨h, ?_⟩
      intro haccepts
      exact h.withinLeft (Machine.accepts_iff.mp haccepts)
  . trivial

section Plain

def allottedTen : List (Extrinsic .plain) := [
    -- A space with capacity 100 that allots 10 of it to a sub space.
    plainExtrinsic (some 1) (.create [10]),
    plainExtrinsic none (.approve (plainSpace 10 1) 100),
    plainExtrinsic (some 1) (.subspaceCreate [11] (some 10) (plainSpace 10 1))
  ]

def raiseBeyond : Extrinsic .plain :=
  plainExtrinsic (some 1) (.updateTransactionCapacitySub (plainSpace 11 1) 0xFFFFFFFFFFFFFFFF)

theorem raiseBeyond_not_exact
    : ¬ ∀ exts : List (Extrinsic .plain),
        (machine .plain).EveryStep
          (fun s ext _ => ext.Exact s ∧
            ((machine .plain).accepts s ext = true → ext.call.WithinLeft s.spaces))
          (State.genesis .plain) exts := by
  intro h
  have hlast := Machine.EveryStep.last (h (allottedTen ++ [raiseBeyond]))
  have hwithin := hlast.2 (by decide +kernel)
    ⟨[11], 1, 10, 0, 0, true, false, plainSpace 10 1⟩ (by decide +kernel) (by decide)
    ⟨[10], 1, 100, 10, 1, true, false, plainSpace 10 1⟩ (by decide +kernel)
  revert hwithin
  decide

end Plain

end ChainSpace
