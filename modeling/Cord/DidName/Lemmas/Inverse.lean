import Cord.DidName.Impl.Calls
import Cord.Frame.Inverse

/-!
This module contains that the names and their owners are inverse to each other, that a banned name has
no owner, and that therefore the owner of a name that is taken back is always found.
-/

open Frame

namespace DidName

variable {T : Config} {s s' : State T} {u : Unit} {origin : T.Origin}

@[simp]
theorem depositEvent_iff {event : Event T}
    : Succeeds (depositEvent event) s u s' ↔ s' = { s with events := s.events ++ [event] } := by
  simp [depositEvent]

@[simp]
theorem fails_depositEvent_iff {event : Event T} {e : DispatchError Failure}
    : Fails (depositEvent event) s e ↔ False := by
  simp [depositEvent]

/--
What a call has done to the storage of the pallet.
-/
inductive NameStep (s s' : State T) : Prop where
  | register {owner : T.DidNameOwner} {name : T.Name} (hunnamed : s.names.get owner = none)
      (hunowned : s.owner.get name = none) (hallowed : s.banned.get name = none)
      (hnames : s'.names = s.names.insert owner name)
      (howner : s'.owner = s.owner.insert name { owner, registeredAt := s.blockNumber })
      (hbanned : s'.banned = s.banned)
  | release {name : T.Name} {ownership : DidNameOwnership T} (howned : s.owner.get name = some ownership)
      (hnames : s'.names = s.names.remove ownership.owner)
      (howner : s'.owner = s.owner.remove name)
      (hbanned : s'.banned = s.banned)
  | ban {name : T.Name} (hunowned : s.owner.get name = none) (hnames : s'.names = s.names)
      (howner : s'.owner = s.owner) (hbanned : s'.banned = s.banned.insert name ())
  | banOwned {name : T.Name} {ownership : DidNameOwnership T}
      (howned : s.owner.get name = some ownership)
      (hnames : s'.names = s.names.remove ownership.owner)
      (howner : s'.owner = s.owner.remove name)
      (hbanned : s'.banned = s.banned.insert name ())
  | unban {name : T.Name} (hnames : s'.names = s.names) (howner : s'.owner = s.owner)
      (hbanned : s'.banned = s.banned.remove name)

@[simp]
theorem unregisterName_iff {name : T.Name} {ownership : DidNameOwnership T}
    : Succeeds (unregisterName name) s ownership s' ↔
        s.owner.get name = some ownership ∧
          s' =
            {
              s with
              owner := s.owner.remove name
              names := s.names.remove ownership.owner
            } := by
  simp only [unregisterName, Succeeds.bind_iff, Succeeds.get_iff, Succeeds.okOr_iff,
    Succeeds.modify_iff, Succeeds.pure_iff, and_assoc, exists_and_left, exists_eq_left,
    exists_const]
  constructor
  . rintro ⟨ownership', hget, rfl, rfl⟩
    exact ⟨hget, rfl⟩
  . rintro ⟨hget, rfl⟩
    exact ⟨ownership, hget, rfl, rfl⟩

@[simp]
theorem fails_unregisterName_iff {name : T.Name} {e : DispatchError Failure}
    : Fails (unregisterName name) s e ↔ s.owner.get name = none ∧ e = .module .panic := by
  simp only [unregisterName, Fails.bind_iff, Fails.get_iff, Fails.okOr_iff, Fails.modify_iff,
    Fails.pure_iff, Succeeds.get_iff, and_assoc, and_false, exists_false, exists_and_left,
    exists_eq_left, false_or, or_false]

theorem register_step {name : DidNameInput T} (h : Succeeds (register origin name) s () s')
    : NameStep s s' := by
  simp only [register, checkClaimingPreconditions, registerName, Succeeds.bind_iff,
    Succeeds.ensureOrigin_iff, Succeeds.mapErr_iff, Succeeds.get_iff, Succeeds.ensure_iff,
    Succeeds.pure_iff, Succeeds.modify_iff, depositEvent_iff, Bool.not_eq_true',
    StorageMap.containsKey_eq_false_iff, and_assoc, exists_and_left, exists_eq_left,
    exists_const] at h
  obtain ⟨owner, _, _, _, ⟨name, _, hunnamed, hunowned, hallowed, rfl, rfl⟩, rfl⟩ := h
  exact .register hunnamed hunowned hallowed rfl rfl rfl

theorem release_step (h : Succeeds (release origin) s () s') : NameStep s s' := by
  simp only [release, checkReleasingPreconditions, Succeeds.bind_iff, Succeeds.ensureOrigin_iff,
    Succeeds.get_iff, Succeeds.okOr_iff, unregisterName_iff, depositEvent_iff, and_assoc,
    exists_and_left, exists_eq_left] at h
  obtain ⟨owner, _, name, _, ownership, howned, rfl⟩ := h
  exact .release howned rfl rfl rfl

theorem ban_step {name : DidNameInput T} (h : Succeeds (ban origin name) s () s')
    : NameStep s s' := by
  simp only [ban, checkBanningPreconditions, banName, Succeeds.bind_iff, Succeeds.ensureOrigin_iff,
    Succeeds.mapErr_iff, Succeeds.get_iff, Succeeds.ensure_iff, Succeeds.pure_iff, and_assoc,
    exists_and_left, exists_eq_left, exists_const] at h
  obtain ⟨_, _, _, _, ⟨name, _, _, rfl, rfl⟩, h⟩ := h
  dsimp only at h
  rw [Succeeds.ite_iff] at h
  rcases h with ⟨_, h⟩ | ⟨hunclaimed, h⟩
  . simp only [Succeeds.bind_iff, unregisterName_iff, Succeeds.modify_iff, depositEvent_iff,
      and_assoc, exists_and_left, exists_eq_left, exists_const] at h
    obtain ⟨ownership, howned, rfl⟩ := h
    exact .banOwned howned rfl rfl rfl
  . simp only [Succeeds.bind_iff, Succeeds.modify_iff, depositEvent_iff, exists_eq_left,
      exists_const] at h
    rw [Bool.not_eq_true, StorageMap.containsKey_eq_false_iff] at hunclaimed
    subst h
    exact .ban hunclaimed rfl rfl rfl

theorem unban_step {name : DidNameInput T} (h : Succeeds (unban origin name) s () s')
    : NameStep s s' := by
  simp only [unban, checkUnbanningPreconditions, unbanName, Succeeds.bind_iff,
    Succeeds.ensureOrigin_iff, Succeeds.mapErr_iff, Succeeds.get_iff, Succeeds.ensure_iff,
    Succeeds.pure_iff, Succeeds.modify_iff, depositEvent_iff, and_assoc, exists_and_left,
    exists_eq_left, exists_const] at h
  obtain ⟨_, _, _, _, ⟨name, _, _, rfl, rfl⟩, rfl⟩ := h
  exact .unban rfl rfl rfl

theorem Call.dispatch_step {call : Call T} (h : Succeeds (call.dispatch origin) s () s')
    : NameStep s s' := by
  cases call with
  | register name => exact register_step h
  | release => exact release_step h
  | ban name => exact ban_step h
  | unban name => exact unban_step h

/--
The names and their owners are inverse to each other, and no owner has a banned name.
-/
structure State.Sound (s : State T) : Prop where
  inverse : s.names.Inverse DidNameOwnership.owner s.owner
  banned : ∀ name, s.banned.containsKey name = true → s.owner.get name = none

theorem NameStep.sound (h : NameStep s s') (hs : s.Sound) : s'.Sound := by
  cases h with
  | @register owner name hunnamed hunowned hallowed hnames howner hbanned =>
    constructor
    . rw [hnames, howner]
      exact hs.inverse.insert { owner, registeredAt := s.blockNumber } hunnamed hunowned
    . intro name' hname'
      rw [hbanned] at hname'
      rw [howner, StorageMap.get_insert_of_ne]
      . exact hs.banned name' hname'
      . rintro rfl
        rw [StorageMap.containsKey, hallowed] at hname'
        cases hname'
  | @release name ownership howned hnames howner hbanned =>
    constructor
    . rw [hnames, howner]
      exact hs.inverse.remove howned
    . intro name' hname'
      rw [hbanned] at hname'
      rw [howner, StorageMap.get_remove, hs.banned name' hname', ite_self]
  | @ban name hunowned hnames howner hbanned =>
    constructor
    . rw [hnames, howner]
      exact hs.inverse
    . intro name' hname'
      rw [hbanned, StorageMap.containsKey_insert] at hname'
      rw [howner]
      rcases hname' with rfl | hname'
      . exact hunowned
      . exact hs.banned name' hname'
  | @banOwned name ownership howned hnames howner hbanned =>
    constructor
    . rw [hnames, howner]
      exact hs.inverse.remove howned
    . intro name' hname'
      rw [hbanned, StorageMap.containsKey_insert] at hname'
      rw [howner]
      rcases hname' with rfl | hname'
      . exact StorageMap.get_remove_self ..
      . rw [StorageMap.get_remove, hs.banned name' hname', ite_self]
  | @unban name hnames howner hbanned =>
    constructor
    . rw [hnames, howner]
      exact hs.inverse
    . intro name' hname'
      rw [hbanned, StorageMap.containsKey_remove] at hname'
      rw [howner]
      exact hs.banned name' hname'.2

theorem run_sound (exts : List (Extrinsic T)) : ((machine T).run (State.genesis T) exts).Sound := by
  apply Machine.run_invariant
  . intro s ext s' hs h
    simp only [machine, Extrinsic.dispatch, Succeeds.bind_iff, Succeeds.modify_iff, exists_eq_left,
      exists_const] at h
    exact (Call.dispatch_step h).sound ⟨hs.inverse, hs.banned⟩
  . constructor
    . exact .empty
    . intro name h
      cases h

section NoPanic

theorem register_no_panic (name : DidNameInput T)
    : ¬ Fails (register origin name) s (.module .panic) := by
  simp [register, checkClaimingPreconditions, registerName]

theorem release_no_panic (hs : s.Sound) : ¬ Fails (release origin) s (.module .panic) := by
  have howned : ∀ owner, T.ensureOrigin origin = some owner → ∀ name, s.names.get owner = some name →
      ¬ s.owner.get name = none := by
    intro owner _ name hname
    obtain ⟨ownership, hget, _⟩ := (hs.inverse owner name).mp hname
    rw [hget]
    exact Option.some_ne_none _
  simpa [release, checkReleasingPreconditions] using howned

theorem ban_no_panic (name : DidNameInput T) : ¬ Fails (ban origin name) s (.module .panic) := by
  have hclaimed : ∀ u, T.banOrigin origin = some u → ∀ name', T.tryFrom name.toList = .ok name' →
      s.banned.containsKey name' = false → s.owner.containsKey name' = true →
      ¬ s.owner.get name' = none := by
    intro _ _ name' _ _ h
    obtain ⟨ownership, hget⟩ := Option.isSome_iff_exists.mp h
    rw [hget]
    exact Option.some_ne_none _
  simpa [ban, checkBanningPreconditions, banName, Fails.ite_iff] using hclaimed

theorem unban_no_panic (name : DidNameInput T)
    : ¬ Fails (unban origin name) s (.module .panic) := by
  simp [unban, checkUnbanningPreconditions, unbanName]

end NoPanic

theorem Call.dispatch_no_panic (hs : s.Sound) (call : Call T) (origin : T.Origin)
    : ¬ Fails (call.dispatch origin) s (.module .panic) := by
  cases call with
  | register name => exact register_no_panic name
  | release => exact release_no_panic hs
  | ban name => exact ban_no_panic name
  | unban name => exact unban_no_panic name

theorem Extrinsic.dispatch_no_panic (hs : s.Sound) (ext : Extrinsic T)
    : ¬ Fails ((machine T).dispatch ext) s (.module .panic) := by
  intro h
  simp only [machine, Extrinsic.dispatch, Fails.bind_iff, Fails.modify_iff, Succeeds.modify_iff,
    false_or, exists_eq_left, exists_const] at h
  apply Call.dispatch_no_panic _ ext.call ext.origin h
  exact ⟨hs.inverse, hs.banned⟩

/--
In every state of a run the names and their owners are inverse to each other, and no call that is made
in it panics.
-/
theorem run_namesInverse (exts : List (Extrinsic T))
    : (∀ owner name, ((machine T).run (State.genesis T) exts).names.get owner = some name ↔
        ∃ ownership, ((machine T).run (State.genesis T) exts).owner.get name = some ownership ∧
          ownership.owner = owner) ∧
      (∀ name, ((machine T).run (State.genesis T) exts).banned.containsKey name = true →
        ((machine T).run (State.genesis T) exts).owner.get name = none) ∧
      ∀ ext, ¬ Fails ((machine T).dispatch ext) ((machine T).run (State.genesis T) exts)
        (.module .panic) := by
  have hs := run_sound exts
  exact ⟨hs.inverse, hs.banned, Extrinsic.dispatch_no_panic hs⟩

-- `abc@cord` is registered by 1 and then banned by root, which takes it away from 1.
example :
    let name : DidNameInput .ascii := ⟨[0x61, 0x62, 0x63, 0x40, 0x63, 0x6f, 0x72, 0x64], by decide⟩
    let registered := (machine .ascii).next (State.genesis .ascii) ⟨some 1, 1, .register name⟩
    let banned := (machine .ascii).next registered ⟨none, 2, .ban name⟩
    registered.names.get 1 = some name ∧ banned.names.get 1 = none ∧
      banned.owner.get name = none := by
  decide +kernel

end DidName
