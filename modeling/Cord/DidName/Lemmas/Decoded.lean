import Cord.DidName.Lemmas.Inverse

/-!
This module contains that every name that has an owner was decoded from what a user has entered.
-/

open Frame

namespace DidName

variable {T : Config} {s s' : State T} {origin : T.Origin}

def State.Decoded (s : State T) : Prop :=
  ∀ name, s.owner.containsKey name = true → ∃ input, T.tryFrom input = .ok name

theorem State.Decoded.remove {name : T.Name} (hs : s.Decoded) (h : s'.owner = s.owner.remove name)
    : s'.Decoded := by
  intro name' hname'
  rw [h, StorageMap.containsKey_remove] at hname'
  exact hs name' hname'.2

theorem register_decoded {name : DidNameInput T} (hs : s.Decoded)
    (h : Succeeds (register origin name) s () s') : s'.Decoded := by
  simp only [register, checkClaimingPreconditions, registerName, Succeeds.bind_iff,
    Succeeds.ensureOrigin_iff, Succeeds.mapErr_iff, Succeeds.get_iff, Succeeds.ensure_iff,
    Succeeds.pure_iff, Succeeds.modify_iff, depositEvent_iff, Bool.not_eq_true',
    StorageMap.containsKey_eq_false_iff, and_assoc, exists_and_left, exists_eq_left,
    exists_const] at h
  obtain ⟨owner, _, decoded, _, ⟨name', hdecoded, _, _, _, rfl, rfl⟩, rfl⟩ := h
  intro other hother
  dsimp only at hother
  rw [StorageMap.containsKey_insert] at hother
  rcases hother with rfl | hother
  . exact ⟨_, hdecoded⟩
  . exact hs other hother

theorem release_decoded (hs : s.Decoded) (h : Succeeds (release origin) s () s') : s'.Decoded := by
  simp only [release, checkReleasingPreconditions, Succeeds.bind_iff, Succeeds.ensureOrigin_iff,
    Succeeds.get_iff, Succeeds.okOr_iff, unregisterName_iff, depositEvent_iff, and_assoc,
    exists_and_left, exists_eq_left] at h
  obtain ⟨_, _, _, _, _, _, rfl⟩ := h
  exact hs.remove rfl

theorem ban_decoded {name : DidNameInput T} (hs : s.Decoded)
    (h : Succeeds (ban origin name) s () s') : s'.Decoded := by
  simp only [ban, checkBanningPreconditions, banName, Succeeds.bind_iff, Succeeds.ensureOrigin_iff,
    Succeeds.mapErr_iff, Succeeds.get_iff, Succeeds.ensure_iff, Succeeds.pure_iff, and_assoc,
    exists_and_left, exists_eq_left, exists_const] at h
  obtain ⟨_, _, _, _, ⟨_, _, _, rfl, rfl⟩, h⟩ := h
  dsimp only at h
  rw [Succeeds.ite_iff] at h
  rcases h with ⟨_, h⟩ | ⟨_, h⟩
  . simp only [Succeeds.bind_iff, unregisterName_iff, Succeeds.modify_iff, depositEvent_iff,
      and_assoc, exists_and_left, exists_eq_left, exists_const] at h
    obtain ⟨_, _, rfl⟩ := h
    exact hs.remove rfl
  . simp only [Succeeds.bind_iff, Succeeds.modify_iff, depositEvent_iff, exists_eq_left,
      exists_const] at h
    subst h
    exact hs

theorem unban_decoded {name : DidNameInput T} (hs : s.Decoded)
    (h : Succeeds (unban origin name) s () s') : s'.Decoded := by
  simp only [unban, checkUnbanningPreconditions, unbanName, Succeeds.bind_iff,
    Succeeds.ensureOrigin_iff, Succeeds.mapErr_iff, Succeeds.get_iff, Succeeds.ensure_iff,
    Succeeds.pure_iff, Succeeds.modify_iff, depositEvent_iff, and_assoc, exists_and_left,
    exists_eq_left, exists_const] at h
  obtain ⟨_, _, _, _, ⟨_, _, _, rfl, rfl⟩, rfl⟩ := h
  exact hs

theorem Call.dispatch_decoded {call : Call T} (hs : s.Decoded)
    (h : Succeeds (call.dispatch origin) s () s') : s'.Decoded := by
  cases call with
  | register name => exact register_decoded hs h
  | release => exact release_decoded hs h
  | ban name => exact ban_decoded hs h
  | unban name => exact unban_decoded hs h

end DidName
