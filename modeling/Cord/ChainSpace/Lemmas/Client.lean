import Cord.ChainSpace.Impl.Client
import Cord.ChainSpace.Lemmas.Basic

/-!
This module contains when the building blocks of the calls of a client succeed, and the rules for
its runs: what the calls of the pallet do to its storage is all that happens to it.
-/

open Frame Identifier

namespace ChainSpace

namespace Client

variable {T : Config} {σ ε κ : Type} {s s' : Client T σ} {u : Unit} {wrap : Error → ε}

@[simp]
theorem getPallet_iff {p : σ}
    : Succeeds (ε := ε) getPallet s p s' ↔ p = s.pallet ∧ s' = s := by
  simp only [getPallet, Succeeds.bind_iff, Succeeds.get_iff, Succeeds.pure_iff, and_assoc,
    exists_and_left, exists_eq_left]

@[simp]
theorem modifyPallet_iff {f : σ → σ}
    : Succeeds (ε := ε) (modifyPallet f) s u s' ↔ s' = { s with pallet := f s.pallet } := by
  simp [modifyPallet]

@[simp]
theorem blockNumber_iff {n : UInt32}
    : Succeeds (ε := ε) blockNumber s n s' ↔ n = s.chainSpace.timepoint.height ∧ s' = s := by
  simp only [blockNumber, Succeeds.bind_iff, Succeeds.get_iff, Succeeds.pure_iff, and_assoc,
    exists_and_left, exists_eq_left]

@[simp]
theorem updateActivity_iff {txId : T.Ss58Identifier} {txType : IdentifierTypeOf}
    {txAction : CallTypeOf}
    : Succeeds (updateActivity wrap txId txType txAction) s u s'
        ↔
      s' = { s with chainSpace := s.chainSpace.logActivity txId txType txAction } := by
  simp [updateActivity, runChainSpace]

def setSpace (s : Client T σ) (spaceId : T.Ss58Identifier) (d : SpaceDetails T) : Client T σ :=
  { s with chainSpace.spaces := s.chainSpace.spaces.insert spaceId d }

@[simp]
theorem setSpace_pallet {spaceId : T.Ss58Identifier} {d : SpaceDetails T}
    : (s.setSpace spaceId d).pallet = s.pallet := rfl

@[simp]
theorem ensureAuthorizationOrigin_iff {authorizationId spaceId : T.Ss58Identifier}
    {delegate : T.SpaceCreatorId}
    : Succeeds (ensureAuthorizationOrigin wrap authorizationId delegate) s spaceId s'
        ↔
      ∃ d, s.chainSpace.Authorizes .assert authorizationId delegate spaceId ∧
        s.chainSpace.spaces.get spaceId = some d ∧ d.charge.CanTransact ∧
        s' = s.setSpace spaceId d.charge := by
  simp only [ensureAuthorizationOrigin, runChainSpace, Succeeds.zoom_iff,
    ChainSpace.ensureAuthorizationOrigin_iff]
  constructor
  . rintro ⟨_, ⟨d, hauth, hd, hvalid, rfl⟩, rfl⟩
    exact ⟨d, hauth, hd, hvalid, rfl⟩
  . rintro ⟨d, hauth, hd, hvalid, rfl⟩
    exact ⟨_, ⟨d, hauth, hd, hvalid, rfl⟩, rfl⟩

section Runs

variable {dispatch : T.Origin → κ → DispatchM (Client T σ) ε Unit}

theorem machine_chainSpace {ext : ChainSpace.Extrinsic T}
    (h : Succeeds ((machine wrap dispatch).dispatch (.chainSpace ext)) s () s')
    : s'.pallet = s.pallet := by
  obtain ⟨t, _, rfl⟩ := Succeeds.zoom_iff.mp h
  rfl

@[simp]
theorem machine_pallet {origin : T.Origin} {timepoint : Timepoint} {call : κ}
    : Succeeds ((machine wrap dispatch).dispatch (.pallet origin timepoint call)) s () s'
        ↔
      Succeeds (dispatch origin call) (s.atTime timepoint) () s' := by
  simp [machine]

variable {I J : σ → Prop} {P : Client T σ → T.Origin → κ → Prop}

theorem step_invariant
    (hJ : ∀ s origin call s', J s.pallet → Succeeds (dispatch origin call) s () s' → J s'.pallet)
    (ext : Extrinsic T κ) (hs : J s.pallet)
    (h : Succeeds ((machine wrap dispatch).dispatch ext) s () s') : J s'.pallet := by
  cases ext with
  | chainSpace ext =>
    rw [machine_chainSpace h]
    exact hs
  | pallet origin timepoint call =>
    rw [machine_pallet] at h
    exact hJ (s.atTime timepoint) _ _ _ hs h

theorem always_of_meets
    (hstep : ∀ s origin call s', I s.pallet → P s origin call →
      Succeeds (dispatch origin call) s () s' → I s'.pallet)
    {exts : List (Extrinsic T κ)} (hs : I s.pallet)
    (h : (machine wrap dispatch).Meets (Extrinsic.Meets P) s exts)
    : (machine wrap dispatch).Always (fun s => I s.pallet) s exts := by
  apply Machine.always_of_meets (I := fun s : Client T σ => I s.pallet) _ hs h
  intro s ext s' hs hext hsucc
  cases ext with
  | chainSpace ext =>
    rw [machine_chainSpace hsucc]
    exact hs
  | pallet origin timepoint call =>
    rw [machine_pallet] at hsucc
    exact hstep (s.atTime timepoint) _ _ _ hs hext hsucc

theorem always_iff_meets
    (hJ : ∀ s origin call s', J s.pallet → Succeeds (dispatch origin call) s () s' → J s'.pallet)
    (hstep : ∀ s origin call s', J s.pallet → I s.pallet →
      Succeeds (dispatch origin call) s () s' → (I s'.pallet ↔ P s origin call))
    {exts : List (Extrinsic T κ)} (hJs : J s.pallet) (hs : I s.pallet)
    : (machine wrap dispatch).Always (fun s => I s.pallet) s exts ↔
        (machine wrap dispatch).Meets (Extrinsic.Meets P) s exts := by
  apply Machine.always_iff_meets (J := fun s : Client T σ => J s.pallet)
  . intro s ext s' hs h
    exact step_invariant hJ ext hs h
  . intro s ext s' hJs hs h
    cases ext with
    | chainSpace ext =>
      rw [machine_chainSpace h]
      exact iff_of_true hs trivial
    | pallet origin timepoint call =>
      rw [machine_pallet] at h
      exact hstep (s.atTime timepoint) _ _ _ hJs hs h
  . exact hJs
  . exact hs

end Runs

end Client

end ChainSpace
