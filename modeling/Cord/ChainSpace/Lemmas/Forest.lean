import Cord.Frame.Forest
import Cord.ChainSpace.Lemmas.Steps

/-!
This module contains that the spaces form a forest. A new space is its own parent or a child of a space
that is stored already, and no call moves a space to another parent.
-/

open Frame Identifier

namespace ChainSpace

variable {T : Config} {call : Call T}

section Parents

variable {spaces spaces' : StorageMap T.Ss58Identifier (SpaceDetails T)}
  {spaceId : T.Ss58Identifier} {d d' : SpaceDetails T}

def parentOf (spaces : StorageMap T.Ss58Identifier (SpaceDetails T)) (spaceId : T.Ss58Identifier)
    : Option T.Ss58Identifier :=
  (spaces.get spaceId).map SpaceDetails.parent

theorem parentOf_of_get (h : spaces.get spaceId = some d)
    : parentOf spaces spaceId = some d.parent := by
  rw [parentOf, h]
  rfl

theorem parentOf_eq_some_iff {p : T.Ss58Identifier}
    : parentOf spaces spaceId = some p ↔ ∃ d, spaces.get spaceId = some d ∧ d.parent = p := by
  exact Option.map_eq_some_iff

theorem parentOf_insert_of_get (h : spaces.get spaceId = some d) (hparent : d'.parent = d.parent)
    : parentOf (spaces.insert spaceId d') = parentOf spaces := by
  funext id
  unfold parentOf
  rw [StorageMap.get_insert]
  split
  . next heq => rw [heq, h, Option.map_some, Option.map_some, hparent]
  . rfl

theorem grows_insert (hfresh : spaces.get spaceId = none)
    (hparent : d.parent = spaceId ∨ ∃ q, parentOf spaces d.parent = some q)
    : Grows (parentOf spaces) (parentOf (spaces.insert spaceId d)) := by
  constructor
  . intro id p h
    obtain ⟨details, hget, rfl⟩ := parentOf_eq_some_iff.mp h
    apply parentOf_of_get
    rw [StorageMap.get_insert_of_ne]
    . exact hget
    . exact StorageMap.ne_of_get hfresh hget
  . intro id p h hnone
    unfold parentOf at h
    rw [StorageMap.get_insert] at h
    split at h
    . next heq =>
      rw [Option.map_some, Option.some.injEq] at h
      rw [← h, heq]
      exact hparent
    . rw [parentOf] at hnone
      rw [hnone] at h
      cases h

theorem SpacesStep.grows (h : SpacesStep spaces call spaces')
    : Grows (parentOf spaces) (parentOf spaces') := by
  cases h with
  | write stored _ _ parent _ => exact .of_eq (parentOf_insert_of_get stored parent)
  | create fresh => exact grows_insert fresh (.inl rfl)
  | approve stored => exact .of_eq (parentOf_insert_of_get stored rfl)
  | @subspace _ _ spaceId identifier _ d value stored _ _ fresh =>
    -- The parent is written first, and keeps its own parent.
    have hne : identifier ≠ spaceId := (StorageMap.ne_of_get fresh stored).symm
    have hparents : parentOf (spaces.insert spaceId
        { d with txnCount := d.txnCount + 1, txnReserve := d.txnReserve + value }) =
        parentOf spaces := parentOf_insert_of_get stored rfl
    rw [← hparents]
    apply grows_insert
    . rw [StorageMap.get_insert_of_ne _ _ hne]
      exact fresh
    . right
      exact ⟨_, parentOf_of_get (StorageMap.get_insert_self ..)⟩
  | update _ stored _ _ => exact .of_eq (parentOf_insert_of_get stored rfl)
  | @updateSub _ spaceId newTxnCapacity d p _ stored _ isSub parent _ =>
    have hstored : (spaces.insert d.parent
        { p with txnReserve := p.txnReserve - d.txnCapacity + newTxnCapacity }).get spaceId = some d := by
      rw [StorageMap.get_insert_of_ne _ _ isSub]
      exact stored
    apply Grows.of_eq
    apply Eq.trans
    . apply parentOf_insert_of_get hstored
      rfl
    . apply parentOf_insert_of_get parent
      rfl

end Parents

theorem run_isForest (exts : List (Extrinsic T))
    : Forest (parentOf ((machine T).run (State.genesis T) exts).spaces) := by
  apply Machine.run_invariant (I := fun s : State T => Forest (parentOf s.spaces))
  . intro s ext s' hs h
    exact hs.grows (dispatch_spaces (Extrinsic.dispatch_iff.mp h)).grows
  . intro spaceId p h
    cases h

/--
In every state of a run the parent of a space is stored and the parents of a space lead to one that is
its own parent. No call changes the parent of a space.
-/
theorem run_forest (exts : List (Extrinsic T))
    : (∀ spaceId d, ((machine T).run (State.genesis T) exts).spaces.get spaceId = some d →
        (((machine T).run (State.genesis T) exts).spaces.get d.parent).isSome = true ∧
          ∃ n top,
            ancestor (parentOf ((machine T).run (State.genesis T) exts).spaces) n spaceId = some top ∧
              parentOf ((machine T).run (State.genesis T) exts).spaces top = some top) ∧
      ∀ ext s', Succeeds ((machine T).dispatch ext) ((machine T).run (State.genesis T) exts) () s' →
        ∀ spaceId d, ((machine T).run (State.genesis T) exts).spaces.get spaceId = some d →
          ∃ d', s'.spaces.get spaceId = some d' ∧ d'.parent = d.parent := by
  have hforest := run_isForest exts
  constructor
  . intro spaceId d hd
    have hparent := parentOf_of_get hd
    constructor
    . obtain ⟨q, hq⟩ := hforest.parent_stored hparent
      obtain ⟨p, hp, _⟩ := parentOf_eq_some_iff.mp hq
      rw [hp]
      rfl
    . exact (hforest spaceId d.parent hparent).exists_root
  . intro ext s' hsucc spaceId d hd
    have hgrows := (dispatch_spaces (Extrinsic.dispatch_iff.mp hsucc)).grows
    exact parentOf_eq_some_iff.mp (hgrows.kept _ _ (parentOf_of_get hd))

end ChainSpace
