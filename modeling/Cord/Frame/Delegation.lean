import Cord.Frame.StorageMap

/-!
This module contains chains of delegation: what is held was granted by somebody who was granted the right
to do so, and so on, until the root of all grants. A store in which only grants of this kind are made
contains nothing else.
-/

namespace Frame

/--
The grant `a` goes back to the root over the grants of a list. `licenses b a` says that the holder of `b`
may grant `a`.
-/
inductive GoesBackTo {γ : Type} (root : γ) (licenses : γ → γ → Prop) (grants : List γ) : γ → Prop where
  | root : GoesBackTo root licenses grants root
  | granted {a b : γ} (mem : a ∈ grants) (licensed : licenses b a)
      (back : GoesBackTo root licenses grants b)
      : GoesBackTo root licenses grants a

namespace GoesBackTo

variable {γ : Type} {root a : γ} {licenses : γ → γ → Prop} {grants grants' : List γ}

theorem mono (h : GoesBackTo root licenses grants a) (hgrants : grants ⊆ grants')
    : GoesBackTo root licenses grants' a := by
  induction h with
  | root => exact .root
  | granted mem licensed _ ih => exact .granted (hgrants mem) licensed ih

theorem append (h : GoesBackTo root licenses grants a) (later : List γ)
    : GoesBackTo root licenses (grants ++ later) a :=
  h.mono (List.subset_append_left grants later)

theorem concat {b : γ} (h : GoesBackTo root licenses grants b) (licensed : licenses b a)
    : GoesBackTo root licenses (grants ++ [a]) a :=
  .granted List.mem_concat_self licensed (h.append [a])

end GoesBackTo

/--
Grants that are stored under their addresses, and which of them the holder of one may make.
-/
structure Delegation (κ γ : Type) where
  address : γ → Option κ
  licenses : γ → γ → Prop

namespace Delegation

variable {κ γ : Type} [DecidableEq κ] {D : Delegation κ γ}

/--
What a step does to the grants that are stored, by what it grants. A root needs no licence.
-/
inductive Step (D : Delegation κ γ) (root : γ → Prop) (m : StorageMap κ γ)
    : Option γ → StorageMap κ γ → Prop where
  | keep : Step D root m none m
  | remove {k : κ} : Step D root m none (m.remove k)
  | grant {k k' : κ} {a b : γ} (address : D.address a = some k) (stored : m.get k' = some b)
      (licensed : D.licenses b a) : Step D root m (some a) (m.insert k a)
  | root {k : κ} {a : γ} (address : D.address a = some k) (isRoot : root a)
      : Step D root m (some a) (m.insert k a)

/--
Every grant that is stored goes back to its root over the grants of a record.
-/
structure Traced (D : Delegation κ γ) (rootOf : γ → γ → Prop) (m : StorageMap κ γ)
    (record : List γ) : Prop where
  address : ∀ k a, m.get k = some a → D.address a = some k
  goesBack : ∀ k a, m.get k = some a → ∃ r, rootOf a r ∧ GoesBackTo r D.licenses record a

variable {rootOf rootOf' : γ → γ → Prop} {m m' : StorageMap κ γ} {record : List γ}
  {grant? : Option γ}

theorem Traced.append (h : D.Traced rootOf m record) (hroots : ∀ a r, rootOf a r → rootOf' a r)
    (later : List γ) : D.Traced rootOf' m (record ++ later) := by
  refine ⟨h.address, ?_⟩
  intro k a ha
  obtain ⟨r, hr, hback⟩ := h.goesBack k a ha
  exact ⟨r, hroots a r hr, hback.append later⟩

theorem Traced.remove (h : D.Traced rootOf m record) (k : κ)
    : D.Traced rootOf (m.remove k) record := by
  have hkept : ∀ k' a, (m.remove k).get k' = some a → m.get k' = some a := by
    intro k' a ha
    rw [StorageMap.get_remove] at ha
    split at ha
    . cases ha
    . exact ha
  exact ⟨fun k' a ha => h.address k' a (hkept k' a ha),
    fun k' a ha => h.goesBack k' a (hkept k' a ha)⟩

theorem Traced.insert (h : D.Traced rootOf m record) {k : κ} {a r : γ}
    (haddress : D.address a = some k) (hr : rootOf a r) (hback : GoesBackTo r D.licenses record a)
    : D.Traced rootOf (m.insert k a) record := by
  constructor
  . intro k' a' ha'
    rw [StorageMap.get_insert] at ha'
    split at ha'
    . next heq =>
      obtain rfl := Option.some.inj ha'
      rw [heq, haddress]
    . exact h.address k' a' ha'
  . intro k' a' ha'
    rw [StorageMap.get_insert] at ha'
    split at ha'
    . obtain rfl := Option.some.inj ha'
      exact ⟨r, hr, hback⟩
    . exact h.goesBack k' a' ha'

/-
Roots stay what they are, and a licence has the root of what is granted with it.
-/
theorem Traced.step (h : D.Traced rootOf m record)
    (hstep : D.Step (fun a => rootOf' a a) m grant? m') (hroots : ∀ a r, rootOf a r → rootOf' a r)
    (hlicenses : ∀ b a r, D.licenses b a → rootOf' b r → rootOf' a r)
    : D.Traced rootOf' m' (record ++ grant?.toList) := by
  have hkept := h.append hroots grant?.toList
  cases hstep with
  | keep => exact hkept
  | remove => exact hkept.remove _
  | @grant k k' a b address stored licensed =>
    obtain ⟨r, hr, hback⟩ := h.goesBack k' b stored
    exact hkept.insert address (hlicenses b a r licensed (hroots b r hr)) (hback.concat licensed)
  | root address isRoot => exact hkept.insert address isRoot .root

end Delegation

end Frame
