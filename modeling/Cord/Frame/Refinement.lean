import Cord.Frame.Machine

/-!
This module contains refinement between machines with the same calls. Every step of one of them is a
step of the other one on what an abstraction keeps of the state, then so is every run.
-/

namespace Frame
namespace Machine

variable {σ τ ε κ : Type} {M : Machine σ ε κ} {N : Machine τ ε κ}

def answer (M : Machine σ ε κ) (s : σ) (call : κ) : Except (DispatchError ε) Unit :=
  ((M.dispatch call).run s).map Prod.fst

theorem succeeds_or_fails_with (M : Machine σ ε κ) (s : σ) (call : κ)
    : Succeeds (M.dispatch call) s () (M.next s call) ∨ ∃ err, Fails (M.dispatch call) s err := by
  unfold Succeeds Fails next
  match (M.dispatch call).run s with
  | .ok ((), s') =>
    left
    rfl
  | .error err =>
    right
    exact ⟨err, rfl⟩

theorem answer_of_succeeds {s s' : σ} {call : κ} (h : Succeeds (M.dispatch call) s () s')
    : M.answer s call = .ok () := by
  unfold answer
  rw [h]
  rfl

theorem answer_of_fails {s : σ} {call : κ} {err : DispatchError ε}
    (h : Fails (M.dispatch call) s err) : M.answer s call = .error err := by
  unfold answer
  rw [h]
  rfl

theorem next_of_fails_with {s : σ} {call : κ} {err : DispatchError ε}
    (h : Fails (M.dispatch call) s err) : M.next s call = s := by
  unfold next
  rw [h]

/--
`abs` maps the steps of `M` that meet `P` to steps of `N`, from states in which `J` holds. A call that
`M` does not execute is one that `N` does not execute either, or one that is nothing to it.
-/
structure Refines (M : Machine σ ε κ) (N : Machine τ ε κ) (abs : σ → τ) (J : σ → Prop)
    (P : σ → κ → Prop) : Prop where
  keeps : ∀ s call s', J s → P s call → Succeeds (M.dispatch call) s () s' → J s'
  succeeds : ∀ s call s', J s → P s call → Succeeds (M.dispatch call) s () s' →
    N.next (abs s) call = abs s'
  fails : ∀ s call err, J s → Fails (M.dispatch call) s err → N.next (abs s) call = abs s

theorem Refines.run {abs : σ → τ} {J : σ → Prop} {P : σ → κ → Prop} (h : Refines M N abs J P)
    {calls : List κ} {s : σ} (hs : J s) (hcalls : M.Meets P s calls)
    : abs (M.run s calls) = N.run (abs s) calls := by
  induction calls generalizing s with
  | nil => rfl
  | cons call calls ih =>
    obtain ⟨hcall, hcalls⟩ := hcalls
    rw [run_cons, run_cons]
    rcases succeeds_or_fails_with M s call with hsucc | ⟨err, hfails⟩
    . have hP := hcall _ hsucc
      rw [h.succeeds _ _ _ hs hP hsucc]
      exact ih (h.keeps _ _ _ hs hP hsucc) hcalls
    . rw [next_of_fails_with hfails] at hcalls ⊢
      rw [h.fails _ _ _ hs hfails]
      exact ih hs hcalls

end Machine
end Frame
