import Cord.Frame.Machine

/-!
This module contains records that are kept beside a run: what each step adds to such a record depends on
the state it is made in, and what the record says about a state is an invariant of both.
-/

namespace Frame
namespace Machine

variable {σ ε κ β : Type} (M : Machine σ ε κ)

def collect (f : σ → κ → List β) (s : σ) (calls : List κ) : List β :=
  match calls with
  | [] => []
  | call :: calls => f s call ++ collect f (M.next s call) calls

variable {M} {f : σ → κ → List β}

theorem collect_invariant {I : σ → List β → Prop}
    (hfails : ∀ s call, M.accepts s call = false → f s call = [])
    (hstep : ∀ s call s' record, I s record → Succeeds (M.dispatch call) s () s' →
      I s' (record ++ f s call))
    {calls : List κ} {s : σ} {record : List β} (h : I s record)
    : I (M.run s calls) (record ++ M.collect f s calls) := by
  induction calls generalizing s record with
  | nil =>
    rw [collect, List.append_nil]
    exact h
  | cons call calls ih =>
    rw [run_cons, collect, ← List.append_assoc]
    apply ih
    rcases succeeds_or_fails M s call with hsucc | hfail
    . exact hstep s call _ record h hsucc
    . rw [next_of_fails hfail, hfails s call (accepts_eq_false_iff.mpr hfail), List.append_nil]
      exact h

end Machine
end Frame
