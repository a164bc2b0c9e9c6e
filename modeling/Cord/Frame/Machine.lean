import Cord.Frame.Dispatch

/-!
This module contains state machines whose steps are dispatchable calls. A call that fails is rolled
back, so it leaves the state it started in. The run lemmas lift what one successful call preserves
to every run.
-/

namespace Frame

/--
A state machine is a family of dispatchable calls, `κ` is the type of their names and arguments.
-/
structure Machine (σ ε κ : Type) where
  dispatch : κ → DispatchM σ ε Unit

namespace Machine

variable {σ ε κ : Type} (M : Machine σ ε κ)

def next (s : σ) (call : κ) : σ :=
  match (M.dispatch call).run s with
  | .ok (_, s') => s'
  | .error _ => s

def run (s : σ) (calls : List κ) : σ :=
  calls.foldl M.next s

def Meets (P : σ → κ → Prop) (s : σ) (calls : List κ) : Prop :=
  match calls with
  | [] => True
  | call :: calls =>
    (∀ s', Succeeds (M.dispatch call) s () s' → P s call) ∧ Meets P (M.next s call) calls

def Always (I : σ → Prop) (s : σ) (calls : List κ) : Prop :=
  match calls with
  | [] => I s
  | call :: calls => I s ∧ Always I (M.next s call) calls

def EveryStep (R : σ → κ → σ → Prop) (s : σ) (calls : List κ) : Prop :=
  -- Every step of the run meets `R`. A call that fails is a step that stays where it is.
  match calls with
  | [] => True
  | call :: calls => R s call (M.next s call) ∧ EveryStep R (M.next s call) calls

def Reachable (init s : σ) : Prop :=
  ∃ calls, M.run init calls = s

def accepts (s : σ) (call : κ) : Bool :=
  match (M.dispatch call).run s with
  | .ok _ => true
  | .error _ => false

def countSteps (p : σ → κ → Bool) (s : σ) (calls : List κ) : Nat :=
  -- The number of steps of the run at which `p` holds.
  match calls with
  | [] => 0
  | call :: calls => (p s call).toNat + countSteps p (M.next s call) calls

@[simp]
theorem run_cons (s : σ) (call : κ) (calls : List κ)
    : M.run s (call :: calls) = M.run (M.next s call) calls := rfl

theorem run_append (s : σ) (calls calls' : List κ)
    : M.run s (calls ++ calls') = M.run (M.run s calls) calls' :=
  List.foldl_append

variable {M}

theorem next_of_succeeds {s s' : σ} {call : κ} (h : Succeeds (M.dispatch call) s () s')
    : M.next s call = s' := by
  unfold next
  rw [h]

theorem next_cases (M : Machine σ ε κ) (s : σ) (call : κ)
    : Succeeds (M.dispatch call) s () (M.next s call) ∨ M.next s call = s := by
  unfold next Succeeds
  match h : (M.dispatch call).run s with
  | .ok ((), s') =>
    left
    rfl
  | .error err =>
    right
    rfl

theorem accepts_iff {s : σ} {call : κ}
    : M.accepts s call = true ↔ Succeeds (M.dispatch call) s () (M.next s call) := by
  unfold accepts next Succeeds
  match h : (M.dispatch call).run s with
  | .ok ((), s') => simp
  | .error err => simp

theorem Succeeds.accepts {s s' : σ} {call : κ} (h : Succeeds (M.dispatch call) s () s')
    : M.accepts s call = true := by
  rw [accepts_iff, next_of_succeeds h]
  exact h

theorem accepts_iff_exists {s : σ} {call : κ}
    : M.accepts s call = true ↔ ∃ s', Succeeds (M.dispatch call) s () s' := by
  constructor
  . intro h
    exact ⟨_, accepts_iff.mp h⟩
  . rintro ⟨s', h⟩
    exact Succeeds.accepts h

theorem accepts_eq_false_iff {s : σ} {call : κ}
    : M.accepts s call = false ↔ ∀ s', ¬ Succeeds (M.dispatch call) s () s' := by
  constructor
  . intro h s' hs'
    rw [Succeeds.accepts hs'] at h
    cases h
  . intro h
    rw [← Bool.not_eq_true, accepts_iff]
    exact h _

instance decidableMeets {P : σ → κ → Prop} [∀ s call, Decidable (P s call)]
    : (s : σ) → (calls : List κ) → Decidable (M.Meets P s calls)
  | _, [] => inferInstanceAs (Decidable True)
  | s, call :: calls =>
    have := decidableMeets (P := P) (M.next s call) calls
    decidable_of_iff ((M.accepts s call = true → P s call) ∧ M.Meets P (M.next s call) calls) <|
      and_congr_left' ⟨fun h _ hs => h (Succeeds.accepts hs), fun h ha => h _ (accepts_iff.mp ha)⟩

theorem succeeds_or_fails (M : Machine σ ε κ) (s : σ) (call : κ)
    : Succeeds (M.dispatch call) s () (M.next s call) ∨
        ∀ s', ¬ Succeeds (M.dispatch call) s () s' := by
  rw [or_iff_not_imp_right]
  intro h
  push Not at h
  obtain ⟨s', hs'⟩ := h
  rw [next_of_succeeds hs']
  exact hs'

theorem next_of_fails {s : σ} {call : κ} (h : ∀ s', ¬ Succeeds (M.dispatch call) s () s')
    : M.next s call = s := by
  cases next_cases M s call with
  | inl hs => exact absurd hs (h _)
  | inr hs => exact hs

variable {I : σ → Prop} {P : σ → κ → Prop}

theorem run_of_meets
    (hstep : ∀ s call s', I s → P s call → Succeeds (M.dispatch call) s () s' → I s')
    : ∀ {calls : List κ} {s : σ}, I s → M.Meets P s calls → I (M.run s calls) := by
  intro calls
  induction calls with
  | nil =>
    intro s hs _
    exact hs
  | cons call calls ih =>
    intro s hs hmeets
    rw [run_cons]
    apply ih
    . cases next_cases M s call with
      | inl h =>
        apply hstep
        . exact hs
        . exact hmeets.1 _ h
        . exact h
      | inr h =>
        rw [h]
        exact hs
    . exact hmeets.2

theorem meets_of_forall (h : ∀ s call, P s call) (s : σ) (calls : List κ)
    : M.Meets P s calls := by
  induction calls generalizing s with
  | nil => trivial
  | cons call calls ih => exact ⟨fun _ _ => h s call, ih _⟩

theorem meets_cons_of_succeeds {call : κ} {calls : List κ} {s : σ}
    (h : Succeeds (M.dispatch call) s () (M.next s call))
    : M.Meets P s (call :: calls) ↔ P s call ∧ M.Meets P (M.next s call) calls := by
  rw [Meets]
  apply and_congr_left'
  constructor
  . intro hmeets
    exact hmeets _ h
  . intro hmeets s' _
    exact hmeets

theorem meets_cons_of_fails {call : κ} {calls : List κ} {s : σ}
    (h : ∀ s', ¬ Succeeds (M.dispatch call) s () s')
    : M.Meets P s (call :: calls) ↔ M.Meets P s calls := by
  rw [Meets, next_of_fails h]
  apply and_iff_right
  intro s' hs'
  exact absurd hs' (h s')

theorem meets_append {calls calls' : List κ} {s : σ}
    : M.Meets P s (calls ++ calls') ↔ M.Meets P s calls ∧ M.Meets P (M.run s calls) calls' := by
  induction calls generalizing s with
  | nil => simp [Meets, run]
  | cons call calls ih =>
    rw [List.cons_append, run_cons, Meets, Meets, ih, and_assoc]

theorem Meets.and_forall {Q : κ → Prop} {calls : List κ} {s : σ} (hcalls : ∀ call ∈ calls, Q call)
    (h : M.Meets P s calls) : M.Meets (fun s call => Q call ∧ P s call) s calls := by
  induction calls generalizing s with
  | nil => trivial
  | cons call calls ih =>
    rw [List.forall_mem_cons] at hcalls
    refine ⟨?_, ih hcalls.2 h.2⟩
    intro s' hs'
    exact ⟨hcalls.1, h.1 s' hs'⟩

theorem run_invariant (hstep : ∀ s call s', I s → Succeeds (M.dispatch call) s () s' → I s')
    {calls : List κ} {s : σ} (hs : I s) : I (M.run s calls) := by
  apply run_of_meets (P := fun _ _ => True)
  . intro s call s' hs _ h
    exact hstep s call s' hs h
  . exact hs
  . apply meets_of_forall
    intros
    trivial

theorem run_congr {N : Machine σ ε κ}
    (hstep : ∀ s call s', I s → Succeeds (M.dispatch call) s () s' → I s')
    (hagree : ∀ s call, I s → (N.dispatch call).run s = (M.dispatch call).run s)
    {calls : List κ} {s : σ} (hs : I s) : N.run s calls = M.run s calls := by
  induction calls generalizing s with
  | nil => rfl
  | cons call calls ih =>
    have hnext : N.next s call = M.next s call := by
      unfold next
      rw [hagree s call hs]
    rw [run_cons, run_cons, hnext]
    apply ih
    cases next_cases M s call with
    | inl h => exact hstep _ _ _ hs h
    | inr h =>
      rw [h]
      exact hs

theorem Always.imp {K : σ → Prop} (himp : ∀ s, I s → K s) {calls : List κ} {s : σ}
    (h : M.Always I s calls) : M.Always K s calls := by
  induction calls generalizing s with
  | nil => exact himp s h
  | cons call calls ih => exact ⟨himp s h.1, ih h.2⟩

theorem always_of_meets
    (hstep : ∀ s call s', I s → P s call → Succeeds (M.dispatch call) s () s' → I s')
    {calls : List κ} {s : σ} (hs : I s) (h : M.Meets P s calls) : M.Always I s calls := by
  induction calls generalizing s with
  | nil => exact hs
  | cons call calls ih =>
    refine ⟨hs, ih ?_ h.2⟩
    cases next_cases M s call with
    | inl hsucc => exact hstep _ _ _ hs (h.1 _ hsucc) hsucc
    | inr heq =>
      rw [heq]
      exact hs

theorem always_invariant (hstep : ∀ s call s', I s → Succeeds (M.dispatch call) s () s' → I s')
    {s : σ} (hs : I s) (calls : List κ) : M.Always I s calls := by
  apply always_of_meets (P := fun _ _ => True)
  . intro s call s' hs _ h
    exact hstep s call s' hs h
  . exact hs
  . apply meets_of_forall
    intros
    trivial

theorem Always.head {calls : List κ} {s : σ} (h : M.Always I s calls) : I s := by
  cases calls with
  | nil => exact h
  | cons call calls => exact h.1

theorem always_iff_of_strengthening {K : σ → Prop} (hI : ∀ s, K s → I s)
    (hstep : ∀ s call s', K s → Succeeds (M.dispatch call) s () s' →
      (I s' → P s call) ∧ (P s call → K s'))
    : ∀ {calls : List κ} {s : σ}, K s → (M.Always I s calls ↔ M.Meets P s calls) := by
  -- From a state in which `K` holds exactly the calls that meet `P` preserve `I`, and these
  -- preserve `K` as well. Then `I` holds throughout exactly the runs whose calls meet `P`.
  intro calls
  induction calls with
  | nil =>
    intro s hs
    simp [Always, Meets, hI s hs]
  | cons call calls ih =>
    intro s hs
    rcases succeeds_or_fails M s call with hsucc | hfails
    . obtain ⟨hmp, hmpr⟩ := hstep _ _ _ hs hsucc
      rw [meets_cons_of_succeeds hsucc, Always]
      constructor
      . intro h
        have hP := hmp h.2.head
        exact ⟨hP, (ih (hmpr hP)).mp h.2⟩
      . intro h
        exact ⟨hI s hs, (ih (hmpr h.1)).mpr h.2⟩
    . rw [meets_cons_of_fails hfails, Always, next_of_fails hfails, ih hs]
      exact and_iff_right (hI s hs)

theorem always_iff_meets {J : σ → Prop}
    (hJ : ∀ s call s', J s → Succeeds (M.dispatch call) s () s' → J s')
    (hstep : ∀ s call s', J s → I s → Succeeds (M.dispatch call) s () s' → (I s' ↔ P s call))
    {calls : List κ} {s : σ} (hJs : J s) (hs : I s)
    : M.Always I s calls ↔ M.Meets P s calls := by
  -- The rule above where what is added to `I` holds in any case.
  apply always_iff_of_strengthening (K := fun s => J s ∧ I s)
  . intro s h
    exact h.2
  . intro s call s' h hsucc
    have hiff := hstep _ _ _ h.1 h.2 hsucc
    refine ⟨hiff.mp, ?_⟩
    intro hP
    exact ⟨hJ _ _ _ h.1 hsucc, hiff.mpr hP⟩
  . exact ⟨hJs, hs⟩

theorem always_iff_of_step
    (hstep : ∀ s call s', I s → Succeeds (M.dispatch call) s () s' → (I s' ↔ P s call))
    {calls : List κ} {s : σ} (hs : I s) : M.Always I s calls ↔ M.Meets P s calls := by
  apply always_iff_meets (J := fun _ => True)
  . intros
    trivial
  . intro s call s' _ hs hsucc
    exact hstep s call s' hs hsucc
  . trivial
  . exact hs

theorem EveryStep.last {R : σ → κ → σ → Prop} {calls : List κ} {call : κ} {s : σ}
    (h : M.EveryStep R s (calls ++ [call]))
    : R (M.run s calls) call (M.run s (calls ++ [call])) := by
  induction calls generalizing s with
  | nil => exact h.1
  | cons _ calls ih => exact ih h.2

theorem everyStep_of_meets {R : σ → κ → σ → Prop} (hrefl : ∀ s call, R s call s)
    (hstep : ∀ s call s', P s call → Succeeds (M.dispatch call) s () s' → R s call s')
    {calls : List κ} {s : σ} (h : M.Meets P s calls) : M.EveryStep R s calls := by
  induction calls generalizing s with
  | nil => trivial
  | cons call calls ih =>
    refine ⟨?_, ih h.2⟩
    cases next_cases M s call with
    | inl hs => exact hstep _ _ _ (h.1 _ hs) hs
    | inr hs =>
      rw [hs]
      apply hrefl

theorem everyStep_of_always {R : σ → κ → σ → Prop}
    (hfails : ∀ s call, M.accepts s call = false → R s call s)
    (hstep : ∀ s call s', I s → Succeeds (M.dispatch call) s () s' → R s call s')
    {calls : List κ} {s : σ} (h : M.Always I s calls) : M.EveryStep R s calls := by
  induction calls generalizing s with
  | nil => trivial
  | cons call calls ih =>
    refine ⟨?_, ih h.2⟩
    rcases succeeds_or_fails M s call with hsucc | hfail
    . exact hstep _ _ _ h.1 hsucc
    . rw [next_of_fails hfail]
      exact hfails s call (accepts_eq_false_iff.mpr hfail)

theorem everyStep_congr {R Q : σ → κ → σ → Prop} {J : σ → Prop}
    (hJ : ∀ s call s', J s → Succeeds (M.dispatch call) s () s' → J s')
    (hstep : ∀ s call, J s → (R s call (M.next s call) ↔ Q s call (M.next s call)))
    {calls : List κ} {s : σ} (hs : J s) : M.EveryStep R s calls ↔ M.EveryStep Q s calls := by
  induction calls generalizing s with
  | nil => exact Iff.rfl
  | cons call calls ih =>
    have hnext : J (M.next s call) := by
      cases next_cases M s call with
      | inl hsucc => exact hJ _ _ _ hs hsucc
      | inr heq =>
        rw [heq]
        exact hs
    unfold EveryStep
    rw [ih hnext, hstep s call hs]

theorem everyStep_iff_of_strengthening {R : σ → κ → σ → Prop} {K : σ → Prop}
    (hfails : ∀ s call, M.accepts s call = false → R s call s)
    (hstep : ∀ s call s', K s → Succeeds (M.dispatch call) s () s' →
      (R s call s' → P s call) ∧ (P s call → R s call s' ∧ K s'))
    {calls : List κ} {s : σ} (hs : K s) : M.EveryStep R s calls ↔ M.Meets P s calls := by
  -- As for `Always`: the steps that meet `R` are those that meet `P`, and only these need to
  -- preserve `K`.
  induction calls generalizing s with
  | nil => exact Iff.rfl
  | cons call calls ih =>
    rcases succeeds_or_fails M s call with hsucc | hfail
    . obtain ⟨hmp, hmpr⟩ := hstep _ _ _ hs hsucc
      rw [meets_cons_of_succeeds hsucc, EveryStep]
      constructor
      . intro h
        have hP := hmp h.1
        exact ⟨hP, (ih (hmpr hP).2).mp h.2⟩
      . intro h
        obtain ⟨hR, hnext⟩ := hmpr h.1
        exact ⟨hR, (ih hnext).mpr h.2⟩
    . rw [meets_cons_of_fails hfail, EveryStep, next_of_fails hfail, ih hs]
      exact and_iff_right (hfails s call (accepts_eq_false_iff.mpr hfail))

theorem everyStep_iff_meets {R : σ → κ → σ → Prop} {J : σ → Prop}
    (hfails : ∀ s call, M.accepts s call = false → R s call s)
    (hJ : ∀ s call s', J s → Succeeds (M.dispatch call) s () s' → J s')
    (hstep : ∀ s call s', J s → Succeeds (M.dispatch call) s () s' → (R s call s' ↔ P s call))
    {calls : List κ} {s : σ} (hs : J s) : M.EveryStep R s calls ↔ M.Meets P s calls := by
  apply everyStep_iff_of_strengthening hfails _ hs
  intro s call s' hs hsucc
  have hiff := hstep _ _ _ hs hsucc
  exact ⟨hiff.mp, fun hP => ⟨hiff.mpr hP, hJ _ _ _ hs hsucc⟩⟩

section Rejects

variable (M)

def rejectsAt (s : σ) (calls : List κ) (i : Nat) : Bool :=
  -- The `i`-th call of the run fails in the state the calls before it have led to.
  match calls[i]? with
  | some call => !M.accepts (M.run s (calls.take i)) call
  | none => false

@[simp]
theorem rejectsAt_zero (s : σ) (call : κ) (calls : List κ)
    : M.rejectsAt s (call :: calls) 0 = !M.accepts s call := rfl

@[simp]
theorem rejectsAt_succ (s : σ) (call : κ) (calls : List κ) (i : Nat)
    : M.rejectsAt s (call :: calls) (i + 1) = M.rejectsAt (M.next s call) calls i := rfl

def rejected (s : σ) (calls : List κ) : List Nat :=
  (List.range calls.length).filter (M.rejectsAt s calls)

@[simp]
theorem rejected_nil (s : σ) : M.rejected s [] = [] := rfl

theorem rejected_cons (s : σ) (call : κ) (calls : List κ)
    : M.rejected s (call :: calls) =
        (if M.accepts s call then [] else [0]) ++
          (M.rejected (M.next s call) calls).map Nat.succ := by
  unfold rejected
  rw [List.length_cons, List.range_succ_eq_map, List.filter_cons, List.filter_map]
  have hsucc : M.rejectsAt s (call :: calls) ∘ Nat.succ = M.rejectsAt (M.next s call) calls := by
    funext i
    apply rejectsAt_succ
  rw [hsucc, rejectsAt_zero]
  cases M.accepts s call with
  | false => rfl
  | true => rfl

theorem rejected_eq_nil (h : ∀ s call, M.accepts s call = true) (s : σ) (calls : List κ)
    : M.rejected s calls = [] := by
  induction calls generalizing s with
  | nil => rfl
  | cons call calls ih =>
    rw [rejected_cons, h, ih]
    rfl

theorem rejected_eq_iff (s : σ) (calls : List κ)
    : (M.rejected s calls).length = calls.length ↔
        ∀ i < calls.length, M.rejectsAt s calls i = true := by
  unfold rejected
  conv =>
    lhs
    rhs
    rw [← List.length_range (n := calls.length)]
  rw [List.length_filter_eq_length_iff]
  simp

variable {M}

theorem run_of_rejected {s : σ} {calls : List κ} (h : ∀ i < calls.length, M.rejectsAt s calls i = true)
    : M.run s calls = s := by
  induction calls with
  | nil => rfl
  | cons call calls ih =>
    have hcall := h 0 (Nat.succ_pos _)
    rw [rejectsAt_zero, Bool.not_eq_true', accepts_eq_false_iff] at hcall
    have hnext := next_of_fails hcall
    rw [run_cons, hnext]
    apply ih
    intro i hi
    have hcall' := h (i + 1) (Nat.succ_lt_succ hi)
    rw [rejectsAt_succ, hnext] at hcall'
    exact hcall'

end Rejects

theorem Reachable.invariant
    (hstep : ∀ s call s', I s → Succeeds (M.dispatch call) s () s' → I s')
    {init s : σ} (h : M.Reachable init s) (hinit : I init) : I s := by
  obtain ⟨calls, rfl⟩ := h
  exact run_invariant hstep hinit

end Machine
end Frame
