import Cord.Authorities.Lemmas.Calls

/-!
This module contains who may be a validator. The deletions that are scheduled for the next session
are made before the additions, so a validator that has to go must not be waiting to enter.
-/

open Frame

namespace Authorities

variable {T : Config} {s s' : State T} {v : T.ValidatorId}

def State.Eligible (s : State T) (v : T.ValidatorId) : Prop :=
  v ∈ s.members ∧ v ∉ s.blackList

def Step.expelled : Step T → List T.ValidatorId
  | .extrinsic _ _ (.remove candidate) => (T.validatorIdOf candidate).toList
  | .offence offenders .blackList => offendingValidators offenders
  | _ => []

def ExpelsActive (s : State T) (step : Step T) : Prop :=
  -- Those that have to go do not wait to enter, and their deletion, together with those
  -- scheduled already, takes out all of their occurrences in the queued set.
  ∀ v ∈ step.expelled, v ∉ s.incomingAuthorities ∧
    s.queued.count v ≤ s.outgoingAuthorities.count v + 1

instance (s : State T) (step : Step T) : Decidable (ExpelsActive s step) :=
  inferInstanceAs (Decidable (∀ v ∈ step.expelled, _))

def EligibleOrLeaving (s : State T) : Prop :=
  -- Who is not eligible leaves at the end of the session, and does not enter again.
  ∀ v, ¬ s.Eligible v →
    v ∉ s.incomingAuthorities ∧ s.queued.count v ≤ s.outgoingAuthorities.count v

namespace EligibleOrLeaving

theorem genesis (initial : List T.ValidatorId)
    : EligibleOrLeaving (State.genesis (T := T) initial) := by
  intro v hv
  refine ⟨List.not_mem_nil, ?_⟩
  have hnotMem : v ∉ initial := by
    intro hmem
    exact hv ⟨hmem, List.not_mem_nil⟩
  change initial.count v ≤ 0
  rw [List.count_eq_zero_of_not_mem hnotMem]

theorem of_leaving (hs : EligibleOrLeaving s) {leaving : List T.ValidatorId}
    (heligible : ∀ v, s.Eligible v → ¬ s'.Eligible v →
      v ∈ leaving ∧ v ∉ s.incomingAuthorities ∧
        s.queued.count v ≤ s.outgoingAuthorities.count v + 1)
    (hin : s'.incomingAuthorities = s.incomingAuthorities)
    (hout : s'.outgoingAuthorities = s.outgoingAuthorities ++ leaving)
    (hqueued : s'.queued = s.queued) : EligibleOrLeaving s' := by
  intro v hv
  rw [hin, hout, hqueued, List.count_append]
  by_cases hold : s.Eligible v
  . obtain ⟨hmem, hnotIn, hcount⟩ := heligible v hold hv
    have hpos := List.count_pos_iff.mpr hmem
    exact ⟨hnotIn, by omega⟩
  . obtain ⟨hnotIn, hcount⟩ := hs v hold
    exact ⟨hnotIn, by omega⟩

theorem of_entering (hs : EligibleOrLeaving s) (hv : s'.Eligible v)
    (heligible : ∀ w, s.Eligible w → s'.Eligible w)
    (hin : s'.incomingAuthorities = s.incomingAuthorities ++ [v])
    (hout : s'.outgoingAuthorities = s.outgoingAuthorities)
    (hqueued : s'.queued = s.queued) : EligibleOrLeaving s' := by
  intro w hw
  obtain ⟨hnotIn, hcount⟩ := hs w (fun h => hw (heligible w h))
  rw [hin, hout, hqueued, List.mem_append, List.mem_singleton]
  refine ⟨?_, hcount⟩
  rintro (hmem | rfl)
  . exact hnotIn hmem
  . exact hw hv

theorem step {step : Step T} (hs : EligibleOrLeaving s) (hstep : ExpelsActive s step)
    (h : Stepped s step s') : EligibleOrLeaving s' := by
  cases h with
  | @nominate _ _ _ v _ _ hblack =>
    refine hs.of_entering (v := v) ?_ ?_ rfl rfl rfl
    . exact ⟨List.mem_append_right _ (List.mem_singleton_self v), hblack⟩
    . rintro w ⟨hmem, hnotBlack⟩
      exact ⟨List.mem_append_left _ hmem, hnotBlack⟩
  | @remove _ _ _ v _ hid hmem hmin =>
    refine hs.of_leaving ?_ rfl rfl rfl
    rintro w ⟨hmem, hnotBlack⟩ hw
    have heq : w = v := by
      by_contra hne
      exact hw ⟨List.mem_filter.mpr ⟨hmem, by simpa using hne⟩, hnotBlack⟩
    subst heq
    refine ⟨List.mem_singleton_self w, hstep w ?_⟩
    simp [Step.expelled, hid]
  | @whitelist _ _ _ v =>
    refine hs.of_leaving ?_ rfl (List.append_nil _).symm rfl
    rintro w ⟨hmem, hnotBlack⟩ hw
    refine absurd ⟨hmem, ?_⟩ hw
    intro hblack
    exact hnotBlack (List.mem_filter.mp hblack).1
  | @goOffline _ _ _ v =>
    refine hs.of_leaving ?_ rfl rfl rfl
    intro w hw hw'
    exact absurd hw hw'
  | @goOnline _ _ _ v _ _ _ hblack hmem =>
    refine hs.of_entering (v := v) ?_ ?_ rfl rfl rfl
    . exact ⟨hmem, hblack⟩
    . exact fun _ hw => hw
  | @blacklist offenders =>
    refine hs.of_leaving ?_ rfl rfl rfl
    rintro w ⟨hmem, hnotBlack⟩ hw
    have hoffending : w ∈ offendingValidators offenders := by
      by_contra hnot
      refine hw ⟨hmem, ?_⟩
      rw [mem_foldl_addAuthority]
      rintro (hblack | hoffending)
      . exact hnotBlack hblack
      . exact hnot hoffending
    exact ⟨hoffending, hstep w hoffending⟩
  | @disconnect offenders =>
    refine hs.of_leaving ?_ rfl rfl rfl
    intro w hw hw'
    exact absurd hw hw'
  | rotate =>
    intro w hw
    obtain ⟨hnotIn, hcount⟩ := hs w hw
    refine ⟨List.not_mem_nil, ?_⟩
    have hnotMem : w ∉ s.nextValidators := by
      rw [State.mem_nextValidators]
      rintro (hlt | hmem)
      . omega
      . exact hnotIn hmem
    dsimp only
    rw [List.count_eq_zero_of_not_mem hnotMem]
    exact Nat.zero_le _

theorem eligible_of_mem (hs : EligibleOrLeaving s) (hv : v ∈ s.nextValidators)
    : s.Eligible v := by
  by_contra hnot
  obtain ⟨hnotIn, hcount⟩ := hs v hnot
  rw [State.mem_nextValidators] at hv
  rcases hv with hlt | hmem
  . omega
  . exact hnotIn hmem

end EligibleOrLeaving

/--
If nobody is removed or blacklisted while it waits to enter, then every set of validators that is
returned consists of members that are not on the blacklist.
-/
theorem run_newSession_eligible (initial : List T.ValidatorId) (steps : List (Step T))
    (hsteps : (machine T).Meets ExpelsActive (State.genesis initial) steps)
    (set : List T.ValidatorId)
    (hset : (newSession ((machine T).run (State.genesis initial) steps).startSession).1 = some set)
    : ∀ v ∈ set, v ∈ ((machine T).run (State.genesis initial) steps).members ∧
        v ∉ ((machine T).run (State.genesis initial) steps).blackList := by
  have hrun : EligibleOrLeaving ((machine T).run (State.genesis initial) steps) := by
    apply Machine.run_of_meets (P := ExpelsActive) _ (.genesis initial) hsteps
    intro s step s' hs hstep h
    exact hs.step hstep (.of_succeeds h)
  intro v hv
  rw [newSession_some hset] at hv
  exact hrun.eligible_of_mem hv

def nominate3 : Step (.plain 1) := .extrinsic none (fun _ => true) (.nominate 3)

def remove3 : Step (.plain 1) := .extrinsic none (fun _ => true) (.remove 3)

theorem removeLater_eligible
    : (newSession ((machine (.plain 1)).run (State.genesis [1, 2])
        [nominate3, .rotate, remove3]).startSession).1 = some [1, 2] ∧
      ∀ v ∈ [1, 2], v ∈ ((machine (.plain 1)).run (State.genesis [1, 2])
        [nominate3, .rotate, remove3]).members ∧
        v ∉ ((machine (.plain 1)).run (State.genesis [1, 2])
          [nominate3, .rotate, remove3]).blackList := by
  refine ⟨by decide, ?_⟩
  exact run_newSession_eligible (T := .plain 1) [1, 2] [nominate3, .rotate, remove3] (by decide) _
    (by decide)

theorem expelWaiting_not_eligible
    : (newSession ((machine (.plain 1)).run (State.genesis [1, 2])
        [nominate3, remove3]).startSession).1 = some [1, 2, 3] ∧
      3 ∉ ((machine (.plain 1)).run (State.genesis [1, 2]) [nominate3, remove3]).members ∧
      (newSession ((machine (.plain 1)).run (State.genesis [1, 2])
        [nominate3, .offence [3] .blackList]).startSession).1 = some [1, 2, 3] ∧
      3 ∈ ((machine (.plain 1)).run (State.genesis [1, 2])
        [nominate3, .offence [3] .blackList]).blackList := by
  -- The validator 3 is nominated and then removed or blacklisted in the same session, and it
  -- enters.
  decide

end Authorities
