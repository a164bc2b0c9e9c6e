import Cord.Offences.Lemmas.Index

/-!
This module contains where the offenders come from that a report passes on to the handler: each of them was
named for its kind and its time slot, by the report or by one before it.
-/

open Frame

namespace Offences

variable {T : Config} {s s' : State T} {log : List (Filing T)}

def State.Traced (s : State T) (log : List (Filing T)) : Prop :=
  ∀ kind timeSlot, ∀ id ∈ s.concurrentReports kind timeSlot,
    ∃ d, s.reports.get id = some d ∧ ⟨kind, timeSlot, d.offender⟩ ∈ log

namespace State.Traced

theorem genesis (handler : T.Handler) : (State.genesis handler).Traced [] := by
  intro kind timeSlot id hid
  cases hid

theorem mono (h : s.Traced log) (log' : List (Filing T)) : s.Traced (log ++ log') := by
  intro kind timeSlot id hid
  obtain ⟨d, hd, hlog⟩ := h kind timeSlot id hid
  exact ⟨d, hd, List.mem_append_left _ hlog⟩

theorem congr (h : s.Traced log) (hreports : s'.reports = s.reports)
    (hindex : ∀ kind timeSlot, s'.concurrentReports kind timeSlot = s.concurrentReports kind timeSlot)
    : s'.Traced log := by
  intro kind timeSlot id hid
  rw [hindex] at hid
  rw [hreports]
  exact h kind timeSlot id hid

/-
What is stored already keeps its details, since the new report has an identifier of its own.
-/
theorem files {reporters : List T.AccountId} {f : Filing T} (h : s.Traced log)
    (hf : s.Files reporters f s') : s'.Traced (log ++ [f]) := by
  intro kind timeSlot id hid
  rw [hf.reports, StorageMap.get_insert]
  rcases (hf.mem_iff id).mp hid with hold | ⟨rfl, rfl, rfl⟩
  . obtain ⟨d, hd, hlog⟩ := h kind timeSlot id hold
    refine ⟨d, ?_, List.mem_append_left _ hlog⟩
    rw [if_neg]
    . exact hd
    . rintro rfl
      rw [hf.fresh] at hd
      cases hd
  . rw [if_pos rfl]
    exact ⟨_, rfl, List.mem_append_right _ List.mem_cons_self⟩

theorem logInvariant : LogInvariant (State.Traced (T := T)) where
  congr h hreports hindex := h.congr hreports hindex
  known h _ := h.mono _
  files h hf := h.files hf

theorem file_handler (h : s.Traced log) (report : Report T)
    : (report.file s).2.handler = s.handler ∨
        ∃ offenders, (report.file s).2.handler = T.onOffence offenders
            (slashStrategy report.offence.id) report.offence.sessionIndex s.handler ∧
          ∀ d ∈ offenders, ⟨report.offence.id, report.offence.timeSlot, d.offender⟩ ∈
            log ++ report.filings := by
  have htriage := logInvariant.triage h report
  unfold Report.file reportOffence triageOffenceReport
  generalize report.offence.offenders.foldl _ _ = t at *
  dsimp only
  cases hnew : t.anyNew with
  | false =>
    left
    rfl
  | true =>
    right
    refine ⟨_, rfl, ?_⟩
    intro d hd
    obtain ⟨id, hid, hget⟩ := List.mem_filterMap.mp hd
    have hlisted : id ∈ (s.commit report.offence.id report.offence.timeSlot t).concurrentReports
        report.offence.id report.offence.timeSlot := by
      rw [commit_concurrentReports, if_pos ⟨rfl, rfl⟩]
      exact hid
    obtain ⟨d', hd', hlog⟩ := htriage _ _ id hlisted
    have heq : some d' = some d := hd'.symm.trans hget
    injection heq with heq
    rw [← heq]
    exact hlog

end State.Traced

end Offences
