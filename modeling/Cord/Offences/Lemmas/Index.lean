import Cord.Offences.Impl
import Mathlib.Data.List.Nodup

/-!
This module contains how the reports that are stored and the index of the reports of a kind and a time
slot fit together over runs, and which reports are rejected as duplicates.
-/

open Frame

namespace Offences

variable {T : Config} {s s' : State T} {kind : Kind} {timeSlot : OpaqueTimeSlot}
  {reporters : List T.AccountId} {offenders : List T.IdentificationTuple} {t : Triage T}

section Duplicates

variable {offender : T.IdentificationTuple}

theorem isKnownOffence_iff
    : s.isKnownOffence kind offenders timeSlot = true ↔
        ∀ offender ∈ offenders,
          s.reports.containsKey (reportId T kind timeSlot offender) = true := by
  simp [State.isKnownOffence]

theorem visit_of_known (h : t.reports.containsKey (reportId T kind timeSlot offender) = true)
    : t.visit kind timeSlot reporters offender = t := by
  simp [Triage.visit, h]

theorem visit_of_new (h : t.reports.containsKey (reportId T kind timeSlot offender) = false)
    : t.visit kind timeSlot reporters offender =
        {
          reports := t.reports.insert (reportId T kind timeSlot offender) { offender, reporters }
          concurrentReports := t.concurrentReports ++ [reportId T kind timeSlot offender]
          anyNew := true
        } := by
  simp [Triage.visit, h]

theorem visit_anyNew (h : t.anyNew = true)
    : (t.visit kind timeSlot reporters offender).anyNew = true := by
  by_cases hknown : t.reports.containsKey (reportId T kind timeSlot offender) = true
  . rw [visit_of_known hknown]
    exact h
  . rw [visit_of_new (Bool.eq_false_of_not_eq_true hknown)]

theorem foldl_visit_anyNew (h : t.anyNew = true)
    : (offenders.foldl (Triage.visit kind timeSlot reporters) t).anyNew = true := by
  induction offenders generalizing t with
  | nil => exact h
  | cons offender offenders ih => exact ih (visit_anyNew h)

theorem foldl_visit_of_known
    (h : ∀ offender ∈ offenders, t.reports.containsKey (reportId T kind timeSlot offender) = true)
    : offenders.foldl (Triage.visit kind timeSlot reporters) t = t := by
  induction offenders with
  | nil => rfl
  | cons offender offenders ih =>
    rw [List.forall_mem_cons] at h
    rw [List.foldl_cons, visit_of_known h.1]
    exact ih h.2

theorem known_of_foldl_visit
    (h : (offenders.foldl (Triage.visit kind timeSlot reporters) t).anyNew = false)
    : ∀ offender ∈ offenders, t.reports.containsKey (reportId T kind timeSlot offender) = true := by
  induction offenders with
  | nil => exact List.forall_mem_nil _
  | cons offender offenders ih =>
    have hknown : t.reports.containsKey (reportId T kind timeSlot offender) = true := by
      by_contra hnew
      have hvisit : (t.visit kind timeSlot reporters offender).anyNew = true := by
        rw [visit_of_new (Bool.eq_false_of_not_eq_true hnew)]
      rw [List.foldl_cons, foldl_visit_anyNew hvisit] at h
      cases h
    rw [List.foldl_cons, visit_of_known hknown] at h
    exact List.forall_mem_cons.mpr ⟨hknown, ih h⟩

theorem anyNew_eq_false_iff (reporters : List T.AccountId)
    : (offenders.foldl (Triage.visit kind timeSlot reporters) (s.load kind timeSlot)).anyNew = false
        ↔
      s.isKnownOffence kind offenders timeSlot = true := by
  rw [isKnownOffence_iff]
  constructor
  . exact known_of_foldl_visit
  . intro h
    rw [foldl_visit_of_known h]
    rfl

theorem triageOffenceReport_of_known (h : s.isKnownOffence kind offenders timeSlot = true)
    : triageOffenceReport kind reporters timeSlot offenders s = (none, s) := by
  unfold triageOffenceReport
  rw [foldl_visit_of_known (isKnownOffence_iff.mp h)]
  rfl

theorem Report.file_of_known {report : Report T}
    (h : s.isKnownOffence report.offence.id report.offence.offenders report.offence.timeSlot = true)
    : report.file s = (.error .duplicateReport, s) := by
  unfold Report.file reportOffence
  rw [triageOffenceReport_of_known h]

theorem Report.file_of_unknown {report : Report T}
    (h : s.isKnownOffence report.offence.id report.offence.offenders report.offence.timeSlot = false)
    : (report.file s).1 = .ok () := by
  rw [← Bool.not_eq_true, ← anyNew_eq_false_iff report.reporters,
    Bool.not_eq_false] at h
  simp [Report.file, reportOffence, triageOffenceReport, h]

end Duplicates

/--
An offender that was reported for a kind and a time slot.
-/
structure Filing (T : Config) where
  kind : Kind
  timeSlot : OpaqueTimeSlot
  offender : T.IdentificationTuple

def Filing.reportId (f : Filing T) : T.Hash :=
  Offences.reportId T f.kind f.timeSlot f.offender

def Report.filings (report : Report T) : List (Filing T) :=
  report.offence.offenders.map fun offender => ⟨report.offence.id, report.offence.timeSlot, offender⟩

def filedIds (log : List (Filing T)) (kind : Kind) (timeSlot : OpaqueTimeSlot) : List T.Hash :=
  (log.filter fun f => f.kind = kind ∧ f.timeSlot = timeSlot).map Filing.reportId

def ReportIdInjective (T : Config) : Prop :=
  ∀ f f' : Filing T, f.reportId = f'.reportId → f = f'

/--
The index is exact: for a kind and a time slot it lists the reports that are stored for them, once
and in the order in which they were filed.
-/
structure State.Indexed (s : State T) (log : List (Filing T)) : Prop where
  nodup : ∀ kind timeSlot, (s.concurrentReports kind timeSlot).Nodup
  order : ∀ kind timeSlot, s.concurrentReports kind timeSlot = (filedIds log kind timeSlot).eraseDups
  stored : ∀ kind timeSlot id, id ∈ s.concurrentReports kind timeSlot ↔
    ∃ d, s.reports.get id = some d ∧ id = reportId T kind timeSlot d.offender
  filed : ∀ id d, s.reports.get id = some d →
    ∃ kind timeSlot, id = reportId T kind timeSlot d.offender

section Index

variable {log : List (Filing T)}

theorem State.Indexed.congr (h : s.Indexed log) (hreports : s'.reports = s.reports)
    (hindex : ∀ kind timeSlot, s'.concurrentReports kind timeSlot = s.concurrentReports kind timeSlot)
    : s'.Indexed log where
  nodup kind timeSlot := by
    rw [hindex]
    exact h.nodup kind timeSlot
  order kind timeSlot := by
    rw [hindex]
    exact h.order kind timeSlot
  stored kind timeSlot id := by
    rw [hindex, hreports]
    exact h.stored kind timeSlot id
  filed id d := by
    rw [hreports]
    exact h.filed id d

theorem eraseDups_concat {α : Type} [DecidableEq α] (l : List α) (a : α)
    : (l ++ [a]).eraseDups = if a ∈ l then l.eraseDups else l.eraseDups ++ [a] := by
  rw [List.eraseDups_append]
  split
  . next h => simp [List.removeAll, h]
  . next h => simp [List.removeAll, h, List.eraseDups_cons]

theorem filedIds_concat (f : Filing T)
    : filedIds (log ++ [f]) kind timeSlot =
        if f.kind = kind ∧ f.timeSlot = timeSlot then
          filedIds log kind timeSlot ++ [f.reportId]
        else
          filedIds log kind timeSlot := by
  unfold filedIds
  rw [List.filter_append, List.map_append]
  split
  . next h => simp [h]
  . next h => simp [h]

theorem State.Indexed.knows_iff (hinj : ReportIdInjective T) (h : s.Indexed log) (f : Filing T)
    : s.reports.containsKey f.reportId = true ↔ f.reportId ∈ s.concurrentReports f.kind f.timeSlot := by
  rw [h.stored, StorageMap.containsKey, Option.isSome_iff_exists]
  constructor
  . rintro ⟨d, hd⟩
    obtain ⟨kind, timeSlot, hid⟩ := h.filed _ d hd
    have hf := hinj f ⟨kind, timeSlot, d.offender⟩ hid
    subst hf
    exact ⟨d, hd, rfl⟩
  . rintro ⟨d, hd, _⟩
    exact ⟨d, hd⟩

theorem State.Indexed.known (hinj : ReportIdInjective T) (h : s.Indexed log) {f : Filing T}
    (hknown : s.reports.containsKey f.reportId = true) : s.Indexed (log ++ [f]) := by
  refine { h with order := ?_ }
  intro kind timeSlot
  rw [h.order, filedIds_concat]
  split
  . next heq =>
    obtain ⟨rfl, rfl⟩ := heq
    have hmem := (h.knows_iff hinj f).mp hknown
    rw [h.order, List.mem_eraseDups] at hmem
    rw [eraseDups_concat, if_pos hmem]
  . rfl

/--
A report that was not there is stored and put at the end of the index.
-/
structure State.Files (s : State T) (reporters : List T.AccountId) (f : Filing T) (s' : State T)
    : Prop where
  fresh : s.reports.get f.reportId = none
  reports : s'.reports = s.reports.insert f.reportId { offender := f.offender, reporters }
  index : ∀ kind timeSlot, s'.concurrentReports kind timeSlot =
    if f.kind = kind ∧ f.timeSlot = timeSlot then s.concurrentReports kind timeSlot ++ [f.reportId]
    else s.concurrentReports kind timeSlot

section Files

variable {f : Filing T}

theorem State.Files.not_mem (hf : s.Files reporters f s') (h : s.Indexed log) (kind : Kind)
    (timeSlot : OpaqueTimeSlot) : f.reportId ∉ s.concurrentReports kind timeSlot := by
  intro hmem
  obtain ⟨d, hd, _⟩ := (h.stored kind timeSlot f.reportId).mp hmem
  rw [hf.fresh] at hd
  cases hd

theorem State.Files.mem_iff (hf : s.Files reporters f s') (id : T.Hash)
    : id ∈ s'.concurrentReports kind timeSlot ↔
        id ∈ s.concurrentReports kind timeSlot ∨
          (f.kind = kind ∧ f.timeSlot = timeSlot ∧ id = f.reportId) := by
  rw [hf.index]
  split
  . next h => simp [h]
  . next h => simp [← and_assoc, h]

theorem State.Files.stored_iff (hinj : ReportIdInjective T) (hf : s.Files reporters f s')
    (id : T.Hash)
    : (∃ d, s'.reports.get id = some d ∧ id = reportId T kind timeSlot d.offender) ↔
        (∃ d, s.reports.get id = some d ∧ id = reportId T kind timeSlot d.offender) ∨
          (f.kind = kind ∧ f.timeSlot = timeSlot ∧ id = f.reportId) := by
  rw [hf.reports, StorageMap.get_insert]
  split
  . next hid =>
    subst hid
    constructor
    . rintro ⟨d, hd, hid⟩
      injection hd with hd
      subst hd
      have heq := hinj f ⟨kind, timeSlot, f.offender⟩ hid
      right
      exact ⟨congrArg Filing.kind heq, congrArg Filing.timeSlot heq, rfl⟩
    . rintro (⟨d, hd, _⟩ | ⟨rfl, rfl, _⟩)
      . rw [hf.fresh] at hd
        cases hd
      . exact ⟨_, rfl, rfl⟩
  . next hid => simp [hid]

theorem State.Indexed.files (hinj : ReportIdInjective T) (h : s.Indexed log)
    (hf : s.Files reporters f s') : s'.Indexed (log ++ [f]) where
  nodup kind timeSlot := by
    rw [hf.index]
    split
    . rw [← List.concat_eq_append]
      exact (h.nodup kind timeSlot).concat (hf.not_mem h kind timeSlot)
    . exact h.nodup kind timeSlot
  order kind timeSlot := by
    have hnew := hf.not_mem h kind timeSlot
    rw [h.order, List.mem_eraseDups] at hnew
    rw [hf.index, filedIds_concat]
    split
    . rw [eraseDups_concat, if_neg hnew, h.order]
    . exact h.order kind timeSlot
  stored kind timeSlot id := by
    rw [hf.mem_iff, hf.stored_iff hinj, h.stored]
  filed id d hd := by
    rw [hf.reports, StorageMap.get_insert] at hd
    split at hd
    . next hid =>
      injection hd with hd
      subst hd
      exact ⟨f.kind, f.timeSlot, hid⟩
    . exact h.filed id d hd

end Files

def State.commit (s : State T) (kind : Kind) (timeSlot : OpaqueTimeSlot) (t : Triage T) : State T :=
  -- What the storage would be if the index was saved now.
  {
    s with
    reports := t.reports
    concurrentReportsIndex := s.concurrentReportsIndex.insert (kind, timeSlot) t.concurrentReports
  }

theorem commit_concurrentReports (kind' : Kind) (timeSlot' : OpaqueTimeSlot)
    : (s.commit kind timeSlot t).concurrentReports kind' timeSlot' =
        if kind = kind' ∧ timeSlot = timeSlot' then t.concurrentReports
        else s.concurrentReports kind' timeSlot' := by
  simp [State.commit, State.concurrentReports, StorageMap.getD_insert, Prod.mk.injEq, eq_comm]

theorem commit_load_concurrentReports (kind' : Kind) (timeSlot' : OpaqueTimeSlot)
    : (s.commit kind timeSlot (s.load kind timeSlot)).concurrentReports kind' timeSlot' =
        s.concurrentReports kind' timeSlot' := by
  rw [commit_concurrentReports]
  split
  . next h =>
    obtain ⟨rfl, rfl⟩ := h
    rfl
  . rfl

theorem visit_files {offender : T.IdentificationTuple}
    (hnew : t.reports.containsKey (reportId T kind timeSlot offender) = false)
    : (s.commit kind timeSlot t).Files reporters ⟨kind, timeSlot, offender⟩
        (s.commit kind timeSlot (t.visit kind timeSlot reporters offender)) where
  fresh := (StorageMap.containsKey_eq_false_iff _ _).mp hnew
  reports := by
    rw [visit_of_new hnew]
    rfl
  index kind' timeSlot' := by
    rw [visit_of_new hnew, commit_concurrentReports, commit_concurrentReports]
    split
    . rfl
    . rfl

/--
What a report does to the reports that are stored and to the index, one offender after the other.
-/
structure LogInvariant (I : State T → List (Filing T) → Prop) : Prop where
  congr : ∀ {s s' log}, I s log → s'.reports = s.reports →
    (∀ kind timeSlot, s'.concurrentReports kind timeSlot = s.concurrentReports kind timeSlot) →
      I s' log
  known : ∀ {s log f}, I s log → s.reports.containsKey f.reportId = true → I s (log ++ [f])
  files : ∀ {s log reporters f s'}, I s log → s.Files reporters f s' → I s' (log ++ [f])

namespace LogInvariant

variable {I : State T → List (Filing T) → Prop}

theorem visit (hI : LogInvariant I) (h : I (s.commit kind timeSlot t) log)
    (offender : T.IdentificationTuple)
    : I (s.commit kind timeSlot (t.visit kind timeSlot reporters offender))
        (log ++ [⟨kind, timeSlot, offender⟩]) := by
  by_cases hknown : t.reports.containsKey (reportId T kind timeSlot offender) = true
  . rw [visit_of_known hknown]
    exact hI.known h hknown
  . exact hI.files h (visit_files (Bool.eq_false_of_not_eq_true hknown))

theorem foldl_visit (hI : LogInvariant I) (h : I (s.commit kind timeSlot t) log)
    (reporters : List T.AccountId) (offenders : List T.IdentificationTuple)
    : I (s.commit kind timeSlot (offenders.foldl (Triage.visit kind timeSlot reporters) t))
        (log ++ offenders.map fun offender => ⟨kind, timeSlot, offender⟩) := by
  induction offenders generalizing t log with
  | nil =>
    rw [List.map_nil, List.append_nil]
    exact h
  | cons offender offenders ih =>
    rw [List.foldl_cons, List.map_cons, List.append_cons]
    exact ih (hI.visit h offender)

theorem triage (hI : LogInvariant I) (h : I s log) (report : Report T)
    : I (s.commit report.offence.id report.offence.timeSlot
        (report.offence.offenders.foldl
          (Triage.visit report.offence.id report.offence.timeSlot report.reporters)
          (s.load report.offence.id report.offence.timeSlot))) (log ++ report.filings) := by
  apply hI.foldl_visit
  exact hI.congr h rfl commit_load_concurrentReports

theorem file (hI : LogInvariant I) (h : I s log) (report : Report T)
    : I (report.file s).2 (log ++ report.filings) := by
  have hfiled := hI.triage h report
  cases hknown : s.isKnownOffence report.offence.id report.offence.offenders
      report.offence.timeSlot with
  | true =>
    -- All of them are known, so nothing was written.
    rw [foldl_visit_of_known (isKnownOffence_iff.mp hknown)] at hfiled
    rw [report.file_of_known hknown]
    refine hI.congr hfiled (by rfl) ?_
    intro kind timeSlot
    rw [commit_load_concurrentReports]
  | false =>
    rw [← Bool.not_eq_true, ← anyNew_eq_false_iff report.reporters,
      Bool.not_eq_false] at hknown
    apply hI.congr hfiled
    . simp [Report.file, reportOffence, triageOffenceReport, hknown, State.commit]
    . intro kind timeSlot
      simp [Report.file, reportOffence, triageOffenceReport, hknown, State.commit,
        State.concurrentReports]

end LogInvariant

theorem indexed_logInvariant (hinj : ReportIdInjective T) : LogInvariant (State.Indexed (T := T)) where
  congr h hreports hindex := h.congr hreports hindex
  known h hknown := h.known hinj hknown
  files h hf := h.files hinj hf

theorem genesis_indexed (handler : T.Handler) : (State.genesis handler).Indexed [] where
  nodup _ _ := List.nodup_nil
  order _ _ := rfl
  stored kind timeSlot id := by
    simp [State.genesis, State.concurrentReports, StorageMap.getD]
  filed id d hd := by
    simp [State.genesis] at hd

theorem State.Indexed.run (hinj : ReportIdInjective T) (h : s.Indexed log)
    (reports : List (Report T))
    : (run s reports).Indexed (log ++ reports.flatMap Report.filings) := by
  induction reports generalizing s log with
  | nil =>
    rw [List.flatMap_nil, List.append_nil]
    exact h
  | cons report reports ih =>
    rw [List.flatMap_cons, ← List.append_assoc]
    exact ih ((indexed_logInvariant hinj).file h report)

end Index

/--
In every state the index lists the reports of a kind and a time slot exactly. A report is rejected as
a duplicate if and only if all of its offenders are known, and then nothing is written.
-/
theorem run_indexed (hinj : ReportIdInjective T) (handler : T.Handler) (reports : List (Report T))
    : (run (State.genesis handler) reports).Indexed (reports.flatMap Report.filings) ∧
        ∀ report : Report T,
          ((report.file (run (State.genesis handler) reports)).1 = .error .duplicateReport ↔
            (run (State.genesis handler) reports).isKnownOffence report.offence.id
              report.offence.offenders report.offence.timeSlot = true) ∧
          ((report.file (run (State.genesis handler) reports)).1 = .error .duplicateReport →
            (report.file (run (State.genesis handler) reports)).2 =
              run (State.genesis handler) reports) := by
  have hindexed := (genesis_indexed handler).run hinj reports
  rw [List.nil_append] at hindexed
  refine ⟨hindexed, ?_⟩
  intro report
  cases hknown : (run (State.genesis handler) reports).isKnownOffence report.offence.id
      report.offence.offenders report.offence.timeSlot with
  | true => simp [report.file_of_known hknown]
  | false => simp [report.file_of_unknown hknown]

section Plain

theorem plain_reportIdInjective : ReportIdInjective .plain := by
  rintro ⟨kind, timeSlot, offender⟩ ⟨kind', timeSlot', offender'⟩ h
  simp only [Filing.reportId, reportId, id_eq] at h
  have hlen : kind.toList.length = kind'.toList.length := by
    rw [Vector.length_toList, Vector.length_toList]
  obtain ⟨hinit, hlast⟩ := List.append_inj' h rfl
  obtain ⟨hkind, hslot⟩ := List.append_inj hinit hlen
  injection hslot with _ hslot
  injection hlast with hoffender
  rw [Vector.toList_inj] at hkind
  rw [hkind, hslot, hoffender]

def plainReports : List (Report .plain) := [
    -- The second report names an offender twice and one that is known, the last one nobody.
    ⟨[9], ⟨imOnline, [42], [1], 0⟩⟩,
    ⟨[9], ⟨imOnline, [42], [2, 1, 2], 0⟩⟩,
    ⟨[9], ⟨imOnline, [42], [], 0⟩⟩
  ]

theorem plainReports_indexed
    : (run (State.genesis []) plainReports).Indexed (plainReports.flatMap Report.filings) ∧
        ((run (State.genesis []) plainReports).concurrentReports imOnline [42]).length = 2 :=
  ⟨(run_indexed plain_reportIdInjective [] plainReports).1, by decide +kernel⟩

end Plain

end Offences
