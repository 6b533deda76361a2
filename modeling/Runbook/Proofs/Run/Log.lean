import Runbook.Proofs.Run.Errors
import Runbook.Proofs.Run.Structured
import Runbook.Proofs.Workflow.Checked

/-!
# The log of a run

The log of a run that came to an end has one record for each visit, after those of the visits inside
it and before those of the next visit, and the report says of the run what its failure does.

* `Nested.path_eq` says that the path of a visit has the names of the steps around it and its own;
* `Workflow.LogsExactly` is what holds of a report;
* `Definition.logsExactly` is the result.
-/

namespace Runbook

/-! ## Paths -/

theorem Run.stepPath_eq {scope : String} (h : scope ≠ "") (name : String) :
    stepPath scope name = scope ++ "/" ++ name := by
  rw [stepPath, if_neg (by rwa [String.isEmpty_iff])]
  rfl

/-- The path of a step with a name is not empty. -/
theorem Run.stepPath_ne_empty (scope : String) {name : String} (h : name ≠ "") :
    stepPath scope name ≠ "" := by
  by_cases hs : scope = ""
  · rw [hs]
    exact h
  · rw [stepPath_eq hs]
    exact fun he => h (String.append_eq_empty_iff.1 he).2

section Paths

variable {visits outer : List Visit} {root : Block} {v : Visit}

theorem Nested.name_ne_empty (h : Nested visits outer v) (hof : ∀ v ∈ visits, v.Of root "")
    (hn : root.Named) : v.step.name ≠ "" := by
  obtain ⟨_, block, _, hhas, hv⟩ := h.of hof
  have hblank := hn _ block hhas v.step (List.mem_of_getElem? hv.step_eq)
  intro he
  rw [he] at hblank
  cases hblank

/-- The path of a visit has the names of the steps around it and its own, with slashes between
them. -/
theorem Nested.path_eq (h : Nested visits outer v) (hof : ∀ v ∈ visits, v.Of root "")
    (hn : root.Named) :
    v.place.path = "/".intercalate ((outer.reverse ++ [v]).map fun v => v.step.name) := by
  induction h with
  | top mem =>
    rw [(hof _ mem).path_eq]
    exact String.intercalate_singleton.symm
  | @inside outer e v pass around pass_mem mem ih =>
    obtain ⟨_, _, scope, _, he⟩ := around.of hof
    have hne : e.place.path ≠ "" := by
      rw [he.path_eq]
      exact Run.stepPath_ne_empty scope (around.name_ne_empty hof hn)
    calc v.place.path
      _ = e.place.path ++ "/" ++ v.step.name := by
        rw [((he.inside pass_mem).of v mem).path_eq, Run.stepPath_eq hne]
      _ = "/".intercalate ((outer.reverse ++ [e]).map fun v => v.step.name) ++ "/" ++
          "/".intercalate [v.step.name] := by rw [ih, String.intercalate_singleton]
      _ = "/".intercalate ((outer.reverse ++ [e]).map (fun v => v.step.name) ++ [v.step.name]) :=
        (String.intercalate_append_of_ne_nil (by simp) (by simp)).symm
      _ = "/".intercalate (((e :: outer).reverse ++ [v]).map fun v => v.step.name) := by
        simp only [List.reverse_cons, List.map_append, List.map_cons, List.map_nil]

end Paths

/-! ## Records -/

namespace Visit

variable {v : Visit}

/-- A visit that came to its end has a record of its own, with its path. -/
theorem own?_isSome
    (h : ∀ halt, v.result? = some (.error halt) → ∃ failure, halt = .failed failure) :
    ∃ record, v.own? = some record ∧ record.path = v.place.path := by
  match v, h with
  | .skipped _ _, _ => exact ⟨_, rfl, rfl⟩
  | .dispatched _ _ _ (.ok _), _ => exact ⟨_, rfl, rfl⟩
  | .dispatched _ _ _ (.error halt), h =>
    obtain ⟨failure, rfl⟩ := h halt rfl
    exact ⟨_, rfl, rfl⟩

/-- The record of a visit that halts the run has the full wording of the failure. -/
theorem own?_of_halt {failure : Failure} (h : v.halt? = some (.failed failure)) :
    v.own? = some (.failure v.place.path failure.text) := by
  obtain ⟨hresult, hpast⟩ := halt?_eq_some_iff.1 h
  cases v with
  | skipped step place => cases hresult
  | dispatched step place passes result =>
    cases hresult
    have hpast : step.goesPast (.failed failure) = false := hpast
    rw [own?, hpast]
    rfl

/-- The record of the last visit is the last one. -/
theorem getLast?_records {visits : List Visit} {record : StepRecord}
    (hv : visits.getLast? = some v) (ho : v.own? = some record) :
    (visits.flatMap records).getLast? = some record := by
  rw [List.getLast?_eq_some_iff] at hv
  obtain ⟨before, rfl⟩ := hv
  rw [List.flatMap_append, List.flatMap_singleton, records_eq, ho, ← List.append_assoc]
  exact List.getLast?_concat

end Visit

/-! ## Results -/

section Results

variable {W : Type}

/-- The report on a run has an exact log of its visits, and says in all its parts whether and why
the run failed. -/
structure Workflow.LogsExactly (w : Workflow) (env : Setting W) (overrides : List (String × Value))
    (directory : String) (world : W) (report : Report) : Prop where
  /-- The records are those of the visits that the run made: each visit has one, which comes after
  all those of the visits inside it and before those of the next visit.  Its path has the names of
  the steps around it and its own. -/
  log : ∃ visits, w.Visited env overrides directory world visits ∧
    report.records = visits.flatMap Visit.records ∧
    ∀ outer v, Nested visits outer v → ∃ record, v.own? = some record ∧
      record.path = "/".intercalate ((outer.reverse ++ [v]).map fun v => v.step.name)
  /-- The run was a success if there was no failure. -/
  success : report.success = report.failure.isNone
  /-- And if it came to its end. -/
  completed : report.progress.completed = report.success
  /-- Why the run was halted is the full wording of the failure. -/
  error : report.progress.error = report.failure.map Failure.text
  /-- The last record of a run that failed is that of a step of the workflow itself, which failed
  for the same reason. -/
  last : report.failure.isSome → ∃ step ∈ w.body, ∃ record,
    report.records.getLast? = some record ∧ record.path = step.name ∧
      record.status = .failed ∧ record.error = report.progress.error

variable {d : Definition} {source : Option String} {c : Compiler} {s t : CompileState}
  {w : Workflow}

/-- A run that comes to an end does not lack fuel, and its report is that of its last state. -/
theorem Workflow.run_eq_some {w : Workflow} {env : Setting W} {overrides : List (String × Value)}
    {directory : String} {world world' : W} {report : Report}
    (h : w.run env overrides directory world = (some report, world')) :
    ((w.watch env overrides directory world).1 = .ok () ∧
        report = w.finished (w.watch env overrides directory world).2.forget) ∨
      ∃ failure, (w.watch env overrides directory world).1 = .error (.failed failure) ∧
        report = w.halted failure (w.watch env overrides directory world).2.forget := by
  rw [Workflow.run, w.forget_watch env overrides directory world] at h
  cases hr : (w.watch env overrides directory world).1 with
  | ok u =>
    rw [hr] at h
    cases h
    exact .inl ⟨rfl, rfl⟩
  | error halt =>
    rw [hr] at h
    cases halt with
    | failed failure =>
      cases h
      exact .inr ⟨failure, rfl, rfl⟩
    | outOfFuel | panicked => cases h

/-- **The log is that of the visits, in the order in which they end**, and the report says of the run
what its failure does: whatever was compiled before, and whatever the tools do. -/
theorem Definition.logsExactly (hs : s.Reached) (h : d.compile source c s = (.ok w, t))
    {env : Setting W} {overrides : List (String × Value)} {directory : String} {world world' : W}
    {report : Report} (hr : w.run env overrides directory world = (some report, world')) :
    w.LogsExactly env overrides directory world report := by
  obtain ⟨visits, hvisited, hgrows, hhalts, hlast⟩ :=
    w.watch_visited env overrides directory world
  have hend := Workflow.run_eq_some hr
  have hrecords : (w.watch env overrides directory world).2.records.reverse =
      visits.flatMap Visit.records := by
    rw [hgrows.records_eq]
    exact (List.append_nil _ ▸ List.reverse_reverse _)
  refine ⟨⟨visits, hvisited, ?_, ?_⟩, rfl, ?_, ?_, ?_⟩
  · rcases hend with ⟨-, rfl⟩ | ⟨failure, -, rfl⟩
    · exact hrecords
    · exact hrecords
  · intro outer v hnested
    -- a visit that did not come to its end would have kept the run from coming to its own
    have hends : ∀ halt, v.result? = some (.error halt) → ∃ failure, halt = .failed failure := by
      intro halt hresult
      cases halt with
      | failed failure => exact ⟨failure, rfl⟩
      | outOfFuel | panicked =>
        have hhalt := Visit.halt?_eq_some_iff.2 ⟨hresult, rfl⟩
        obtain ⟨_, -, hout⟩ := (hnested.carried hvisited.of hhalts hhalt).out
          (fun action => by cases action <;> rfl) fun _ => rfl
        rcases hend with ⟨hok, -⟩ | ⟨failure, hfailed, -⟩
        · rw [hok] at hout
          cases hout
        · rw [hfailed] at hout
          cases hout
    obtain ⟨record, hown, hpath⟩ := Visit.own?_isSome hends
    refine ⟨record, hown, hpath.trans ?_⟩
    exact hnested.path_eq hvisited.of (Definition.compile_named hs h)
  · rcases hend with ⟨-, rfl⟩ | ⟨failure, -, rfl⟩
    · rfl
    · exact hgrows.completed_eq
  · rcases hend with ⟨-, rfl⟩ | ⟨failure, -, rfl⟩
    · exact hgrows.error_eq
    · rfl
  · intro hfailed
    rcases hend with ⟨-, rfl⟩ | ⟨failure, hhalt, rfl⟩
    · cases hfailed
    · -- the failure came up while a step ran, so it is that of the last visit
      have hof := Workflow.run_failure (Definition.compile_sound hs h) hr rfl
      rcases hlast _ hhalt with hstray | hvisit
      · rw [hstray failure rfl] at hof
        cases hof
      obtain ⟨v, hv, hv'⟩ := Option.bind_eq_some_iff.1 hvisit
      have hvof := hvisited.of v (List.mem_of_getLast? hv)
      refine ⟨v.step, List.mem_of_getElem? hvof.step_eq, .failure v.place.path failure.text, ?_,
        hvof.path_eq, rfl, rfl⟩
      show (w.watch env overrides directory world).2.records.reverse.getLast? = _
      rw [hrecords]
      exact Visit.getLast?_records hv (Visit.own?_of_halt hv')

theorem tripped_runs : ∃ w t report world',
    tripped.compile none bareCompiler .empty = (.ok w, t) ∧
      w.run (bareSetting 100) [] "" () = (some report, world') ∧
      report.failure = some (.spawn "no shell") ∧
      report.records.map (·.path) = ["often/trip", "often"] :=
  ⟨_, _, _, _, rfl, rfl, rfl, rfl⟩

theorem Definition.logsExactly_tripped : ∃ w t report world',
    tripped.compile none bareCompiler .empty = (.ok w, t) ∧
      w.run (bareSetting 100) [] "" () = (some report, world') ∧
      w.LogsExactly (bareSetting 100) [] "" () report := by
  obtain ⟨w, t, report, world', h, hr, -, -⟩ := tripped_runs
  exact ⟨w, t, report, world', h, hr, Definition.logsExactly (.empty []) h hr⟩

end Results

end Runbook
