import Runbook.Proofs.Run.Log

/-!
# Paths of steps

The path of a step joins the names of the steps around it and its own with slashes.  Names of one
list are told apart, but a name may have slashes in it, and then steps of different lists can have
one path.

* `Block.At` says that a step is at a position, and what its path is; `Block.Identifies` that no two
  steps have a path;
* `join_eq_join` says how two joined paths can be the same, and `Overlaps` that one name runs on into
  the path of a step inside another;
* `Block.At.unique` tells steps apart by their paths where no names overlap, by induction on the
  position, and `Overlaps.shares` finds two steps with one path where some do;
* `Nested.at` says that every visit is one of the step at its position, with the path of that step,
  and `mem_flatMap_records` that the records are those of the visits;
* `Workflow.PathsTell` says what paths tell of steps and records, and `Definition.pathsTell` is the
  result; in `doubled` two steps have one path.
-/

namespace Runbook

/-! ## Joined paths -/

/-- Two joined paths are the same if their parts are, or if one part runs on into the other path. -/
theorem join_eq_join {a b p q : String} (h : a ++ "/" ++ p = b ++ "/" ++ q) :
    a = b ∧ p = q ∨ (∃ more, a = b ++ "/" ++ more ∧ q = more ++ "/" ++ p) ∨
      ∃ more, b = a ++ "/" ++ more ∧ p = more ++ "/" ++ q := by
  have hlist : a.toList ++ '/' :: p.toList = b.toList ++ '/' :: q.toList := by
    simpa using congrArg String.toList h
  -- what is left of the longer part is empty or begins with the slash
  have hleft : ∀ {x y s t : String} {rest : List Char}, y.toList = x.toList ++ rest →
      '/' :: s.toList = rest ++ '/' :: t.toList →
      x = y ∧ s = t ∨ ∃ more, y = x ++ "/" ++ more ∧ s = more ++ "/" ++ t := by
    intro x y s t rest hy hs
    cases rest with
    | nil =>
      rw [List.append_nil] at hy
      exact .inl ⟨(String.toList_injective hy).symm, String.toList_injective (List.cons.inj hs).2⟩
    | cons c rest =>
      obtain ⟨rfl, htail⟩ := List.cons.inj hs
      refine .inr ⟨String.ofList rest, String.toList_injective ?_, String.toList_injective ?_⟩
      · simpa using hy
      · simpa using htail
  rcases List.append_eq_append_iff.1 hlist with ⟨rest, hb, hp⟩ | ⟨rest, ha, hq⟩
  · rcases hleft hb hp with hsame | hmore
    · exact .inl hsame
    · exact .inr (.inr hmore)
  · rcases hleft ha hq with ⟨hba, hqp⟩ | hmore
    · exact .inl ⟨hba.symm, hqp.symm⟩
    · exact .inr (.inl hmore)

/-! ## Steps at positions -/

/-- The step at a position, an index for each list from the outermost on, and its path. -/
inductive Block.At : Block → (position : List Nat) → (path : String) → Step Action → Prop where
  /-- A step of the list itself. -/
  | here {block : Block} {i : Nat} {step : Step Action} (step_eq : block[i]? = some step) :
    At block [i] step.name step
  /-- A step inside one. -/
  | inside {block : Block} {i : Nat} {step inner : Step Action} {position : List Nat}
    {path : String} (step_eq : block[i]? = some step)
    (rest : At step.tool.steps position path inner) :
    At block (i :: position) (step.name ++ "/" ++ path) inner

/-- No two steps have the path. -/
def Block.Identifies (block : Block) (path : String) : Prop :=
  ∀ p q step other, block.At p path step → block.At q path other → p = q

/-- The name of one step runs on into the path of a step inside another: behind the name of the other
and a slash it has the whole path, or the beginning of one whose end is the path of a step inside the
first. -/
inductive Overlaps (step other : Step Action) : Prop where
  /-- The name is a path. -/
  | whole {more : String} {position : List Nat} {inner : Step Action}
    (name_eq : step.name = other.name ++ "/" ++ more)
    (other_at : other.tool.steps.At position more inner)
  /-- The name is the beginning of a path. -/
  | part {more path : String} {p q : List Nat} {inner inner' : Step Action}
    (name_eq : step.name = other.name ++ "/" ++ more) (step_at : step.tool.steps.At p path inner)
    (other_at : other.tool.steps.At q (more ++ "/" ++ path) inner')

section Positions

variable {root block : Block} {inLoop : Bool} {p q : List Nat} {path rel : String}
  {step other inner : Step Action}

/-- A step inside a step at a position. -/
theorem Block.At.trans (h : root.At p path step) (hi : step.tool.steps.At q rel inner) :
    root.At (p ++ q) (path ++ "/" ++ rel) inner := by
  induction h with
  | here step_eq => exact .inside step_eq hi
  | @inside block i step inner position path step_eq rest ih =>
    have hjoin : step.name ++ "/" ++ path ++ "/" ++ rel = step.name ++ "/" ++ (path ++ "/" ++ rel) := by
      simp only [String.append_assoc]
    rw [List.cons_append, hjoin]
    exact .inside step_eq (ih hi)

/-- There is one step at a position, and it has one path there. -/
theorem Block.At.eq (h : block.At p path step) {path' : String} (h' : block.At p path' other) :
    path = path' ∧ step = other := by
  induction h generalizing path' with
  | here step_eq =>
    cases h' with
    | here other_eq =>
      obtain rfl := Option.some.inj (step_eq.symm.trans other_eq)
      exact ⟨rfl, rfl⟩
    | inside other_eq rest => cases rest
  | inside step_eq rest ih =>
    cases h' with
    | here other_eq => cases rest
    | inside other_eq rest' =>
      obtain rfl := Option.some.inj (step_eq.symm.trans other_eq)
      obtain ⟨hpath, hinner⟩ := ih rest'
      exact ⟨congrArg _ hpath, hinner⟩

/-- Steps of one name stand at one index. -/
theorem Block.index_eq (hnames : (stepNames block).Nodup) {i j : Nat} (hi : block[i]? = some step)
    (hj : block[j]? = some other) (hname : step.name = other.name) : i = j := by
  have hposition : ∀ {k s}, block[k]? = some s → block.position? s.name = some k := fun hk =>
    (Block.position?_eq_some_iff hnames).2 (by rw [hk]; rfl)
  have heq := hposition hj
  rw [← hname, hposition hi] at heq
  exact Option.some.inj heq

/-- The list inside a step is inside the list around it. -/
theorem Block.Has.steps (h : root.Has inLoop block) (mem : step ∈ block)
    (hi : step.tool.steps.At q rel inner) : ∃ inLoop', root.Has inLoop' step.tool.steps := by
  cases hbody : step.tool.body? with
  | none =>
    rw [Action.steps, hbody] at hi
    cases hi <;> contradiction
  | some body =>
    rw [Action.steps, hbody]
    exact h.inside mem hbody

/-- Where no names overlap a path leads to one position. -/
theorem Block.At.unique (hsound : root.Sound false)
    (hapart : ∀ inLoop block, root.Has inLoop block → ∀ step ∈ block, ∀ other ∈ block,
      ¬ Overlaps step other)
    (hhas : root.Has inLoop block) (h : block.At p path step) {path' : String}
    (h' : block.At q path' other) (hpath : path = path') : p = q := by
  induction h generalizing inLoop q path' other with
  | @here block i step step_eq =>
    cases h' with
    | here other_eq => rw [Block.index_eq (hsound.has hhas).1 step_eq other_eq hpath]
    | inside other_eq rest =>
      exact absurd (.whole hpath rest) (hapart _ _ hhas _ (List.mem_of_getElem? step_eq) _
        (List.mem_of_getElem? other_eq))
  | @inside block i step inner position path step_eq rest ih =>
    have hstep := List.mem_of_getElem? step_eq
    cases h' with
    | here other_eq =>
      exact absurd (.whole hpath.symm rest) (hapart _ _ hhas _ (List.mem_of_getElem? other_eq) _
        hstep)
    | @inside _ j other _ position' path' other_eq rest' =>
      have hother := List.mem_of_getElem? other_eq
      rcases join_eq_join hpath with ⟨hname, hrest⟩ | ⟨more, hname, rfl⟩ | ⟨more, hname, rfl⟩
      · -- the same step: the paths part inside it, if at all
        obtain rfl := Block.index_eq (hsound.has hhas).1 step_eq other_eq hname
        obtain rfl := Option.some.inj (step_eq.symm.trans other_eq)
        obtain ⟨_, hinside⟩ := hhas.steps hstep rest
        rw [ih hinside rest' hrest]
      · exact absurd (.part hname rest rest') (hapart _ _ hhas _ hstep _ hother)
      · exact absurd (.part hname rest' rest) (hapart _ _ hhas _ hother _ hstep)

/-- A list inside another is that list, or the one inside the step at some position. -/
theorem Block.Has.at (h : root.Has inLoop block) :
    block = root ∨ ∃ p path step, root.At p path step ∧ step.tool.steps = block := by
  -- a step of a list that is so found is at a position itself
  have hstep : ∀ {block : Block} {step : Step Action},
      (block = root ∨ ∃ p path step, root.At p path step ∧ step.tool.steps = block) →
      step ∈ block → ∃ p path, root.At p path step := by
    rintro block step (rfl | ⟨p, path, outer, hat, rfl⟩) mem
    · obtain ⟨i, hi⟩ := List.mem_iff_getElem?.1 mem
      exact ⟨_, _, .here hi⟩
    · obtain ⟨i, hi⟩ := List.mem_iff_getElem?.1 mem
      exact ⟨_, _, hat.trans (.here hi)⟩
  induction h with
  | root => exact .inl rfl
  | @loop _ block body step outer mem body_eq ih =>
    obtain ⟨p, path, hat⟩ := hstep ih mem
    refine .inr ⟨p, path, step, hat, ?_⟩
    have hbody : step.tool.body? = some body := by
      cases htool : step.tool <;> rw [htool] at body_eq <;> cases body_eq <;> rfl
    rw [Action.steps, hbody]
    rfl
  | @shared _ block step callee inputs outputs outer mem tool_eq ih =>
    obtain ⟨p, path, hat⟩ := hstep ih mem
    refine .inr ⟨p, path, step, hat, ?_⟩
    rw [tool_eq]
    rfl

/-- If paths tell the steps of a list apart, they tell those of every list inside it apart. -/
theorem Block.Has.identifies (h : root.Has inLoop block) (hroot : ∀ path, root.Identifies path)
    (path : String) : block.Identifies path := by
  intro p q step other hp hq
  rcases h.at with rfl | ⟨around, before, outer, hat, rfl⟩
  · exact hroot path p q step other hp hq
  · exact List.append_cancel_left (hroot _ _ _ step other (hat.trans hp) (hat.trans hq))

/-- No position is empty. -/
theorem Block.At.ne_nil (h : block.At p path step) : p ≠ [] := by
  cases h <;> exact List.cons_ne_nil _ _

/-- Where names overlap there is one path for two steps. -/
theorem Overlaps.shares (h : Overlaps step other) (hstep : step ∈ block) (hother : other ∈ block) :
    ∃ path, ¬ block.Identifies path := by
  obtain ⟨i, hi⟩ := List.mem_iff_getElem?.1 hstep
  obtain ⟨j, hj⟩ := List.mem_iff_getElem?.1 hother
  cases h with
  | whole name_eq other_at =>
    refine ⟨step.name, fun hone => ?_⟩
    have hother := Block.At.inside hj other_at
    rw [← name_eq] at hother
    exact other_at.ne_nil (List.cons.inj (hone _ _ _ _ (.here hi) hother)).2.symm
  | @part more path p q _ _ name_eq step_at other_at =>
    refine ⟨step.name ++ "/" ++ path, fun hone => ?_⟩
    have hother := Block.At.inside hj other_at
    have hjoin : other.name ++ "/" ++ (more ++ "/" ++ path) = step.name ++ "/" ++ path := by
      rw [name_eq]
      simp only [String.append_assoc]
    rw [hjoin] at hother
    obtain ⟨rfl, -⟩ := List.cons.inj (hone _ _ _ _ (.inside hi step_at) hother)
    -- no name runs on into anything behind itself
    obtain rfl := Option.some.inj (hi.symm.trans hj)
    have hlength := congrArg String.length name_eq
    simp only [String.length_append] at hlength
    have hslash : "/".length = 1 := rfl
    omega

/-- A name that runs on into another path has a slash in it. -/
theorem Overlaps.slash_mem (h : Overlaps step other) : '/' ∈ step.name.toList := by
  have hmem : ∀ {more : String}, step.name = other.name ++ "/" ++ more → '/' ∈ step.name.toList := by
    intro more hname
    rw [hname]
    simp
  cases h with
  | whole name_eq _ => exact hmem name_eq
  | part name_eq _ _ => exact hmem name_eq

/-- Paths tell all steps apart exactly if no names of one list overlap. -/
theorem identifies_iff (hsound : root.Sound false) :
    (∀ path, root.Identifies path) ↔ ∀ inLoop block, root.Has inLoop block →
      ∀ step ∈ block, ∀ other ∈ block, ¬ Overlaps step other := by
  constructor
  · intro hroot inLoop block hhas step hstep other hother hover
    obtain ⟨path, hpath⟩ := hover.shares hstep hother
    exact hpath (hhas.identifies hroot path)
  · intro hapart path p q step other hp hq
    exact Block.At.unique hsound hapart .root hp hq rfl

end Positions

/-! ## Visits at positions -/

/-- Where the step of a visit stands: the indices of the steps of the visits around it, and its own. -/
def Visit.position (outer : List Visit) (v : Visit) : List Nat :=
  (outer.reverse ++ [v]).map (·.place.index)

section Visits

variable {visits outer : List Visit} {root : Block} {v : Visit} {record : StepRecord}

/-- Every visit is one of the step at its position, with the path of that step. -/
theorem Nested.at (h : Nested visits outer v) (hof : ∀ v ∈ visits, v.Of root "")
    (hn : root.Named) : root.At (Visit.position outer v) v.place.path v.step := by
  induction h with
  | @top v mem =>
    have hv := hof _ mem
    have hpath : v.place.path = v.step.name := hv.path_eq
    rw [hpath]
    exact .here hv.step_eq
  | @inside outer e v pass around pass_mem mem ih =>
    obtain ⟨_, _, scope, _, he⟩ := around.of hof
    have hv := (he.inside pass_mem).of v mem
    have hne : e.place.path ≠ "" := by
      rw [he.path_eq]
      exact Run.stepPath_ne_empty scope (around.name_ne_empty hof hn)
    have hposition : Visit.position (e :: outer) v = Visit.position outer e ++ [v.place.index] := by
      simp only [Visit.position, List.reverse_cons, List.map_append, List.map_cons, List.map_nil]
    rw [hposition, hv.path_eq, Run.stepPath_eq hne]
    exact ih.trans (.here hv.step_eq)

/-- The record of a visit has its path. -/
theorem Visit.own?_path (h : v.own? = some record) : record.path = v.place.path := by
  match v, h with
  | .skipped _ _, rfl => rfl
  | .dispatched _ _ _ (.ok _), rfl => rfl
  | .dispatched _ _ _ (.error (.failed _)), rfl => rfl

/-- The records of every visit, wherever it is, are among those of the visits. -/
theorem Nested.records_subset (h : Nested visits outer v) :
    v.records ⊆ visits.flatMap Visit.records := by
  induction h with
  | top mem => exact fun record hrecord => List.mem_flatMap.2 ⟨_, mem, hrecord⟩
  | @inside _ e v pass around pass_mem mem ih =>
    intro record hrecord
    refine ih ?_
    rw [Visit.records_eq]
    exact List.mem_append_left _ (List.mem_flatMap.2 ⟨pass, pass_mem,
      List.mem_flatMap.2 ⟨v, mem, hrecord⟩⟩)

/-- Every record of a visit is that of the visit or of one inside it. -/
theorem Visit.Of.exists_own {block : Block} {scope : String} (hv : v.Of block scope)
    (h : Nested visits outer v) (hrecord : record ∈ v.records) :
    ∃ outer v, Nested visits outer v ∧ v.own? = some record := by
  induction hv generalizing outer with
  | skipped step_eq path_eq =>
    rw [Visit.records_eq] at hrecord
    exact ⟨_, _, h, Option.mem_toList.1 hrecord⟩
  | dispatched step_eq path_eq inside last halts ih =>
    rw [Visit.records_eq] at hrecord
    rcases List.mem_append.1 hrecord with hinside | hown
    · obtain ⟨pass, hpass, hinside⟩ := List.mem_flatMap.1 hinside
      obtain ⟨v, hmem, hrecord⟩ := List.mem_flatMap.1 hinside
      exact ih pass hpass v hmem (.inside h hpass hmem) hrecord
    · exact ⟨_, _, h, Option.mem_toList.1 hown⟩

/-- The records are those of the visits, wherever they are. -/
theorem mem_flatMap_records (hof : ∀ v ∈ visits, v.Of root "") :
    record ∈ visits.flatMap Visit.records ↔
      ∃ outer v, Nested visits outer v ∧ v.own? = some record := by
  constructor
  · intro hrecord
    obtain ⟨v, hmem, hrecord⟩ := List.mem_flatMap.1 hrecord
    exact (hof v hmem).exists_own (.top hmem) hrecord
  · rintro ⟨outer, v, h, hown⟩
    refine h.records_subset ?_
    rw [Visit.records_eq, hown]
    exact List.mem_append_right _ (List.mem_singleton_self record)

end Visits

/-! ## Results -/

/-- What the paths of the records of a run tell of its visits. -/
structure Workflow.RecordsTell (w : Workflow) (visits : List Visit) (report : Report) : Prop where
  /-- The records with a path are those of the visits of the steps with that path, wherever they
  stand. -/
  all : ∀ path record, record ∈ report.recordsFor path ↔ ∃ outer v, Nested visits outer v ∧
    v.own? = some record ∧ w.body.At (Visit.position outer v) path v.step
  /-- If no two steps have the path of a step, they are those of the visits of that step. -/
  one : ∀ path p step, w.body.Identifies path → w.body.At p path step → ∀ record,
    record ∈ report.recordsFor path ↔ ∃ outer v, Nested visits outer v ∧ v.own? = some record ∧
      Visit.position outer v = p ∧ v.step = step

/-- What the paths of a workflow tell of its steps, and of the records of its runs. -/
structure Workflow.PathsTell (w : Workflow) : Prop where
  /-- Paths tell all steps apart exactly if in no list the name of a step runs on into the path of
  one inside another. -/
  apart : (∀ path, w.body.Identifies path) ↔ ∀ inLoop block, w.body.Has inLoop block →
    ∀ step ∈ block, ∀ other ∈ block, ¬ Overlaps step other
  /-- They do if no name has a slash in it. -/
  slashless : (∀ inLoop block, w.body.Has inLoop block → ∀ step ∈ block, '/' ∉ step.name.toList) →
    ∀ path, w.body.Identifies path
  /-- They tell whose the records of every run that comes to an end are. -/
  recorded : ∀ {W : Type} (env : Setting W) (overrides : List (String × Value))
    (directory : String) (world world' : W) (report : Report),
    w.run env overrides directory world = (some report, world') →
      ∃ visits, w.Visited env overrides directory world visits ∧ w.RecordsTell visits report

section Results

variable {d : Definition} {source : Option String} {c : Compiler} {s t : CompileState}
  {w : Workflow}

section Run

variable {W : Type} {env : Setting W} {overrides : List (String × Value)} {directory : String}
  {world world' : W} {report : Report}

/-- The records of a run that comes to its end are those of its visits. -/
theorem Workflow.run_records (hr : w.run env overrides directory world = (some report, world')) :
    ∃ visits, w.Visited env overrides directory world visits ∧
      report.records = visits.flatMap Visit.records := by
  obtain ⟨visits, hvisited, hgrows, -, -⟩ := w.watch_visited env overrides directory world
  have hstate : (w.watch env overrides directory world).2.records.reverse =
      visits.flatMap Visit.records := by
    rw [hgrows.records_eq]
    exact (List.append_nil _ ▸ List.reverse_reverse _)
  refine ⟨visits, hvisited, ?_⟩
  rcases Workflow.run_eq_some hr with ⟨-, rfl⟩ | ⟨failure, -, rfl⟩
  · exact hstate
  · exact hstate

/-- The records of a run are those of the visits of the steps with their paths. -/
theorem Workflow.recordsTell (hn : w.body.Named)
    (hr : w.run env overrides directory world = (some report, world')) :
    ∃ visits, w.Visited env overrides directory world visits ∧ w.RecordsTell visits report := by
  obtain ⟨visits, hvisited, hrecords⟩ := Workflow.run_records hr
  have hall : ∀ path record, record ∈ report.recordsFor path ↔ ∃ outer v,
      Nested visits outer v ∧ v.own? = some record ∧
        w.body.At (Visit.position outer v) path v.step := by
    intro path record
    rw [Report.recordsFor, List.mem_filter, hrecords, mem_flatMap_records hvisited.of, beq_iff_eq]
    constructor
    · rintro ⟨⟨outer, v, hnested, hown⟩, rfl⟩
      refine ⟨outer, v, hnested, hown, ?_⟩
      rw [Visit.own?_path hown]
      exact hnested.at hvisited.of hn
    · rintro ⟨outer, v, hnested, hown, hat⟩
      refine ⟨⟨outer, v, hnested, hown⟩, ?_⟩
      rw [Visit.own?_path hown]
      exact ((hnested.at hvisited.of hn).eq hat).1
  refine ⟨visits, hvisited, hall, fun path p step hone hat record => ?_⟩
  rw [hall]
  constructor
  · rintro ⟨outer, v, hnested, hown, hv⟩
    have hp : Visit.position outer v = p := hone _ _ _ _ hv hat
    exact ⟨outer, v, hnested, hown, hp, ((hp ▸ hv).eq hat).2⟩
  · rintro ⟨outer, v, hnested, hown, rfl, rfl⟩
    exact ⟨outer, v, hnested, hown, hat⟩

end Run

/-- **A path is that of one step as far as names do not run on into other paths**, which only names
with slashes can do: whatever was compiled before, and whatever lists are inside the steps, those of
shared workflows included. -/
theorem Definition.pathsTell (hs : s.Reached) (h : d.compile source c s = (.ok w, t)) :
    w.PathsTell := by
  have hsound := Definition.compile_sound hs h
  refine ⟨identifies_iff hsound, fun hslashless => ?_, fun env overrides directory world world'
    report hr => Workflow.recordsTell (Definition.compile_named hs h) hr⟩
  rw [identifies_iff hsound]
  intro inLoop block hhas step hstep other _ hover
  exact hslashless inLoop block hhas step hstep hover.slash_mem

/-- A step that is named like the path of a step inside the next one. -/
def doubled : Definition where
  name := "doubled"
  description := none
  version := "1"
  vars := .empty
  defaults := {}
  steps :=
    [Builtin.plainStep "a/b" (.set "x" (.bool true) false),
      Builtin.plainStep "a" (.foreach
        ⟨.array [.bool true], "item", "index", none, none, .ascending, none⟩
        [Builtin.plainStep "b" (.set "x" (.bool false) false)])]

theorem doubled_runs : ∃ w t report world first second inner,
    doubled.compile none bareCompiler .empty = (.ok w, t) ∧
      w.run (bareSetting 100) [] "" () = (some report, world) ∧
      w.body = [first, second] ∧ second.tool.steps = [inner] ∧
      first.name = "a/b" ∧ second.name = "a" ∧ inner.name = "b" ∧
      report.recordsFor "a/b" =
        [.success "a/b" (.bool true), .success "a/b" (.bool false)] :=
  ⟨_, _, _, _, _, _, _, rfl, rfl, rfl, rfl, rfl, rfl, rfl, rfl⟩

theorem Definition.pathsTell_doubled : ∃ w t,
    doubled.compile none bareCompiler .empty = (.ok w, t) ∧ w.PathsTell := by
  obtain ⟨w, t, _, _, _, _, _, h, -⟩ := doubled_runs
  exact ⟨w, t, h, Definition.pathsTell (.empty []) h⟩

/-- The path of the step is also that of the one inside the next step, and the records with it are
those of both. -/
theorem doubled_mixed : ∃ w t report world first inner,
    doubled.compile none bareCompiler .empty = (.ok w, t) ∧
      w.body.At [0] "a/b" first ∧ w.body.At [1, 0] "a/b" inner ∧ ¬ w.body.Identifies "a/b" ∧
      w.run (bareSetting 100) [] "" () = (some report, world) ∧
      report.recordsFor "a/b" =
        [.success "a/b" (.bool true), .success "a/b" (.bool false)] := by
  obtain ⟨w, t, report, world, first, second, inner, h, hr, hbody, hsteps, hfirst, hsecond, hinner,
    hrecords⟩ := doubled_runs
  have hat : w.body.At [0] "a/b" first := by
    rw [hbody, ← hfirst]
    exact .here rfl
  have hat' : w.body.At [1, 0] "a/b" inner := by
    have hinside : second.tool.steps.At [0] "b" inner := by
      rw [hsteps, ← hinner]
      exact .here rfl
    have hpath : "a/b" = second.name ++ "/" ++ "b" := by
      rw [hsecond]
      rfl
    rw [hbody, hpath]
    exact .inside rfl hinside
  refine ⟨w, t, report, world, first, inner, h, hat, hat', fun hone => ?_, hr, hrecords⟩
  cases hone _ _ _ _ hat hat'

end Results

end Runbook
