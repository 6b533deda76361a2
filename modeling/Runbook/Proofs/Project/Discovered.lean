import Runbook.Project.Discovery
import Runbook.Proofs.Loop.Sorted
import Runbook.Proofs.Project.Pattern

/-!
# Discovering and selecting workflows

The workflows of a project are looked for with patterns that begin with the path of their
directory.  Where no character of this path stands for something else in a pattern, each file with
a workflow is found, and found once.

* `WorkflowAt` says that there is a workflow at a place, and `DiscoversAll` that what is discovered
  is exactly these, each once, in order;
* `discover_rising` says that the list rises by the names of the workflows, whatever the path;
* `discover_of_directory` is the list by what lies in the directory, and `workflowPaths_eq` the part
  of it for one ending; `WorkflowFile.ofPath?_eq_some` says when a file is in it;
* `discovers_all` says that all is discovered, and `bracketed_undiscovered` is a project with
  brackets in its path, in which it is not;
* `find?_least` says that the first in a list that rises by the names of the workflows has the least
  name;
* `findWorkflow_of_noPath` is the lookup by itself;
* `FoundByName` says that a workflow is found by its name if there is one of that name, and else by
  the name of its file; `Overtaken` is how this fails, and `found_by_name_iff` that there is no
  other way;
* `building_overtaken` is a project in which it does.
-/

namespace Runbook

variable {fs : FileSystem} {projectDir ending path : String} {base place : List String}
  {entries : List (String × FileNode)} {file : WorkflowFile} {files : List WorkflowFile}

/-! ## What is to be discovered -/

/-- No two entries of a directory have the same name, and each name can be one. -/
def FileSystem.WellFormed (fs : FileSystem) : Prop := fs.root.WellFormed

/-- There is a workflow at a place below the directory for workflows: a file with one of the endings
holds it. -/
def WorkflowAt (fs : FileSystem) (projectDir : String) (place : List String) (d : Definition) :
    Prop :=
  ∃ base around name content executable,
    fs.locate (workflowDir projectDir) = .ok base ∧ place = base ++ (around ++ [name]) ∧
      fs.get? place = some (.file content executable) ∧
      (".yaml".toList <:+ name.toList ∨ ".yml".toList <:+ name.toList) ∧
      (Utf8.decode? content).bind Definition.ofYaml? = some d

/-- The list of the workflows of a project is complete. -/
structure DiscoversAll (fs : FileSystem) (projectDir : String) (files : List WorkflowFile) :
    Prop where
  /-- Each is a workflow that is there. -/
  sound : ∀ file ∈ files, ∃ place, fs.locate file.path = .ok place ∧
    WorkflowAt fs projectDir place file.definition
  /-- Each workflow is in the list. -/
  complete : ∀ place d, WorkflowAt fs projectDir place d →
    ∃ file ∈ files, fs.locate file.path = .ok place ∧ file.definition = d
  /-- None is there twice. -/
  once : (files.map fun file => fs.locate file.path).Nodup
  /-- They rise by their names. -/
  rising : files.Pairwise fun a b => ¬ b.name < a.name

/-! ## The order -/

/-- Sorting by name gives a list that rises by name. -/
theorem rising_sortedByName (files : List WorkflowFile) :
    (insertionSort (fun a b : WorkflowFile => a.name < b.name) files).Pairwise
      (fun a b => ¬ b.name < a.name) := by
  have hsorted : (insertionSort (fun a b : WorkflowFile => a.name < b.name) files).Pairwise
      (fun a b => decide (b.name < a.name) = false) := by
    apply pairwise_insertionSort
    · intro a b h
      exact decide_eq_false (String.lt_asymm (of_decide_eq_true h))
    · intro a _ b _ c _ hab hbc
      have hab : a.name ≤ b.name := String.not_lt.1 (of_decide_eq_false hab)
      have hbc : b.name ≤ c.name := String.not_lt.1 (of_decide_eq_false hbc)
      exact decide_eq_false (String.not_lt.2 (String.le_trans hab hbc))
  exact hsorted.imp of_decide_eq_false

/-- The workflows of a project are listed in rising order of their names. -/
theorem discover_rising (h : discover fs projectDir = .ok files) :
    files.Pairwise (fun a b => ¬ b.name < a.name) := by
  unfold discover at h
  split at h
  · cases h
    exact .nil
  · cases hpaths : ["yaml", "yml"].mapM (workflowPaths fs projectDir) with
    | error failure =>
      rw [hpaths] at h
      cases h
    | ok paths =>
      rw [hpaths] at h
      cases h
      exact rising_sortedByName _

/-! ## The paths -/

theorem workflowDir_ne_empty (projectDir : String) : workflowDir projectDir ≠ "" := by
  unfold workflowDir
  by_cases hempty : projectDir = ""
  · rw [hempty]
    decide
  · exact Path.join_ne_empty hempty rfl

theorem plain_workflowDir (h : Glob.Plain projectDir.toList) :
    Glob.Plain (workflowDir projectDir).toList := by
  unfold workflowDir
  by_cases hempty : projectDir = ""
  · rw [hempty]
    decide
  · have hslash : Glob.Plain ('/' :: ".cadence/workflows".toList) := by decide
    have hrelative : Path.isAbsolute ".cadence/workflows" = false := rfl
    rcases Path.toList_join hempty hrelative with ⟨front, hfront, htext⟩ | htext
    · rw [htext]
      refine Glob.Plain.append (fun c hc => h c ?_) hslash
      rw [hfront]
      exact List.mem_append_left _ hc
    · rw [htext]
      exact h.append hslash

theorem toList_workflowPattern (projectDir ending : String) :
    (workflowPattern projectDir ending).toList =
      Glob.deepPattern (workflowDir projectDir).toList ('.' :: ending.toList) := by
  have hstars : "/**/*.".toList = ['/', '*', '*', '/', '*', '.'] := by decide
  show (workflowDir projectDir ++ "/**/*." ++ ending).toList = _
  rw [String.toList_append, String.toList_append, hstars, List.append_assoc]
  rfl

theorem flatMap_ite_singleton {α β : Type} (p : α → Bool) (f : α → β) (xs : List α) :
    (xs.flatMap fun x => if p x then [f x] else []) = (xs.filter p).map f := by
  induction xs with
  | nil => rfl
  | cons x rest ih =>
    rw [List.flatMap_cons, ih, List.filter_cons]
    split <;> rfl

/-- Whether something has a name with an ending. -/
def Descendant.hasEnding (ending : String) (d : Descendant) : Bool :=
  ('.' :: ending.toList).isSuffixOf d.name.toList

/-- The paths to what has a name with an ending are those that the pattern matches. -/
theorem workflowPaths_eq {found : String} (ending : String) (hplain : Glob.Plain projectDir.toList)
    (hending : Glob.Plain ('.' :: ending.toList)) (hslash : '/' ∉ '.' :: ending.toList)
    (hfollow : Glob.follow? fs (Glob.scopeOf (workflowDir projectDir))
      (Glob.partsOf (workflowDir projectDir)) = some found)
    (hentries : Glob.entriesAt fs found = entries) :
    workflowPaths fs projectDir ending = .ok
      (((FileNode.descendantsIn entries).filter (·.hasEnding ending)).map (Glob.pathTo found)) := by
  have hmatch (d : Descendant) : Glob.tokensMatch
      (.star :: ('.' :: ending.toList).map .char) d.name.toList = d.hasEnding ending := by
    rw [Bool.eq_iff_iff, Glob.tokensMatch_star, Descendant.hasEnding, List.isSuffixOf_iff_suffix]
  unfold workflowPaths
  dsimp only
  rw [Glob.paths_below (plain_workflowDir hplain) (workflowDir_ne_empty projectDir) hending hslash
    (toList_workflowPattern projectDir ending), hfollow]
  show Except.ok ([found].flatMap _) = _
  rw [List.flatMap_singleton, Glob.visitEntries_eq, hentries]
  simp only [hmatch]
  rw [flatMap_ite_singleton]

/-- Nothing is found where the path of the directory is not followed. -/
theorem workflowPaths_stalls (hplain : Glob.Plain projectDir.toList)
    (hending : Glob.Plain ('.' :: ending.toList)) (hslash : '/' ∉ '.' :: ending.toList)
    (hstalls : Glob.Stalls (workflowDir projectDir)) :
    workflowPaths fs projectDir ending = .ok [] := by
  unfold workflowPaths
  dsimp only
  rw [Glob.paths_below (plain_workflowDir hplain) (workflowDir_ne_empty projectDir) hending hslash
    (toList_workflowPattern projectDir ending), Glob.follow?_path_stalls hstalls]
  rfl

/-! ## The list -/

/-- The paths to what has a name with one of the endings. -/
def listing (found : String) (entries : List (String × FileNode)) : List String :=
  ["yaml", "yml"].flatMap fun ending =>
    ((FileNode.descendantsIn entries).filter (·.hasEnding ending)).map (Glob.pathTo found)

theorem mem_listing {found : String} :
    path ∈ listing found entries ↔ ∃ d ∈ FileNode.descendantsIn entries,
      (".yaml".toList <:+ d.name.toList ∨ ".yml".toList <:+ d.name.toList) ∧
        Glob.pathTo found d = path := by
  have hyaml : ".yaml".toList = '.' :: "yaml".toList := by decide
  have hyml : ".yml".toList = '.' :: "yml".toList := by decide
  unfold listing
  simp only [List.flatMap_cons, List.flatMap_nil, List.append_nil, List.mem_append, List.mem_map,
    List.mem_filter, Descendant.hasEnding, List.isSuffixOf_iff_suffix, ← hyaml, ← hyml]
  constructor
  · rintro (⟨d, ⟨hin, hends⟩, hpath⟩ | ⟨d, ⟨hin, hends⟩, hpath⟩)
    · exact ⟨d, hin, .inl hends, hpath⟩
    · exact ⟨d, hin, .inr hends, hpath⟩
  · rintro ⟨d, hin, hends | hends, hpath⟩
    · exact .inl ⟨d, ⟨hin, hends⟩, hpath⟩
    · exact .inr ⟨d, ⟨hin, hends⟩, hpath⟩

/-- The list of a project without a directory for workflows is empty. -/
theorem discover_of_not_directory (h : fs.isDirectory (workflowDir projectDir) = false) :
    discover fs projectDir = .ok [] := by
  unfold discover
  rw [h]
  rfl

theorem discover_of_paths {yaml yml : List String}
    (h : fs.isDirectory (workflowDir projectDir) = true)
    (hyaml : workflowPaths fs projectDir "yaml" = .ok yaml)
    (hyml : workflowPaths fs projectDir "yml" = .ok yml) :
    discover fs projectDir = .ok (insertionSort (fun a b => a.name < b.name)
      ((yaml ++ yml).filterMap (WorkflowFile.ofPath? fs))) := by
  have hpaths : ["yaml", "yml"].mapM (workflowPaths fs projectDir) = .ok [yaml, yml] := by
    rw [List.mapM_cons, List.mapM_cons, hyaml, hyml]
    rfl
  have hflat : [yaml, yml].flatten = yaml ++ yml := by simp
  unfold discover
  rw [h, hpaths, ← hflat]
  rfl

/-- The list of a project by what lies in its directory for workflows. -/
theorem discover_of_directory {found : String} (hplain : Glob.Plain projectDir.toList)
    (hlocate : fs.locate (workflowDir projectDir) = .ok base)
    (hget : fs.get? base = some (.directory entries))
    (hfollow : Glob.follow? fs (Glob.scopeOf (workflowDir projectDir))
      (Glob.partsOf (workflowDir projectDir)) = some found)
    (hfound : fs.Leads found base) :
    discover fs projectDir = .ok (insertionSort (fun a b => a.name < b.name)
      ((listing found entries).filterMap (WorkflowFile.ofPath? fs))) := by
  have hdir : fs.isDirectory (workflowDir projectDir) = true :=
    FileSystem.isDirectory_iff.2 ⟨base, hlocate, entries, hget⟩
  have hentries : Glob.entriesAt fs found = entries := by
    unfold Glob.entriesAt
    rw [FileSystem.find?_of_locate (FileSystem.locate_of_leads hfound ⟨entries, hget⟩), hget]
    rfl
  have hyaml := workflowPaths_eq "yaml" hplain (by decide) (by decide) hfollow hentries
  have hyml := workflowPaths_eq "yml" hplain (by decide) (by decide) hfollow hentries
  rw [discover_of_paths hdir hyaml hyml, listing, List.flatMap_cons, List.flatMap_singleton]

theorem loadWorkflow_eq_ok {d : Definition} :
    loadWorkflow fs path = .ok d ↔ ∃ place content executable, fs.locate path = .ok place ∧
      fs.get? place = some (.file content executable) ∧
      (Utf8.decode? content).bind Definition.ofYaml? = some d := by
  unfold loadWorkflow FileSystem.readText FileSystem.readBytes
  constructor
  · intro h
    cases hlocate : fs.locate path with
    | error fault => simp [hlocate] at h
    | ok place =>
      cases hget : fs.get? place with
      | none => simp [hlocate, hget] at h
      | some node =>
        cases node with
        | directory entries => simp [hlocate, hget] at h
        | file content executable =>
          refine ⟨place, content, executable, rfl, hget, ?_⟩
          cases hdecode : Utf8.decode? content with
          | none => simp [hlocate, hget, hdecode] at h
          | some text =>
            cases hparse : Definition.ofYaml? text with
            | none => simp [hlocate, hget, hdecode, hparse] at h
            | some parsed =>
              simp only [hlocate, hget, hdecode, hparse, Except.ok.injEq] at h
              rw [Option.bind_some, hparse, h]
  · rintro ⟨place, content, executable, hlocate, hget, hparse⟩
    obtain ⟨text, hdecode, hparse⟩ := Option.bind_eq_some_iff.1 hparse
    simp only [hlocate, hget, hdecode, hparse]

/-- A file is in the list if it holds a workflow. -/
theorem WorkflowFile.ofPath?_eq_some :
    WorkflowFile.ofPath? fs path = some file ↔
      file.path = path ∧ loadWorkflow fs path = .ok file.definition := by
  obtain ⟨path', d⟩ := file
  unfold WorkflowFile.ofPath?
  cases loadWorkflow fs path with
  | error failure => simp
  | ok parsed => simp [eq_comm]

/-! ## Completeness -/

/-- A workflow lies in a directory. -/
theorem WorkflowAt.isDirectory {d : Definition} (h : WorkflowAt fs projectDir place d) :
    fs.isDirectory (workflowDir projectDir) = true := by
  obtain ⟨base, around, name, content, executable, hlocate, rfl, hget, -, -⟩ := h
  refine FileSystem.isDirectory_iff.2 ⟨base, hlocate, FileSystem.directoryAt_of_get? ?_ hget⟩
  exact List.append_ne_nil_of_right_ne_nil around (List.cons_ne_nil name [])

/-- Files are listed with the paths at which they are looked for. -/
theorem sublist_paths (fs : FileSystem) (paths : List String) :
    ((paths.filterMap (WorkflowFile.ofPath? fs)).map WorkflowFile.path).Sublist paths := by
  induction paths with
  | nil => exact .refl _
  | cons path rest ih =>
    cases hof : WorkflowFile.ofPath? fs path with
    | none =>
      rw [List.filterMap_cons_none hof]
      exact ih.cons path
    | some file =>
      rw [List.filterMap_cons_some hof, List.map_cons, (WorkflowFile.ofPath?_eq_some.1 hof).1]
      exact ih.cons_cons path

/-- A name has only one of the endings. -/
theorem not_both_endings {name : List Char} (hyaml : '.' :: "yaml".toList <:+ name) :
    ¬ '.' :: "yml".toList <:+ name := by
  intro hyml
  have hsuffix := List.suffix_of_suffix_length_le hyml hyaml (by decide)
  exact absurd hsuffix (by decide)

/-- The paths lead to different places. -/
theorem nodup_listing {found : String} (hdir : (FileNode.directory entries).WellFormed)
    (hget : fs.get? base = some (.directory entries)) (hfound : fs.Leads found base) :
    ((listing found entries).map fs.locate).Nodup := by
  have hplaces (ending : String) :
      (((FileNode.descendantsIn entries).filter (·.hasEnding ending)).map
        (Glob.pathTo found)).map fs.locate =
      (((FileNode.descendantsIn entries).filter (·.hasEnding ending)).map Descendant.place).map
        fun place => .ok (base ++ place) := by
    rw [List.map_map, List.map_map]
    refine List.map_congr_left fun d hd => ?_
    exact FileSystem.locate_pathTo hfound hget hdir (List.mem_filter.1 hd).1
  have hnodup (ending : String) :
      (((FileNode.descendantsIn entries).filter (·.hasEnding ending)).map Descendant.place).Nodup :=
    (FileNode.nodup_places (.directory entries) hdir).sublist (List.filter_sublist.map _)
  have hinj : Function.Injective
      fun place : List String => (.ok (base ++ place) : Except PathFault (List String)) :=
    fun _ _ h => List.append_cancel_left (Except.ok.inj h)
  unfold listing
  rw [List.flatMap_cons, List.flatMap_singleton, List.map_append, hplaces, hplaces,
    ← List.map_append]
  refine List.Nodup.map hinj (List.nodup_append.2 ⟨hnodup "yaml", hnodup "yml", ?_⟩)
  rintro place hyaml other hyml rfl
  obtain ⟨d, hd, rfl⟩ := List.mem_map.1 hyaml
  obtain ⟨d', hd', hplace⟩ := List.mem_map.1 hyml
  have hname : d'.name = d.name := List.singleton_inj.1 (List.append_inj' hplace rfl).2
  have hends := List.isSuffixOf_iff_suffix.1 (List.mem_filter.1 hd).2
  have hends' := List.isSuffixOf_iff_suffix.1 (List.mem_filter.1 hd').2
  rw [hname] at hends'
  exact not_both_endings hends hends'

/-- The workflows in a well-formed directory are all listed. -/
theorem discoversAll_of_directory {found : String} (hwell : fs.WellFormed)
    (hlocate : fs.locate (workflowDir projectDir) = .ok base)
    (hget : fs.get? base = some (.directory entries)) (hfound : fs.Leads found base) :
    DiscoversAll fs projectDir (insertionSort (fun a b => a.name < b.name)
      ((listing found entries).filterMap (WorkflowFile.ofPath? fs))) := by
  have hdir : (FileNode.directory entries).WellFormed := hwell.get? hget
  have hperm := perm_insertionSort (fun a b : WorkflowFile => decide (a.name < b.name))
    ((listing found entries).filterMap (WorkflowFile.ofPath? fs))
  refine ⟨?_, ?_, ?_, rising_sortedByName _⟩
  · intro file hfile
    obtain ⟨path, hpath, hof⟩ := List.mem_filterMap.1 (hperm.mem_iff.1 hfile)
    obtain ⟨d, hd, hends, rfl⟩ := mem_listing.1 hpath
    obtain ⟨hpath, hload⟩ := WorkflowFile.ofPath?_eq_some.1 hof
    obtain ⟨place, content, executable, hplace, hnode, hparse⟩ := loadWorkflow_eq_ok.1 hload
    have hto := FileSystem.locate_pathTo hfound hget hdir hd
    obtain rfl : place = base ++ d.place := Except.ok.inj (hplace.symm.trans hto)
    rw [hpath]
    exact ⟨_, hto, base, d.around, d.name, content, executable, hlocate, rfl, hnode, hends, hparse⟩
  · rintro place d ⟨base', around, name, content, executable, hbase, rfl, hnode, hends, hparse⟩
    obtain rfl : base = base' := Except.ok.inj (hlocate.symm.trans hbase)
    have hbelow : (FileNode.directory entries).get? (around ++ [name]) =
        some (.file content executable) := by
      rw [FileSystem.get?_append, hget] at hnode
      exact hnode
    have hin : ⟨around, name, .file content executable⟩ ∈ FileNode.descendantsIn entries :=
      (FileNode.mem_descendants hdir).2 hbelow
    have hto := FileSystem.locate_pathTo hfound hget hdir hin
    have hload := loadWorkflow_eq_ok.2 ⟨_, content, executable, hto, hnode, hparse⟩
    refine ⟨⟨_, d⟩, hperm.mem_iff.2 (List.mem_filterMap.2 ⟨_, mem_listing.2 ⟨_, hin, hends, rfl⟩,
      WorkflowFile.ofPath?_eq_some.2 ⟨rfl, hload⟩⟩), hto, rfl⟩
  · rw [(hperm.map _).nodup_iff]
    have hsub := (sublist_paths fs (listing found entries)).map fs.locate
    rw [List.map_map] at hsub
    exact (nodup_listing hdir hget hfound).sublist hsub

/-- Without special characters in the path of a project, all its workflows are discovered, unless
the path stalls; then none is. -/
theorem discovers_all (hwell : fs.WellFormed) (hplain : Glob.Plain projectDir.toList) :
    (¬ Glob.Stalls (workflowDir projectDir) →
      ∃ files, discover fs projectDir = .ok files ∧ DiscoversAll fs projectDir files) ∧
    (Glob.Stalls (workflowDir projectDir) → discover fs projectDir = .ok []) := by
  constructor
  · intro hstalls
    cases hdir : fs.isDirectory (workflowDir projectDir) with
    | false =>
      refine ⟨[], discover_of_not_directory hdir, ?_, ?_, .nil, .nil⟩
      · intro file hfile
        cases hfile
      · intro place d h
        rw [h.isDirectory] at hdir
        cases hdir
    | true =>
      obtain ⟨base, hlocate, entries, hget⟩ := FileSystem.isDirectory_iff.1 hdir
      obtain ⟨found, hfollow, hfound⟩ :=
        Glob.follow?_path (FileSystem.leads_of_locate hlocate) ⟨entries, hget⟩ hstalls
      exact ⟨_, discover_of_directory hplain hlocate hget hfollow hfound,
        discoversAll_of_directory hwell hlocate hget hfound⟩
  · intro hstalls
    cases hdir : fs.isDirectory (workflowDir projectDir) with
    | false => exact discover_of_not_directory hdir
    | true =>
      exact discover_of_paths hdir
        (workflowPaths_stalls hplain (by decide) (by decide) hstalls)
        (workflowPaths_stalls hplain (by decide) (by decide) hstalls)

/-- A project with one workflow in a directory with a name. -/
def shelved (name : String) : FileSystem :=
  ⟨.directory [(name, .directory [(".cadence", .directory [("workflows", .directory [
    ("w.yaml", .file (Utf8.encode "name: w\nsteps: []") false)])])])], []⟩

theorem wellFormed_singleton {name : String} {node : FileNode} (hname : ValidName name)
    (h : node.WellFormed) : (FileNode.directory [(name, node)]).WellFormed := by
  refine FileNode.wellFormed_directory (List.nodup_singleton name) fun entry hin => ?_
  rw [List.mem_singleton] at hin
  rw [hin]
  exact ⟨hname, h⟩

theorem wellFormed_shelved {name : String} (hname : ValidName name) :
    (shelved name).WellFormed := by
  have hcadence : ValidName ".cadence" := ⟨by decide, by decide, by decide, by decide, by decide⟩
  have hworkflows : ValidName "workflows" :=
    ⟨by decide, by decide, by decide, by decide, by decide⟩
  have hfile : ValidName "w.yaml" := ⟨by decide, by decide, by decide, by decide, by decide⟩
  exact wellFormed_singleton hname (wellFormed_singleton hcadence (wellFormed_singleton hworkflows
    (wellFormed_singleton hfile (FileNode.wellFormed_file _ _))))

/-- The workflow of the project, if its directory is found. -/
theorem workflowAt_shelved {name : String}
    (h : (shelved name).locate (workflowDir name) = .ok [name, ".cadence", "workflows"]) :
    ∃ place d, WorkflowAt (shelved name) name place d := by
  have hparses : ((Utf8.decode? (Utf8.encode "name: w\nsteps: []")).bind
      Definition.ofYaml?).isSome = true := by decide +kernel
  obtain ⟨d, hd⟩ := Option.isSome_iff_exists.1 hparses
  refine ⟨_, d, _, [], "w.yaml", _, false, h, rfl, ?_, .inl (by decide), hd⟩
  simp [shelved, FileSystem.get?, FileNode.get?, Entries.find?]

theorem discovers_all_shelved :
    (shelved "p").WellFormed ∧ Glob.Plain "p".toList ∧ ¬ Glob.Stalls (workflowDir "p") ∧
      ∃ files, discover (shelved "p") "p" = .ok files ∧ DiscoversAll (shelved "p") "p" files := by
  have hwell : (shelved "p").WellFormed :=
    wellFormed_shelved ⟨by decide, by decide, by decide, by decide, by decide⟩
  have hplain : Glob.Plain "p".toList := by decide
  have hstalls : ¬ Glob.Stalls (workflowDir "p") := by decide
  exact ⟨hwell, hplain, hstalls, (discovers_all hwell hplain).1 hstalls⟩

/-- In a directory with brackets in its name the workflow is not discovered: they stand for one of
the characters between them. -/
theorem bracketed_undiscovered :
    (shelved "a[b]").WellFormed ∧ ¬ ∃ files, discover (shelved "a[b]") "a[b]" = .ok files ∧
      DiscoversAll (shelved "a[b]") "a[b]" files := by
  refine ⟨wellFormed_shelved ⟨by decide, by decide, by decide, by decide, by decide⟩, ?_⟩
  rintro ⟨files, hfiles, hall⟩
  have hcheck : (match discover (shelved "a[b]") "a[b]" with
      | .error _ => false
      | .ok files => files.isEmpty) = true := by decide +kernel
  rw [hfiles] at hcheck
  have hempty : files = [] := List.isEmpty_iff.1 hcheck
  have hlocate : (shelved "a[b]").locate (workflowDir "a[b]") =
      .ok ["a[b]", ".cadence", "workflows"] := by decide +kernel
  obtain ⟨place, d, hat⟩ := workflowAt_shelved hlocate
  obtain ⟨file, hfile, -⟩ := hall.complete place d hat
  rw [hempty] at hfile
  cases hfile

/-!
## Selecting a workflow by a name

A selector that is no path of a file is looked up among the workflows of a project.  Names of
workflows and names of files are looked up together, and of all that answer to the selector the one
that stands first in the list is selected.
-/

variable {selector : String}

/-! ### The first in the list -/

/-- What is found first in a rising list has the least name of all that could be found. -/
theorem find?_least {p : WorkflowFile → Bool}
    (hrising : files.Pairwise (fun a b => ¬ b.name < a.name)) (h : files.find? p = some file) :
    ∀ other ∈ files, p other = true → ¬ other.name < file.name := by
  obtain ⟨-, before, after, rfl, hbefore⟩ := List.find?_eq_some_iff_append.1 h
  intro other hother hp
  rcases List.mem_append.1 hother with hin | hin
  · have hnot : (!p other) = true := hbefore other hin
    rw [hp] at hnot
    cases hnot
  · rcases List.mem_cons.1 hin with rfl | hin
    · exact String.lt_irrefl _
    · exact (List.pairwise_cons.1 (List.pairwise_append.1 hrising).2.1).1 other hin

/-! ### The lookup -/

/-- No path that the selector may be leads to a file. -/
def NoPath (fs : FileSystem) (projectDir selector : String) : Prop :=
  ∀ path ∈ selectorPaths projectDir selector, fs.isFile path = false

instance : Decidable (NoPath fs projectDir selector) :=
  inferInstanceAs (Decidable (∀ path ∈ selectorPaths projectDir selector, _ = _))

/-- A selector that is no path is looked up in the list. -/
theorem findWorkflow_of_noPath (hpath : NoPath fs projectDir selector) :
    findWorkflow fs projectDir selector =
      (discover fs projectDir).bind (fun files =>
        match files.find? (·.answersTo selector) with
        | some file => .ok file
        | none => .error
          (.workflowNotFound s!"'{selector}' (searched {workflowDir projectDir})")) := by
  have hnone : (selectorPaths projectDir selector).find? fs.isFile = none := by
    rw [List.find?_eq_none]
    intro path hin
    rw [hpath path hin]
    exact Bool.false_ne_true
  unfold findWorkflow
  rw [hnone]
  rfl

theorem answersTo_iff :
    file.answersTo selector = true ↔ file.name = selector ∨ file.stem = selector := by
  unfold WorkflowFile.answersTo
  rw [Bool.or_eq_true, beq_iff_eq, beq_iff_eq]

/-- One is selected exactly if it is the first that has the selector as its name or as that of its
file. -/
theorem findWorkflow_eq_ok (hpath : NoPath fs projectDir selector)
    (hfiles : discover fs projectDir = .ok files) :
    findWorkflow fs projectDir selector = .ok file ↔
      files.find? (·.answersTo selector) = some file := by
  rw [findWorkflow_of_noPath hpath, hfiles]
  dsimp only [Except.bind]
  cases files.find? (·.answersTo selector) with
  | none =>
    constructor
    · intro h
      cases h
    · intro h
      cases h
  | some found =>
    constructor
    · intro h
      rw [Except.ok.inj h]
    · intro h
      rw [Option.some.inj h]

/-- None is selected exactly if none has the selector as its name or as that of its file. -/
theorem findWorkflow_eq_notFound (hpath : NoPath fs projectDir selector)
    (hfiles : discover fs projectDir = .ok files) :
    (∃ text, findWorkflow fs projectDir selector = .error (.workflowNotFound text)) ↔
      ∀ file ∈ files, file.name ≠ selector ∧ file.stem ≠ selector := by
  have hnone : files.find? (·.answersTo selector) = none ↔
      ∀ file ∈ files, file.name ≠ selector ∧ file.stem ≠ selector := by
    rw [List.find?_eq_none]
    simp only [answersTo_iff, not_or, ne_eq]
  rw [← hnone, findWorkflow_of_noPath hpath, hfiles]
  dsimp only [Except.bind]
  cases files.find? (·.answersTo selector) with
  | none => exact ⟨fun _ => rfl, fun _ => ⟨_, rfl⟩⟩
  | some found =>
    constructor
    · rintro ⟨text, h⟩
      cases h
    · intro h
      cases h

/-! ### By name -/

/-- A workflow is found by its name, or else by the name of its file. -/
structure FoundByName (fs : FileSystem) (projectDir selector : String)
    (files : List WorkflowFile) : Prop where
  /-- If workflows have the selector as their name, one of them is found. -/
  named : (∃ file ∈ files, file.name = selector) →
    ∃ file ∈ files, file.name = selector ∧ findWorkflow fs projectDir selector = .ok file
  /-- If none has, but files have, one of these is found. -/
  stemmed : (∀ file ∈ files, file.name ≠ selector) → (∃ file ∈ files, file.stem = selector) →
    ∃ file ∈ files, file.stem = selector ∧ findWorkflow fs projectDir selector = .ok file
  /-- If neither workflows nor files have, none is found. -/
  absent : (∀ file ∈ files, file.name ≠ selector ∧ file.stem ≠ selector) →
    ∃ text, findWorkflow fs projectDir selector = .error (.workflowNotFound text)

/-- A workflow has the selector as its name, but in the list it comes behind another whose file has
it as its own. -/
def Overtaken (selector : String) (files : List WorkflowFile) : Prop :=
  (∃ file ∈ files, file.name = selector) ∧
    ∃ other ∈ files, other.stem = selector ∧ other.name < selector

/-- Where something answers to the selector, the first that does is found, and no name of another
is less than its name. -/
theorem exists_found (hpath : NoPath fs projectDir selector)
    (hfiles : discover fs projectDir = .ok files) {other : WorkflowFile} (hother : other ∈ files)
    (hanswers : other.name = selector ∨ other.stem = selector) :
    ∃ file ∈ files, findWorkflow fs projectDir selector = .ok file ∧
      (file.name = selector ∨ file.stem = selector) ∧
      ∀ other ∈ files, other.name = selector ∨ other.stem = selector →
        ¬ other.name < file.name := by
  cases hfind : files.find? (·.answersTo selector) with
  | none => exact absurd (answersTo_iff.2 hanswers) (List.find?_eq_none.1 hfind other hother)
  | some file =>
    have hfile := List.find?_some hfind
    refine ⟨file, List.mem_of_find?_eq_some hfind, (findWorkflow_eq_ok hpath hfiles).2 hfind,
      answersTo_iff.1 hfile, ?_⟩
    intro other hother hanswers
    exact find?_least (discover_rising hfiles) hfind other hother (answersTo_iff.2 hanswers)

/-- Workflows are found by their names, and else by those of their files, exactly if none is
overtaken. -/
theorem found_by_name_iff (hpath : NoPath fs projectDir selector)
    (hfiles : discover fs projectDir = .ok files) :
    FoundByName fs projectDir selector files ↔ ¬ Overtaken selector files := by
  constructor
  · rintro hfound ⟨hnamed, other, hother, hstem, hless⟩
    obtain ⟨file, -, hname, hfile⟩ := hfound.named hnamed
    obtain ⟨first, -, hfirst, -, hleast⟩ := exists_found hpath hfiles hother (.inr hstem)
    obtain rfl : file = first := Except.ok.inj (hfile.symm.trans hfirst)
    rw [← hname] at hless
    exact hleast other hother (.inr hstem) hless
  · intro hnot
    refine ⟨?_, ?_, ?_⟩
    · rintro ⟨named, hin, hname⟩
      obtain ⟨file, hfile, hfound, hanswers, hleast⟩ := exists_found hpath hfiles hin (.inl hname)
      refine ⟨file, hfile, ?_, hfound⟩
      -- The name of the first is at most the selector; less it cannot be without overtaking.
      have hle : file.name ≤ selector := by
        rw [← hname]
        exact String.not_lt.1 (hleast named hin (.inl hname))
      rcases hanswers with heq | hstem
      · exact heq
      · have hge : ¬ file.name < selector := by
          intro hless
          exact hnot ⟨⟨named, hin, hname⟩, file, hfile, hstem, hless⟩
        exact String.le_antisymm hle (String.not_lt.1 hge)
    · rintro hnone ⟨other, hother, hstem⟩
      obtain ⟨file, hfile, hfound, hanswers, -⟩ := exists_found hpath hfiles hother (.inr hstem)
      exact ⟨file, hfile, hanswers.resolve_left (hnone file hfile), hfound⟩
    · exact (findWorkflow_eq_notFound hpath hfiles).2

/-- A selector that is no path selects the first in the list of those that have it as their name or
as that of their file, and none if there are none; the list failing, so does the selection.
Workflows are found by their names, before those of their files, exactly if none is overtaken. -/
theorem selected_by_name (hpath : NoPath fs projectDir selector) :
    (∀ failure, discover fs projectDir = .error failure →
      findWorkflow fs projectDir selector = .error failure) ∧
    ∀ files, discover fs projectDir = .ok files →
      (∀ file, findWorkflow fs projectDir selector = .ok file ↔
        files.find? (·.answersTo selector) = some file) ∧
      ((∃ text, findWorkflow fs projectDir selector = .error (.workflowNotFound text)) ↔
        ∀ file ∈ files, file.name ≠ selector ∧ file.stem ≠ selector) ∧
      (FoundByName fs projectDir selector files ↔ ¬ Overtaken selector files) := by
  refine ⟨?_, ?_⟩
  · intro failure hfailure
    rw [findWorkflow_of_noPath hpath, hfailure]
    rfl
  · intro files hfiles
    exact ⟨fun _ => findWorkflow_eq_ok hpath hfiles, findWorkflow_eq_notFound hpath hfiles,
      found_by_name_iff hpath hfiles⟩

/-- A project in which the file of one workflow has the name of another. -/
def building : FileSystem :=
  ⟨.directory [(".cadence", .directory [("workflows", .directory [
    ("build.yaml", .file (Utf8.encode "name: all\nsteps: []") false),
    ("deploy.yaml", .file (Utf8.encode "name: build\nsteps: []") false)])])], []⟩

theorem building_noPath : NoPath building "/" "build" := by decide +kernel

/-- The workflows of the project, by their names and those of their files. -/
theorem building_listed :
    ∃ files, discover building "/" = .ok files ∧
      files.map (fun file => (file.name, file.stem)) = [("all", "build"), ("build", "deploy")] := by
  have hcheck : (match discover building "/" with
      | .error _ => false
      | .ok files => decide (files.map (fun file => (file.name, file.stem)) =
          [("all", "build"), ("build", "deploy")])) = true := by decide +kernel
  cases hfiles : discover building "/" with
  | error failure =>
    rw [hfiles] at hcheck
    cases hcheck
  | ok files =>
    rw [hfiles] at hcheck
    exact ⟨files, rfl, of_decide_eq_true hcheck⟩

theorem selected_by_name_deploy :
    NoPath building "/" "deploy" ∧ ∃ files, discover building "/" = .ok files ∧
      FoundByName building "/" "deploy" files := by
  have hpath : NoPath building "/" "deploy" := by decide +kernel
  obtain ⟨files, hfiles, hnames⟩ := building_listed
  refine ⟨hpath, files, hfiles, ((selected_by_name hpath).2 files hfiles).2.2.2 ?_⟩
  rintro ⟨⟨file, hin, hname⟩, -⟩
  have hlisted : (file.name, file.stem) ∈ [("all", "build"), ("build", "deploy")] :=
    hnames ▸ List.mem_map_of_mem hin
  rw [hname] at hlisted
  simp at hlisted

/-- Another file of the name comes first, and its workflow is found in place of the one that has
the name. -/
theorem building_overtaken :
    NoPath building "/" "build" ∧ ∃ files, discover building "/" = .ok files ∧
      ¬ FoundByName building "/" "build" files := by
  obtain ⟨files, hfiles, hnames⟩ := building_listed
  have hmem : ∀ e ∈ [("all", "build"), ("build", "deploy")],
      ∃ file ∈ files, (file.name, file.stem) = e := by
    rw [← hnames]
    exact fun e he => List.mem_map.1 he
  obtain ⟨named, hnamed, hname⟩ := hmem ("build", "deploy") (by decide)
  obtain ⟨other, hother, hstem⟩ := hmem ("all", "build") (by decide)
  obtain ⟨hname, -⟩ := Prod.mk.inj hname
  obtain ⟨hless, hstem⟩ := Prod.mk.inj hstem
  refine ⟨building_noPath, files, hfiles, fun hfound => ?_⟩
  refine (found_by_name_iff building_noPath hfiles).1 hfound
    ⟨⟨named, hnamed, hname⟩, other, hother, hstem, ?_⟩
  rw [hless]
  decide

end Runbook
