import Mathlib.Data.List.Basic
import Runbook.Project.Glob

/-!
# Walks along joined paths

A path is followed name by name, and what its text holds besides the names does not count: the
empty parts between slashes say nothing, and a slash at the end only asks for a directory.

* `Path.split_append` splits a text at a slash, and `Path.exists_split_join` says what the parts of
  a joined path are;
* `FileSystem.walk_append` puts one walk behind another;
* `FileSystem.Leads` is the walk along the names of a path, `FileSystem.leads_of_locate` and
  `FileSystem.locate_of_leads` compare it with where the path is said to lead, and
  `FileSystem.leads_join` and `FileSystem.leads_below` follow it along joined paths.
-/

namespace Runbook

/-! ## Parts of a path -/

namespace Path

variable {base path : String}

theorem split_ne_nil (cs : List Char) : split cs ≠ [] := by
  cases cs with
  | nil => exact List.cons_ne_nil _ _
  | cons c rest =>
    unfold split
    split
    · exact List.cons_ne_nil _ _
    · split
      · exact List.cons_ne_nil _ _
      · exact List.cons_ne_nil _ _

/-- At a slash a text falls into two, each with its own parts. -/
theorem split_append (front back : List Char) :
    split (front ++ '/' :: back) = split front ++ split back := by
  induction front with
  | nil => rfl
  | cons c rest ih =>
    rw [List.cons_append, split, split, ih]
    by_cases hc : c = '/'
    · rw [if_pos hc, if_pos hc]
      rfl
    · rw [if_neg hc, if_neg hc]
      cases hrest : split rest with
      | nil => exact absurd hrest (split_ne_nil rest)
      | cons part more => rfl

theorem split_of_not_mem {cs : List Char} (h : '/' ∉ cs) : split cs = [cs] := by
  induction cs with
  | nil => rfl
  | cons c rest ih =>
    obtain ⟨hc, hrest⟩ := not_or.1 (fun hor => h (List.mem_cons.2 hor))
    unfold split
    rw [if_neg (Ne.symm hc), ih hrest]

/-- The characters of a part are characters of the text, but no slashes. -/
theorem of_mem_split {cs part : List Char} (h : part ∈ split cs) :
    ∀ c ∈ part, c ∈ cs ∧ c ≠ '/' := by
  induction cs generalizing part with
  | nil => simp_all [split]
  | cons c rest ih =>
    unfold split at h
    split at h
    · rcases List.mem_cons.1 h with rfl | h
      · exact fun d hd => absurd hd List.not_mem_nil
      · exact fun d hd => ⟨List.mem_cons_of_mem _ (ih h d hd).1, (ih h d hd).2⟩
    · next hc =>
      split at h
      · next hrest => exact absurd hrest (split_ne_nil rest)
      · next first more hrest =>
        rw [hrest] at ih
        have hin {part : List Char} (hpart : part ∈ first :: more) :
            ∀ d ∈ part, d ∈ c :: rest ∧ d ≠ '/' :=
          fun d hd => ⟨List.mem_cons_of_mem _ (ih hpart d hd).1, (ih hpart d hd).2⟩
        rcases List.mem_cons.1 h with rfl | h
        · intro d hd
          rcases List.mem_cons.1 hd with rfl | hd
          · exact ⟨List.mem_cons_self, hc⟩
          · exact hin List.mem_cons_self d hd
        · exact hin (List.mem_cons_of_mem _ h)

/-- The names among parts. -/
def names (parts : List (List Char)) : List String :=
  (parts.filter (!·.isEmpty)).map String.ofList

theorem names_append (front back : List (List Char)) :
    names (front ++ back) = names front ++ names back := by
  unfold names
  rw [List.filter_append, List.map_append]

@[simp] theorem names_empty : names [[]] = [] := rfl

theorem names_singleton {cs : List Char} (h : cs ≠ []) : names [cs] = [String.ofList cs] := by
  cases cs with
  | nil => exact absurd rfl h
  | cons c rest => rfl

/-- The components are the names; where the text ends in a slash there may be a dot behind them. -/
theorem components_eq (path : String) :
    components path = names (split path.toList) ∨
      (split path.toList).getLast? = some [] ∧
        components path = names (split path.toList) ++ ["."] := by
  unfold components
  dsimp only
  split
  · next h => exact .inr ⟨beq_iff_eq.1 h.1, rfl⟩
  · exact .inl rfl

theorem isAbsolute_of_not_mem {name : String} (h : '/' ∉ name.toList) :
    isAbsolute name = false := by
  unfold isAbsolute
  cases hcs : name.toList with
  | nil => rfl
  | cons c rest =>
    rw [hcs] at h
    refine beq_eq_false_iff_ne.2 fun heq => h ?_
    rw [List.head?_cons, Option.some.injEq] at heq
    rw [heq]
    exact List.mem_cons_self

/-- The text of a joined path. -/
theorem toList_join (hbase : base ≠ "") (hpath : isAbsolute path = false) :
    (∃ front, base.toList = front ++ ['/'] ∧
        (join base path).toList = front ++ '/' :: path.toList) ∨
      (join base path).toList = base.toList ++ '/' :: path.toList := by
  have hempty : base.isEmpty = false := by
    rw [Bool.eq_false_iff]
    exact fun h => hbase (String.isEmpty_iff.1 h)
  unfold join
  rw [hpath, hempty]
  by_cases hlast : base.toList.getLast? = some '/'
  · left
    obtain ⟨front, hfront⟩ := List.getLast?_eq_some_iff.1 hlast
    refine ⟨front, hfront, ?_⟩
    simp [hfront]
  · right
    simp [hlast]

/-- A joined path has the names of the one and then the parts of the other. -/
theorem exists_split_join (hbase : base ≠ "") (hpath : isAbsolute path = false) :
    ∃ front, split (join base path).toList = front ++ split path.toList ∧
      names front = names (split base.toList) := by
  rcases toList_join hbase hpath with ⟨front, hfront, htext⟩ | htext
  · refine ⟨split front, ?_, ?_⟩
    · rw [htext, split_append]
    · rw [hfront, split_append, names_append]
      simp [split]
  · exact ⟨split base.toList, by rw [htext, split_append], rfl⟩

theorem join_ne_empty (hbase : base ≠ "") (hpath : isAbsolute path = false) :
    join base path ≠ "" := by
  intro h
  rcases toList_join hbase hpath with ⟨front, -, htext⟩ | htext
  · rw [h] at htext
    simp at htext
  · rw [h] at htext
    simp at htext

/-- A joined path begins where the first does. -/
theorem isAbsolute_join (hbase : base ≠ "") (hpath : isAbsolute path = false) :
    isAbsolute (join base path) = isAbsolute base := by
  unfold isAbsolute
  rcases toList_join hbase hpath with ⟨front, hfront, htext⟩ | htext
  · rw [htext, hfront]
    cases front with
    | nil => rfl
    | cons c rest => rfl
  · rw [htext]
    cases hcs : base.toList with
    | nil => exact absurd (String.toList_eq_nil_iff.1 hcs) hbase
    | cons c rest => rfl

end Path

/-! ## Walks -/

namespace FileNode

/-- An entry of a directory is reached by its name. -/
theorem get?_entry (entries : List (String × FileNode)) (name : String) :
    (FileNode.directory entries).get? [name] = Entries.find? name entries := by
  rw [get?]
  cases Entries.find? name entries with
  | none => rfl
  | some node => cases node <;> rfl

theorem get?_append (node : FileNode) (front back : List String) :
    node.get? (front ++ back) = (node.get? front).bind (·.get? back) := by
  induction front generalizing node with
  | nil => cases node <;> rfl
  | cons name rest ih =>
    cases node with
    | file content executable => rfl
    | directory entries =>
      rw [List.cons_append, get?, get?]
      cases Entries.find? name entries with
      | none => rfl
      | some node => exact ih node

end FileNode

namespace FileSystem

variable {fs : FileSystem} {path : String} {place place' : List String}

/-- There is a directory at a place. -/
def DirectoryAt (fs : FileSystem) (place : List String) : Prop :=
  ∃ entries, fs.get? place = some (.directory entries)

theorem get?_append (fs : FileSystem) (front back : List String) :
    fs.get? (front ++ back) = (fs.get? front).bind (·.get? back) :=
  fs.root.get?_append front back

/-- Only a directory has something below it. -/
theorem directoryAt_of_get? {names : List String} {node : FileNode} (hnames : names ≠ [])
    (h : fs.get? (place ++ names) = some node) : fs.DirectoryAt place := by
  obtain ⟨first, rest, rfl⟩ := List.exists_cons_of_ne_nil hnames
  rw [get?_append, Option.bind_eq_some_iff] at h
  obtain ⟨above, habove, hbelow⟩ := h
  cases above with
  | file content executable => cases hbelow
  | directory entries => exact ⟨entries, habove⟩

theorem walk_append (fs : FileSystem) (place front back : List String) :
    fs.walk place (front ++ back) = (fs.walk place front).bind (fs.walk · back) := by
  induction front generalizing place with
  | nil => rfl
  | cons name rest ih =>
    rw [List.cons_append, walk, walk]
    cases fs.get? place with
    | none => rfl
    | some node =>
      cases node with
      | file content executable => rfl
      | directory entries =>
        dsimp only
        repeat' split
        all_goals first | exact ih _ | rfl

/-- Only from a directory a walk can go on. -/
theorem directoryAt_of_walk_cons {name : String} {rest : List String}
    (hwalk : fs.walk place (name :: rest) = .ok place') : fs.DirectoryAt place := by
  unfold walk at hwalk
  cases hget : fs.get? place with
  | none =>
    rw [hget] at hwalk
    cases hwalk
  | some node =>
    cases node with
    | file content executable =>
      rw [hget] at hwalk
      cases hwalk
    | directory entries => exact ⟨entries, hget⟩

/-- A walk that ends at a directory begins at one. -/
theorem directoryAt_of_walk {names : List String} (hwalk : fs.walk place names = .ok place')
    (hdir : fs.DirectoryAt place') : fs.DirectoryAt place := by
  cases names with
  | nil =>
    cases hwalk
    exact hdir
  | cons name rest => exact directoryAt_of_walk_cons hwalk

theorem walk_dot (hdir : fs.DirectoryAt place) (rest : List String) :
    fs.walk place ("." :: rest) = fs.walk place rest := by
  obtain ⟨entries, hget⟩ := hdir
  rw [walk, hget]
  rfl

/-- A walk along a dot is at a directory, and stays there. -/
theorem of_walk_dot (hwalk : fs.walk place ["."] = .ok place') :
    fs.DirectoryAt place ∧ place' = place := by
  have hdir : fs.DirectoryAt place := directoryAt_of_walk_cons hwalk
  rw [walk_dot hdir] at hwalk
  cases hwalk
  exact ⟨hdir, rfl⟩

/-- A walk along a name finds it in a directory. -/
theorem walk_name {name : String} (hdot : name ≠ ".") (hdots : name ≠ "..") :
    fs.walk place [name] = .ok place' ↔
      name.utf8ByteSize ≤ nameLimit ∧ (fs.get? (place ++ [name])).isSome ∧
        place' = place ++ [name] := by
  rw [get?_append, walk]
  cases hget : fs.get? place with
  | none => simp
  | some node =>
    cases node with
    | file content executable => simp [FileNode.get?]
    | directory entries =>
      dsimp only [Option.bind_some]
      rw [if_neg (mt beq_iff_eq.1 hdot), if_neg (mt beq_iff_eq.1 hdots), FileNode.get?]
      by_cases hlong : nameLimit < name.utf8ByteSize
      · rw [if_pos hlong]
        constructor
        · intro h
          cases h
        · intro h
          omega
      · rw [if_neg hlong]
        cases Entries.find? name entries with
        | none => simp
        | some node =>
          cases node <;> simp [walk, FileNode.get?, Nat.not_lt.1 hlong, eq_comm]

/-! ## Leading somewhere -/

/-- The names along a path lead to a place. -/
def Leads (fs : FileSystem) (path : String) (place : List String) : Prop :=
  path ≠ "" ∧ fs.walk (fs.startOf path) (Path.names (Path.split path.toList)) = .ok place

theorem locate_eq (hpath : path ≠ "") :
    fs.locate path = fs.walk (fs.startOf path) (Path.components path) := by
  unfold locate
  exact if_neg (mt String.isEmpty_iff.1 hpath)

theorem leads_of_locate (h : fs.locate path = .ok place) : fs.Leads path place := by
  have hpath : path ≠ "" := by
    intro heq
    rw [heq] at h
    cases h
  rw [locate_eq hpath] at h
  refine ⟨hpath, ?_⟩
  rcases Path.components_eq path with hnames | ⟨-, hnames⟩
  · rw [← hnames]
    exact h
  · rw [hnames, walk_append] at h
    cases hwalk : fs.walk (fs.startOf path) (Path.names (Path.split path.toList)) with
    | error fault =>
      rw [hwalk] at h
      cases h
    | ok found =>
      rw [hwalk] at h
      rw [(of_walk_dot h).2]

/-- A path leads to a directory along its names. -/
theorem locate_of_leads (h : fs.Leads path place) (hdir : fs.DirectoryAt place) :
    fs.locate path = .ok place := by
  obtain ⟨hpath, hwalk⟩ := h
  rw [locate_eq hpath]
  rcases Path.components_eq path with hnames | ⟨-, hnames⟩
  · rw [hnames]
    exact hwalk
  · rw [hnames, walk_append, hwalk]
    exact walk_dot hdir []

/-- A path that ends in a name leads where its names do. -/
theorem locate_of_leads_of_ends (h : fs.Leads path place)
    (hends : (Path.split path.toList).getLast? ≠ some []) : fs.locate path = .ok place := by
  obtain ⟨hpath, hwalk⟩ := h
  rw [locate_eq hpath]
  rcases Path.components_eq path with hnames | ⟨hlast, -⟩
  · rw [hnames]
    exact hwalk
  · exact absurd hlast hends

theorem find?_of_locate (h : fs.locate path = .ok place) : fs.find? path = fs.get? place := by
  unfold find?
  rw [h]

theorem isDirectory_iff :
    fs.isDirectory path = true ↔ ∃ place, fs.locate path = .ok place ∧ fs.DirectoryAt place := by
  constructor
  · intro h
    unfold isDirectory find? at h
    cases hlocate : fs.locate path with
    | error fault =>
      rw [hlocate] at h
      cases h
    | ok place =>
      rw [hlocate] at h
      dsimp only at h
      cases hget : fs.get? place with
      | none =>
        rw [hget] at h
        cases h
      | some node =>
        rw [hget] at h
        cases node with
        | file content executable => cases h
        | directory entries => exact ⟨place, rfl, entries, hget⟩
  · rintro ⟨place, hlocate, entries, hget⟩
    unfold isDirectory
    rw [find?_of_locate hlocate, hget]
    rfl

/-- A joined path goes on from where the first leads. -/
theorem leads_join {base : String} (hbase : fs.Leads base place)
    (hpath : Path.isAbsolute path = false) :
    fs.Leads (Path.join base path) place' ↔
      fs.walk place (Path.names (Path.split path.toList)) = .ok place' := by
  obtain ⟨hempty, hwalk⟩ := hbase
  obtain ⟨front, hsplit, hfront⟩ := Path.exists_split_join hempty hpath
  have hstart : fs.startOf (Path.join base path) = fs.startOf base := by
    unfold startOf
    rw [Path.isAbsolute_join hempty hpath]
  unfold Leads
  rw [hstart, hsplit, Path.names_append, hfront, walk_append, hwalk]
  exact and_iff_right (Path.join_ne_empty hempty hpath)

theorem leads_working (h : fs.Leads "." place) :
    place = fs.workingDir ∧ fs.DirectoryAt fs.workingDir := by
  obtain ⟨hdir, hplace⟩ := of_walk_dot h.2
  exact ⟨hplace, hdir⟩

/-- A name is put behind the path of the directory, which is left out if it is the working
directory. -/
theorem leads_below {name : String} (h : fs.Leads path place)
    (hslash : Path.isAbsolute name = false) (hname : path = "." → name ≠ "") :
    fs.Leads (Glob.below path name) place' ↔
      fs.walk place (Path.names (Path.split name.toList)) = .ok place' := by
  unfold Glob.below
  split
  · next hdot =>
    rw [hdot] at h
    obtain ⟨rfl, -⟩ := leads_working h
    unfold Leads startOf
    rw [hslash]
    exact and_iff_right (hname hdot)
  · exact leads_join h hslash

/-- What is put behind a path ends it. -/
theorem getLast?_below {name : String} (hpath : path ≠ "")
    (hslash : Path.isAbsolute name = false) :
    (Path.split (Glob.below path name).toList).getLast? = (Path.split name.toList).getLast? := by
  unfold Glob.below
  split
  · rfl
  · obtain ⟨front, hsplit, -⟩ := Path.exists_split_join hpath hslash
    rw [hsplit, List.getLast?_append_of_ne_nil _ (Path.split_ne_nil _)]

end FileSystem

end Runbook
