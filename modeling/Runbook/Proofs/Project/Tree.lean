import Mathlib.Data.List.Nodup
import Runbook.Proofs.Project.Walk

/-!
# What lies in a tree of files

A visit of a tree comes by everything below a directory, and by everything once.

* `ValidName` says which texts can name an entry, and `FileNode.WellFormed` that all directories of
  a tree have entries with such names and no two of the same;
* `FileNode.descendants` lists what lies below a node, and `Glob.visitEntries_eq` says that a visit
  is a visit of each of these;
* `FileNode.mem_descendants` says that what is listed is what can be reached, and
  `FileNode.nodup_places` that no place is listed twice;
* `FileSystem.leads_foldl_below` says that the path that is built on the way leads there.
-/

namespace Runbook

/-- Whether a text can name an entry of a directory. -/
structure ValidName (name : String) : Prop where
  /-- It is not empty. -/
  nonempty : name ≠ ""
  /-- It does not stand for the directory itself. -/
  notSelf : name ≠ "."
  /-- It does not stand for the directory around it. -/
  notParent : name ≠ ".."
  /-- It has no slash. -/
  noSlash : '/' ∉ name.toList
  /-- It is not too long. -/
  short : name.utf8ByteSize ≤ FileSystem.nameLimit

namespace ValidName

variable {name : String}

theorem split_eq (h : ValidName name) : Path.split name.toList = [name.toList] :=
  Path.split_of_not_mem h.noSlash

theorem names_eq (h : ValidName name) : Path.names (Path.split name.toList) = [name] := by
  rw [h.split_eq, Path.names_singleton (mt String.toList_eq_nil_iff.1 h.nonempty),
    String.ofList_toList]

end ValidName

/-! ## Trees -/

/-- Something below a directory. -/
structure Descendant where
  /-- The names of the directories on the way. -/
  around : List String
  /-- Its own name. -/
  name : String
  /-- What it is. -/
  node : FileNode

namespace Descendant

/-- The names from the directory to it. -/
def place (d : Descendant) : List String := d.around ++ [d.name]

/-- The same from further above. -/
def under (name : String) (d : Descendant) : Descendant := { d with around := name :: d.around }

end Descendant

namespace FileNode

mutual

/-- What lies below a node. -/
def descendants : FileNode → List Descendant
  | .file _ _ => []
  | .directory entries => descendantsIn entries

/-- The entries of a directory and what lies below them. -/
def descendantsIn : List (String × FileNode) → List Descendant
  | [] => []
  | (name, node) :: rest =>
    ⟨[], name, node⟩ :: (descendants node).map (·.under name) ++ descendantsIn rest

end

/-- The entries of all directories in the tree have names, no two of a directory the same. -/
def WellFormed (node : FileNode) : Prop :=
  ∀ place entries, node.get? place = some (.directory entries) →
    (entries.map Prod.fst).Nodup ∧ ∀ entry ∈ entries, ValidName entry.1

variable {node : FileNode} {entries : List (String × FileNode)}

/-- What lies in a well-formed tree is a well-formed tree. -/
theorem WellFormed.get? {place : List String} {below : FileNode} (h : node.WellFormed)
    (hbelow : node.get? place = some below) : below.WellFormed := by
  intro further entries hentries
  refine h (place ++ further) entries ?_
  rw [get?_append, hbelow]
  exact hentries

/-- An entry is found under its name if no other has the name. -/
theorem find?_eq_some_iff {name : String} (h : (entries.map Prod.fst).Nodup) :
    Entries.find? name entries = some node ↔ (name, node) ∈ entries := by
  induction entries with
  | nil => simp [Entries.find?]
  | cons entry rest ih =>
    obtain ⟨key, value⟩ := entry
    obtain ⟨hkey, hrest⟩ := List.nodup_cons.1 h
    unfold Entries.find?
    split
    · next heq =>
      rw [heq] at hkey
      constructor
      · intro hvalue
        rw [heq, Option.some.inj hvalue]
        exact List.mem_cons_self
      · intro hin
        rcases List.mem_cons.1 hin with hentry | hin
        · rw [(Prod.mk.inj hentry).2]
        · exact absurd (List.mem_map_of_mem hin) hkey
    · next hne =>
      rw [ih hrest, List.mem_cons]
      constructor
      · exact .inr
      · rintro (hentry | hin)
        · exact absurd (Prod.mk.inj hentry).1.symm hne
        · exact hin

/-- What a well-formed directory holds is well-formed. -/
theorem WellFormed.entry {name : String} (h : (FileNode.directory entries).WellFormed)
    (hin : (name, node) ∈ entries) : node.WellFormed := by
  have hget : (FileNode.directory entries).get? [name] = some node := by
    rw [get?_entry, (find?_eq_some_iff (h [] entries rfl).1).2 hin]
  exact h.get? hget

/-- A directory is well-formed if its names are, and what it holds. -/
theorem wellFormed_directory (hdistinct : (entries.map Prod.fst).Nodup)
    (h : ∀ entry ∈ entries, ValidName entry.1 ∧ entry.2.WellFormed) :
    (FileNode.directory entries).WellFormed := by
  intro place found hfound
  cases place with
  | nil =>
    cases hfound
    exact ⟨hdistinct, fun entry hin => (h entry hin).1⟩
  | cons name rest =>
    obtain ⟨node, hnode, hrest⟩ := Option.bind_eq_some_iff.1 hfound
    exact (h _ ((find?_eq_some_iff hdistinct).1 hnode)).2 rest found hrest

theorem wellFormed_file (content : List UInt8) (executable : Bool) :
    (FileNode.file content executable).WellFormed := by
  intro place found hfound
  cases place with
  | nil => cases hfound
  | cons name rest => cases hfound

/-- What lies at a place below a directory lies in the entry with the first name on the way. -/
theorem mem_descendantsIn {d : Descendant} :
    d ∈ descendantsIn entries ↔
      (∃ node, (d.name, node) ∈ entries ∧ d = ⟨[], d.name, node⟩) ∨
      ∃ name node below, (name, node) ∈ entries ∧ below ∈ descendants node ∧
        d = below.under name := by
  induction entries with
  | nil => simp [descendantsIn]
  | cons entry rest ih =>
    obtain ⟨name, node⟩ := entry
    rw [descendantsIn, List.cons_append, List.mem_cons, List.mem_append, ih, List.mem_map]
    constructor
    · rintro (rfl | ⟨below, hbelow, rfl⟩ | ⟨other, hin, hd⟩ | ⟨key, other, below, hin, hbelow, hd⟩)
      · exact .inl ⟨node, List.mem_cons_self, rfl⟩
      · exact .inr ⟨name, node, below, List.mem_cons_self, hbelow, rfl⟩
      · exact .inl ⟨other, List.mem_cons_of_mem _ hin, hd⟩
      · exact .inr ⟨key, other, below, List.mem_cons_of_mem _ hin, hbelow, hd⟩
    · rintro (⟨other, hin, hd⟩ | ⟨key, other, below, hin, hbelow, hd⟩)
      · rcases List.mem_cons.1 hin with hentry | hin
        · obtain ⟨hname, rfl⟩ := Prod.mk.inj hentry
          rw [hname] at hd
          exact .inl hd
        · exact .inr (.inr (.inl ⟨other, hin, hd⟩))
      · rcases List.mem_cons.1 hin with hentry | hin
        · obtain ⟨rfl, rfl⟩ := Prod.mk.inj hentry
          exact .inr (.inl ⟨below, hbelow, hd.symm⟩)
        · exact .inr (.inr (.inr ⟨key, other, below, hin, hbelow, hd⟩))

/-- What is listed is what can be reached along names. -/
theorem mem_descendants {d : Descendant} (h : node.WellFormed) :
    d ∈ descendants node ↔ node.get? d.place = some d.node := by
  obtain ⟨around, name, found⟩ := d
  induction around generalizing node with
  | nil =>
    cases node with
    | file content executable => simp [descendants, Descendant.place, FileNode.get?]
    | directory entries =>
      have hdistinct := (h [] entries rfl).1
      rw [descendants, mem_descendantsIn]
      show _ ↔ (FileNode.directory entries).get? [name] = some found
      rw [get?_entry, find?_eq_some_iff hdistinct]
      constructor
      · rintro (⟨node, hin, hd⟩ | ⟨key, node, below, -, -, hd⟩)
        · cases hd
          exact hin
        · cases hd
      · intro hin
        exact .inl ⟨found, hin, rfl⟩
  | cons key rest ih =>
    cases node with
    | file content executable => simp [descendants, Descendant.place, FileNode.get?]
    | directory entries =>
      have hdistinct := (h [] entries rfl).1
      have hget : (FileNode.directory entries).get? (key :: (rest ++ [name])) =
          (Entries.find? key entries).bind (·.get? (rest ++ [name])) := rfl
      rw [descendants, mem_descendantsIn]
      show _ ↔ (FileNode.directory entries).get? (key :: (rest ++ [name])) = some found
      rw [hget, Option.bind_eq_some_iff]
      constructor
      · rintro (⟨node, -, hd⟩ | ⟨first, node, below, hin, hmem, hd⟩)
        · cases hd
        · cases hd
          exact ⟨node, (find?_eq_some_iff hdistinct).2 hin, (ih (h.entry hin)).1 hmem⟩
      · rintro ⟨node, hfind, hreach⟩
        have hin := (find?_eq_some_iff hdistinct).1 hfind
        exact .inr ⟨key, node, ⟨rest, name, found⟩, hin, (ih (h.entry hin)).2 hreach, rfl⟩

/-- A place below a directory begins with the name of one of its entries. -/
theorem head?_place {d : Descendant} (h : d ∈ descendantsIn entries) :
    ∃ name ∈ entries.map Prod.fst, d.place.head? = some name := by
  rcases mem_descendantsIn.1 h with ⟨node, hin, hd⟩ | ⟨name, node, below, hin, -, rfl⟩
  · rw [hd]
    exact ⟨d.name, List.mem_map_of_mem hin, rfl⟩
  · exact ⟨name, List.mem_map_of_mem hin, rfl⟩

mutual

/-- No place is listed twice. -/
theorem nodup_places : (node : FileNode) → node.WellFormed →
    ((descendants node).map Descendant.place).Nodup
  | .file _ _, _ => .nil
  | .directory entries, h => by
    rw [descendants]
    exact nodup_placesIn entries (h [] entries rfl).1 fun _ hin => h.entry hin

/-- The same for the entries of a directory. -/
theorem nodup_placesIn : (entries : List (String × FileNode)) → (entries.map Prod.fst).Nodup →
    (∀ entry ∈ entries, entry.2.WellFormed) → ((descendantsIn entries).map Descendant.place).Nodup
  | [], _, _ => .nil
  | (name, node) :: rest, hdistinct, h => by
    obtain ⟨hname, hrest⟩ := List.nodup_cons.1 hdistinct
    have hnode : ((descendants node).map Descendant.place).Nodup :=
      nodup_places node (h _ List.mem_cons_self)
    have hin := nodup_placesIn rest hrest fun entry hentry =>
      h entry (List.mem_cons_of_mem _ hentry)
    -- The places in the first entry begin with its name, and the others with other names.
    have hapart : ∀ place ∈ (descendantsIn rest).map Descendant.place,
        place.head? ≠ some name := by
      intro place hplace heq
      obtain ⟨d, hd, rfl⟩ := List.mem_map.1 hplace
      obtain ⟨other, hother, hhead⟩ := head?_place hd
      rw [hhead] at heq
      exact hname (Option.some.inj heq ▸ hother)
    have hplaces : ((descendantsIn ((name, node) :: rest)).map Descendant.place) =
        [name] :: ((descendants node).map Descendant.place).map (name :: ·) ++
          (descendantsIn rest).map Descendant.place := by
      rw [descendantsIn, List.map_append, List.map_cons, List.map_map, List.map_map]
      rfl
    rw [hplaces, List.nodup_append]
    refine ⟨List.nodup_cons.2 ⟨?_, ?_⟩, hin, ?_⟩
    · intro hmem
      obtain ⟨place, hplace, heq⟩ := List.mem_map.1 hmem
      obtain ⟨d, -, rfl⟩ := List.mem_map.1 hplace
      exact absurd (List.cons.inj heq).2 (List.append_ne_nil_of_right_ne_nil _ (by simp))
    · exact hnode.map fun _ _ heq => (List.cons.inj heq).2
    · rintro place hplace other hother rfl
      refine hapart place hother ?_
      rcases List.mem_cons.1 hplace with rfl | hplace
      · rfl
      · obtain ⟨further, -, rfl⟩ := List.mem_map.1 hplace
        rfl

end

end FileNode

/-! ## Visits -/

namespace Glob

/-- The path to something below a directory, from that of the directory. -/
def pathTo (path : String) (d : Descendant) : String := d.place.foldl below path

mutual

/-- A visit below a node visits all that lies there. -/
theorem visitBelow_eq (visit : (path name : String) → List String) (path : String) :
    (node : FileNode) → visitBelow visit path node =
      node.descendants.flatMap (fun d => visit (pathTo path d) d.name)
  | .file _ _ => rfl
  | .directory entries => by
    rw [visitBelow, FileNode.descendants]
    exact visitEntries_eq visit path entries

/-- A visit of the entries of a directory visits all that lies in it. -/
theorem visitEntries_eq (visit : (path name : String) → List String) (path : String) :
    (entries : List (String × FileNode)) → visitEntries visit path entries =
      (FileNode.descendantsIn entries).flatMap (fun d => visit (pathTo path d) d.name)
  | [] => rfl
  | (name, node) :: rest => by
    rw [visitEntries, FileNode.descendantsIn, visitBelow_eq visit (below path name) node,
      visitEntries_eq visit path rest, List.flatMap_append, List.flatMap_cons, List.flatMap_map]
    rfl

end

end Glob

namespace FileSystem

variable {fs : FileSystem} {path : String} {place : List String} {node found : FileNode}

/-- The path to something below a directory leads there. -/
theorem leads_foldl_below {names : List String} (hleads : fs.Leads path place)
    (hnode : fs.get? place = some node) (hwell : node.WellFormed)
    (hfound : node.get? names = some found) :
    fs.Leads (names.foldl Glob.below path) (place ++ names) := by
  induction names generalizing path place node with
  | nil =>
    rw [List.append_nil]
    exact hleads
  | cons name rest ih =>
    cases node with
    | file content executable => cases hfound
    | directory entries =>
      obtain ⟨below, hbelow, hrest⟩ := Option.bind_eq_some_iff.1 hfound
      obtain ⟨hdistinct, hvalid⟩ := hwell [] entries rfl
      have hin : (name, below) ∈ entries := (FileNode.find?_eq_some_iff hdistinct).1 hbelow
      have hname : ValidName name := hvalid _ hin
      have hget : fs.get? (place ++ [name]) = some below := by
        rw [get?_append, hnode, Option.bind_some, FileNode.get?_entry, hbelow]
      have hstep : fs.Leads (Glob.below path name) (place ++ [name]) := by
        rw [leads_below hleads (Path.isAbsolute_of_not_mem hname.noSlash) fun _ => hname.nonempty,
          hname.names_eq, walk_name hname.notSelf hname.notParent, hget]
        exact ⟨hname.short, rfl, rfl⟩
      have hgo := ih hstep hget (hwell.entry hin) hrest
      rw [List.append_assoc, List.singleton_append] at hgo
      exact hgo

/-- The path to something below a directory is where it is found. -/
theorem locate_pathTo {d : Descendant} (hleads : fs.Leads path place)
    (hnode : fs.get? place = some node) (hwell : node.WellFormed) (hd : d ∈ node.descendants) :
    fs.locate (Glob.pathTo path d) = .ok (place ++ d.place) := by
  have hget : node.get? (d.around ++ [d.name]) = some d.node :=
    (FileNode.mem_descendants hwell).1 hd
  have hto : fs.Leads (Glob.pathTo path d) (place ++ d.place) :=
    leads_foldl_below hleads hnode hwell hget
  rw [FileNode.get?_append, Option.bind_eq_some_iff] at hget
  obtain ⟨above, habove, hname⟩ := hget
  have hpath : Glob.pathTo path d = Glob.below (d.around.foldl Glob.below path) d.name :=
    List.foldl_append
  have hvalid : ValidName d.name := by
    cases above with
    | file content executable => cases hname
    | directory entries =>
      obtain ⟨hdistinct, hvalid⟩ := hwell d.around entries habove
      have hfind : Entries.find? d.name entries = some d.node :=
        (FileNode.get?_entry entries d.name).symm.trans hname
      exact hvalid _ ((FileNode.find?_eq_some_iff hdistinct).1 hfind)
  refine locate_of_leads_of_ends hto ?_
  rw [hpath, getLast?_below (leads_foldl_below hleads hnode hwell habove).1
    (Path.isAbsolute_of_not_mem hvalid.noSlash), hvalid.split_eq, List.getLast?_singleton,
    ne_eq, Option.some.injEq]
  exact mt String.toList_eq_nil_iff.1 hvalid.nonempty

end FileSystem

end Runbook
