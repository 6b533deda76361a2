import Mathlib.Data.List.Chain
import Mathlib.Logic.Relation
import Runbook.Proofs.Workflow.Valid

/-!
# Well-formed workflows

What it means for a workflow to be well formed, with all the shared steps that can be reached from
it.  Nothing here compiles anything.

* `Bundle` is a list of steps with the place where it stands;
* `Compiler.Leads` and `Compiler.Calls` are the call graph, `Compiler.Reaches` and `Compiler.Chain`
  the ways in it;
* `Compiler.WellFormed` asks for valid steps and calls wherever a bundle leads, for no cycle there,
  and for no chain that is too long;
* `Compiler.Path` is the way to a bundle that is up;
* `Library.ofFiles_keyed` says that in the library of a project the key tells the shared step: the
  key of a file is its absolute path, which begins with a slash, and no key of a built-in one does.
-/

namespace Runbook

/-- A reference that something leads to. -/
def Library.Resolves (library : Library) (r : Reference) : Prop :=
  ∃ uses origin, library.resolve uses origin = .ok r

/-- A list of steps, and the directory in which its references begin. -/
structure Bundle where
  /-- The directory. -/
  origin : String
  /-- The steps. -/
  steps : List StepDefinition

namespace Compiler

/-- The steps of a shared step. -/
def bundle (c : Compiler) (r : Reference) (d : SharedDefinition) : Bundle :=
  ⟨r.origin c.library.projectDir, d.steps⟩

/-- A call in a bundle leads to a reference. -/
def Leads (c : Compiler) (b : Bundle) (r : Reference) : Prop :=
  ∃ p ∈ stepsCalls b.steps, c.library.resolve p.2.uses b.origin = .ok r

/-- A shared step calls another. -/
def Calls (c : Compiler) (r r' : Reference) : Prop :=
  ∃ d, c.library.load r = .ok d ∧ c.Leads (c.bundle r d) r'

/-- A shared step can be reached from a bundle. -/
def Reaches (c : Compiler) (b : Bundle) (r : Reference) : Prop :=
  ∃ first, c.Leads b first ∧ Relation.ReflTransGen c.Calls first r

/-- Shared steps of which a bundle calls the first, and each calls the next. -/
def Chain (c : Compiler) (b : Bundle) (rs : List Reference) : Prop :=
  (∀ r ∈ rs.head?, c.Leads b r) ∧ rs.IsChain c.Calls

/-- A call that leads to a shared step and passes what that one asks for. -/
def CallValid (c : Compiler) (b : Bundle) (p : String × SharedCall) : Prop :=
  ∃ r d, c.library.resolve p.2.uses b.origin = .ok r ∧ c.library.load r = .ok d ∧
    Signature.checkCall ⟨d.name, d.inputs, d.outputs⟩ p.1 p.2 = .ok ()

/-- A bundle whose steps and calls are valid. -/
structure BundleValid (c : Compiler) (b : Bundle) : Prop where
  block : BlockValid c.adapters false b.steps
  calls : ∀ p ∈ stepsCalls b.steps, c.CallValid b p

/-- A bundle that is well formed with all that it leads to. -/
structure WellFormed (c : Compiler) (b : Bundle) : Prop where
  /-- The steps and calls of the bundle itself are valid. -/
  valid : c.BundleValid b
  /-- So are those of the shared steps that can be reached. -/
  shared : ∀ r, c.Reaches b r → ∀ d, c.library.load r = .ok d → c.BundleValid (c.bundle r d)
  /-- None of these leads back to itself. -/
  acyclic : ∀ r, c.Reaches b r → ¬ Relation.TransGen c.Calls r r
  /-- No chain of calls is too long. -/
  depth : ∀ rs, c.Chain b rs → rs.length ≤ c.maxDepth

end Compiler

/-- The steps of a workflow. -/
def Definition.bundle (d : Definition) (source : Option String) (c : Compiler) : Bundle :=
  ⟨workflowOrigin source c.library.projectDir, d.steps⟩

/-- A workflow that is well formed with all the shared steps that it leads to. -/
def Definition.WellFormed (d : Definition) (source : Option String) (c : Compiler) : Prop :=
  c.WellFormed (d.bundle source c)

namespace Compiler

variable {c : Compiler} {b root : Bundle} {r : Reference} {rs : List Reference}

/-! ## Ways -/

/-- The way from a bundle to one that it leads to, over shared steps that can be read. -/
inductive Path (c : Compiler) (root : Bundle) : List Reference → Bundle → Prop where
  /-- The bundle itself. -/
  | nil : Path c root [] root
  /-- One call further. -/
  | snoc {rs : List Reference} {b : Bundle} {r : Reference} {d : SharedDefinition}
    (path : Path c root rs b) (leads : c.Leads b r) (load : c.library.load r = .ok d) :
    Path c root (rs ++ [r]) (c.bundle r d)

theorem Path.reaches (h : c.Path root rs b) (hl : c.Leads b r) : c.Reaches root r := by
  induction h generalizing r with
  | nil => exact ⟨r, hl, .refl⟩
  | snoc path leads load ih =>
    obtain ⟨first, hfirst, hr⟩ := ih leads
    exact ⟨first, hfirst, hr.tail ⟨_, load, hl⟩⟩

theorem Path.chain (h : c.Path root rs b) (hl : c.Leads b r) : c.Chain root (rs ++ [r]) := by
  induction h generalizing r with
  | nil => exact ⟨fun r' hr' => by cases hr'; exact hl, .singleton r⟩
  | @snoc rs b' r' d path leads load ih =>
    obtain ⟨hhead, hchain⟩ := ih leads
    refine ⟨fun first hfirst => hhead first ?_, ?_⟩
    · cases rs <;> simpa using hfirst
    · rw [List.append_assoc]
      exact List.isChain_split.2 ⟨hchain, List.isChain_pair.2 ⟨d, load, hl⟩⟩

/-- A chain may go on where a way ends. -/
theorem Path.chain_append (h : c.Path root rs b) (hl : c.Leads b r) {more : List Reference}
    (hm : (r :: more).IsChain c.Calls) : c.Chain root (rs ++ r :: more) := by
  obtain ⟨hhead, hchain⟩ := h.chain hl
  refine ⟨fun first hfirst => hhead first ?_, List.isChain_split.2 ⟨hchain, hm⟩⟩
  cases rs <;> simpa using hfirst

/-- A shared step that a way has gone through leads to what is called where the way ends. -/
theorem Path.transGen (h : c.Path root rs b) (hl : c.Leads b r) {r' : Reference} (hr : r' ∈ rs) :
    Relation.TransGen c.Calls r' r := by
  have hpairs := ((h.chain hl).2.imp fun _ _ => Relation.TransGen.single).pairwise
  exact (List.pairwise_append.1 hpairs).2.2 r' hr r (List.mem_singleton_self r)

/-- Something leads to each shared step that a way has gone through. -/
theorem Path.resolves (h : c.Path root rs b) {r : Reference} (hr : r ∈ rs) :
    c.library.Resolves r := by
  induction h with
  | nil => exact absurd hr List.not_mem_nil
  | snoc path leads load ih =>
    rcases List.mem_append.1 hr with hr | hr
    · exact ih hr
    · obtain ⟨p, -, hp⟩ := leads
      rw [List.mem_singleton.1 hr]
      exact ⟨_, _, hp⟩

/-- What is well formed stays so if longer chains are allowed. -/
theorem WellFormed.of_maxDepth_le (h : c.WellFormed root) {limit : Nat} (hle : c.maxDepth ≤ limit) :
    WellFormed { c with maxDepth := limit } root where
  valid := ⟨h.valid.block, h.valid.calls⟩
  shared := fun r hr d hd => ⟨(h.shared r hr d hd).block, (h.shared r hr d hd).calls⟩
  acyclic := h.acyclic
  depth := fun rs hrs => le_trans (h.depth rs hrs) hle

theorem WellFormed.path (hw : c.WellFormed root) (h : c.Path root rs b) : c.BundleValid b := by
  cases h with
  | nil => exact hw.valid
  | snoc path leads load => exact hw.shared _ (path.reaches leads) _ load

end Compiler

/-! ## Keys of shared steps -/

/-- References with the same key are the same. -/
def Library.Keyed (library : Library) : Prop :=
  ∀ r r', library.Resolves r → library.Resolves r' → r.key = r'.key → r = r'

/-- The reference to a built-in shared step, or to an absolute path. -/
inductive Reference.Shape : Reference → Prop where
  /-- A built-in shared step. -/
  | builtin (name : String) : Shape ⟨"builtin:" ++ name, .builtin name⟩
  /-- The file at a place. -/
  | file (place : List String) :
    Shape ⟨FileSystem.placeText place, .file (FileSystem.placeText place)⟩

theorem Reference.shape_builtin? {name : String} {r : Reference} (h : builtin? name = some r) :
    r.Shape := by
  obtain ⟨d, -, rfl⟩ := Option.map_eq_some_iff.1 h
  exact .builtin d.name

theorem Reference.shape_ofFile {fs : FileSystem} {path : String} {r : Reference}
    (h : ofFile fs path = .ok r) : r.Shape := by
  unfold ofFile FileSystem.canonical at h
  cases hp : fs.locate path with
  | error fault =>
    rw [hp] at h
    cases h
  | ok place =>
    rw [hp] at h
    cases h
    exact .file place

theorem Library.lookUp_shape {fs : FileSystem} {projectDir reference origin : String}
    {r : Reference} (h : lookUp fs projectDir reference origin = .ok r) : r.Shape := by
  unfold lookUp at h
  dsimp only at h
  split at h
  · split at h
    · next hb => cases h; exact Reference.shape_builtin? hb
    · cases h
  · split at h
    · exact Reference.shape_ofFile h
    · cases h
  · split at h
    · split at h
      · exact Reference.shape_ofFile h
      · cases h
    · split at h
      · exact Reference.shape_ofFile h
      · next hb => cases h; exact Reference.shape_builtin? hb
      · cases h

/-- Two references with one key have the same place. -/
theorem Reference.Shape.eq_of_key {r r' : Reference} (h : r.Shape) (h' : r'.Shape)
    (hkey : r.key = r'.key) : r = r' := by
  have differ : ∀ (name : String) (place : List String),
      "builtin:" ++ name ≠ FileSystem.placeText place := by
    intro name place heq
    have hchars := congrArg String.toList heq
    simp [FileSystem.placeText] at hchars
  cases h with
  | builtin name =>
    cases h' with
    | builtin name' =>
      have hname : "builtin:" ++ name = "builtin:" ++ name' := hkey
      have hname : name = name' := by
        have hchars := congrArg String.toList hname
        exact String.toList_inj.1 (by simpa using hchars)
      rw [hname]
    | file place => exact (differ name place hkey).elim
  | file place =>
    cases h' with
    | builtin name => exact (differ name place hkey.symm).elim
    | file place' =>
      have hplace : FileSystem.placeText place = FileSystem.placeText place' := hkey
      rw [hplace]

theorem Library.Resolves.shape {fs : FileSystem} {projectDir : String} {r : Reference}
    (h : (ofFiles fs projectDir).Resolves r) : r.Shape := by
  obtain ⟨uses, origin, h⟩ := h
  simp only [ofFiles] at h
  exact lookUp_shape h

/-- The key tells the shared step of a project. -/
theorem Library.ofFiles_keyed (fs : FileSystem) (projectDir : String) :
    (ofFiles fs projectDir).Keyed := by
  intro r r' h h' hkey
  exact h.shape.eq_of_key h'.shape hkey

end Runbook
