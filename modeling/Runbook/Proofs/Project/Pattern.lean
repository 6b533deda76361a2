import Runbook.Proofs.Project.Tree

/-!
# Patterns that begin with a path

A path without special characters is put in front of a pattern for files with an ending in any
directory below.  It is read character by character, and followed as a path.

* `Glob.Plain` says that a text has no special characters, and `Glob.read_plain` that it is read as
  it stands;
* `Glob.tokensMatch_star` says that a star with an ending behind it matches the names with the
  ending;
* `Glob.follow?` follows literal components, and `Glob.paths_below` is what such a pattern matches
  by it;
* `Glob.follow?_leads` says that the components of a path are followed to where it leads, except
  for those of which `Glob.Stalls` holds: by `Glob.follow?_stalls`, these are not followed at all.
-/

namespace Runbook.Glob

variable {fs : FileSystem} {path pattern : String} {cs ending : List Char}

/-! ## Plain texts -/

/-- The characters that stand for something else in a pattern. -/
def special : List Char := ['*', '?', '[']

/-- No character of a text stands for something else in a pattern. -/
def Plain (cs : List Char) : Prop := ∀ c ∈ cs, c ∉ special

-- By the list: by the characters, of which there are too many, it would be decidable as well.
instance : Decidable (Plain cs) := List.decidableBAll (fun c => c ∉ special) cs

theorem Plain.append {front back : List Char} (hfront : Plain front) (hback : Plain back) :
    Plain (front ++ back) := by
  intro c hc
  rcases List.mem_append.1 hc with hc | hc
  · exact hfront c hc
  · exact hback c hc

theorem readFrom_cons {total fuel : Nat} {before : Option Char} {c : Char} {rest : List Char}
    (hc : c ∉ special) :
    readFrom total (fuel + 1) before (c :: rest) =
      (.char c :: ·) <$> readFrom total fuel (some c) rest := by
  have hstar : c ≠ '*' := fun h => hc (h ▸ by decide)
  have hmark : c ≠ '?' := fun h => hc (h ▸ by decide)
  have hbracket : c ≠ '[' := fun h => hc (h ▸ by decide)
  rw [readFrom]
  · exact hstar
  · exact hmark
  · exact hbracket

/-- A plain text in front of others is read as it stands. -/
theorem readFrom_append (total fuel : Nat) (before : Option Char) (rest : List Char)
    (h : Plain cs) :
    readFrom total (cs.length + fuel) before (cs ++ rest) =
      (cs.map Token.char ++ ·) <$> readFrom total fuel (cs.getLast?.or before) rest := by
  induction cs generalizing before with
  | nil =>
    rw [List.length_nil, Nat.zero_add]
    exact (id_map _).symm
  | cons c more ih =>
    have hlast : (c :: more).getLast?.or before = more.getLast?.or (some c) := by
      cases more with
      | nil => rfl
      | cons d rest =>
        rw [List.getLast?_cons_cons, List.getLast?_eq_some_getLast (List.cons_ne_nil d rest)]
        rfl
    have hmore : Plain more := fun d hd => h d (List.mem_cons_of_mem _ hd)
    rw [List.length_cons, Nat.add_right_comm, List.cons_append,
      readFrom_cons (h c List.mem_cons_self), ih (some c) hmore, hlast, ← comp_map]
    rfl

theorem readFrom_nil (total fuel : Nat) (before : Option Char) :
    readFrom total fuel before [] = .ok [] := by
  cases fuel with
  | zero => rfl
  | succ fuel => rfl

/-- A plain text by itself. -/
theorem readFrom_plain (total fuel : Nat) (before : Option Char) (h : Plain cs) :
    readFrom total (cs.length + fuel) before cs = .ok (cs.map .char) := by
  have hread := readFrom_append total fuel before [] h
  rw [readFrom_nil, Except.map_ok, List.append_nil, List.append_nil] at hread
  exact hread

theorem read_plain (h : Plain cs) : read cs = .ok (cs.map .char) :=
  readFrom_plain cs.length 0 none h

/-- A star in front of a plain text. -/
theorem readFrom_star (total fuel : Nat) (before : Option Char) (h : Plain cs) :
    readFrom total (cs.length + fuel + 1) before ('*' :: cs) = .ok (.star :: cs.map .char) := by
  have hrest : readFrom total (cs.length + fuel) (some '*') cs = .ok (cs.map .char) :=
    readFrom_plain total fuel (some '*') h
  cases cs with
  | nil => rw [readFrom, hrest] <;> simp
  | cons c more =>
    have hc : c ≠ '*' := fun heq => h c List.mem_cons_self (heq ▸ by decide)
    rw [readFrom, hrest] <;> simp [hc]

/-- Two stars between slashes, with a star and a plain text behind them. -/
theorem readFrom_deep (total fuel : Nat) (h : Plain ending) :
    readFrom total (ending.length + fuel + 2) (some '/') ('*' :: '*' :: '/' :: '*' :: ending) =
      .ok (.deep :: .star :: ending.map .char) := by
  have hrest := readFrom_star total fuel (some '/') h
  rw [readFrom]
  · have hdeep (position : Nat) :
        readDeep position (some '/') ('/' :: '*' :: ending) = .ok ('*' :: ending) := rfl
    rw [hdeep]
    show (readFrom total (ending.length + fuel + 1) (some '/') ('*' :: ending)).bind _ = _
    rw [hrest]
    rfl
  · intro tail htail
    cases htail

/-- The characters of a pattern for the files with an ending in any directory below a path. -/
def deepPattern (path ending : List Char) : List Char :=
  path ++ '/' :: '*' :: '*' :: '/' :: '*' :: ending

theorem read_deepPattern {path : List Char} (hpath : Plain path) (hending : Plain ending) :
    ∃ tokens, read (deepPattern path ending) = .ok tokens := by
  have hslash : Plain (path ++ ['/']) := hpath.append (by decide)
  have hsplit : deepPattern path ending =
      (path ++ ['/']) ++ '*' :: '*' :: '/' :: '*' :: ending := by
    simp [deepPattern]
  have hlength : (deepPattern path ending).length =
      (path ++ ['/']).length + (ending.length + 2 + 2) := by
    simp [deepPattern]
    omega
  have hlast : (path ++ ['/']).getLast?.or none = some '/' := by simp
  unfold read
  rw [hlength, hsplit, readFrom_append _ _ _ _ hslash, hlast, readFrom_deep _ _ hending]
  exact ⟨_, rfl⟩

/-! ## Components -/

theorem literal?_plain (cs : List Char) : literal? (cs.map .char) = some cs := by
  induction cs with
  | nil => rfl
  | cons c rest ih =>
    rw [List.map_cons, literal?, ih]
    rfl

theorem isDeep_plain (cs : List Char) : isDeep (cs.map .char) = false := by
  unfold isDeep
  simp

theorem anyEnd_iff {p : List Char → Bool} {text : List Char} :
    anyEnd p text = true ↔ ∃ tail, tail <:+ text ∧ p tail = true := by
  induction text with
  | nil => simp [anyEnd]
  | cons c rest ih =>
    rw [anyEnd, Bool.or_eq_true, ih]
    constructor
    · rintro (h | ⟨tail, htail, h⟩)
      · exact ⟨c :: rest, List.suffix_rfl, h⟩
      · exact ⟨tail, htail.trans (List.suffix_cons c rest), h⟩
    · rintro ⟨tail, htail, h⟩
      rcases List.suffix_cons_iff.1 htail with rfl | htail
      · exact .inl h
      · exact .inr ⟨tail, htail, h⟩

theorem tokensMatch_plain {text : List Char} :
    tokensMatch (cs.map .char) text = true ↔ text = cs := by
  induction cs generalizing text with
  | nil => cases text <;> simp [tokensMatch]
  | cons c rest ih =>
    cases text with
    | nil => simp [tokensMatch]
    | cons d more => simp [tokensMatch, Token.accepts, ih]

/-- A star with a plain text behind it matches what ends in the text. -/
theorem tokensMatch_star {text : List Char} :
    tokensMatch (.star :: cs.map .char) text = true ↔ cs <:+ text := by
  rw [tokensMatch, anyEnd_iff]
  constructor
  · rintro ⟨tail, htail, h⟩
    rw [← tokensMatch_plain.1 h]
    exact htail
  · intro h
    exact ⟨cs, h, tokensMatch_plain.2 rfl⟩

theorem mapM_read_plain {parts : List (List Char)} (h : ∀ part ∈ parts, Plain part) :
    parts.mapM read = .ok (parts.map (·.map .char)) := by
  induction parts with
  | nil => rfl
  | cons part rest ih =>
    rw [List.mapM_cons, read_plain (h part List.mem_cons_self),
      ih fun other hother => h other (List.mem_cons_of_mem _ hother)]
    rfl

/-! ## Following components -/

/-- Follows components without special characters. -/
def follow? (fs : FileSystem) (path : String) (parts : List (List Char)) : Option String :=
  parts.foldlM (fun path part => literalPath? fs path (String.ofList part)) path

theorem follow?_cons (path : String) (part : List Char) (rest : List (List Char)) :
    follow? fs path (part :: rest) =
      (literalPath? fs path (String.ofList part)).bind (follow? fs · rest) := rfl

/-- Plain components in front of others are followed, and the others from there. -/
theorem pathsFrom_plain (parts : List (List Char)) (next : List Token) (rest : List (List Token)) :
    pathsFrom fs (parts.map (·.map .char) ++ next :: rest) path =
      (follow? fs path parts).toList.flatMap (pathsFrom fs (next :: rest)) := by
  induction parts generalizing path with
  | nil =>
    show _ = [path].flatMap (pathsFrom fs (next :: rest))
    rw [List.flatMap_singleton]
    rfl
  | cons part more ih =>
    obtain ⟨second, others, hmore⟩ :=
      List.exists_cons_of_ne_nil (List.append_ne_nil_of_right_ne_nil
        (more.map (·.map Token.char)) (List.cons_ne_nil next rest))
    rw [List.map_cons, List.cons_append, hmore, pathsFrom, ← hmore,
      if_neg (Bool.eq_false_iff.1 (isDeep_plain part)), literal?_plain, follow?_cons]
    dsimp only
    cases literalPath? fs path (String.ofList part) with
    | none => rfl
    | some path => exact ih

theorem collapseDeep_plain (parts : List (List Char)) {last : List Token}
    (h : isDeep last = false) :
    collapseDeep (parts.map (·.map .char) ++ [[.deep], last]) =
      parts.map (·.map .char) ++ [[.deep], last] := by
  induction parts with
  | nil => simp [collapseDeep, h]
  | cons part rest ih =>
    rw [List.map_cons, List.cons_append, collapseDeep, isDeep_plain, Bool.false_and,
      if_neg Bool.false_ne_true, ih]

/-! ## What is matched -/

/-- Where a pattern that begins with a path begins to be followed. -/
def scopeOf (path : String) : String := if Path.isAbsolute path then "/" else "."

/-- The components that are followed from there. -/
def partsOf (path : String) : List (List Char) :=
  Path.split (if Path.isAbsolute path then path.toList.tail else path.toList)

theorem plain_partsOf (h : Plain path.toList) : ∀ part ∈ partsOf path, Plain part := by
  intro part hpart c hc
  have hin := (Path.of_mem_split hpart c hc).1
  split at hin
  · exact h c (List.mem_of_mem_tail hin)
  · exact h c hin

/-- The components of a pattern for the files with an ending. -/
theorem componentTexts_deepPattern (front : List Char) (hslash : '/' ∉ ending) :
    componentTexts (deepPattern front ending) =
      Path.split front ++ [['*', '*'], '*' :: ending] := by
  have hsplit : Path.split (deepPattern front ending) =
      Path.split front ++ [['*', '*'], '*' :: ending] := by
    have hlast : Path.split ('*' :: ending) = ['*' :: ending] :=
      Path.split_of_not_mem fun h => hslash ((List.mem_cons.1 h).resolve_left (by decide))
    have hdeep : Path.split ('*' :: '*' :: '/' :: '*' :: ending) =
        Path.split ['*', '*'] ++ Path.split ('*' :: ending) :=
      Path.split_append ['*', '*'] ('*' :: ending)
    rw [deepPattern, Path.split_append, hdeep, hlast]
    rfl
  unfold componentTexts
  rw [hsplit]
  simp

/-- What a pattern matches that does not end in a slash. -/
theorem paths_eq_ok {components : List (List Token)} {c : Char} {rest : List Char}
    {tokens : List Token} (hpattern : pattern.toList = c :: rest)
    (hread : read (c :: rest) = .ok tokens) (hlast : (c :: rest).getLast? ≠ some '/')
    (hmap : (componentTexts (if c = '/' then rest else c :: rest)).mapM read = .ok components) :
    paths fs pattern =
      .ok (pathsFrom fs (collapseDeep components) (if c = '/' then "/" else ".")) := by
  unfold paths
  rw [hpattern, hread]
  by_cases hc : c = '/'
  · subst hc
    rw [if_pos rfl] at hmap ⊢
    show ((componentTexts rest).mapM read).bind _ = _
    rw [hmap]
    show Except.ok (if _ then _ else _) = _
    rw [if_neg hlast]
    rfl
  · rw [if_neg hc] at hmap ⊢
    split
    · next scope cs heq =>
      split at heq
      · next h => exact absurd (List.cons.inj h).1 hc
      · obtain ⟨rfl, rfl⟩ := Prod.mk.inj heq
        rw [hmap]
        show Except.ok (if _ then _ else _) = _
        rw [if_neg hlast]

theorem isAbsolute_iff {c : Char} {rest : List Char} (h : path.toList = c :: rest) :
    Path.isAbsolute path = true ↔ c = '/' := by
  unfold Path.isAbsolute
  rw [h]
  simp

/-- A pattern for the files with an ending in any directory below a plain path matches what has the
ending below the place to which the path is followed. -/
theorem paths_below (hpath : Plain path.toList) (hempty : path ≠ "") (hending : Plain ending)
    (hslash : '/' ∉ ending) (hpattern : pattern.toList = deepPattern path.toList ending) :
    paths fs pattern = .ok ((follow? fs (scopeOf path) (partsOf path)).toList.flatMap fun found =>
      visitEntries (fun path name =>
        if tokensMatch (.star :: ending.map .char) name.toList then [path] else [])
        found (entriesAt fs found)) := by
  obtain ⟨c, rest, hcs⟩ := List.exists_cons_of_ne_nil (mt String.toList_eq_nil_iff.1 hempty)
  obtain ⟨tokens, hread⟩ := read_deepPattern hpath hending
  have hlast : (deepPattern path.toList ending).getLast? ≠ some '/' := by
    have hsplit : deepPattern path.toList ending =
        (path.toList ++ ['/', '*', '*', '/']) ++ '*' :: ending := by
      simp [deepPattern]
    rw [hsplit, List.getLast?_append_of_ne_nil _ (List.cons_ne_nil _ _)]
    intro h
    rcases List.mem_cons.1 (List.mem_of_getLast? h) with heq | hin
    · cases heq
    · exact hslash hin
  have hdeep : isDeep (.star :: ending.map .char) = false := by
    unfold isDeep
    simp
  have hparts : partsOf path = Path.split (if c = '/' then rest else c :: rest) := by
    unfold partsOf
    rw [hcs]
    exact congrArg Path.split (if_congr (isAbsolute_iff hcs) rfl rfl)
  have hscope : scopeOf path = if c = '/' then "/" else "." :=
    if_congr (isAbsolute_iff hcs) rfl rfl
  have htexts : componentTexts (if c = '/' then deepPattern rest ending
      else deepPattern (c :: rest) ending) = partsOf path ++ [['*', '*'], '*' :: ending] := by
    rw [hparts, ← componentTexts_deepPattern _ hslash]
    split <;> rfl
  have hmap : (componentTexts (if c = '/' then deepPattern rest ending
      else deepPattern (c :: rest) ending)).mapM read =
      .ok ((partsOf path).map (·.map .char) ++ [[.deep], .star :: ending.map .char]) := by
    have hstar : read ('*' :: ending) = .ok (.star :: ending.map .char) :=
      readFrom_star _ 0 none hending
    rw [htexts, List.mapM_append, mapM_read_plain (plain_partsOf hpath), List.mapM_cons,
      List.mapM_cons, hstar]
    rfl
  rw [hcs] at hpattern hread hlast
  rw [paths_eq_ok hpattern hread hlast hmap, collapseDeep_plain _ hdeep, pathsFrom_plain, hscope]
  rfl

/-! ## Following a path -/

variable {place place' base : List String} {part : List Char} {parts : List (List Char)}

/-- A part along which a walk can go is followed there. -/
theorem literalPath?_of_walk (hleads : fs.Leads path place) (hdir : fs.DirectoryAt place)
    (hslash : '/' ∉ part) (hpart : path = "." → part ≠ [])
    (hwalk : fs.walk place (Path.names [part]) = .ok place') :
    literalPath? fs path (String.ofList part) = some (below path (String.ofList part)) ∧
      fs.Leads (below path (String.ofList part)) place' := by
  have hlist : (String.ofList part).toList = part := String.toList_ofList
  have hsplit : Path.split (String.ofList part).toList = [part] := by
    rw [hlist, Path.split_of_not_mem hslash]
  have hname : Path.isAbsolute (String.ofList part) = false :=
    Path.isAbsolute_of_not_mem (hlist.symm ▸ hslash)
  have hempty : path = "." → String.ofList part ≠ "" := by
    intro hpath h
    exact hpart hpath (by rw [← hlist, h]; rfl)
  have hto : fs.Leads (below path (String.ofList part)) place' := by
    rw [FileSystem.leads_below hleads hname hempty, hsplit]
    exact hwalk
  refine ⟨?_, hto⟩
  unfold literalPath?
  dsimp only
  rw [if_pos]
  split
  · exact FileSystem.isDirectory_iff.2 ⟨place, FileSystem.locate_of_leads hleads hdir, hdir⟩
  · next hdots =>
    rw [Bool.or_eq_true, decide_eq_true_eq, decide_eq_true_eq, not_or] at hdots
    by_cases hnil : part = []
    · -- Nothing more to walk along: the path of the directory, with a slash behind it.
      rw [hnil] at hwalk
      cases hwalk
      obtain ⟨entries, hget⟩ := hdir
      rw [FileSystem.find?_of_locate (FileSystem.locate_of_leads hto ⟨entries, hget⟩), hget]
      rfl
    · rw [Path.names_singleton hnil, FileSystem.walk_name hdots.1 hdots.2] at hwalk
      obtain ⟨-, hthere, rfl⟩ := hwalk
      have hends : (Path.split (below path (String.ofList part)).toList).getLast? ≠ some [] := by
        rw [FileSystem.getLast?_below hleads.1 hname, hsplit]
        simpa using hnil
      rw [FileSystem.find?_of_locate (FileSystem.locate_of_leads_of_ends hto hends)]
      exact hthere

theorem below_eq_dot {name : String} (hpath : path ≠ "") (hname : Path.isAbsolute name = false)
    (h : below path name = ".") : path = "." ∧ name = "." := by
  unfold below at h
  split at h
  · next hdot => exact ⟨hdot, h⟩
  · exfalso
    have hslash : '/' ∈ (Path.join path name).toList := by
      rcases Path.toList_join hpath hname with ⟨front, -, htext⟩ | htext
      · simp [htext]
      · simp [htext]
    rw [h] at hslash
    simp at hslash

/-- Parts come to an empty one while only dots lie behind them. -/
def StallsAlong (parts : List (List Char)) : Prop := (parts.dropWhile (· == ['.'])).head? = some []

/-- Parts along which a walk can go to a directory are followed there, unless they stall. -/
theorem follow?_leads (hleads : fs.Leads path place) (hparts : ∀ part ∈ parts, '/' ∉ part)
    (hstalls : path = "." → ¬ StallsAlong parts)
    (hwalk : fs.walk place (Path.names parts) = .ok base) (hdir : fs.DirectoryAt base) :
    ∃ found, follow? fs path parts = some found ∧ fs.Leads found base := by
  induction parts generalizing path place with
  | nil =>
    cases hwalk
    exact ⟨path, rfl, hleads⟩
  | cons part rest ih =>
    have hhere : fs.DirectoryAt place := FileSystem.directoryAt_of_walk hwalk hdir
    have hslash : '/' ∉ part := hparts part List.mem_cons_self
    rw [← List.singleton_append, Path.names_append, FileSystem.walk_append] at hwalk
    cases hpart : fs.walk place (Path.names [part]) with
    | error fault =>
      rw [hpart] at hwalk
      cases hwalk
    | ok next =>
      rw [hpart] at hwalk
      have hnil : path = "." → part ≠ [] := by
        intro hpath heq
        refine hstalls hpath ?_
        rw [heq]
        rfl
      obtain ⟨hfollow, hnext⟩ := literalPath?_of_walk hleads hhere hslash hnil hpart
      rw [follow?_cons, hfollow]
      refine ih hnext (fun other hother => hparts other (List.mem_cons_of_mem _ hother)) ?_ hwalk
      intro hdot hrest
      obtain ⟨hpath, hname⟩ := below_eq_dot hleads.1
        (Path.isAbsolute_of_not_mem (by rw [String.toList_ofList]; exact hslash)) hdot
      refine hstalls hpath ?_
      have hpart : part = ['.'] := by
        have htext := congrArg String.toList hname
        rw [String.toList_ofList] at htext
        exact htext
      unfold StallsAlong
      rw [hpart, List.dropWhile_cons_of_pos (by decide)]
      exact hrest

/-- Parts that stall lead nowhere from the working directory. -/
theorem follow?_stalls (h : StallsAlong parts) : follow? fs "." parts = none := by
  induction parts with
  | nil => cases h
  | cons part rest ih =>
    rw [follow?_cons]
    by_cases hdot : part = ['.']
    · unfold StallsAlong at h
      rw [hdot, List.dropWhile_cons_of_pos (by decide)] at h
      rw [hdot]
      cases hnext : literalPath? fs "." (String.ofList ['.']) with
      | none => rfl
      | some path =>
        have hpath : path = "." := by
          unfold literalPath? at hnext
          exact (Option.some.inj (Option.ite_none_right_eq_some.1 hnext).2).symm
        rw [hpath]
        exact ih h
    · unfold StallsAlong at h
      rw [List.dropWhile_cons_of_neg (by simpa using hdot), List.head?_cons, Option.some.injEq] at h
      rw [h]
      rfl

/-! ### From the beginning -/

/-- A path begins in the working directory, and after dots at most an empty part follows. -/
def Stalls (path : String) : Prop :=
  Path.isAbsolute path = false ∧ StallsAlong (Path.split path.toList)

instance : Decidable (Stalls path) := inferInstanceAs (Decidable (_ = _ ∧ _ = _))

/-- A path that does not stall is followed to the directory to which it leads. -/
theorem follow?_path (hleads : fs.Leads path base) (hdir : fs.DirectoryAt base)
    (hstalls : ¬ Stalls path) :
    ∃ found, follow? fs (scopeOf path) (partsOf path) = some found ∧ fs.Leads found base := by
  obtain ⟨hempty, hwalk⟩ := hleads
  have hparts : ∀ part ∈ partsOf path, '/' ∉ part :=
    fun part hpart hslash => (Path.of_mem_split hpart _ hslash).2 rfl
  by_cases habs : Path.isAbsolute path = true
  · obtain ⟨c, rest, hcs⟩ := List.exists_cons_of_ne_nil (mt String.toList_eq_nil_iff.1 hempty)
    obtain rfl : c = '/' := (isAbsolute_iff hcs).1 habs
    have hnames : Path.names (partsOf path) = Path.names (Path.split path.toList) := by
      unfold partsOf
      rw [if_pos habs, hcs]
      rfl
    have hscope : scopeOf path = "/" := if_pos habs
    have hstart : fs.startOf path = [] := if_pos habs
    rw [hstart, ← hnames] at hwalk
    rw [hscope]
    have hroot : fs.Leads "/" [] := ⟨by decide, rfl⟩
    exact follow?_leads hroot hparts (fun h => absurd h (by decide)) hwalk hdir
  · have hnames : partsOf path = Path.split path.toList := by
      unfold partsOf
      rw [if_neg habs]
    have hscope : scopeOf path = "." := if_neg habs
    have hstart : fs.startOf path = fs.workingDir := if_neg habs
    rw [hstart, ← hnames] at hwalk
    have hworking : fs.Leads "." fs.workingDir :=
      ⟨by decide, FileSystem.walk_dot (FileSystem.directoryAt_of_walk hwalk hdir) []⟩
    rw [hscope]
    refine follow?_leads hworking hparts (fun _ h => hstalls ⟨?_, ?_⟩) hwalk hdir
    · exact Bool.eq_false_iff.2 habs
    · rw [← hnames]
      exact h

/-- A path that stalls is followed nowhere. -/
theorem follow?_path_stalls (h : Stalls path) :
    follow? fs (scopeOf path) (partsOf path) = none := by
  unfold scopeOf partsOf
  rw [h.1]
  exact follow?_stalls h.2

end Runbook.Glob
