import Runbook.Agent
import Runbook.Proofs.Portion
import Runbook.Proofs.Shell.Quoting

/-!
# Command lines

A line of quoted texts is one command that consists of these texts, whatever they hold.  Only the
first of them can turn it into something else: a reserved word begins another command, and a name
with an equals sign behind it is given a value.

* `Alone` is what makes a line nothing but one simple command, and `Alone.readLine` reads it so;
* `SplitsInto` says into which texts the shell splits a line;
* `quote_splits` is that for lines of quoted texts, the command lines of agents among them.
-/

namespace Runbook.Shell

/-! ## Reading a command -/

section Command

variable {cs : List Char} {simple : Simple}

/-- A simple command that a text begins with and nothing follows is all there is of a line. -/
structure Alone (cs : List Char) (simple : Simple) : Prop where
  /-- Nothing stands before it. -/
  here : skipBlanks cs = cs
  /-- It begins like no other command. -/
  opens : ∃ c more, cs = c :: more ∧ c ∉ ['(', ')', ';', '\n']
  /-- Nor with a word that has a meaning there. -/
  unreserved : reservedWord? cs = none
  /-- It is read up to the end. -/
  read : ∀ nested, readSimple nested (cs.length + 1) ⟨[], [], []⟩ cs = .ok (simple, [])
  /-- Something is read. -/
  nonempty : simple.isEmpty = false

namespace Alone

theorem readCommand (h : Alone cs simple) (nested : Nested) (fuel : Nat) :
    readCommand nested (fuel + 1) cs = .ok (simple.command cs.length, []) := by
  have single : readCompound? nested cs = .ok none := by
    obtain ⟨c, more, rfl, hc⟩ := h.opens
    rw [readCompound?.eq_def]
    split
    · next heq => exact absurd (List.cons.inj heq).1 (by rintro rfl; simp at hc)
    · rw [h.unreserved]
  have unnamed : functionName? simple [] = none := by
    rw [functionName?.eq_def]
    split
    · next heq => cases heq
    · rfl
  rw [Shell.readCommand, h.here, single]
  simp only [bind, Except.bind, h.read nested, unnamed, h.nonempty]
  rfl

theorem readPipeline (h : Alone cs simple) (nested : Nested) :
    readPipeline nested cs = .ok (simple.command cs.length, []) := by
  rw [Shell.readPipeline, h.here, h.unreserved]
  show (Shell.readCommand nested (cs.length + 1) cs >>= _) = _
  rw [h.readCommand nested]
  rfl

theorem readLine (h : Alone cs simple) : readLine cs = .ok (simple.command cs.length, []) := by
  have goes : (endsCommands cs || cs.head? = some '\n') = false := by
    obtain ⟨c, more, rfl, hc⟩ := h.opens
    simp only [List.mem_cons, List.not_mem_nil, or_false, not_or] at hc
    rw [Bool.or_eq_false_iff, endsCommands.eq_def]
    constructor
    · split
      · next heq => cases heq
      · next heq => exact absurd (List.cons.inj heq).1 hc.2.1
      · next heq => exact absurd (List.cons.inj heq).1 hc.2.2.1
      · rw [h.unreserved]
    · simpa using hc.2.2.2
  rw [Shell.readLine, readSequence, if_neg Bool.false_ne_true, h.here]
  simp only [goes, bind, Except.bind, h.readPipeline]
  rfl

end Alone

end Command

/-! ## The first word -/

theorem mem_unquote {word : Word} {c : Char} {quoted : Bool} (h : Part.char c quoted ∈ word) :
    c ∈ (unquote word).1 := by
  induction word with
  | nil => cases h
  | cons part word ih =>
    obtain rfl | later := List.mem_cons.mp h
    · exact List.mem_cons_self
    · cases part <;> simp [unquote, ih later]

/-- A word that spells a text without an equals sign assigns nothing. -/
theorem assignment?_eq_none {word : Word} {text : List Char} (h : Spells word text)
    (hequals : '=' ∉ text) : assignment? word = none := by
  rw [assignment?.eq_def]
  dsimp only
  split
  · next heq =>
    have mem : Part.char '=' false ∈ word :=
      (List.dropWhile_sublist _).subset (heq ▸ List.mem_cons_self)
    exact absurd (h.text_eq ▸ mem_unquote mem) hequals
  · rfl

/-- A quoted text is a reserved word only if the text is one. -/
theorem reservedWord?_quoteChars {text : String} (h : text ∉ reserved) {rest : List Char}
    (hrest : AtGap rest) : reservedWord? (quoteChars text.toList ++ rest) = none := by
  have unreserved : ∀ cs, (plainWord (quoteChars text.toList ++ rest)).1 = cs →
      String.ofList cs ∉ reserved := by
    rintro _ rfl hmem
    obtain ⟨same, hne, hplain⟩ | spliced := quoteChars_cases text.toList
    · have whole : (plainWord (quoteChars text.toList ++ rest)).1 = text.toList := by
        rw [same, plainWord, List.takeWhile_append_of_pos fun c hc => by
          rw [endsWord_eq_false_of_isPlain (hplain c hc)]
          rfl]
        obtain rfl | ⟨more, rfl⟩ := hrest.nil_or_blank <;> simp [endsWord]
      rw [whole, String.ofList_toList] at hmem
      exact h hmem
    · have unquoted : ∀ word ∈ reserved, word.toList.head? ≠ some '\'' := by decide
      refine unquoted _ hmem ?_
      rw [spliced, String.toList_ofList]
      rfl
  rw [reservedWord?]
  simp only [List.contains_eq_mem, decide_eq_false (unreserved _ rfl)]
  rfl

/-- After a first word, every word is one of the command. -/
theorem foldl_add (tokens : List Word) (first : Word) (words : List Word) :
    tokens.foldl Simple.add ⟨[], first :: words, []⟩ =
      ⟨[], tokens.reverse ++ first :: words, []⟩ := by
  induction tokens generalizing first words with
  | nil => rfl
  | cons token tokens ih =>
    rw [List.foldl_cons, List.reverse_cons, List.append_assoc]
    exact ih token (first :: words)

/-- A line of quoted texts is one simple command, unless its first word has a meaning of its own. -/
theorem alone_line {first : String} {texts : List String} {token : Word} {tokens : List Word}
    (hreserved : first ∉ reserved) (hequals : '=' ∉ first.toList)
    (spells : Spells token first.toList)
    (read : ∀ nested before,
      readSimple nested ((" ".intercalate ((first :: texts).map quote)).toList.length + 1) before
        (" ".intercalate ((first :: texts).map quote)).toList =
          .ok ((token :: tokens).foldl Simple.add before, [])) :
    Alone (" ".intercalate ((first :: texts).map quote)).toList
      ⟨[], (token :: tokens).reverse, []⟩ := by
  have begun : Simple.add ⟨[], [], []⟩ token = ⟨[], [token], []⟩ := by
    rw [Simple.add, assignment?_eq_none spells hequals]
  have gathered : (token :: tokens).foldl Simple.add ⟨[], [], []⟩ =
      ⟨[], (token :: tokens).reverse, []⟩ := by
    rw [List.foldl_cons, begun, foldl_add, List.reverse_cons]
  obtain ⟨c, more, same, hc⟩ := quoteChars_starts first.toList
  have apart {d : Char} (hd : isPlain d = false) (hquote : '\'' ≠ d) : c ≠ d :=
    ne_of_starts hc hd hquote
  constructor
  case here => rw [line_cons, skipBlanks_quoteChars]
  case opens =>
    refine ⟨c, more ++ followers texts, by rw [line_cons, same, List.cons_append], ?_⟩
    simp [apart (d := '(') rfl, apart (d := ')') rfl, apart (d := ';') rfl, apart (d := '\n') rfl]
  case unreserved => rw [line_cons, reservedWord?_quoteChars hreserved (atGap_followers texts)]
  case read => exact fun nested => by rw [read, gathered]
  case nonempty => simp [Simple.isEmpty]

/-! ## Lines -/

/-- The shell splits a line into texts: it reads the line as tokens, and the tokens turn into the
texts. -/
structure SplitsInto (line : String) (texts : List String) (tokens : List Word) : Prop where
  /-- Nothing in a token is expanded. -/
  literal : ∀ token ∈ tokens, ∀ part ∈ token, part.isLiteral
  /-- Each token turns into one text, in every state of the shell, and leaves that as it is. -/
  each : List.Forall₂
    (fun token text => ∀ putIn s, expandWord putIn token s = (.ok [text], s)) tokens texts
  /-- The tokens together turn into the texts. -/
  all : ∀ putIn s, expandWords putIn tokens s = (.ok texts, s)
  /-- Whatever a command has begun with, it takes in the tokens up to the end of the line, and
  nothing else. -/
  read : ∀ nested before,
    readSimple nested (line.toList.length + 1) before line.toList =
      .ok (tokens.foldl Simple.add before, [])
  /-- The line is one command with nothing but the tokens, unless it begins with a word that has a
  meaning of its own there. -/
  command : ∀ first ∈ texts.head?, first ∉ reserved → '=' ∉ first.toList →
    readLine line.toList = .ok (.simple line.toList.length [] tokens [], [])

theorem expandWords_of_each {tokens : List Word} {texts : List String}
    (each : List.Forall₂
      (fun token text => ∀ putIn s, expandWord putIn token s = (.ok [text], s)) tokens texts)
    (putIn : PutIn) (s : ShellState) : expandWords putIn tokens s = (.ok texts, s) := by
  induction each with
  | nil => rfl
  | cons first others ih =>
    rw [expandWords, Portion.bind_ok (first putIn s), Portion.bind_ok ih]
    rfl

theorem splitsInto_line (texts : List String) :
    ∃ tokens, SplitsInto (" ".intercalate (texts.map quote)) texts tokens := by
  obtain ⟨tokens, spelled, read⟩ := readSimple_line texts
  obtain ⟨literal, each⟩ := (List.forall₂_and_left tokens texts).mp
    (spelled.imp fun token text spells =>
      show (∀ part ∈ token, part.isLiteral) ∧
          ∀ putIn s, expandWord putIn token s = (.ok [text], s) from
        ⟨spells.literal, fun putIn s => by rw [spells.expands putIn s, String.ofList_toList]⟩)
  refine ⟨tokens, literal, each, expandWords_of_each each, read, ?_⟩
  rintro first hfirst hreserved hequals
  cases spelled with
  | nil => cases hfirst
  | @cons token text tokens texts spells spelled =>
    obtain rfl : text = first := Option.some.inj hfirst
    rw [(alone_line hreserved hequals spells read).readLine, Simple.command, List.reverse_reverse]
    rfl

/-- Quotes keep every text together and keep the shell from seeing anything else in it.  The command
line of an agent is split into the program, what it is permitted, the model and the prompt, whatever
the model and the prompt hold. -/
theorem quote_splits :
    (∀ texts : List String, ∃ tokens,
      SplitsInto (" ".intercalate (texts.map quote)) texts tokens) ∧
    ∀ program model mode prompt, ∃ tokens,
      SplitsInto (Agent.commandLine program model mode prompt)
        ([program] ++ Agent.permissionArguments mode ++ model.elim [] (["--model", ·]) ++ [prompt])
        tokens := by
  refine ⟨splitsInto_line, fun program model mode prompt => ?_⟩
  have words : Agent.words program model mode prompt =
      [program] ++ Agent.permissionArguments mode ++ model.elim [] (["--model", ·]) ++
        [prompt] := by
    cases model <;> rfl
  rw [← words]
  exact splitsInto_line _

theorem quote_splits_prompt : ∃ tokens,
    readLine (Agent.commandLine "claude" (some "opus;reboot") none "it's $(reboot) # > ~").toList =
      .ok (.simple (Agent.commandLine "claude" (some "opus;reboot") none
        "it's $(reboot) # > ~").toList.length [] tokens [], []) ∧
    ∀ putIn s, expandWords putIn tokens s =
      (.ok ["claude", "--model", "opus;reboot", "it's $(reboot) # > ~"], s) := by
  obtain ⟨tokens, h⟩ :=
    quote_splits.2 "claude" (some "opus;reboot") none "it's $(reboot) # > ~"
  exact ⟨tokens, h.command "claude" rfl (by decide) (by decide), h.all⟩

end Runbook.Shell
