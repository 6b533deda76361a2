import Runbook.Proofs.Session.Diary
import Runbook.Session.Tmux

/-!
# Panes left behind

Opening a pane takes two calls: one opens it and prints its name, the other keeps it.  A pane that
was named and not kept is nobody's: the caller gets a fault in place of the name, and no call closes
the pane.

* `Stage.Alike` compares stages in two worlds, and `wait_alike` says that drivers that answer alike
  are waited for alike, if their schedules are alike;
* `Tmux.noting` is the program with its calls written down;
* `Tmux.Opens` says what opening a pane calls, case by case: `Tmux.openPane_noting`;
* `Tmux.Attends` says the same of a session: `Tmux.runInteractive_noting`;
* `Tmux.panes_left` is the result: after an open that failed, and after a session, a pane is left
  behind exactly if it was named and not kept;
* `Tmux.denied` is a program that keeps no pane, and `Tmux.denied_leaves` the pane it leaves behind.
-/

namespace Runbook.Session

variable {V W α : Type}

/-! ## Worlds that are alike -/

section Alike

variable (R : V → W → Prop)

/-- The same came of two operations, and their worlds are related. -/
structure Answer.Alike (a : Answer V α) (b : Answer W α) : Prop where
  /-- The results are the same. -/
  result : a.result = b.result
  /-- The same reports came in. -/
  reports : a.reports = b.reports
  /-- The worlds are related. -/
  world : R a.world b.world

/-- Two stages have the same listener, and their worlds are related. -/
structure Stage.Alike (s : Stage V) (t : Stage W) : Prop where
  /-- The listener is the same. -/
  listener : s.listener = t.listener
  /-- The worlds are related. -/
  world : R s.world t.world

/-- The same came of something done on two stages, which are alike afterwards. -/
def AlikeAfter (x : α × Stage V) (y : α × Stage W) : Prop := x.1 = y.1 ∧ x.2.Alike R y.2

/-- Looking at a pane, two drivers answer alike. -/
structure PaneDriver.LookAlike (d : PaneDriver V) (e : PaneDriver W) (pane : String) : Prop where
  /-- Whether its program runs. -/
  isAlive : ∀ l v w, R v w → (d.isAlive pane l v).Alike R (e.isAlive pane l w)
  /-- Its text. -/
  capture : ∀ l v w, R v w → (d.capture pane l v).Alike R (e.capture pane l w)

variable {R} {S : V → W → Prop} {d : PaneDriver V} {e : PaneDriver W} {pane : String}
  {s : Stage V} {t : Stage W}

theorem Stage.Alike.perform (h : s.Alike R t) {f : Callback.Listener → V → Answer V α}
    {g : Callback.Listener → W → Answer W α} (hfg : ∀ l v w, R v w → (f l v).Alike S (g l w)) :
    AlikeAfter S (s.perform f) (t.perform g) := by
  obtain ⟨l, v⟩ := s
  obtain ⟨_, w⟩ := t
  obtain ⟨rfl, hw⟩ := h
  obtain ⟨hresult, hreports, hworld⟩ := hfg l v w hw
  refine ⟨hresult, ?_, hworld⟩
  show List.foldl _ l (f l v).reports = List.foldl _ l (g l w).reports
  rw [hreports]

theorem Stage.Alike.onListener (h : s.Alike R t) (f : Callback.Listener → Callback.Listener) :
    (s.onListener f).Alike R (t.onListener f) := ⟨congrArg f h.listener, h.world⟩

theorem AlikeAfter.exists_eq {x : α × Stage V} {y : α × Stage W} (h : AlikeAfter R x y) :
    ∃ a s t, x = (a, s) ∧ y = (a, t) ∧ s.Alike R t :=
  ⟨x.1, x.2, y.2, rfl, Prod.ext h.1.symm rfl, h.2⟩

/-- Two schedules are alike in related worlds. -/
structure Schedule.Alike (R : V → W → Prop) (x : Schedule V) (y : Schedule W) : Prop where
  /-- The same reports come in during a pause, which leaves the worlds related. -/
  pause : ∀ l v w, R v w →
    (x.pause l v).1 = (y.pause l w).1 ∧ R (x.pause l v).2 (y.pause l w).2
  /-- A signal is noticed in both or in neither. -/
  notices : ∀ l v w, R v w → x.notices l v = y.notices l w
  /-- A watcher that was called off goes on in both or in neither. -/
  lingers : ∀ l v w, R v w → x.lingers l v = y.lingers l w

theorem noticed?_alike {x : Schedule V} {y : Schedule W} (hx : x.Alike R y) {channel : Nat}
    (h : s.Alike R t) : s.noticed? x channel = t.noticed? y channel := by
  obtain ⟨l, v⟩ := s
  obtain ⟨_, w⟩ := t
  obtain ⟨rfl, hw⟩ := h
  unfold Stage.noticed?
  rw [hx.notices l v w hw]
  rfl

/-- One step of a watcher leaves the worlds related. -/
theorem Patrol.step_alike (hd : d.LookAlike R e pane) {x : Schedule V} {y : Schedule W}
    (hx : x.Alike R y) (pace : Pace) (patrol : Patrol) (h : s.Alike R t) :
    AlikeAfter R (patrol.step d x pace pane s) (patrol.step e y pace pane t) := by
  obtain ⟨errand, watcher, now⟩ := patrol
  cases errand with
  | pause =>
    obtain ⟨l, v⟩ := s
    obtain ⟨_, w⟩ := t
    obtain ⟨rfl, hw⟩ := h
    obtain ⟨hreports, hworld⟩ := hx.pause l v w hw
    refine ⟨rfl, ?_, hworld⟩
    show List.foldl _ l (x.pause l v).1 = List.foldl _ l (y.pause l w).1
    rw [hreports]
  | ask =>
    obtain ⟨lives, s', t', hs, ht, h'⟩ := (h.perform hd.isAlive).exists_eq
    dsimp only [step]
    rw [hs, ht]
    rcases lives with fault | _ | _ <;> exact ⟨rfl, h'⟩
  | read =>
    obtain ⟨text, s', t', hs, ht, h'⟩ := (h.perform hd.capture).exists_eq
    dsimp only [step]
    rw [hs, ht]
    cases text <;> exact ⟨rfl, h'⟩

section Schedules

variable {x : Schedule V} {y : Schedule W} (hd : d.LookAlike R e pane) (hx : x.Alike R y)
  (pace : Pace)
include hd hx

/-- Drivers that answer alike are waited for alike: each step leaves the worlds related. -/
theorem wait_alike {channel : Nat} (fuel : Nat) :
    ∀ (patrol : Patrol) (s : Stage V) (t : Stage W), s.Alike R t →
      AlikeAfter R (wait d x pace pane channel fuel patrol s)
        (wait e y pace pane channel fuel patrol t) := by
  induction fuel with
  | zero =>
    intro patrol s t h
    rw [wait, wait, noticed?_alike hx h]
    cases t.noticed? y channel <;> exact ⟨rfl, h⟩
  | succ fuel ih =>
    intro patrol s t h
    rw [wait, wait, noticed?_alike hx h]
    cases t.noticed? y channel with
    | some signal => exact ⟨rfl, h⟩
    | none =>
      obtain ⟨next, s', t', hs, ht, h'⟩ := (Patrol.step_alike hd hx pace patrol h).exists_eq
      dsimp only
      rw [hs, ht]
      cases next with
      | ok patrol => exact ih patrol s' t' h'
      | error verdict =>
        dsimp only
        rw [noticed?_alike hx h']
        cases t'.noticed? y channel <;> exact ⟨rfl, h'⟩

theorem waitFor_alike (looks : Nat) (h : s.Alike R t) :
    AlikeAfter R (waitFor d x pace looks pane s) (waitFor e y pace looks pane t) := by
  obtain ⟨l, v⟩ := s
  obtain ⟨_, w⟩ := t
  obtain ⟨rfl, hw⟩ := h
  exact wait_alike hd hx pace _ _ _ _ ⟨rfl, hw⟩

theorem lingerOnce_alike (left : Option Patrol) (h : s.Alike R t) :
    AlikeAfter R (lingerOnce d x pace pane left s) (lingerOnce e y pace pane left t) := by
  cases left with
  | none => exact ⟨rfl, h⟩
  | some patrol =>
    have hlingers : x.lingers s.listener s.world = y.lingers t.listener t.world := by
      rw [h.listener]
      exact hx.lingers _ _ _ h.world
    rw [lingerOnce, lingerOnce, hlingers]
    split
    · have hstep := Patrol.step_alike hd hx pace patrol h
      exact ⟨congrArg Except.toOption hstep.1, hstep.2⟩
    · exact ⟨rfl, h⟩

theorem linger_alike (left : Option Patrol) (h : s.Alike R t) :
    AlikeAfter R (linger d x pace pane left s) (linger e y pace pane left t) := by
  obtain ⟨left', s', t', hs, ht, h'⟩ := (lingerOnce_alike hd hx pace left h).exists_eq
  rw [linger, linger, hs, ht]
  exact lingerOnce_alike hd hx pace left' h'

/-- What comes after the wait is alike too; closing the pane may relate the worlds in another way. -/
theorem settle_alike (hd' : d.LookAlike S e pane) (hx' : x.Alike S y)
    (waited : Except Fault Completion) (left : Option Patrol)
    (hclose : ∀ l v w, R v w → (d.closePane pane l v).Alike S (e.closePane pane l w))
    (h : s.Alike R t) :
    AlikeAfter S (settle d x pace pane waited left s) (settle e y pace pane waited left t) := by
  obtain ⟨left₁, s₁, t₁, hs₁, ht₁, h₁⟩ := (linger_alike hd hx pace left h).exists_eq
  have htext : AlikeAfter R (finalText d pane waited s₁) (finalText e pane waited t₁) := by
    cases waited with
    | ok completion => exact h₁.perform hd.capture
    | error fault => exact ⟨rfl, h₁⟩
  obtain ⟨text, s₂, t₂, hs₂, ht₂, h₂⟩ := htext.exists_eq
  obtain ⟨left₃, s₃, t₃, hs₃, ht₃, h₃⟩ := (linger_alike hd hx pace left₁ h₂).exists_eq
  have hunregister : (s₃.unregister pane).Alike R (t₃.unregister pane) := h₃.onListener _
  obtain ⟨left₄, s₄, t₄, hs₄, ht₄, h₄⟩ :=
    (linger_alike hd hx pace left₃ hunregister).exists_eq
  have hlast := linger_alike hd' hx' pace left₄ (h₄.perform hclose).2
  simp only [settle, hs₁, ht₁, hs₂, ht₂, hs₃, ht₃, hs₄, ht₄]
  exact ⟨rfl, hlast.2⟩

end Schedules

end Alike

namespace Tmux

/-! ## Writing calls down -/

/-- A call of the program. -/
structure Call where
  /-- Its arguments. -/
  args : List String
  /-- What came of it. -/
  came : Except Fault String
  deriving DecidableEq

/-- What a call is for. -/
def Call.verb (c : Call) : Option String := c.args.head?

theorem Call.args_ne {c : Call} {args : List String} (h : c.verb ≠ args.head?) : c.args ≠ args :=
  fun heq => h (congrArg List.head? heq)

/-- The program with its calls written down, the first one first. -/
def noting (t : Tmux W) : Tmux (W × List Call) where
  binary := t.binary
  run args v :=
    let (outcome, w) := t.run args v.1
    (outcome, w, v.2 ++ [⟨args, resultOf t.binary args outcome⟩])

variable (t : Tmux W) (request : PaneRequest) (pane : String)

theorem call_noting (args : List String) (w : W) (calls : List Call) :
    t.noting.call args (w, calls) =
      ((t.call args w).1, (t.call args w).2, calls ++ [⟨args, (t.call args w).1⟩]) := rfl

/-- The call opened the pane and printed its name. -/
def Call.Names (c : Call) : Prop :=
  c.verb = some "split-window" ∧
    ∃ printed, c.came = .ok printed ∧ trimmed printed = pane ∧ pane.isEmpty = false

/-- The pane was opened by one of the calls and closed by none. -/
def LeftBehind (calls : List Call) : Prop :=
  (∃ c ∈ calls, c.Names pane) ∧ ∀ c ∈ calls, c.args ≠ closeArguments pane

/-- The pane was opened by one of the calls, and the call that was to keep it failed. -/
def Unkept (calls : List Call) : Prop :=
  (∃ c ∈ calls, c.Names pane) ∧
    ∃ c ∈ calls, c.args = keepArguments pane ∧ ∃ fault, c.came = .error fault

/-! ## Opening a pane -/

/-- What opening a pane is and calls. -/
inductive Opens : Except Fault String → List Call → Prop where
  /-- No pane can be opened. -/
  | refused (fault : Fault) : Opens (.error fault) [⟨openArguments request, .error fault⟩]
  /-- No name was printed. -/
  | nameless {printed : String} (h : (trimmed printed).isEmpty = true) :
    Opens (.error (.broken "tmux returned no pane id")) [⟨openArguments request, .ok printed⟩]
  /-- The pane cannot be kept. -/
  | unkept {printed : String} (h : (trimmed printed).isEmpty = false) (fault : Fault) :
    Opens (.error fault)
      [⟨openArguments request, .ok printed⟩, ⟨keepArguments (trimmed printed), .error fault⟩]
  /-- The pane is kept. -/
  | kept {printed : String} (h : (trimmed printed).isEmpty = false) (said : String) :
    Opens (.ok (trimmed printed))
      [⟨openArguments request, .ok printed⟩, ⟨keepArguments (trimmed printed), .ok said⟩]

variable {t request pane}

theorem openPane_noting (t : Tmux W) (request : PaneRequest) (w : W) (calls : List Call) :
    ∃ new,
    t.noting.openPane request (w, calls) =
        ((t.openPane request w).1, (t.openPane request w).2, calls ++ new) ∧
      Opens request (t.openPane request w).1 new := by
  unfold openPane
  rw [call_noting]
  rcases t.call (openArguments request) w with ⟨fault | printed, w'⟩
  · exact ⟨_, rfl, .refused fault⟩
  · cases hname : (trimmed printed).isEmpty with
    | true =>
      simp only [hname, if_true]
      exact ⟨_, rfl, .nameless hname⟩
    | false =>
      simp only [hname, Bool.false_eq_true, if_false, call_noting, List.append_assoc]
      rcases t.call (keepArguments (trimmed printed)) w' with ⟨fault | said, w''⟩
      · exact ⟨_, rfl, .unkept hname fault⟩
      · exact ⟨_, rfl, .kept hname said⟩

theorem names_opening {printed : String} :
    (Call.mk (openArguments request) (.ok printed)).Names pane ↔
      trimmed printed = pane ∧ pane.isEmpty = false := by
  constructor
  · rintro ⟨-, _, hcame, hname⟩
    cases hcame
    exact hname
  · exact fun hname => ⟨rfl, printed, rfl, hname⟩

/-- Opening a pane is opening one and keeping it. -/
theorem Opens.verb {result : Except Fault String} {calls : List Call}
    (h : Opens request result calls) :
    ∀ c ∈ calls, c.verb = some "split-window" ∨ c.verb = some "set-option" := by
  cases h <;> simp [Call.verb, openArguments, keepArguments]

/-- Opening a pane closes none. -/
theorem Opens.not_closing {result : Except Fault String} {calls : List Call}
    (h : Opens request result calls) : ∀ c ∈ calls, c.args ≠ closeArguments pane := by
  intro c hc
  refine Call.args_ne ?_
  rcases h.verb c hc with hverb | hverb <;> simp [hverb, closeArguments]

theorem Opens.not_unkept {name : String} {calls : List Call}
    (h : Opens request (.ok name) calls) : ¬ Unkept pane calls := by
  rintro ⟨-, c, hc, hargs, fault, hfault⟩
  cases h with
  | kept hname said =>
    rcases List.mem_cons.1 hc with rfl | hc
    · exact Call.args_ne (by simp [Call.verb, openArguments, keepArguments]) hargs
    · cases List.mem_singleton.1 hc
      cases hfault

/-- A pane that is named is the result, unless it is not kept. -/
theorem Opens.names_iff {result : Except Fault String} {calls : List Call}
    (h : Opens request result calls) :
    (∃ c ∈ calls, c.Names pane) ↔ result = .ok pane ∨ Unkept pane calls := by
  have hkeeping {name : String} {came : Except Fault String} :
      ¬ (Call.mk (keepArguments name) came).Names pane := fun h => by
    simpa [Call.verb, keepArguments] using h.1
  refine ⟨?_, ?_⟩
  · rintro ⟨c, hc, hnames⟩
    cases h with
    | refused fault =>
      obtain ⟨-, _, hcame, -⟩ := List.mem_singleton.1 hc ▸ hnames
      cases hcame
    | nameless hnone =>
      obtain ⟨rfl, hname⟩ := names_opening.1 (List.mem_singleton.1 hc ▸ hnames)
      rw [hnone] at hname
      cases hname
    | unkept hname fault =>
      rcases List.mem_cons.1 hc with rfl | hc
      · obtain ⟨rfl, -⟩ := names_opening.1 hnames
        exact .inr ⟨⟨_, List.mem_cons_self, hnames⟩,
          _, List.mem_cons_of_mem _ List.mem_cons_self, rfl, fault, rfl⟩
      · exact absurd (List.mem_singleton.1 hc ▸ hnames) hkeeping
    | kept hname said =>
      rcases List.mem_cons.1 hc with rfl | hc
      · exact .inl (congrArg _ (names_opening.1 hnames).1)
      · exact absurd (List.mem_singleton.1 hc ▸ hnames) hkeeping
  · rintro (hresult | hunkept)
    · cases h with
      | kept hname said =>
        cases hresult
        exact ⟨_, List.mem_cons_self, names_opening.2 ⟨rfl, hname⟩⟩
      | _ => cases hresult
    · exact hunkept.1

theorem Opens.leftBehind_iff {result : Except Fault String} {calls : List Call}
    (h : Opens request result calls) :
    LeftBehind pane calls ↔ result = .ok pane ∨ Unkept pane calls :=
  (and_iff_left h.not_closing).trans h.names_iff

/-! ## Sessions -/

/-- Calls that look at a pane. -/
def Peeks (pane : String) (calls : List Call) : Prop :=
  ∀ c ∈ calls, c.args = lookArguments pane ∨ c.args = captureArguments pane

/-- What a session is and calls. -/
inductive Attends (request : PaneRequest) :
    Option (Except Fault Outcome) → List Call → Prop where
  /-- Its pane cannot be opened. -/
  | refused {fault : Fault} {calls : List Call} (h : Opens request (.error fault) calls) :
    Attends request (some (.error fault)) calls
  /-- It is never over. -/
  | unending {pane : String} {calls peeks : List Call} (h : Opens request (.ok pane) calls)
    (hpeeks : Peeks pane peeks) : Attends request none (calls ++ peeks)
  /-- It is over, and its pane is closed. -/
  | ended {pane : String} {calls peeks late : List Call} (h : Opens request (.ok pane) calls)
    (hpeeks : Peeks pane peeks) (came : Except Fault String) (hlate : Peeks pane late)
    (result : Except Fault Outcome) :
    Attends request (some result) (calls ++ (peeks ++ ⟨closeArguments pane, came⟩ :: late))

/-- Worlds with calls written down, the first of them known, beside worlds without. -/
def Beside (before : List Call) (kind : List Call → Prop) (v : W × List Call) (w : W) : Prop :=
  v.1 = w ∧ ∃ new, kind new ∧ v.2 = before ++ new

theorem Peeks.append {pane : String} {xs ys : List Call} (hx : Peeks pane xs) (hy : Peeks pane ys) :
    Peeks pane (xs ++ ys) := fun c h => (List.mem_append.1 h).elim (hx c) (hy c)

theorem Peeks.verb {peeks : List Call} (h : Peeks pane peeks) :
    ∀ c ∈ peeks, c.verb = some "display-message" ∨ c.verb = some "capture-pane" := fun c hc =>
  (h c hc).imp (congrArg List.head?) (congrArg List.head?)

/-- Calls that look at a pane, with one in between that closes it. -/
def Closes (pane : String) (calls : List Call) : Prop :=
  ∃ peeks came late, Peeks pane peeks ∧ Peeks pane late ∧
    calls = peeks ++ ⟨closeArguments pane, came⟩ :: late

/-- Another look makes no difference to the calls. -/
def GoesOn (pane : String) (kind : List Call → Prop) : Prop :=
  ∀ calls peeks, kind calls → Peeks pane peeks → kind (calls ++ peeks)

theorem goesOn_peeks : GoesOn pane (Peeks pane) := fun _ _ => Peeks.append

theorem goesOn_closes : GoesOn pane (Closes pane) := by
  rintro _ more ⟨peeks, came, late, hpeeks, hlate, rfl⟩ hmore
  exact ⟨peeks, came, late ++ more, hpeeks, hlate.append hmore, by simp⟩

variable {kind : List Call → Prop} {before : List Call}

theorem Beside.peek (hkind : GoesOn pane kind) {v : W × List Call} {w : W} {args : List String}
    (h : Beside before kind v w)
    (hargs : args = lookArguments pane ∨ args = captureArguments pane) :
    Beside before kind (t.noting.call args v).2 (t.call args w).2 := by
  obtain ⟨w, _⟩ := v
  obtain ⟨rfl, new, hnew, rfl⟩ := h
  rw [call_noting]
  let call : Call := ⟨args, (t.call args w).1⟩
  have hcall : Peeks pane [call] := fun c hc => List.mem_singleton.1 hc ▸ hargs
  exact ⟨rfl, new ++ [call], hkind _ _ hnew hcall, List.append_assoc before new _⟩

theorem lookAlike_noting (before : List Call) (hkind : GoesOn pane kind) :
    t.noting.driver.LookAlike (Beside before kind) t.driver pane where
  isAlive := by
    rintro l ⟨w, _⟩ _ h
    obtain rfl := h.1
    exact ⟨rfl, rfl, h.peek hkind (.inl rfl)⟩
  capture := by
    rintro l ⟨w, _⟩ _ h
    obtain rfl := h.1
    exact ⟨rfl, rfl, h.peek hkind (.inr rfl)⟩

/-- The schedule of the world beside which calls are written down. -/
def withCalls (schedule : Schedule W) : Schedule (W × List Call) :=
  schedule.within Prod.fst fun v w => (w, v.2)

theorem alike_withCalls (schedule : Schedule W) (before : List Call) :
    (withCalls schedule).Alike (Beside before kind) schedule where
  pause := by
    rintro l ⟨w, _⟩ _ h
    obtain rfl := h.1
    exact ⟨rfl, rfl, h.2⟩
  notices := by
    rintro l ⟨w, _⟩ _ h
    obtain rfl := h.1
    rfl
  lingers := by
    rintro l ⟨w, _⟩ _ h
    obtain rfl := h.1
    rfl

theorem closePane_noting (before : List Call) (l : Callback.Listener) (v : W × List Call) (w : W)
    (h : Beside before (Peeks pane) v w) :
    (t.noting.driver.closePane pane l v).Alike (Beside before (Closes pane))
      (t.driver.closePane pane l w) := by
  obtain ⟨w, _⟩ := v
  obtain ⟨rfl, new, hnew, rfl⟩ := h
  refine ⟨rfl, rfl, rfl, _, ⟨new, _, [], hnew, ?_, rfl⟩, List.append_assoc before new _⟩
  exact fun _ h => absurd h List.not_mem_nil

/-- A stage with calls written down beside its world. -/
def noted (s : Stage W) (calls : List Call) : Stage (W × List Call) := ⟨s.listener, s.world, calls⟩

theorem exists_noted {kind : List Call → Prop} {before : List Call}
    {x : α × Stage (W × List Call)} {y : α × Stage W} (h : AlikeAfter (Beside before kind) x y) :
    ∃ new, kind new ∧ x = (y.1, noted y.2 (before ++ new)) := by
  obtain ⟨a, ⟨l, ⟨w, calls⟩⟩⟩ := x
  obtain ⟨b, ⟨m, v⟩⟩ := y
  obtain ⟨rfl, ⟨rfl, ⟨rfl, new, hnew, rfl⟩⟩⟩ := h
  exact ⟨new, hnew, rfl⟩

theorem perform_open_noting (t : Tmux W) (request : PaneRequest) (s : Stage W)
    (calls : List Call) : ∃ new,
    (noted s calls).perform (t.noting.driver.openPane request) =
        ((s.perform (t.driver.openPane request)).1,
          noted (s.perform (t.driver.openPane request)).2 (calls ++ new)) ∧
      Opens request (s.perform (t.driver.openPane request)).1 new := by
  obtain ⟨new, hnoting, hopens⟩ := openPane_noting t request s.world calls
  refine ⟨new, ?_, hopens⟩
  exact congrArg (fun x => (x.1, Stage.mk s.listener x.2)) hnoting

/-- A session goes with its calls written down as it goes without. -/
theorem runInteractive_noting (t : Tmux W) (schedule : Schedule W) (pace : Pace) (looks : Nat)
    (command cwd : String) (s : Stage W) : ∃ calls,
    runInteractive t.noting.driver (withCalls schedule) pace looks command cwd (noted s []) =
        ((runInteractive t.driver schedule pace looks command cwd s).1,
          noted (runInteractive t.driver schedule pace looks command cwd s).2 calls) ∧
      Attends ⟨command, cwd, sessionEnv s.listener⟩
        (runInteractive t.driver schedule pace looks command cwd s).1 calls := by
  let request : PaneRequest := ⟨command, cwd, sessionEnv s.listener⟩
  obtain ⟨opening, hnoting, hopens⟩ := perform_open_noting t request s []
  rcases hplain : s.perform (t.driver.openPane request) with ⟨fault | pane, u⟩
  · rw [hplain] at hnoting hopens
    rw [runInteractive_refused hplain]
    exact ⟨opening, runInteractive_refused hnoting, .refused hopens⟩
  · rw [hplain, List.nil_append] at hnoting
    rw [hplain] at hopens
    have hopened : (noted u opening).Alike (Beside opening (Peeks pane)) u :=
      ⟨rfl, rfl, [], fun _ h => absurd h List.not_mem_nil, (List.append_nil opening).symm⟩
    have hlook : t.noting.driver.LookAlike (Beside opening (Peeks pane)) t.driver pane :=
      lookAlike_noting opening goesOn_peeks
    have hlate : t.noting.driver.LookAlike (Beside opening (Closes pane)) t.driver pane :=
      lookAlike_noting opening goesOn_closes
    have hwait : AlikeAfter (Beside opening (Peeks pane))
        (waitFor t.noting.driver (withCalls schedule) pace looks pane (noted u opening))
        (waitFor t.driver schedule pace looks pane u) :=
      waitFor_alike hlook (alike_withCalls schedule opening) pace looks hopened
    obtain ⟨peeks, hpeeks, hnoted⟩ := exists_noted hwait
    rcases hover : waitFor t.driver schedule pace looks pane u with ⟨_ | ⟨waited, left⟩, v⟩
    · rw [hover] at hnoted
      rw [runInteractive_unending hplain hover]
      exact ⟨opening ++ peeks, runInteractive_unending hnoting hnoted, .unending hopens hpeeks⟩
    · rw [hover] at hnoted hwait
      rw [hnoted] at hwait
      have hhung : ((noted v (opening ++ peeks)).hangUp (u.register pane).1).Alike
          (Beside opening (Peeks pane)) (v.hangUp (u.register pane).1) := hwait.2.onListener _
      obtain ⟨rest, ⟨seen, came, after, hseen, hafter, rfl⟩, hsettle⟩ :=
        exists_noted (settle_alike hlook (alike_withCalls schedule opening) pace hlate
          (alike_withCalls schedule opening) waited left (closePane_noting opening) hhung)
      have hended := runInteractive_over hnoting hnoted
      rw [runInteractive_over hplain hover]
      have hregister : ((noted u opening).register pane).1 = (u.register pane).1 := rfl
      refine ⟨_, hended.trans ?_, .ended hopens hseen came hafter _⟩
      rw [hregister, hsettle]

/-- After a session, a pane is left behind exactly if it was not kept. -/
theorem Attends.leftBehind_iff {result : Except Fault Outcome} {calls : List Call}
    (h : Attends request (some result) calls) : LeftBehind pane calls ↔ Unkept pane calls := by
  cases h with
  | refused hopens =>
    rw [hopens.leftBehind_iff]
    exact or_iff_right (fun h => nomatch h)
  | @ended name opening peeks late hopens hpeeks came hlate =>
    -- After the opening no pane is opened or kept, so it alone says what is named and unkept.
    have hrest : ∀ c ∈ peeks ++ ⟨closeArguments name, came⟩ :: late,
        c.verb ≠ some "split-window" ∧ c.verb ≠ some "set-option" := by
      intro c hc
      rcases List.mem_append.1 hc with hc | hc
      · rcases hpeeks.verb c hc with hverb | hverb <;> simp [hverb]
      rcases List.mem_cons.1 hc with rfl | hc
      · simp [Call.verb, closeArguments]
      · rcases hlate.verb c hc with hverb | hverb <;> simp [hverb]
    have hname : (∃ c ∈ opening ++ (peeks ++ ⟨closeArguments name, came⟩ :: late), c.Names pane) →
        name = pane := by
      rintro ⟨c, hc, hnames⟩
      rcases List.mem_append.1 hc with hc | hc
      · rcases hopens.names_iff.1 ⟨c, hc, hnames⟩ with hname | hunkept
        · exact Except.ok.inj hname
        · exact absurd hunkept hopens.not_unkept
      · exact absurd hnames.1 (hrest c hc).1
    refine iff_of_false ?_ ?_
    · rintro ⟨hnames, hleft⟩
      cases hname hnames
      exact hleft _ (List.mem_append_right _ (List.mem_append_right _ List.mem_cons_self)) rfl
    · rintro ⟨hnames, c, hc, hargs, hfault⟩
      cases hname hnames
      rcases List.mem_append.1 hc with hc | hc
      · exact hopens.not_unkept ⟨hopens.names_iff.2 (.inl rfl), c, hc, hargs, hfault⟩
      · exact (hrest c hc).2 (congrArg List.head? hargs)

/-! ## Nothing left behind -/

/-- An open that fails leaves no pane behind: whenever the first call named one, another call is to
close it. -/
def NoneLeft (t : Tmux W) (request : PaneRequest) (w : W) : Prop :=
  let (result, _, calls) := t.noting.openPane request (w, [])
  ∀ fault, result = .error fault → ∀ pane, (∃ c ∈ calls, c.Names pane) →
    ∃ c ∈ calls, c.args = closeArguments pane

theorem noneLeft_iff {w : W} {calls : List Call}
    (hnoting : t.noting.openPane request (w, []) =
      ((t.openPane request w).1, (t.openPane request w).2, calls))
    (hopens : Opens request (t.openPane request w).1 calls) :
    NoneLeft t request w ↔ ∀ pane, ¬ Unkept pane calls := by
  unfold NoneLeft
  rw [hnoting]
  constructor
  · intro hnone pane hunkept
    cases hresult : (t.openPane request w).1 with
    | error fault =>
      obtain ⟨c, hc, hargs⟩ := hnone fault hresult pane hunkept.1
      exact hopens.not_closing c hc hargs
    | ok name =>
      rw [hresult] at hopens
      exact hopens.not_unkept hunkept
  · intro hkept fault hresult pane hnames
    rcases hopens.names_iff.1 hnames with hname | hunkept
    · rw [hresult] at hname
      cases hname
    · exact absurd hunkept (hkept pane)

end Tmux

/-- **A pane that is not kept is left behind.**  Opening a pane calls the program with the arguments
that open one and, if that named a pane, with those that keep it, and no more.  So, whatever the
program does, an open that failed leaves a pane behind exactly if the pane was named and could not be
kept; and after a session that is over a pane is left behind exactly if it was named and could not be
kept, since every other pane is closed. -/
theorem Tmux.panes_left {W : Type} (t : Tmux W) :
    (∀ (request : PaneRequest) (w : W), ∃ calls,
      t.noting.openPane request (w, []) =
          ((t.openPane request w).1, (t.openPane request w).2, calls) ∧
        Opens request (t.openPane request w).1 calls ∧
        (∀ pane, LeftBehind pane calls ↔
          (t.openPane request w).1 = .ok pane ∨ Unkept pane calls) ∧
        (NoneLeft t request w ↔ ∀ pane, ¬ Unkept pane calls)) ∧
    ∀ (schedule : Schedule W) (pace : Pace) (looks : Nat) (command cwd : String) (s : Stage W),
      ∃ calls,
        runInteractive t.noting.driver (withCalls schedule) pace looks command cwd (noted s []) =
          ((runInteractive t.driver schedule pace looks command cwd s).1,
            noted (runInteractive t.driver schedule pace looks command cwd s).2 calls) ∧
        Attends ⟨command, cwd, sessionEnv s.listener⟩
          (runInteractive t.driver schedule pace looks command cwd s).1 calls ∧
        ((runInteractive t.driver schedule pace looks command cwd s).1.isSome →
          ∀ pane, LeftBehind pane calls ↔ Unkept pane calls) := by
  constructor
  · intro request w
    obtain ⟨calls, hnoting, hopens⟩ := openPane_noting t request w []
    rw [List.nil_append] at hnoting
    exact ⟨calls, hnoting, hopens, fun _ => hopens.leftBehind_iff, noneLeft_iff hnoting hopens⟩
  · intro schedule pace looks command cwd s
    obtain ⟨calls, hnoting, hattends⟩ := runInteractive_noting t schedule pace looks command cwd s
    refine ⟨calls, hnoting, hattends, fun hover pane => ?_⟩
    obtain ⟨result, hresult⟩ := Option.isSome_iff_exists.1 hover
    rw [hresult] at hattends
    exact hattends.leftBehind_iff

/-- A program that opens a pane and cannot keep it. -/
def Tmux.denied : Tmux Unit where
  binary := "tmux"
  run args _ :=
    (.ok (if args.head? = some "split-window" then ⟨"%2\n", "", some 0, false⟩
      else ⟨"", "denied\n", some 1, false⟩), ())

/-- The pane `%2` is named, the open fails, and no call closes it. -/
theorem Tmux.denied_leaves : ¬ Tmux.NoneLeft Tmux.denied ⟨"echo hi", "work", []⟩ () := by
  have hnoting : Tmux.denied.noting.openPane ⟨"echo hi", "work", []⟩ ((), []) =
      (.error (.broken "tmux set-option failed: denied"), (),
        [⟨Tmux.openArguments ⟨"echo hi", "work", []⟩, .ok "%2\n"⟩,
          ⟨Tmux.keepArguments "%2", .error (.broken "tmux set-option failed: denied")⟩]) := by
    decide +kernel
  have hname : trimmed "%2\n" = "%2" := by decide +kernel
  intro hnone
  rw [Tmux.NoneLeft, hnoting] at hnone
  obtain ⟨c, hc, hargs⟩ := hnone _ rfl "%2"
    ⟨_, List.mem_cons_self, Tmux.names_opening.2 ⟨hname, rfl⟩⟩
  rcases List.mem_cons.1 hc with rfl | hc
  · exact absurd (congrArg List.head? hargs) (by decide)
  · cases List.mem_singleton.1 hc
    exact absurd (congrArg List.head? hargs) (by decide)

end Runbook.Session
