import Mathlib.Order.Monotone.Basic
import Runbook.Session.Interactive

/-!
# When a watch is over

A pane is polled until the program in it has ended, or cannot be looked for, or cannot be read, or
until the pane has stayed the same for long enough.  This file says at which poll that is.

* `EndsAt` says what ends a watch at a poll, by the polls alone: for a quiet pane by the first poll
  of the run of equal texts, `Run`;
* `Watcher.Seen` is the invariant of the watcher, which knows no more than the last text and the
  time of the first poll of its run;
* `Seen.see_eq_error_iff` and `Seen.next` say what one more poll does to it: it ends the watch
  exactly if `EndsAt` says so, and otherwise the invariant goes on;
* `lookAt` is a look at a pane, the last two steps of three that a watcher takes, and
  `wait_undisturbed` says that waiting for a pane is polling it as long as no signal is noticed;
* `watches_exactly` is the result, by induction on the polls, for polls at any times and for the
  polls that the wait for a pane makes.

A watcher need not keep whole texts.  So the texts are seen through a digest here, which may be any
that tells the texts of the pane from each other.
-/

namespace Runbook.Session

/-! ## Polls -/

/-- What one poll of a pane finds out. -/
structure Poll where
  /-- When it is made. -/
  time : Nat
  /-- Whether the program in the pane still runs. -/
  alive : Except Fault Bool
  /-- The text of the pane, for which a poll asks only if the program runs. -/
  captured : Except Fault String

/-- A poll that finds the program running and the pane with a text. -/
def Poll.Shows (p : Poll) (text : String) : Prop := p.alive = .ok true ∧ p.captured = .ok text

/-- What a poll shows, with the digest of a text in its place. -/
def Poll.look (digest : String → String) (p : Poll) : Look :=
  match p.alive, p.captured with
  | .error fault, _ => .failed fault
  | .ok false, _ => .dead
  | .ok true, .error fault => .failed fault
  | .ok true, .ok text => .text (digest text)

theorem Poll.Shows.unique {p : Poll} {s t : String} (hs : p.Shows s) (ht : p.Shows t) : s = t :=
  Except.ok.inj (hs.2.symm.trans ht.2)

/-- The polls from `first` to `last` are a run: they show the same text, and the one before them
does not. -/
structure Run (polls : Nat → Poll) (first last : Nat) (text : String) : Prop where
  first_le : first ≤ last
  shows : ∀ n, first ≤ n → n ≤ last → (polls n).Shows text
  begins : ∀ n, n + 1 = first → ¬ (polls n).Shows text

/-- A poll ends a watch, with a verdict. -/
inductive EndsAt (quiet : Nat) (polls : Nat → Poll) (n : Nat) : Except Fault Completion → Prop where
  /-- The program cannot be looked for. -/
  | unknown {fault : Fault} (h : (polls n).alive = .error fault) :
    EndsAt quiet polls n (.error fault)
  /-- The program has ended. -/
  | exited (h : (polls n).alive = .ok false) : EndsAt quiet polls n (.ok .exited)
  /-- The pane cannot be read. -/
  | unreadable {fault : Fault} (halive : (polls n).alive = .ok true)
    (h : (polls n).captured = .error fault) : EndsAt quiet polls n (.error fault)
  /-- The text is that of the poll before, and its run began long enough ago. -/
  | idle {first : Nat} {text : String} (run : Run polls first n text) (hlt : first < n)
    (hquiet : (polls first).time + quiet ≤ (polls n).time) : EndsAt quiet polls n (.ok .idle)

/-- A poll is the first to end a watch. -/
def EndsFirst (quiet : Nat) (polls : Nat → Poll) (n : Nat) (verdict : Except Fault Completion) :
    Prop :=
  EndsAt quiet polls n verdict ∧ ∀ m < n, ∀ other, ¬ EndsAt quiet polls m other

/-- No two different texts that are shown have the same digest. -/
def Tells (digest : String → String) (polls : Nat → Poll) : Prop :=
  ∀ m n s t, (polls m).Shows s → (polls n).Shows t → digest s = digest t → s = t

section Watcher

variable {digest : String → String} {quiet start : Nat} {polls : Nat → Poll}

/-! ## Runs -/

theorem Run.single {n : Nat} {text : String} (hshows : (polls n).Shows text)
    (hbefore : ∀ m, m + 1 = n → ¬ (polls m).Shows text) : Run polls n n text where
  first_le := le_rfl
  shows m hge hle := by
    obtain rfl : m = n := Nat.le_antisymm hle hge
    exact hshows
  begins := hbefore

/-- A run goes on as long as the text stays the same. -/
theorem Run.extend {first n : Nat} {text : String} (h : Run polls first n text)
    (hshows : (polls (n + 1)).Shows text) : Run polls first (n + 1) text where
  first_le := Nat.le_succ_of_le h.first_le
  shows m hge hle := by
    rcases Nat.le_succ_iff.1 hle with hle | rfl
    · exact h.shows m hge hle
    · exact hshows
  begins := h.begins

theorem Run.last_shows {first n : Nat} {text : String} (h : Run polls first n text) :
    (polls n).Shows text :=
  h.shows n h.first_le le_rfl

/-- Of two runs up to the same poll neither begins before the other. -/
theorem Run.not_lt {first first' n n' : Nat} {text : String} (h : Run polls first n text)
    (h' : Run polls first' n' text) (hn : first' ≤ n + 1) : ¬ first < first' := by
  intro hlt
  obtain ⟨m, rfl⟩ : ∃ m, first' = m + 1 := ⟨first' - 1, by omega⟩
  refine h'.begins m rfl (h.shows m ?_ ?_)
  · omega
  · omega

/-! ## Polls that show no text -/

theorem endsAt_of_unknown {n : Nat} {fault : Fault} (h : (polls n).alive = .error fault)
    (verdict : Except Fault Completion) :
    EndsAt quiet polls n verdict ↔ verdict = .error fault := by
  constructor
  · intro hends
    cases hends with
    | unknown h' => rw [h] at h'; cases h'; rfl
    | exited h' => rw [h] at h'; cases h'
    | unreadable h' _ => rw [h] at h'; cases h'
    | idle run _ _ => have h' := run.last_shows.1; rw [h] at h'; cases h'
  · rintro rfl
    exact .unknown h

theorem endsAt_of_dead {n : Nat} (h : (polls n).alive = .ok false)
    (verdict : Except Fault Completion) :
    EndsAt quiet polls n verdict ↔ verdict = .ok .exited := by
  constructor
  · intro hends
    cases hends with
    | unknown h' => rw [h] at h'; cases h'
    | exited _ => rfl
    | unreadable h' _ => rw [h] at h'; cases h'
    | idle run _ _ => have h' := run.last_shows.1; rw [h] at h'; cases h'
  · rintro rfl
    exact .exited h

theorem endsAt_of_unreadable {n : Nat} {fault : Fault} (halive : (polls n).alive = .ok true)
    (h : (polls n).captured = .error fault) (verdict : Except Fault Completion) :
    EndsAt quiet polls n verdict ↔ verdict = .error fault := by
  constructor
  · intro hends
    cases hends with
    | unknown h' => rw [halive] at h'; cases h'
    | exited h' => rw [halive] at h'; cases h'
    | unreadable _ h' => rw [h] at h'; cases h'; rfl
    | idle run _ _ => have h' := run.last_shows.2; rw [h] at h'; cases h'
  · rintro rfl
    exact .unreadable halive h

/-! ## What the watcher knows -/

/-- What the watcher knows before the `n`-th poll: nothing, or the digest of the last text and when
its run began. -/
inductive Watcher.Seen (digest : String → String) (polls : Nat → Poll) (start : Nat) :
    Nat → Watcher → Prop where
  /-- Before the first poll. -/
  | nothing : Seen digest polls start 0 (.start start)
  /-- After a poll that a run leads to. -/
  | run {first n : Nat} {text : String} (h : Run polls first n text) :
    Seen digest polls start (n + 1) ⟨some (digest text), (polls first).time⟩

/-- The watcher takes a text for that of the poll before exactly if it is. -/
theorem Watcher.Seen.last_eq_iff {n : Nat} {w : Watcher} {text : String}
    (h : w.Seen digest polls start n) (hdigest : Tells digest polls)
    (hshows : (polls n).Shows text) :
    w.last = some (digest text) ↔
      ∃ first m, n = m + 1 ∧ Run polls first m text ∧ w.since = (polls first).time := by
  cases h with
  | nothing =>
    constructor
    · intro hlast
      cases hlast
    · rintro ⟨_, m, hm, -⟩
      omega
  | @run first m last hrun =>
    constructor
    · intro hlast
      have hsame : last = text := hdigest m (m + 1) last text hrun.last_shows hshows
        (Option.some.inj hlast)
      subst hsame
      exact ⟨first, m, rfl, hrun, rfl⟩
    · rintro ⟨_, m', hm, hrun', -⟩
      obtain rfl : m = m' := Nat.succ.inj hm
      rw [hrun.last_shows.unique hrun'.last_shows]

/-- A text ends a watch exactly if it is that of the poll before, and the watcher has known it for
long enough. -/
theorem Watcher.Seen.endsAt_iff {n : Nat} {w : Watcher} {text : String}
    (h : w.Seen digest polls start n) (hdigest : Tells digest polls)
    (htimes : Monotone fun n => (polls n).time) (hshows : (polls n).Shows text)
    (verdict : Except Fault Completion) :
    EndsAt quiet polls n verdict ↔
      verdict = .ok .idle ∧ w.last = some (digest text) ∧ quiet ≤ (polls n).time - w.since := by
  obtain ⟨halive, hcaptured⟩ := hshows
  constructor
  · intro hends
    cases hends with
    | unknown hfault => rw [halive] at hfault; cases hfault
    | exited hdead => rw [halive] at hdead; cases hdead
    | unreadable _ hfault => rw [hcaptured] at hfault; cases hfault
    | @idle first text' hrun hlt hquiet =>
      obtain rfl : text' = text := hrun.last_shows.unique ⟨halive, hcaptured⟩
      cases h with
      | nothing => omega
      | @run first' m last hlast =>
        -- both runs lead to the poll before, so they are the same
        have hm : (polls m).Shows text' := hrun.shows m (by omega) (by omega)
        obtain rfl : last = text' := hlast.last_shows.unique hm
        have hfirst : first = first' := by
          have hle := hlast.first_le
          have hge := hrun.not_lt hlast (by omega)
          have hge' := hlast.not_lt hrun (by omega)
          omega
        subst hfirst
        refine ⟨rfl, rfl, ?_⟩
        show quiet ≤ (polls (m + 1)).time - (polls first).time
        omega
  · rintro ⟨rfl, hlast, hquiet⟩
    obtain ⟨first, m, rfl, hrun, hsince⟩ :=
      (h.last_eq_iff hdigest ⟨halive, hcaptured⟩).1 hlast
    have hle := hrun.first_le
    have htime : (polls first).time ≤ (polls (m + 1)).time := htimes (by omega)
    exact .idle (hrun.extend ⟨halive, hcaptured⟩) (by omega) (by omega)

/-- **One more poll** ends the watch exactly if it is one that does. -/
theorem Watcher.Seen.see_eq_error_iff {n : Nat} {w : Watcher}
    (h : w.Seen digest polls start n) (hdigest : Tells digest polls)
    (htimes : Monotone fun n => (polls n).time) (verdict : Except Fault Completion) :
    w.see quiet (polls n).time ((polls n).look digest) = .error verdict ↔
      EndsAt quiet polls n verdict := by
  cases halive : (polls n).alive with
  | error fault =>
    rw [endsAt_of_unknown halive]
    simp [Poll.look, halive, see, eq_comm]
  | ok alive =>
    cases alive with
    | false =>
      rw [endsAt_of_dead halive]
      simp [Poll.look, halive, see, eq_comm]
    | true =>
      cases hcaptured : (polls n).captured with
      | error fault =>
        rw [endsAt_of_unreadable halive hcaptured]
        simp [Poll.look, halive, hcaptured, see, eq_comm]
      | ok text =>
        rw [h.endsAt_iff hdigest htimes ⟨halive, hcaptured⟩]
        simp only [Poll.look, halive, hcaptured, see]
        by_cases hlast : w.last = some (digest text)
        · by_cases hquiet : quiet ≤ (polls n).time - w.since
          · simp [hlast, hquiet, eq_comm]
          · simp [hlast, hquiet]
        · simp [hlast]

/-- Or it leaves the watcher with what the polls up to it show. -/
theorem Watcher.Seen.next {n : Nat} {w w' : Watcher} (h : w.Seen digest polls start n)
    (hdigest : Tells digest polls)
    (hsee : w.see quiet (polls n).time ((polls n).look digest) = .ok w') :
    w'.Seen digest polls start (n + 1) := by
  cases halive : (polls n).alive with
  | error fault => simp [Poll.look, halive, see] at hsee
  | ok alive =>
    cases alive with
    | false => simp [Poll.look, halive, see] at hsee
    | true =>
      cases hcaptured : (polls n).captured with
      | error fault => simp [Poll.look, halive, hcaptured, see] at hsee
      | ok text =>
        have hshows : (polls n).Shows text := ⟨halive, hcaptured⟩
        simp only [Poll.look, halive, hcaptured, see] at hsee
        by_cases hlast : w.last = some (digest text)
        · obtain ⟨first, m, rfl, hrun, hsince⟩ := (h.last_eq_iff hdigest hshows).1 hlast
          rw [if_pos hlast] at hsee
          split at hsee
          · cases hsee
          · obtain rfl : w = w' := Except.ok.inj hsee
            obtain ⟨last, since⟩ := w
            obtain rfl : last = some (digest text) := hlast
            obtain rfl : since = (polls first).time := hsince
            exact .run (hrun.extend hshows)
        · rw [if_neg hlast] at hsee
          obtain rfl := Except.ok.inj hsee
          refine .run (.single hshows fun m hm hbefore => hlast ?_)
          -- the poll before would be the last of a run of the same text
          cases h with
          | nothing => omega
          | @run first m' last hrun =>
            obtain rfl : m = m' := Nat.succ.inj hm
            rw [hrun.last_shows.unique hbefore]

theorem Watcher.Seen.see_of_no_end {n : Nat} {w : Watcher} (h : w.Seen digest polls start n)
    (hdigest : Tells digest polls) (htimes : Monotone fun n => (polls n).time)
    (hnone : ∀ verdict, ¬ EndsAt quiet polls n verdict) :
    ∃ w', w.see quiet (polls n).time ((polls n).look digest) = .ok w' ∧
      w'.Seen digest polls start (n + 1) := by
  cases hsee : w.see quiet (polls n).time ((polls n).look digest) with
  | error verdict =>
    exact (hnone verdict ((h.see_eq_error_iff hdigest htimes verdict).1 hsee)).elim
  | ok w' => exact ⟨w', rfl, h.next hdigest hsee⟩

/-- On the way to the first poll that ends the watch. -/
theorem Watcher.Seen.see_of_le {i n : Nat} {w : Watcher} {verdict : Except Fault Completion}
    (h : w.Seen digest polls start i) (hdigest : Tells digest polls)
    (htimes : Monotone fun n => (polls n).time) (hends : EndsFirst quiet polls n verdict)
    (hle : i ≤ n) :
    (i = n ∧ w.see quiet (polls i).time ((polls i).look digest) = .error verdict) ∨
      (i < n ∧ ∃ w', w.see quiet (polls i).time ((polls i).look digest) = .ok w' ∧
        w'.Seen digest polls start (i + 1)) := by
  rcases Nat.lt_or_eq_of_le hle with hlt | rfl
  · exact .inr ⟨hlt, h.see_of_no_end hdigest htimes (hends.2 i hlt)⟩
  · exact .inl ⟨rfl, (h.see_eq_error_iff hdigest htimes verdict).2 hends.1⟩

/-- Among the polls that end a watch there is a first one. -/
theorem exists_endsFirst {n : Nat} {verdict : Except Fault Completion}
    (h : EndsAt quiet polls n verdict) : ∃ m ≤ n, ∃ verdict, EndsFirst quiet polls m verdict := by
  induction n using Nat.strong_induction_on generalizing verdict with
  | _ n ih =>
    by_cases hbefore : ∃ m < n, ∃ other, EndsAt quiet polls m other
    · obtain ⟨m, hlt, other, hother⟩ := hbefore
      obtain ⟨k, hle, first, hfirst⟩ := ih m hlt hother
      exact ⟨k, by omega, first, hfirst⟩
    · refine ⟨n, le_rfl, verdict, h, fun m hlt other hother => hbefore ⟨m, hlt, other, hother⟩⟩

/-! ## Polls at any times -/

/-- What a watcher sees in polls from the `i`-th on. -/
def looks (digest : String → String) (polls : Nat → Poll) (i count : Nat) : List (Nat × Look) :=
  (List.range' i count).map fun n => ((polls n).time, (polls n).look digest)

theorem looks_succ (i count : Nat) :
    looks digest polls i (count + 1) =
      ((polls i).time, (polls i).look digest) :: looks digest polls (i + 1) count := rfl

theorem watch_of_ends {n : Nat} {verdict : Except Fault Completion} (hdigest : Tells digest polls)
    (htimes : Monotone fun n => (polls n).time) (hends : EndsFirst quiet polls n verdict)
    (count : Nat) :
    ∀ {i : Nat} {w : Watcher}, w.Seen digest polls start i → i ≤ n → n < i + count →
      watch quiet w (looks digest polls i count) = some verdict := by
  induction count with
  | zero => intro i w _ hle hlt; omega
  | succ count ih =>
    intro i w hw hle hlt
    rw [looks_succ, watch]
    rcases hw.see_of_le hdigest htimes hends hle with ⟨-, hsee⟩ | ⟨hbefore, w', hsee, hw'⟩
    · rw [hsee]
    · rw [hsee]
      exact ih hw' (by omega) (by omega)

theorem watch_of_no_end (hdigest : Tells digest polls)
    (htimes : Monotone fun n => (polls n).time) (count : Nat) :
    ∀ {i : Nat} {w : Watcher}, w.Seen digest polls start i →
      (∀ n, i ≤ n → n < i + count → ∀ verdict, ¬ EndsAt quiet polls n verdict) →
      watch quiet w (looks digest polls i count) = none := by
  induction count with
  | zero => intro i w _ _; rfl
  | succ count ih =>
    intro i w hw hnone
    obtain ⟨w', hsee, hw'⟩ :=
      hw.see_of_no_end hdigest htimes (hnone i le_rfl (by omega))
    rw [looks_succ, watch, hsee]
    refine ih hw' fun n hle hlt => hnone n ?_ ?_
    · omega
    · omega

/-- Polls at any times end a watch exactly if one of them does. -/
theorem watch_looks_iff (hdigest : Tells digest polls)
    (htimes : Monotone fun n => (polls n).time) (count : Nat) :
    (∀ verdict, watch quiet (.start start) (looks digest polls 0 count) = some verdict ↔
      ∃ n < count, EndsFirst quiet polls n verdict) ∧
    (watch quiet (.start start) (looks digest polls 0 count) = none ↔
      ∀ n < count, ∀ verdict, ¬ EndsAt quiet polls n verdict) := by
  have hends : ∀ n verdict, n < count → EndsFirst quiet polls n verdict →
      watch quiet (.start start) (looks digest polls 0 count) = some verdict := by
    intro n verdict hlt hfirst
    exact watch_of_ends hdigest htimes hfirst count .nothing (Nat.zero_le n) (by omega)
  by_cases hsome : ∃ n < count, ∃ verdict, EndsAt quiet polls n verdict
  · obtain ⟨n, hlt, verdict, hat⟩ := hsome
    obtain ⟨m, hle, first, hfirst⟩ := exists_endsFirst hat
    have hwatch := hends m first (by omega) hfirst
    constructor
    · intro other
      constructor
      · intro hother
        rw [hwatch, Option.some.injEq] at hother
        exact ⟨m, by omega, hother ▸ hfirst⟩
      · rintro ⟨k, hk, hother⟩
        exact hends k other hk hother
    · constructor
      · intro hnone
        rw [hwatch] at hnone
        cases hnone
      · intro hnone
        exact (hnone n hlt verdict hat).elim
  · have hnone : ∀ n < count, ∀ verdict, ¬ EndsAt quiet polls n verdict :=
      fun n hlt verdict hat => hsome ⟨n, hlt, verdict, hat⟩
    have hwatch : watch quiet (.start start) (looks digest polls 0 count) = none :=
      watch_of_no_end hdigest htimes count .nothing fun n _ hlt => hnone n (by omega)
    refine ⟨fun verdict => ?_, fun _ => hnone, fun _ => hwatch⟩
    constructor
    · intro hverdict
      rw [hwatch] at hverdict
      cases hverdict
    · rintro ⟨n, hlt, hfirst⟩
      exact (hnone n hlt verdict hfirst.1).elim

end Watcher

/-! ## The polls of a session -/

section Wait

variable {W : Type} (driver : PaneDriver W) (schedule : Schedule W) (pane : String)
  (digest : String → String)

/-- A driver whose panes are read as digests. -/
def PaneDriver.digested : PaneDriver W where
  openPane := driver.openPane
  capture pane l w :=
    let answer := driver.capture pane l w
    ⟨answer.result.map digest, answer.reports, answer.world⟩
  isAlive := driver.isAlive
  closePane := driver.closePane

/-- Looks at a pane once. -/
def lookAt (s : Stage W) : Look × Stage W :=
  match s.perform (driver.isAlive pane) with
  | (.error fault, s) => (.failed fault, s)
  | (.ok false, s) => (.dead, s)
  | (.ok true, s) =>
    match s.perform (driver.capture pane) with
    | (.error fault, s) => (.failed fault, s)
    | (.ok text, s) => (.text text, s)

/-- The stage after some looks at a pane, with a pause before each. -/
def stageAt (s : Stage W) : Nat → Stage W
  | 0 => s
  | n + 1 => (lookAt driver pane ((stageAt s n).pause schedule)).2

/-- The poll of a pane after some looks at it, `pause` after the one before. -/
def pollAt (pause now : Nat) (s : Stage W) (n : Nat) : Poll :=
  let asked := ((stageAt driver schedule pane s n).pause schedule).perform (driver.isAlive pane)
  ⟨now + pause * (n + 1), asked.1, (asked.2.perform (driver.capture pane)).1⟩

/-- No signal is noticed from the pause before a look to its end. -/
structure Undisturbed (channel : Nat) (s : Stage W) : Prop where
  /-- None is after the pause. -/
  paused : (s.pause schedule).noticed? schedule channel = none
  /-- None is when it is known whether the program runs. -/
  asked : ((s.pause schedule).perform (driver.isAlive pane)).2.noticed? schedule channel = none
  /-- None is at the end. -/
  looked : (lookAt driver pane (s.pause schedule)).2.noticed? schedule channel = none

variable {driver schedule pane digest} {pause now : Nat} {s : Stage W}

/-- A text is a digest of itself. -/
theorem digested_id : driver.digested id = driver := by
  obtain ⟨openPane, capture, isAlive, closePane⟩ := driver
  simp only [PaneDriver.digested, PaneDriver.mk.injEq, true_and, and_true]
  funext pane l w
  rw [Except.map_id]
  rfl

theorem perform_capture_digested (t : Stage W) :
    t.perform ((driver.digested digest).capture pane) =
      ((t.perform (driver.capture pane)).1.map digest, (t.perform (driver.capture pane)).2) := rfl

theorem monotone_pollAt : Monotone fun n => (pollAt driver schedule pane pause now s n).time := by
  intro m n hle
  have htimes : pause * (m + 1) ≤ pause * (n + 1) := Nat.mul_le_mul_left pause (by omega)
  exact Nat.add_le_add_left htimes now

variable {start quiet channel : Nat}

section Steps

variable {pace : Pace} {fuel : Nat} {patrol next : Patrol} {t : Stage W}
  (hs : s.noticed? schedule channel = none)
include hs

theorem wait_next (hstep : patrol.step driver schedule pace pane s = (.ok next, t)) :
    wait driver schedule pace pane channel (fuel + 1) patrol s =
      wait driver schedule pace pane channel fuel next t := by
  rw [wait, hs]
  dsimp only
  rw [hstep]

theorem wait_verdict {verdict : Except Fault Completion}
    (hstep : patrol.step driver schedule pace pane s = (.error verdict, t))
    (ht : t.noticed? schedule channel = none) :
    wait driver schedule pace pane channel (fuel + 1) patrol s = (some (verdict, none), t) := by
  rw [wait, hs]
  dsimp only
  rw [hstep]
  dsimp only
  rw [ht]

end Steps

/-- A look at which no signal is noticed takes three steps, or two that end in a verdict. -/
theorem wait_look {pace : Pace} {fuel : Nat} {w : Watcher}
    (hs : s.noticed? schedule channel = none) (h : Undisturbed driver schedule pane channel s) :
    wait driver schedule pace pane channel (fuel + 3) ⟨.pause, w, now⟩ s =
      match w.see pace.quiet (now + pace.poll) (lookAt driver pane (s.pause schedule)).1 with
      | .error verdict => (some (verdict, none), (lookAt driver pane (s.pause schedule)).2)
      | .ok w' => wait driver schedule pace pane channel fuel ⟨.pause, w', now + pace.poll⟩
          (lookAt driver pane (s.pause schedule)).2 := by
  obtain ⟨hpaused, hasked, hlooked⟩ := h
  have hpause : Patrol.step driver schedule pace pane ⟨.pause, w, now⟩ s =
    (.ok ⟨.ask, w, now + pace.poll⟩, s.pause schedule) := rfl
  rw [wait_next hs hpause]
  generalize s.pause schedule = t at hpaused hasked hlooked
  unfold lookAt at hlooked ⊢
  rcases hask : t.perform (driver.isAlive pane) with ⟨fault | _ | _, u⟩ <;>
    rw [hask] at hasked hlooked
  · have hstep : Patrol.step driver schedule pace pane ⟨.ask, w, now + pace.poll⟩ t =
        (.error (.error fault), u) := by
      rw [Patrol.step, hask]
      rfl
    exact wait_verdict hpaused hstep hasked
  · have hstep : Patrol.step driver schedule pace pane ⟨.ask, w, now + pace.poll⟩ t =
        (.error (.ok .exited), u) := by
      rw [Patrol.step, hask]
      rfl
    exact wait_verdict hpaused hstep hasked
  · have hstep : Patrol.step driver schedule pace pane ⟨.ask, w, now + pace.poll⟩ t =
        (.ok ⟨.read, w, now + pace.poll⟩, u) := by
      rw [Patrol.step, hask]
    rw [wait_next hpaused hstep]
    dsimp only at hlooked ⊢
    rcases hread : u.perform (driver.capture pane) with ⟨fault | text, v⟩ <;>
      rw [hread] at hlooked
    · have hstep : Patrol.step driver schedule pace pane ⟨.read, w, now + pace.poll⟩ u =
          (.error (.error fault), v) := by
        rw [Patrol.step, hread]
        rfl
      exact wait_verdict hasked hstep hlooked
    · have hstep : Patrol.step driver schedule pace pane ⟨.read, w, now + pace.poll⟩ u =
          ((w.see pace.quiet (now + pace.poll) (.text text)).map
            fun w' => ⟨.pause, w', now + pace.poll⟩, v) := by
        rw [Patrol.step, hread]
        rfl
      dsimp only
      cases hsee : w.see pace.quiet (now + pace.poll) (.text text) with
      | error verdict =>
        rw [hsee] at hstep
        exact wait_verdict hasked hstep hlooked
      | ok w' =>
        rw [hsee] at hstep
        exact wait_next hasked hstep

/-- Looking at a pane is polling it. -/
theorem lookAt_digested (pause now n : Nat) :
    lookAt (driver.digested digest) pane ((stageAt driver schedule pane s n).pause schedule) =
      ((pollAt driver schedule pane pause now s n).look digest,
        stageAt driver schedule pane s (n + 1)) := by
  generalize ht : (stageAt driver schedule pane s n).pause schedule = t
  have hasked : t.perform ((driver.digested digest).isAlive pane) =
    t.perform (driver.isAlive pane) := rfl
  rw [stageAt, lookAt, lookAt, hasked]
  simp only [pollAt, Poll.look, ht]
  rcases t.perform (driver.isAlive pane) with ⟨fault | _ | _, t⟩
  · rfl
  · rfl
  · simp only [perform_capture_digested]
    rcases t.perform (driver.capture pane) with ⟨fault | text, u⟩ <;> rfl

/-- The wait for a pane takes in one poll after another, as long as no signal is noticed. -/
theorem wait_undisturbed {looks n : Nat} {w : Watcher}
    (hs : (stageAt driver schedule pane s n).noticed? schedule channel = none)
    (h : Undisturbed driver schedule pane channel (stageAt driver schedule pane s n)) :
    wait (driver.digested digest) schedule ⟨pause, quiet⟩ pane channel (3 * (looks + 1))
        ⟨.pause, w, now + pause * n⟩ (stageAt driver schedule pane s n) =
      match w.see quiet (pollAt driver schedule pane pause now s n).time
        ((pollAt driver schedule pane pause now s n).look digest) with
      | .error verdict => (some (verdict, none), stageAt driver schedule pane s (n + 1))
      | .ok w' => wait (driver.digested digest) schedule ⟨pause, quiet⟩ pane channel (3 * looks)
          ⟨.pause, w', now + pause * (n + 1)⟩ (stageAt driver schedule pane s (n + 1)) := by
  have htime : now + pause * n + pause = now + pause * (n + 1) := by
    rw [Nat.mul_succ, Nat.add_assoc]
  have hlook : lookAt (driver.digested digest) pane
      ((stageAt driver schedule pane s n).pause schedule) =
        ((pollAt driver schedule pane pause now s n).look digest,
          stageAt driver schedule pane s (n + 1)) := lookAt_digested pause now n
  have hdigested : Undisturbed (driver.digested digest) schedule pane channel
      (stageAt driver schedule pane s n) :=
    ⟨h.paused, h.asked, (congrArg (·.2.noticed? schedule channel) hlook).trans h.looked⟩
  rw [show 3 * (looks + 1) = 3 * looks + 3 from rfl, wait_look hs hdigested, hlook, htime]
  rfl

/-- As long as no signal is noticed during looks, none is between them. -/
theorem noticed?_stageAt (hs : s.noticed? schedule channel = none) {n : Nat}
    (h : ∀ m < n, Undisturbed driver schedule pane channel (stageAt driver schedule pane s m)) :
    (stageAt driver schedule pane s n).noticed? schedule channel = none := by
  cases n with
  | zero => exact hs
  | succ n => exact (h n (Nat.lt_succ_self n)).looked

theorem wait_of_ends {n : Nat} {verdict : Except Fault Completion}
    (hdigest : Tells digest (pollAt driver schedule pane pause now s))
    (hends : EndsFirst quiet (pollAt driver schedule pane pause now s) n verdict)
    (hs : s.noticed? schedule channel = none)
    (hquiet : ∀ m ≤ n,
      Undisturbed driver schedule pane channel (stageAt driver schedule pane s m)) (looks : Nat) :
    ∀ {i : Nat} {w : Watcher}, w.Seen digest (pollAt driver schedule pane pause now s) start i →
      i ≤ n → n < i + looks →
      wait (driver.digested digest) schedule ⟨pause, quiet⟩ pane channel (3 * looks)
        ⟨.pause, w, now + pause * i⟩ (stageAt driver schedule pane s i) =
          (some (verdict, none), stageAt driver schedule pane s (n + 1)) := by
  induction looks with
  | zero => intro i w _ hle hlt; omega
  | succ looks ih =>
    intro i w hw hle hlt
    rw [wait_undisturbed (noticed?_stageAt hs fun m hm => hquiet m (by omega)) (hquiet i hle)]
    rcases hw.see_of_le hdigest monotone_pollAt hends hle with
      ⟨rfl, hsee⟩ | ⟨hbefore, w', hsee, hw'⟩
    · rw [hsee]
    · rw [hsee]
      exact ih hw' (by omega) (by omega)

theorem wait_of_no_end (hdigest : Tells digest (pollAt driver schedule pane pause now s))
    (hs : s.noticed? schedule channel = none) (looks : Nat) :
    ∀ {i : Nat} {w : Watcher}, w.Seen digest (pollAt driver schedule pane pause now s) start i →
      (∀ n, i ≤ n → n < i + looks →
        ∀ verdict, ¬ EndsAt quiet (pollAt driver schedule pane pause now s) n verdict) →
      (∀ n < i + looks,
        Undisturbed driver schedule pane channel (stageAt driver schedule pane s n)) →
      wait (driver.digested digest) schedule ⟨pause, quiet⟩ pane channel (3 * looks)
        ⟨.pause, w, now + pause * i⟩ (stageAt driver schedule pane s i) =
          (none, stageAt driver schedule pane s (i + looks)) := by
  induction looks with
  | zero =>
    intro i w _ _ hquiet
    have hnone : (stageAt driver schedule pane s i).noticed? schedule channel = none :=
      noticed?_stageAt hs hquiet
    rw [Nat.mul_zero, wait, hnone]
    rfl
  | succ looks ih =>
    intro i w hw hnone hquiet
    obtain ⟨w', hsee, hw'⟩ :=
      hw.see_of_no_end hdigest monotone_pollAt (hnone i le_rfl (by omega))
    rw [wait_undisturbed (noticed?_stageAt hs fun m hm => hquiet m (by omega))
      (hquiet i (by omega)), hsee]
    have hrest := ih hw' (fun n hle hlt => hnone n (by omega) (by omega))
      (fun n hlt => hquiet n (by omega))
    have hcount : i + 1 + looks = i + (looks + 1) := by omega
    rw [hcount] at hrest
    exact hrest

end Wait

/-- **A watch is over at the first poll that ends it**, with the verdict of that poll, and goes on
as long as none does.  So it is for polls at any times that do not go back, and for those that the
wait for a pane makes as long as no signal comes: then it makes as many, and none of them reads a
pane whose program has ended.  Whether the texts are kept or their digests makes no difference. -/
theorem watches_exactly (quiet : Nat) (digest : String → String) :
    (∀ (polls : Nat → Poll) (start : Nat), Monotone (fun n => (polls n).time) →
      Tells digest polls → ∀ count,
        (∀ verdict, watch quiet (.start start) (looks digest polls 0 count) = some verdict ↔
          ∃ n < count, EndsFirst quiet polls n verdict) ∧
        (watch quiet (.start start) (looks digest polls 0 count) = none ↔
          ∀ n < count, ∀ verdict, ¬ EndsAt quiet polls n verdict)) ∧
    ∀ (W : Type) (driver : PaneDriver W) (schedule : Schedule W) (pane : String)
      (pause now channel : Nat) (s : Stage W),
      (Tells digest (pollAt driver schedule pane pause now s) →
        s.noticed? schedule channel = none →
        (∀ n verdict, EndsFirst quiet (pollAt driver schedule pane pause now s) n verdict →
          (∀ m ≤ n, Undisturbed driver schedule pane channel
            (stageAt driver schedule pane s m)) → ∀ looks, n < looks →
            wait (driver.digested digest) schedule ⟨pause, quiet⟩ pane channel (3 * looks)
              (.start now) s = (some (verdict, none), stageAt driver schedule pane s (n + 1))) ∧
        (∀ looks, (∀ n < looks, ∀ verdict,
              ¬ EndsAt quiet (pollAt driver schedule pane pause now s) n verdict) →
          (∀ m < looks, Undisturbed driver schedule pane channel
            (stageAt driver schedule pane s m)) →
            wait (driver.digested digest) schedule ⟨pause, quiet⟩ pane channel (3 * looks)
              (.start now) s = (none, stageAt driver schedule pane s looks)) ∧
        ∀ n, (pollAt driver schedule pane pause now s n).alive = .ok false →
          stageAt driver schedule pane s (n + 1) =
            (((stageAt driver schedule pane s n).pause schedule).perform
              (driver.isAlive pane)).2) ∧
      driver.digested id = driver := by
  refine ⟨fun polls start htimes hdigest count => watch_looks_iff hdigest htimes count, ?_⟩
  intro W driver schedule pane pause now channel s
  refine ⟨fun hdigest hs => ?_, digested_id⟩
  refine ⟨fun n verdict hends hquiet looks hlt => ?_, fun looks hnone hquiet => ?_,
    fun n hdead => ?_⟩
  · exact wait_of_ends hdigest hends hs hquiet looks .nothing (Nat.zero_le n) (by omega)
  · have hstart : (Watcher.start now).Seen digest (pollAt driver schedule pane pause now s) now 0 :=
      .nothing
    have hwait := wait_of_no_end hdigest hs looks hstart
      (fun n _ hlt => hnone n (by omega)) (fun n hlt => hquiet n (by omega))
    rw [Nat.zero_add] at hwait
    exact hwait
  · have hasked : (((stageAt driver schedule pane s n).pause schedule).perform
      (driver.isAlive pane)).1 = .ok false := hdead
    rw [stageAt, lookAt]
    rcases h : ((stageAt driver schedule pane s n).pause schedule).perform
      (driver.isAlive pane) with ⟨result, t⟩
    rw [h] at hasked
    obtain rfl : result = .ok false := hasked
    rfl

/-- The SHA-256 digests of two texts. -/
def hashed : String → String
  | "working" => "dd5ace9e018dbd62336cbe039916ad7c817d0e9bc9934f70d67f3ff75544da88"
  | "done" => "a4c3ed04a95a3da14a9d235c83d868bed7c0f45cf7f3faa751ee8f50598d2211"
  | text => text

/-- A pane that shows one text, and then another that stays. -/
def settling (n : Nat) : Poll := ⟨10 * n, .ok true, .ok (if n = 0 then "working" else "done")⟩

/-- A pane that always shows the same text. -/
def still : PaneDriver Unit where
  openPane _ _ _ := ⟨.ok "%1", [], ()⟩
  capture _ _ _ := ⟨.ok "done", [], ()⟩
  isAlive _ _ _ := ⟨.ok true, [], ()⟩
  closePane _ _ _ := ⟨.ok (), [], ()⟩

/-- Where it is waited for. -/
def stillStage : Stage Unit :=
  ((⟨⟨7890, "token", true, .empty⟩, ()⟩ : Stage Unit).register "%1").2

theorem stageAt_still (n : Nat) : stageAt still .prompt "%1" stillStage n = stillStage := by
  induction n with
  | zero => rfl
  | succ n ih => rw [stageAt, ih]; rfl

theorem pollAt_still (n : Nat) :
    pollAt still .prompt "%1" 10 0 stillStage n = ⟨0 + 10 * (n + 1), .ok true, .ok "done"⟩ := by
  rw [pollAt, stageAt_still]
  rfl

theorem watches_exactly_settling :
    (Monotone (fun n => (settling n).time) ∧ Tells hashed settling ∧
      watch 20 (.start 0) (looks hashed settling 0 5) = some (.ok .idle) ∧
      ∃ n < 5, EndsFirst 20 settling n (.ok .idle)) ∧
    Tells hashed (pollAt still .prompt "%1" 10 0 stillStage) ∧
      EndsFirst 20 (pollAt still .prompt "%1" 10 0 stillStage) 2 (.ok .idle) ∧
      stillStage.noticed? .prompt 0 = none ∧
      (∀ n, Undisturbed still .prompt "%1" 0 (stageAt still .prompt "%1" stillStage n)) ∧
      wait (still.digested hashed) .prompt ⟨10, 20⟩ "%1" 0 9 (.start 0) stillStage =
        (some (.ok .idle, none), stillStage) := by
  have htimes : Monotone fun n => (settling n).time := fun m n hle => Nat.mul_le_mul_left 10 hle
  have hdigest : Tells hashed settling := by
    rintro m n _ _ ⟨-, hs⟩ ⟨-, ht⟩ hsame
    obtain rfl := Except.ok.inj hs
    obtain rfl := Except.ok.inj ht
    revert hsame
    split <;> split <;> decide
  have hwatch : watch 20 (.start 0) (looks hashed settling 0 5) = some (.ok .idle) := by decide
  have hstill : Tells hashed (pollAt still .prompt "%1" 10 0 stillStage) := by
    intro m n s t hs ht _
    rw [pollAt_still] at hs ht
    exact (Except.ok.inj hs.2).symm.trans (Except.ok.inj ht.2)
  have hshows : ∀ n, (pollAt still .prompt "%1" 10 0 stillStage n).Shows "done" := by
    intro n
    rw [pollAt_still]
    exact ⟨rfl, rfl⟩
  have hends : EndsFirst 20 (pollAt still .prompt "%1" 10 0 stillStage) 2 (.ok .idle) := by
    constructor
    · have hrun : Run (pollAt still .prompt "%1" 10 0 stillStage) 0 2 "done" :=
        ⟨by omega, fun n _ _ => hshows n, fun n hn => by omega⟩
      refine .idle hrun (by omega) ?_
      rw [pollAt_still, pollAt_still]
    · rintro m hlt _ (h | h | ⟨_, h⟩ | ⟨-, -, h⟩) <;> rw [pollAt_still] at h
      · cases h
      · cases h
      · cases h
      · rw [pollAt_still] at h
        dsimp only at h
        omega
  have hquiet (n : Nat) :
      Undisturbed still .prompt "%1" 0 (stageAt still .prompt "%1" stillStage n) := by
    rw [stageAt_still]
    exact ⟨rfl, rfl, rfl⟩
  have hwait := (((watches_exactly 20 hashed).2 Unit still .prompt "%1" 10 0 0 stillStage).1 hstill
    rfl).1 2 _ hends (fun m _ => hquiet m) 3 (by omega)
  rw [stageAt_still] at hwait
  exact ⟨⟨htimes, hdigest, hwatch,
    (((watches_exactly 20 hashed).1 settling 0 htimes hdigest 5).1 _).1 hwatch⟩,
    hstill, hends, rfl, hquiet, hwait⟩

end Runbook.Session
