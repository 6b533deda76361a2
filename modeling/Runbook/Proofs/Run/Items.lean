import Runbook.Proofs.Loop.Sorted
import Runbook.Proofs.Run.PassLog

/-!
# Passes over items

A loop over items takes its items once, and has a pass for each until one ends it.  This file says
which items these are, what each pass begins with, and what the loop comes to.

* `ForeachLoop.bound` binds an item and its position, whatever was bound there before, and
  `ForeachLoop.kept` are the items for which the condition of the loop holds;
* `ends_filterItems` says that these are the items that the loop keeps, and `ends_itemsOf` that it
  goes over them in order;
* `ForeachLoop.Ended` lists the ways in which the passes come to an end, and `ended_foreachPasses`
  says that there are no others, by induction on the items that are left;
* `act_foreach_passes` is the result.
-/

namespace Runbook

variable {W : Type}

namespace ForeachLoop

/-- The variables with an item and its position bound. -/
def bound (loop : ForeachLoop) (vars : Variables) (item : Value) (index : Nat) : Variables :=
  (vars.insert loop.itemVar item).insert loop.indexVar (.int index)

/-- What was bound for one item is not seen with another one bound. -/
theorem bound_bound (loop : ForeachLoop) (vars : Variables) (item : Value) (index : Nat) :
    loop.bound (loop.bound vars item index) = loop.bound vars := by
  funext item' index'
  refine KeyMap.ext_find? fun name => ?_
  unfold bound
  by_cases hindex : name = loop.indexVar
  · rw [hindex, KeyMap.find?_insert_self, KeyMap.find?_insert_self]
  · rw [KeyMap.find?_insert_of_ne _ _ hindex, KeyMap.find?_insert_of_ne _ _ hindex]
    by_cases hitem : name = loop.itemVar
    · rw [hitem, KeyMap.find?_insert_self, KeyMap.find?_insert_self]
    · rw [KeyMap.find?_insert_of_ne _ _ hitem, KeyMap.find?_insert_of_ne _ _ hindex,
        KeyMap.find?_insert_of_ne _ _ hitem, KeyMap.find?_insert_of_ne _ _ hitem]

/-- The items from a position on for which a condition holds, each with its own position bound. -/
def keptFrom (loop : ForeachLoop) (vars : Variables) (condition : String) (index : Nat)
    (items : List Value) : List Value :=
  ((items.zipIdx index).filter fun (item, i) =>
    Condition.evaluate (loop.bound vars item i) condition).map Prod.fst

/-- The items that the loop keeps. -/
def kept (loop : ForeachLoop) (vars : Variables) (items : List Value) : List Value :=
  match loop.filter with
  | some condition => loop.keptFrom vars condition 0 items
  | none => items

/-- The items that the loop goes over, if sorting them does not panic. -/
def chosen (loop : ForeachLoop) (sorter : Sorter) (vars : Variables) (items : List Value) :
    Option (List Value) :=
  Loop.sortItems sorter loop.sortBy loop.sortOrder (loop.kept vars items)

/-- They are the items that it keeps, sorted if there is something to sort them by. -/
theorem chosen_sorted (loop : ForeachLoop) (sorter : Sorter) (vars : Variables)
    (items : List Value) :
    match loop.sortBy with
    | some key =>
      StandardSorted (Loop.precedes key loop.sortOrder) (loop.kept vars items)
        (loop.chosen sorter vars items)
    | none => loop.chosen sorter vars items = some (loop.kept vars items) := by
  unfold chosen
  cases loop.sortBy with
  | some key => exact Loop.standardSorted_sortItems sorter key loop.sortOrder _
  | none => rfl

/-- The condition to stop at holds after the pass. -/
def stopsAfter (loop : ForeachLoop) (p : LoopPass W) : Bool :=
  loop.stopWhen.any (Condition.evaluate p.finish.progress.vars)

/-- The state in which a pass begins after others: the variables are those that they left, with the
next item and its position. -/
def Begins (loop : ForeachLoop) (items : List Value) (first : RunState W)
    (passes : List (LoopPass W)) (start : RunState W) : Prop :=
  ∃ item, items[passes.length]? = some item ∧
    start.progress.vars = loop.bound (first.leftBy passes).progress.vars item passes.length

/-- The loop goes on after the pass if there are more items. -/
def GoesOn (loop : ForeachLoop) (p : LoopPass W) : Prop :=
  p.result = .ok () ∧ ¬ p.Leaves ∧ loop.stopsAfter p = false

/-- The ways in which the passes of a loop come to an end. -/
inductive Ended (loop : ForeachLoop) (items : List Value) (passes : List (LoopPass W)) :
    Except Halt Run.ForeachSummary → Prop
  /-- No items are left. -/
  | spent (hlength : passes.length = items.length) (hgo : ∀ p ∈ passes, loop.GoesOn p) :
    Ended loop items passes (.ok ⟨passes.length, passes.length, false⟩)
  /-- The last pass asked to leave the loop, and does not count as completed. -/
  | left (p : LoopPass W) (completed : Nat) (hlast : passes.getLast? = some p)
    (hok : p.result = .ok ()) (hleaves : p.Leaves) (hlength : passes.length = completed + 1) :
    Ended loop items passes (.ok ⟨passes.length, completed, true⟩)
  /-- The condition to stop at holds after the last pass. -/
  | stopped (p : LoopPass W) (hlast : passes.getLast? = some p) (hok : p.result = .ok ())
    (hstays : ¬ p.Leaves) (hstops : loop.stopsAfter p = true) :
    Ended loop items passes (.ok ⟨passes.length, passes.length, false⟩)
  /-- The last pass halted. -/
  | failed (p : LoopPass W) (halt : Halt) (hlast : passes.getLast? = some p)
    (hhalt : p.result = .error halt) : Ended loop items passes (.error halt)

end ForeachLoop

/-- The state in which the body of a pass begins: the item and its position are bound, and the pass
is noted. -/
def RunState.handed (s : RunState W) (loop : ForeachLoop) (item : Value) (index : Nat) :
    RunState W :=
  { s with progress :=
    ((s.progress.bind loop.itemVar item).bind loop.indexVar (.int index)).setCursor index }

namespace Run

open Portion

variable (site : LoopSite) (loop : ForeachLoop) {body : Run W Unit} {first : RunState W}

/-! ## Items -/

/-- The loop keeps the items for which the condition holds, and leaves no trace but in the variables
that it binds anyway. -/
theorem ends_filterItems (vars : Variables) (condition : String) (items : List Value) :
    ∀ (index : Nat) (t : RunState W), loop.bound t.progress.vars = loop.bound vars →
      Ends (filterItems loop condition index items) t (fun r u =>
        r = .ok (loop.keptFrom vars condition index items) ∧
          loop.bound u.progress.vars = loop.bound vars ∧ u.world = t.world) := by
  -- what is bound for one item stays bound when the next one is tried, but is bound anew there
  induction items with
  | nil => exact fun index t ht => ⟨rfl, ht, rfl⟩
  | cons item rest ih =>
    intro index t ht
    obtain ⟨u, hu⟩ : ∃ u, u = { t with progress :=
      (t.progress.bind loop.itemVar item).bind loop.indexVar (.int index) } := ⟨_, rfl⟩
    obtain ⟨w, hw⟩ : ∃ w, w = (holds condition u).2 := ⟨_, rfl⟩
    have hbind : bindItem loop item index t = (.ok (), u) := by
      rw [hu]
      rfl
    have huvars : u.progress.vars = loop.bound vars item index := by
      rw [hu, ← ht]
      rfl
    have hholds : holds condition u =
        (.ok (Condition.evaluate (loop.bound vars item index) condition), w) := by
      rw [← huvars, hw]
      rfl
    have hbound : loop.bound w.progress.vars = loop.bound vars := by
      rw [← loop.bound_bound vars item index, ← huvars, hw]
      rfl
    have hworld : w.world = t.world := by
      rw [hw, hu]
      rfl
    rw [filterItems]
    refine Ends.bind_ok hbind (Ends.bind_ok hholds (Ends.bind (ih (index + 1) w hbound) ?_ ?_))
    · rintro more v ⟨hmore, hv, hvworld⟩
      obtain rfl := Except.ok.inj hmore
      refine ⟨congrArg Except.ok ?_, hv, hvworld.trans hworld⟩
      unfold ForeachLoop.keptFrom
      rw [List.zipIdx_cons, List.filter_cons]
      split <;> rfl
    · rintro halt v ⟨hr, -⟩
      cases hr

/-- What the items are, given how they came out of sorting. -/
def sortedOr : Option (List Value) → Except Halt (List Value)
  | some items => .ok items
  | none => .error .panicked

theorem orSorted_apply (items? : Option (List Value)) (t : RunState W) :
    orSorted items? t = (sortedOr items?, t) := by
  cases items? <;> rfl

/-- The loop takes its items from the variables as it finds them. -/
theorem ends_itemsOf (sorter : Sorter) (t : RunState W) :
    Ends (itemsOf sorter site loop) t (fun r u =>
      r = (match Loop.resolveItems t.progress.vars loop.items with
        | .error message => .error (.failed (.stepFailed site.step message))
        | .ok resolved => sortedOr (loop.chosen sorter t.progress.vars resolved)) ∧
      loop.bound u.progress.vars = loop.bound t.progress.vars ∧ u.world = t.world) := by
  have hvars : currentVars t = (.ok t.progress.vars, t) := rfl
  rw [itemsOf]
  refine Ends.bind_ok hvars ?_
  cases Loop.resolveItems t.progress.vars loop.items with
  | error message => exact ⟨rfl, rfl, rfl⟩
  | ok resolved =>
    unfold ForeachLoop.chosen ForeachLoop.kept
    have hcheck : site.check (.ok resolved : Except String (List Value)) t = (.ok resolved, t) :=
      rfl
    refine Ends.bind_ok hcheck ?_
    cases loop.filter with
    | none =>
      have hnone : (pure resolved : Run W (List Value)) t = (.ok resolved, t) := rfl
      refine Ends.bind_ok hnone ?_
      simp only [Ends, orSorted_apply, and_self]
    | some condition =>
      refine Ends.bind (ends_filterItems loop t.progress.vars condition resolved 0 t rfl) ?_ ?_
      · rintro kept u ⟨hkept, hu⟩
        obtain rfl := Except.ok.inj hkept
        simp only [Ends, orSorted_apply, true_and]
        exact hu
      · rintro halt u ⟨hr, -⟩
        cases hr

/-! ## Passes -/

/-- Trying a condition that may be absent leaves no trace but in what is reported. -/
theorem holdsIf_apply (condition : Option String) (s : RunState W) :
    ∃ t, holdsIf condition s = (.ok (condition.any (Condition.evaluate s.progress.vars)), t) ∧
      t.progress = s.progress ∧ t.world = s.world := by
  cases condition with
  | none => exact ⟨s, rfl, rfl, rfl⟩
  | some condition => exact ⟨_, rfl, rfl, rfl⟩

/-- The next item is handed to a pass. -/
theorem foreachPasses_logged {p : LoopPass W} {t : RunState (W × List (LoopPass W))} {index : Nat}
    {item : Value} (rest : List Value)
    (hp : p = .of body ((t.handed loop item index).seen Prod.fst)) :
    ∃ u, u.progress.vars = p.finish.progress.vars ∧ u.world.2 = t.world.2 ++ [p] ∧
      foreachPasses site loop (logged body) index (item :: rest) t =
        match p.result with
        | .error halt => (.error halt, u)
        | .ok () =>
          if p.Leaves then (.ok ⟨index + 1, index, true⟩, u)
          else if loop.stopsAfter p = true then (.ok ⟨index + 1, index + 1, false⟩, u)
          else foreachPasses site loop (logged body) (index + 1) rest u := by
  obtain ⟨v, hv⟩ : ∃ v, v = p.finish.paired (t.world.2 ++ [p]) := ⟨_, rfl⟩
  have hpass : logged body (t.handed loop item index) = (p.result, v) := by
    rw [hv, hp]
    rfl
  have hopens : foreachPasses site loop (logged body) index (item :: rest) t =
      (do
        logged body
        if (← takeSignal) = .leave then return ⟨index + 1, index, true⟩
        if ← holdsIf loop.stopWhen then
          report (.debug s!"[Loop] foreach '{site.path}' stopped by until after {index}")
          return ⟨index + 1, index + 1, false⟩
        foreachPasses site loop (logged body) (index + 1) rest :
        Run (W × List (LoopPass W)) ForeachSummary) (t.handed loop item index) := by
    rw [foreachPasses]
    rfl
  have hsignal : v.progress.signal = .leave ↔ p.Leaves := by
    rw [hv]
    rfl
  rw [hopens]
  cases hresult : p.result with
  | error halt =>
    refine ⟨v, by rw [hv]; rfl, by rw [hv]; rfl, ?_⟩
    rw [bind_error (hresult ▸ hpass)]
  | ok _ =>
    rw [bind_ok (hresult ▸ hpass), bind_ok (takeSignal_apply v)]
    dsimp only
    by_cases hleaves : p.Leaves
    · refine ⟨v.quieted, by rw [hv]; rfl, by rw [hv]; rfl, ?_⟩
      rw [if_pos hleaves, if_pos (hsignal.2 hleaves)]
      rfl
    · obtain ⟨w, hholds, hprogress, hworld⟩ := holdsIf_apply loop.stopWhen v.quieted
      have hstops : loop.stopWhen.any (Condition.evaluate v.quieted.progress.vars) =
          loop.stopsAfter p := by
        rw [hv]
        rfl
      rw [hstops] at hholds
      have hwvars : w.progress.vars = p.finish.progress.vars := by
        rw [hprogress, hv]
        rfl
      have hwlog : w.world.2 = t.world.2 ++ [p] := by
        rw [hworld, hv]
        rfl
      rw [if_neg (mt hsignal.1 hleaves), bind_ok hholds]
      cases loop.stopsAfter p with
      | true =>
        obtain ⟨x, hreport, hxprogress, hxworld⟩ := report_apply
          (.debug s!"[Loop] foreach '{site.path}' stopped by until after {index}") w
        refine ⟨x, by rw [hxprogress, hwvars], by rw [hxworld, hwlog], ?_⟩
        rw [if_neg hleaves, if_pos rfl, if_pos rfl, bind_ok hreport]
        rfl
      | false =>
        refine ⟨w, hwvars, hwlog, ?_⟩
        rw [if_neg hleaves]
        rfl

/-- What the loop comes to from between two passes on. -/
theorem ended_foreachPasses (items rest : List Value) :
    ∀ (index : Nat) (t : RunState (W × List (LoopPass W))),
      items.drop index = rest → index ≤ items.length → t.world.2.length = index →
      Between (fun s => loop.bound s.progress.vars) first body (loop.Begins items first)
        loop.GoesOn t →
        Ends (foreachPasses site loop (logged body) index rest) t (fun r u =>
          Chained body (loop.Begins items first) loop.GoesOn u.world.2 ∧
            loop.Ended items u.world.2 r) := by
  -- the passes so far are as many as the items that are gone, so the next item has their number
  induction rest with
  | nil =>
    rintro _ t hdrop hle rfl ht
    have hlength : t.world.2.length = items.length :=
      Nat.le_antisymm hle (List.drop_eq_nil_iff.1 hdrop)
    exact ⟨ht.chained, .spent hlength ht.goesOn⟩
  | cons item rest ih =>
    rintro _ t hdrop hle rfl ht
    obtain ⟨p, hp⟩ : ∃ p, p =
      LoopPass.of body ((t.handed loop item t.world.2.length).seen Prod.fst) := ⟨_, rfl⟩
    have hran : body p.start = (p.result, p.finish) := by rw [hp]; rfl
    have hitem : items[t.world.2.length]? = some item := by
      rw [← List.head?_drop, hdrop]
      rfl
    have hrest : items.drop (t.world.2.length + 1) = rest := by
      rw [← List.tail_drop, hdrop]
      rfl
    have hbegins : loop.Begins items first t.world.2 p.start := by
      have hbound : loop.bound t.progress.vars =
        loop.bound (first.leftBy t.world.2).progress.vars := ht.left
      refine ⟨item, hitem, ?_⟩
      rw [← hbound, hp]
      exact vars_onFrame _ _
    have hchained := ht.chained.concat ht.goesOn hran hbegins
    have hlast : (t.world.2 ++ [p]).getLast? = some p := List.getLast?_concat
    have hcount : (t.world.2 ++ [p]).length = t.world.2.length + 1 := List.length_append
    obtain ⟨u, hvars, hlog, hpasses⟩ := foreachPasses_logged site loop rest hp
    rw [← hlog] at hchained hlast hcount
    rw [Ends, hpasses]
    cases hresult : p.result with
    | error halt => exact ⟨hchained, .failed p halt hlast hresult⟩
    | ok _ =>
      dsimp only
      rw [← hcount]
      by_cases hleaves : p.Leaves
      · rw [if_pos hleaves]
        exact ⟨hchained, .left p _ hlast hresult hleaves hcount⟩
      · rw [if_neg hleaves]
        cases hstops : loop.stopsAfter p with
        | true => exact ⟨hchained, .stopped p hlast hresult hleaves hstops⟩
        | false =>
          have hlt : t.world.2.length < items.length := (List.getElem?_eq_some_iff.1 hitem).1
          exact ih _ u (hcount ▸ hrest) (by omega) rfl
            (ht.next hran hbegins ⟨hresult, hleaves, hstops⟩ hlog (congrArg loop.bound hvars))

/-- With its items at hand, the loop goes by what its passes come to. -/
theorem ended_passesOver (body : Run W Unit) (items : List Value) {s : RunState W}
    {t : RunState (W × List (LoopPass W))} (hlog : t.world.2 = [])
    (hbound : loop.bound t.progress.vars = loop.bound s.progress.vars) :
    Ends (do
      update (·.setTotal items.length)
      report (.info s!"[Loop] foreach '{site.path}' over {items.length} items")
      return (← foreachPasses site loop (logged body) 0 items).toValue) t (fun r u =>
        Chained body (loop.Begins items s) loop.GoesOn u.world.2 ∧
          ∃ e, loop.Ended items u.world.2 e ∧ r = e.map ForeachSummary.toValue) := by
  obtain ⟨v, hv⟩ : ∃ v, v = { t with progress := t.progress.setTotal items.length } := ⟨_, rfl⟩
  have htotal : update (·.setTotal items.length) t = (.ok (), v) := by
    rw [hv]
    rfl
  obtain ⟨w, hreport, hprogress, hworld⟩ := report_apply
    (.info s!"[Loop] foreach '{site.path}' over {items.length} items") v
  have hwlog : w.world.2 = [] := by
    rw [hworld, hv]
    exact hlog
  have hwvars : w.progress.vars = t.progress.vars := by
    rw [hprogress, hv]
    exact vars_onFrame _ _
  have hbetween : Between (fun s => loop.bound s.progress.vars) s body (loop.Begins items s)
      loop.GoesOn w := by
    refine ⟨hwlog ▸ chained_nil, fun p hp => ?_, ?_⟩
    · rw [hwlog] at hp
      exact absurd hp List.not_mem_nil
    · rw [hwlog]
      show loop.bound w.progress.vars = loop.bound s.progress.vars
      rw [hwvars, hbound]
  have hpasses := ended_foreachPasses site loop items items 0 w rfl (Nat.zero_le _)
    (by rw [hwlog]; rfl) hbetween
  refine Ends.bind_ok htotal (Ends.bind_ok hreport (Ends.bind hpasses ?_ ?_))
  · rintro summary u ⟨hchained, hended⟩
    exact ⟨hchained, _, hended, rfl⟩
  · rintro halt u ⟨hchained, hended⟩
    exact ⟨hchained, _, hended, rfl⟩

/-- A loop over items ends before its first pass if they are no list, or sorting them panics, and
else goes by what its passes come to. -/
theorem ended_foreachLoop (sorter : Sorter) (body : Run W Unit) (s : RunState W) :
    Ends (foreachLoop sorter site loop (logged body)) (s.paired []) (fun r u =>
      match Loop.resolveItems s.progress.vars loop.items with
      | .error message =>
        u.world.2 = [] ∧ r = .error (.failed (.stepFailed site.step message))
      | .ok resolved =>
        match loop.chosen sorter s.progress.vars resolved with
        | none => u.world.2 = [] ∧ r = .error .panicked
        | some items => Chained body (loop.Begins items s) loop.GoesOn u.world.2 ∧
          ∃ e, loop.Ended items u.world.2 e ∧ r = e.map ForeachSummary.toValue) := by
  obtain ⟨t, ht⟩ : ∃ t, t = entered site .iteration [loop.itemVar, loop.indexVar]
    (s.paired ([] : List (LoopPass W))) := ⟨_, rfl⟩
  have hvars : t.progress.vars = s.progress.vars := by rw [ht]; rfl
  have hlog : t.world.2 = [] := by rw [ht]; rfl
  have hitems := ends_itemsOf site loop sorter t
  rw [hvars] at hitems
  refine ends_closed ?_
  rw [← ht]
  cases hresolve : Loop.resolveItems s.progress.vars loop.items with
  | error message =>
    rw [hresolve] at hitems
    refine Ends.bind hitems ?_ ?_
    · rintro items u ⟨hr, -⟩
      cases hr
    · rintro halt u ⟨hr, -, hworld⟩
      cases hr
      exact ⟨hworld ▸ hlog, rfl⟩
  | ok resolved =>
    rw [hresolve] at hitems
    dsimp only at hitems ⊢
    cases hchosen : loop.chosen sorter s.progress.vars resolved with
    | none =>
      rw [hchosen] at hitems
      refine Ends.bind hitems ?_ ?_
      · rintro items u ⟨hr, -⟩
        cases hr
      · rintro halt u ⟨hr, -, hworld⟩
        cases hr
        exact ⟨hworld ▸ hlog, rfl⟩
    | some chosen =>
      rw [hchosen] at hitems
      refine Ends.bind hitems ?_ ?_
      · rintro items u ⟨hr, hbound, hworld⟩
        obtain rfl : items = chosen := Except.ok.inj hr
        exact ended_passesOver site loop body _ (by rw [hworld, hlog]) hbound
      · rintro halt u ⟨hr, -⟩
        cases hr

/-! ## Results -/

variable {loop} {items : List Value} {passes : List (LoopPass W)}
  {r : Except Halt ForeachSummary}

/-- Every pass begins with the item and the position that are its turn. -/
theorem foreach_opens (hc : Chained body (loop.Begins items first) loop.GoesOn passes) {k : Nat}
    {p : LoopPass W} (hk : passes[k]? = some p) :
    ∃ item, items[k]? = some item ∧
      p.start.progress.vars = loop.bound (first.leftBy (passes.take k)).progress.vars item k ∧
      p.start.progress.vars.find? loop.indexVar = some (.int k) ∧
      (loop.itemVar ≠ loop.indexVar →
        p.start.progress.vars.find? loop.itemVar = some item) := by
  obtain ⟨item, hitem, hvars⟩ := hc.opened k p hk
  rw [length_take_of_getElem? hk] at hitem hvars
  refine ⟨item, hitem, hvars, ?_, fun hne => ?_⟩
  · rw [hvars, ForeachLoop.bound, KeyMap.find?_insert_self]
  · rw [hvars, ForeachLoop.bound, KeyMap.find?_insert_of_ne _ _ hne, KeyMap.find?_insert_self]

/-- A pass after which the loop does not go on is the last. -/
theorem foreach_stops (hc : Chained body (loop.Begins items first) loop.GoesOn passes) {k : Nat}
    {p : LoopPass W} (hk : passes[k]? = some p)
    (hstops : p.result ≠ .ok () ∨ p.Leaves ∨ loop.stopsAfter p = true) :
    passes.length = k + 1 := by
  refine hc.length_eq hk fun hgo => ?_
  rcases hstops with hhalts | hleaves | hstops
  · exact hhalts hgo.1
  · exact hgo.2.1 hleaves
  · rw [hgo.2.2] at hstops
    cases hstops

/-- A loop in which every pass went on had a pass for each item. -/
theorem foreach_whole (he : loop.Ended items passes r) (hgo : ∀ p ∈ passes, loop.GoesOn p) :
    passes.length = items.length := by
  cases he with
  | spent hlength _ => exact hlength
  | left p _ hlast _ hleaves _ => exact absurd hleaves (hgo p (List.mem_of_getLast? hlast)).2.1
  | stopped p hlast _ _ hstops =>
    rw [(hgo p (List.mem_of_getLast? hlast)).2.2] at hstops
    cases hstops
  | failed p halt hlast hhalt =>
    rw [(hgo p (List.mem_of_getLast? hlast)).1] at hhalt
    cases hhalt

/-- A loop halts for what a pass halts for. -/
theorem foreach_fails (hc : Chained body (loop.Begins items first) loop.GoesOn passes)
    (he : loop.Ended items passes r) {p : LoopPass W} (hp : p ∈ passes) {halt : Halt}
    (hhalt : p.result = .error halt) : r = .error halt := by
  have hstops : ¬ loop.GoesOn p := fun hgo => by
    rw [hgo.1] at hhalt
    cases hhalt
  have hlast := hc.getLast?_eq hp hstops
  cases he with
  | spent _ hgo => exact absurd (hgo p hp) hstops
  | left q _ hq hok _ _ | stopped q hq hok _ _ =>
    obtain rfl := Option.some.inj (hq.symm.trans hlast)
    rw [hok] at hhalt
    cases hhalt
  | failed q halt' hq hhalt' =>
    obtain rfl := Option.some.inj (hq.symm.trans hlast)
    rw [Except.error.inj (hhalt'.symm.trans hhalt)]

/-- If no pass halts, the loop comes to its end and counts its passes. -/
theorem foreach_counts (he : loop.Ended items passes r) (hok : ∀ p ∈ passes, p.result = .ok ()) :
    ∃ summary : ForeachSummary, r = .ok summary ∧ summary.iterations = passes.length ∧
      summary.iterations = summary.completed + (if summary.broken = true then 1 else 0) ∧
      (summary.broken = true ↔ ∃ p, passes.getLast? = some p ∧ p.Leaves) := by
  cases he with
  | spent _ hgo =>
    refine ⟨_, rfl, rfl, rfl, fun h => (Bool.false_ne_true h).elim, ?_⟩
    rintro ⟨p, hlast, hleaves⟩
    exact absurd hleaves (hgo p (List.mem_of_getLast? hlast)).2.1
  | left p completed hlast _ hleaves hlength =>
    exact ⟨_, rfl, rfl, hlength, fun _ => ⟨p, hlast, hleaves⟩, fun _ => rfl⟩
  | stopped p hlast _ hstays _ =>
    refine ⟨_, rfl, rfl, rfl, fun h => (Bool.false_ne_true h).elim, ?_⟩
    rintro ⟨q, hq, hleaves⟩
    obtain rfl := Option.some.inj (hq.symm.trans hlast)
    exact absurd hleaves hstays
  | failed p halt hlast hhalt =>
    rw [hok p (List.mem_of_getLast? hlast)] at hhalt
    cases hhalt

/-- **What a loop over items does.**  The items are taken from the variables once, those are kept
for which the condition of the loop holds with them and their positions bound, and they are sorted
if there is something to sort them by.  A stable sort is what this is if being in order is
transitive on the items, or they are few; other items are rearranged, or sorting them panics, and
then there are no passes.  The run of the loop is that of its passes, one after the other: each is a
run of the body that begins with the variables left by those before, with the next item and its
position bound, whatever those before made of them.  A pass that halts, asks to leave, or after
which the condition to stop at holds is the last, and if there is none, there is a pass for each
item.  The loop halts for what a pass halts for; else it comes to its end and counts the passes and
those that did not ask to leave. -/
theorem act_foreach_passes (env : Setting W) (step : Step Unit) (loop : ForeachLoop) (body : Block)
    (path : String) (index : Nat) (s : RunState W) :
    let pass := block env body path
    let run := act env step (.foreach loop body) path index s
    ∃ passes : List (LoopPass W),
      foreachLoop env.sorter ⟨step.name, index, path⟩ loop (logged pass) (s.paired []) =
        (run.1, run.2.paired passes) ∧
      match Loop.resolveItems s.progress.vars loop.items with
      | .error message =>
        passes = [] ∧ run.1 = .error (.failed (.stepFailed step.name message))
      | .ok resolved =>
        let kept := loop.kept s.progress.vars resolved
        let chosen := loop.chosen env.sorter s.progress.vars resolved
        (match loop.sortBy with
          | some key => StandardSorted (Loop.precedes key loop.sortOrder) kept chosen
          | none => chosen = some kept) ∧
        match chosen with
        | none => passes = [] ∧ run.1 = .error .panicked
        | some items =>
          (∀ k p, passes[k]? = some p →
            pass p.start = (p.result, p.finish) ∧
            ∃ item, items[k]? = some item ∧
              p.start.progress.vars =
                loop.bound (s.leftBy (passes.take k)).progress.vars item k ∧
              p.start.progress.vars.find? loop.indexVar = some (.int k) ∧
              (loop.itemVar ≠ loop.indexVar →
                p.start.progress.vars.find? loop.itemVar = some item)) ∧
          (∀ k p, passes[k]? = some p →
            p.result ≠ .ok () ∨ p.Leaves ∨ loop.stopsAfter p = true → passes.length = k + 1) ∧
          ((∀ p ∈ passes, p.result = .ok () ∧ ¬ p.Leaves ∧ loop.stopsAfter p = false) →
            passes.length = items.length) ∧
          (∀ p ∈ passes, ∀ halt, p.result = .error halt → run.1 = .error halt) ∧
          ((∀ p ∈ passes, p.result = .ok ()) →
            ∃ summary : ForeachSummary, run.1 = .ok summary.toValue ∧
              summary.iterations = passes.length ∧
              summary.iterations = summary.completed + (if summary.broken = true then 1 else 0) ∧
              (summary.broken = true ↔ ∃ p, passes.getLast? = some p ∧ p.Leaves)) := by
  intro pass run
  let site : LoopSite := ⟨step.name, index, path⟩
  have hact : foreachLoop env.sorter site loop pass s = run := by
    show _ = act env step (.foreach loop body) path index s
    rw [act]
    rfl
  obtain ⟨passes, hrun, hends⟩ := (mirrors_foreachLoop site pass env.sorter loop).ends_paired
    (ended_foreachLoop site loop env.sorter pass s)
  rw [hact] at hrun hends
  refine ⟨passes, hrun, ?_⟩
  cases hresolve : Loop.resolveItems s.progress.vars loop.items with
  | error message =>
    rw [hresolve] at hends
    exact hends
  | ok resolved =>
    rw [hresolve] at hends
    refine ⟨loop.chosen_sorted env.sorter s.progress.vars resolved, ?_⟩
    dsimp only at hends ⊢
    cases hchosen : loop.chosen env.sorter s.progress.vars resolved with
    | none =>
      rw [hchosen] at hends
      exact hends
    | some items =>
      rw [hchosen] at hends
      obtain ⟨hchained, e, hended, hresult⟩ := hends
      rw [paired_snd] at hchained hended
      refine ⟨?_, fun k p hk => foreach_stops hchained hk, foreach_whole hended, ?_, ?_⟩
      · intro k p hk
        exact ⟨hchained.ran p (List.mem_of_getElem? hk), foreach_opens hchained hk⟩
      · intro p hp halt hhalt
        show run.1 = .error halt
        obtain rfl := foreach_fails hchained hended hp hhalt
        exact hresult
      · intro hok
        obtain ⟨summary, rfl, hcounts⟩ := foreach_counts hended hok
        exact ⟨summary, hresult, hcounts⟩

/-- A loop over four numbers, of which it keeps three and sorts them. -/
def overNumbers : ForeachLoop :=
  ⟨.array [.int 3, .int 0, .int 1, .int 2], "item", "i", some "{item} != 0", some ".", .ascending,
    none⟩

/-- Steps that ask to leave the loop at one item, and write to its variables. -/
def leavingAtTwo : Block :=
  [⟨"leave", some "{item} == 2", .stop, none, none, none, none, .leave⟩,
    ⟨"spoil", none, .stop, none, none, none, none, .set "item" (.int 9) false⟩,
    ⟨"lose", none, .stop, none, none, none, none, .set "i" (.int 9) false⟩]

/-- The second of three items ends the loop; both passes begin with their own item and position. -/
theorem act_foreach_passes_left : ∃ passes : List (LoopPass Unit),
    passes.length = 2 ∧
      (∀ (k : Nat) (p : LoopPass Unit), passes[k]? = some p →
        ([.int 1, .int 2, .int 3] : List Value)[k]? = p.start.progress.vars.find? "item" ∧
          p.start.progress.vars.find? "i" = some (.int k)) ∧
      (act (bareSetting 10) loopStep (.foreach overNumbers leavingAtTwo) "loop" 0 fresh).1 =
        .ok (ForeachSummary.toValue ⟨2, 1, true⟩) := by
  obtain ⟨passes, hlog, hends⟩ :=
    act_foreach_passes (bareSetting 10) loopStep overNumbers leavingAtTwo "loop" 0 fresh
  have hlog' : (foreachLoop .insertion loopSite overNumbers
      (logged (block (bareSetting 10) leavingAtTwo "loop")) (fresh.paired [])).2.world.2 = passes :=
    congrArg (·.2.world.2) hlog
  have hlength : passes.length = 2 := by rw [← hlog']; decide +kernel
  have hok : ∀ p ∈ passes, p.result = .ok () := by rw [← hlog']; decide +kernel
  have hleaves : passes.getLast?.any (fun p => decide p.Leaves) = true := by
    rw [← hlog']; decide +kernel
  have hresolve : Loop.resolveItems fresh.progress.vars overNumbers.items =
      .ok [.int 3, .int 0, .int 1, .int 2] := by decide +kernel
  have hchosen : overNumbers.chosen .insertion fresh.progress.vars
      [.int 3, .int 0, .int 1, .int 2] = some [.int 1, .int 2, .int 3] := by decide +kernel
  rw [hresolve] at hends
  obtain ⟨-, hends⟩ := hends
  have hsorter : (bareSetting 10).sorter = .insertion := rfl
  rw [hsorter, hchosen] at hends
  obtain ⟨hpasses, -, -, -, hcounts⟩ := hends
  refine ⟨passes, hlength, fun k p hk => ?_, ?_⟩
  · obtain ⟨-, item, hitem, -, hindex, hbound⟩ := hpasses k p hk
    exact ⟨hitem.trans (hbound (by decide)).symm, hindex⟩
  · obtain ⟨⟨iterations, completed, broken⟩, hend, hiterations, hsum, hbroken⟩ := hcounts hok
    have hlast : ∃ p, passes.getLast? = some p ∧ p.Leaves := by
      obtain ⟨hsome, hlast⟩ := (Option.any_eq_true_iff_get _ _).1 hleaves
      exact ⟨_, (Option.some_get hsome).symm, of_decide_eq_true hlast⟩
    obtain rfl : broken = true := hbroken.2 hlast
    obtain rfl : iterations = 2 := hiterations.trans hlength
    obtain rfl : completed = 1 := (Nat.succ.inj hsum).symm
    exact hend

end Run

end Runbook
