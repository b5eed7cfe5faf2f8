import Mathlib.Data.List.Sort
import Lamplighter.Proofs.Run.Timely

/-!
# Upcoming: the cues of an agenda in the order in which they are taken

* `order`           the cues of a line in the order in which they are taken: those with fewer turns to let
                    pass first, and of these the first in the line;
* `order_takeLine`  taking a cue takes the first of them;
* `upcoming`        the cues of the line, and behind them the timed ones;
* `upcoming_next`   taking the next cue takes the first of all that are upcoming, whichever cues one
                    looks at: of some of them it is the first, or none of them.
-/

namespace Lamplighter.Agenda

/-! ### Places in an order -/

section Slot

variable {β κ : Type} [LinearOrder κ] (key : β → κ)

/-- a place behind all that a key does not come before -/
def slot (k : κ) (b : β) : List β → List β
  | [] => [b]
  | a :: rest => if key a ≤ k then a :: slot k b rest else b :: a :: rest

lemma orderedInsert_slot (a b : β) (list : List β) :
    List.orderedInsert (fun a b => key a ≤ key b) a (slot key (key b) b list)
      = slot key (key b) b (List.orderedInsert (fun a b => key a ≤ key b) a list) := by
  induction list with
  | nil =>
    rw [slot, List.orderedInsert_cons, List.orderedInsert_nil, slot]
    split <;> rfl
  | cons first list ih =>
    by_cases hfirst : key first ≤ key b
    · rw [slot, if_pos hfirst, List.orderedInsert_cons, List.orderedInsert_cons]
      split
      · rename_i ha
        rw [slot, if_pos (le_trans ha hfirst), slot, if_pos hfirst]
      · rw [ih, slot, if_pos hfirst]
    · rw [slot, if_neg hfirst, List.orderedInsert_cons, List.orderedInsert_cons]
      by_cases hab : key a ≤ key b
      · rw [if_pos hab, if_pos (hab.trans (not_le.mp hfirst).le), slot, if_pos hab, slot, if_neg hfirst]
      · rw [if_neg hab]
        split
        · rw [slot, if_neg hab]
        · rw [slot, if_neg hfirst]

/-- the last of some goes behind all that it does not come before -/
lemma insertionSort_concat (b : β) (list : List β) :
    (list ++ [b]).insertionSort (fun a b => key a ≤ key b)
      = slot key (key b) b (list.insertionSort fun a b => key a ≤ key b) := by
  induction list with
  | nil => rfl
  | cons a list ih =>
    show List.orderedInsert _ a ((list ++ [b]).insertionSort _) = _
    rw [ih, orderedInsert_slot]
    rfl

end Slot

variable {α : Type} {agenda rest : Agenda α} {line : List (Pending α)} {cue : α} {p : α → Bool}

/-! ### The order of a line -/

/-- the line, those with fewer turns to let pass first -/
def sorted (line : List (Pending α)) : List (Pending α) :=
  line.insertionSort fun a b => a.turns ≤ b.turns

def order (line : List (Pending α)) : List α :=
  (sorted line).map (·.cue)

@[simp] lemma order_nil : order ([] : List (Pending α)) = [] := rfl

lemma perm_order (line : List (Pending α)) : (order line).Perm (line.map (·.cue)) :=
  (List.perm_insertionSort _ line).map _

/-- cues with the same turns are taken as they stand in the line -/
lemma order_of_turns (turns : Nat) (h : ∀ a ∈ line, a.turns = turns) :
    order line = line.map (·.cue) := by
  unfold order sorted
  rw [List.Pairwise.insertionSort_eq]
  refine List.pairwise_of_forall_mem_list fun a ha b hb => ?_
  rw [h a ha, h b hb]

lemma cues_slot (turns : Nat) {a b : Pending α} (h : a.cue = b.cue) (line : List (Pending α)) :
    (slot (·.turns) turns a line).map (·.cue) = (slot (·.turns) turns b line).map (·.cue) := by
  induction line with
  | nil => simp [slot, h]
  | cons first line ih =>
    unfold slot
    split
    · simp [ih]
    · simp [h]

lemma sorted_cons_succ (turns : Nat) (cue : α) (line : List (Pending α)) :
    sorted (⟨turns + 1, cue⟩ :: line) = slot (·.turns) turns ⟨turns + 1, cue⟩ (sorted line) := by
  show List.orderedInsert _ _ (sorted line) = _
  induction sorted line with
  | nil => rfl
  | cons a rest ih =>
    rw [List.orderedInsert_cons, slot, ih]
    by_cases ha : a.turns ≤ turns
    · rw [if_neg (by show ¬ turns + 1 ≤ a.turns; omega), if_pos ha]
    · rw [if_pos (by show turns + 1 ≤ a.turns; omega), if_neg ha]

/-- the first of the order is taken -/
theorem order_takeLine {left : List (Pending α)} (h : takeLine line = some (cue, left)) :
    order line = cue :: order left := by
  fun_induction takeLine line with
  | case1 => cases h
  | case2 first rest =>
    obtain ⟨rfl, rfl⟩ := Prod.mk.inj (Option.some.inj h)
    have hfirst : sorted (⟨0, first⟩ :: rest) = ⟨0, first⟩ :: sorted rest :=
      List.insertionSort_cons_of_forall_rel _ fun a _ => Nat.zero_le a.turns
    rw [order, hfirst]
    rfl
  | case3 turns first rest ih =>
    -- a cue that goes to the end of the line with one turn less keeps its place in the order
    have hslot := cues_slot turns (show (⟨turns + 1, first⟩ : Pending α).cue
      = (⟨turns, first⟩ : Pending α).cue from rfl) (sorted rest)
    have hsorted : sorted (rest ++ [⟨turns, first⟩])
        = slot (·.turns) turns ⟨turns, first⟩ (sorted rest) :=
      insertionSort_concat (fun a : Pending _ => a.turns) _ rest
    rw [← ih h, order, order, sorted_cons_succ, hsorted, hslot]

/-! ### Some of the cues -/

lemma filter_orderedInsert (a : Pending α) {line : List (Pending α)}
    (h : line.Pairwise fun a b => a.turns ≤ b.turns) (q : Pending α → Bool) :
    (List.orderedInsert (fun a b : Pending α => a.turns ≤ b.turns) a line).filter q
      = if q a then List.orderedInsert (fun a b : Pending α => a.turns ≤ b.turns) a (line.filter q)
        else line.filter q := by
  induction line with
  | nil => cases hq : q a <;> simp [hq]
  | cons first line ih =>
    obtain ⟨hfirst, hline⟩ := List.pairwise_cons.mp h
    rw [List.orderedInsert_cons]
    by_cases ha : a.turns ≤ first.turns
    · have hall : ∀ b ∈ (first :: line).filter q, a.turns ≤ b.turns := by
        intro b hb
        rcases List.mem_cons.mp (List.mem_filter.mp hb).1 with rfl | hb
        · exact ha
        · exact le_trans ha (hfirst b hb)
      rw [if_pos ha, List.filter_cons]
      split
      · cases hcues : (first :: line).filter q with
        | nil => rfl
        | cons b rest =>
          have hb : a.turns ≤ b.turns := hall b (by rw [hcues]; exact List.mem_cons_self ..)
          rw [List.orderedInsert_cons, if_pos hb]
      · rfl
    · rw [if_neg ha, List.filter_cons, ih hline, List.filter_cons]
      cases hfirst : q first with
      | false => rfl
      | true =>
        simp only [if_true, List.orderedInsert_cons, if_neg ha]
        split <;> rfl

lemma filter_sorted (q : Pending α → Bool) (line : List (Pending α)) :
    (sorted line).filter q = sorted (line.filter q) := by
  induction line with
  | nil => rfl
  | cons a line ih =>
    have hsorted : (sorted line).Pairwise fun a b => a.turns ≤ b.turns :=
      List.pairwise_insertionSort _ line
    show (List.orderedInsert _ a (sorted line)).filter q = _
    rw [filter_orderedInsert a hsorted, ih, List.filter_cons]
    split <;> rfl

/-- of some of the cues the order is that in which they would be taken without the others -/
lemma filter_order (p : α → Bool) (line : List (Pending α)) :
    (order line).filter p = order (line.filter fun a => p a.cue) := by
  unfold order
  rw [List.filter_map, ← filter_sorted]
  rfl

/-! ### What is upcoming -/

/-- the cues in the order in which they are taken, if no more are set -/
def upcoming (agenda : Agenda α) : List α :=
  order agenda.line ++ agenda.timers.map (·.entry.cue)

lemma filter_upcoming (p : α → Bool) (agenda : Agenda α) :
    agenda.upcoming.filter p = (agenda.only p).upcoming := by
  unfold upcoming
  rw [List.filter_append, filter_order, List.filter_map]
  simp only [only, drop, Bool.not_not]
  rfl

lemma perm_upcoming (agenda : Agenda α) : agenda.upcoming.Perm agenda.cues :=
  (perm_order agenda.line).append_right _

/-- the timers of some cues that join the line, and those that stay -/
lemma only_joined (p : α → Bool) {now : Moment} (line : List (Pending α)) (timers : List (Timer α))
    (hline : line = (timers.filter (isDueAt now)).map (·.entry)) :
    line.filter (fun a => p a.cue)
      = ((timers.filter fun t => p t.entry.cue).filter (isDueAt now)).map (·.entry) := by
  rw [hline, List.filter_map, List.filter_filter, List.filter_filter]
  exact congrArg _ (List.filter_congr fun t _ => Bool.and_comm _ _)

/-- some of the timers, when all that are due join the line -/
lemma filter_isDueAt_append (now : Moment) {timers : List (Timer α)}
    (h : timers.Pairwise fun t t' => t.due ≤ t'.due) :
    timers.filter (isDueAt now) ++ timers.filter (fun t => !isDueAt now t) = timers := by
  obtain ⟨htaken, hleft⟩ := takeWhile_isDueAt now h
  rw [← htaken, ← hleft, List.takeWhile_append_dropWhile]

/-- what becomes of some of the cues, whose timers let the same turns pass, when the next cue is taken:
it is the first of them, or they stay in their order; and time goes on only if none of them is in the
line -/
theorem upcoming_next (h : agenda.IsOrdered) (hnext : agenda.next? = some (cue, rest)) {turns : Nat}
    (hturns : ∀ t ∈ (agenda.only p).timers, t.entry.turns = turns) :
    (agenda.only p).upcoming = (if p cue then [cue] else []) ++ (rest.only p).upcoming
      ∧ agenda.now ≤ rest.now
      ∧ (rest.only p).timers.Sublist (agenda.only p).timers
      ∧ ((agenda.only p).line ≠ [] →
          rest.now = agenda.now ∧ (rest.only p).timers = (agenda.only p).timers) := by
  have htaken : ∀ {line left : List (Pending α)}, takeLine line = some (cue, left) →
      order (line.filter fun a => p a.cue)
        = (if p cue then [cue] else []) ++ order (left.filter fun a => p a.cue) := by
    intro line left hline
    rw [← filter_order, ← filter_order, order_takeLine hline, List.filter_cons]
    split <;> rfl
  have honly : ∀ agenda : Agenda α, (agenda.only p).upcoming
      = order (agenda.line.filter fun a => p a.cue)
        ++ (agenda.timers.filter fun t => p t.entry.cue).map (·.entry.cue) := by
    intro agenda
    simp only [upcoming, only, drop, Bool.not_not]
  rw [honly, honly, timers_only, timers_only]
  rw [timers_only] at hturns
  unfold next? at hnext
  split at hnext
  · rename_i line hline
    obtain ⟨rfl, rfl⟩ := Prod.mk.inj (Option.some.inj hnext)
    exact ⟨by rw [htaken hline, List.append_assoc], le_refl _, .refl _, fun _ => ⟨rfl, rfl⟩⟩
  · rename_i hnone
    dsimp only at hnext
    split at hnext
    · rename_i line hline
      obtain ⟨rfl, rfl⟩ := Prod.mk.inj (Option.some.inj hnext)
      obtain ⟨now, hle, hnow, hjoined, hleft⟩ := advance_eq h (takeLine_eq_none_iff.mp hnone)
      have hempty : agenda.line = [] := takeLine_eq_none_iff.mp hnone
      have hown : (agenda.timers.filter fun t => p t.entry.cue).Pairwise
          fun t t' => t.due ≤ t'.due := h.filter _
      -- those that join the line let the same turns pass, and so they stay in their order
      have horder : order (agenda.advance.line.filter fun a => p a.cue)
          = ((agenda.timers.filter fun t => p t.entry.cue).filter (isDueAt now)).map
              (·.entry.cue) := by
        rw [only_joined p _ _ hjoined, order_of_turns turns, List.map_map]
        · rfl
        · intro a ha
          obtain ⟨t, ht, rfl⟩ := List.mem_map.mp ha
          exact hturns t (List.mem_filter.mp ht).1
      have hstay : (agenda.advance.timers.filter fun t => p t.entry.cue)
          = (agenda.timers.filter fun t => p t.entry.cue).filter fun t => !isDueAt now t := by
        rw [hleft, List.filter_filter, List.filter_filter]
        exact List.filter_congr fun t _ => Bool.and_comm _ _
      refine ⟨?_, hnow ▸ hle, ?_, ?_⟩
      · rw [hempty, List.filter_nil, order_nil, List.nil_append, ← List.append_assoc,
          ← htaken hline, horder]
        show _ = _ ++ (agenda.advance.timers.filter fun t => p t.entry.cue).map _
        rw [hstay, ← List.map_append, filter_isDueAt_append now hown]
      · show ((agenda.advance.timers.filter fun t => p t.entry.cue)).Sublist _
        rw [hstay]
        exact List.filter_sublist
      · intro hline
        simp [only, drop, hempty] at hline
    · cases hnext

end Lamplighter.Agenda
