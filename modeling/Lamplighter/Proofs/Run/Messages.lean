import Mathlib.Data.List.Induction
import Mathlib.Tactic.Lemma
import Lamplighter.Run.Control

/-!
# Messages: what the books of a run come to

`Control.handle` keeps running books while messages come in.  Here the same figures are read off the
list of the messages, the earliest first:

* `bulbs ms`, `ends ms`, `ticks ms`   the bulbs that were seen, the effects that have ended with
                      whether they went well, and how many idle intervals have passed;
* `Targets.after`     the targets that are left when some bulbs have been met;
* `Targets.picked`    the bulbs among them that are acted on;
* `underway`          the effects that have started and not ended;
* `Quiet`             an idle interval has passed, and no bulb was acted on since;
* `Decides`           a message that ends the search for bulbs;
* `Undecided`         no message has ended the search.

`Control.Agrees` says that the books agree with the messages that were handled, and with those that
were cleared away when the search was over; `Agrees.handle` and `Agrees.settleAll` keep it.
-/

namespace Lamplighter

namespace Message

def bulb? : Message → Option Handle
  | .seen handle => some handle
  | _ => none

def end? : Message → Option (Handle × Bool)
  | .ended handle isOk => some (handle, isOk)
  | _ => none

def isTick : Message → Bool
  | .tick => true
  | _ => false

end Message

/-- the bulbs that were seen -/
def bulbs (ms : List Message) : List Handle :=
  ms.filterMap Message.bulb?

/-- the effects that have ended, each with whether it went well -/
def ends (ms : List Message) : List (Handle × Bool) :=
  ms.filterMap Message.end?

/-- how many idle intervals have passed -/
def ticks (ms : List Message) : Nat :=
  ms.countP Message.isTick

@[simp] theorem bulbs_append (l k : List Message) : bulbs (l ++ k) = bulbs l ++ bulbs k :=
  List.filterMap_append

@[simp] theorem ends_append (l k : List Message) : ends (l ++ k) = ends l ++ ends k :=
  List.filterMap_append

@[simp] theorem ticks_append (l k : List Message) : ticks (l ++ k) = ticks l + ticks k :=
  List.countP_append

/-! ### Targets and the bulbs that are met -/

namespace Targets

/-- the targets that are left when some bulbs have been met -/
def after (targets : Targets) (met : List Handle) : Targets :=
  met.foldl (fun t h => t.discard h.name) targets

/-- of the bulbs that are met, those that are acted on -/
def picked (targets : Targets) : List Handle → List Handle
  | [] => []
  | h :: rest =>
    (if targets.isMatch h.name then [h] else []) ++ (targets.discard h.name).picked rest

theorem discard_of_not_isMatch {targets : Targets} {name : String}
    (h : targets.isMatch name = false) : targets.discard name = targets := by
  cases targets with
  | all => rfl
  | named entries =>
    have hne : ∀ e ∈ entries, e.1 ≠ normalName name := by
      simpa [isMatch, hasNormal] using h
    show named (without entries (normalName name)) = named entries
    rw [without, List.filter_eq_self.mpr]
    intro e he
    simpa using hne e he

theorem after_append (targets : Targets) (l k : List Handle) :
    targets.after (l ++ k) = (targets.after l).after k :=
  List.foldl_append

theorem picked_append (targets : Targets) (l k : List Handle) :
    targets.picked (l ++ k) = targets.picked l ++ (targets.after l).picked k := by
  induction l generalizing targets with
  | nil => rfl
  | cons h l ih =>
    show _ ++ (targets.discard h.name).picked (l ++ k) = (_ ++ _) ++ _
    rw [ih, List.append_assoc]
    rfl

theorem picked_singleton (targets : Targets) (h : Handle) :
    targets.picked [h] = if targets.isMatch h.name then [h] else [] := by
  simp [picked]

theorem picked_sublist (targets : Targets) (l : List Handle) : (targets.picked l).Sublist l := by
  induction l generalizing targets with
  | nil => exact List.Sublist.slnil
  | cons h l ih =>
    show ((if targets.isMatch h.name then [h] else []) ++ _).Sublist _
    split
    · exact (ih _).cons_cons h
    · exact (ih _).cons h

@[simp] theorem after_all (l : List Handle) : after .all l = .all := by
  induction l with
  | nil => rfl
  | cons h l ih => exact ih

end Targets

/-- the effects that have started and not ended -/
def underway (targets : Targets) (ms : List Message) : Int :=
  (targets.picked (bulbs ms)).length - (ends ms).length

/-- an idle interval has passed, and no bulb was acted on since -/
def Quiet (targets : Targets) (ms : List Message) : Prop :=
  ∃ older newer, ms = older ++ .tick :: newer ∧
    (targets.after (bulbs older)).picked (bulbs newer) = []

/-- a message ends the search for bulbs, after those before it: an effect has ended and named
targets are exhausted, or an idle interval has passed with nothing under way and no bulb acted on
since the one before -/
def Decides (targets : Targets) (before : List Message) : Message → Prop
  | .seen _ => False
  | .ended _ _ => (targets.after (bulbs before)).isExhausted = true
  | .tick => Quiet targets before ∧ underway targets before = 0

/-- no message has ended the search -/
def Undecided (targets : Targets) (ms : List Message) : Prop :=
  ∀ before m rest, ms = before ++ m :: rest → ¬ Decides targets before m

/-! ### Quiet, and how the search goes on -/

section
variable {targets : Targets} {ms : List Message}

theorem not_quiet_nil : ¬ Quiet targets [] := by
  rintro ⟨older, newer, h, _⟩
  simp at h

theorem quiet_concat_tick : Quiet targets (ms ++ [.tick]) :=
  ⟨ms, [], rfl, rfl⟩

/-- a message that is no tick leaves a quiet run quiet unless it brings a bulb to act on -/
theorem quiet_concat_iff {m : Message} (hm : m ≠ .tick) :
    Quiet targets (ms ++ [m]) ↔
      Quiet targets ms ∧ (targets.after (bulbs ms)).picked (bulbs [m]) = [] := by
  constructor
  · rintro ⟨older, newer, heq, hnone⟩
    rcases List.eq_nil_or_concat newer with rfl | ⟨newer, last, rfl⟩
    · have h : m = .tick := by simpa using congrArg List.getLast? heq
      exact absurd h hm
    · rw [List.concat_eq_append, ← List.cons_append, ← List.append_assoc] at heq
      obtain ⟨rfl, hlast⟩ := List.append_inj' heq rfl
      obtain rfl : m = last := by simpa using hlast
      rw [List.concat_eq_append, bulbs_append, Targets.picked_append, List.append_eq_nil_iff] at hnone
      refine ⟨⟨older, newer, rfl, hnone.1⟩, ?_⟩
      rw [bulbs_append, Targets.after_append]
      exact hnone.2
  · rintro ⟨⟨older, newer, rfl, hnone⟩, hm⟩
    refine ⟨older, newer ++ [m], by simp, ?_⟩
    rw [bulbs_append, Targets.after_append] at hm
    rw [bulbs_append, Targets.picked_append, hnone]
    exact hm

theorem undecided_nil : Undecided targets [] := by
  intro before m rest h
  simp at h

theorem undecided_concat_iff {m : Message} :
    Undecided targets (ms ++ [m]) ↔ Undecided targets ms ∧ ¬ Decides targets ms m := by
  constructor
  · intro h
    exact ⟨fun before k rest heq => h before k (rest ++ [m]) (by simp [heq]), h ms m [] rfl⟩
  · rintro ⟨hold, hnew⟩ before k rest heq
    rcases List.eq_nil_or_concat rest with rfl | ⟨rest, last, rfl⟩
    · obtain ⟨rfl, hk⟩ := List.append_inj' heq rfl
      obtain rfl : m = k := by simpa using hk
      exact hnew
    · rw [List.concat_eq_append, ← List.cons_append, ← List.append_assoc] at heq
      obtain ⟨rfl, _⟩ := List.append_inj' heq rfl
      exact hold before k rest rfl

end

/-! ### The books -/

namespace Control

theorem handle_seen (control : Control) (bulb : Handle) :
    control.handle (.seen bulb) =
      ((control.match? bulb).1, if control.working.isMatch bulb.name then some bulb else none) := by
  by_cases h : control.working.isMatch bulb.name = true <;> simp [handle, match?, h]

theorem handle_ended (control : Control) (bulb : Handle) (isOk : Bool) :
    control.handle (.ended bulb isOk) = ({ control.settle bulb isOk with
      isLooking := control.isLooking && !control.working.isExhausted }, none) := by
  by_cases h : control.working.isExhausted = true <;> simp [handle, stopIfExhausted, settle, h]

/-- a message that brings a bulb to act on does not end the search -/
theorem isLooking_of_match {control : Control} {m : Message} {bulb : Handle}
    (hm : (control.handle m).2 = some bulb) :
    (control.handle m).1.isLooking = control.isLooking := by
  cases m with
  | seen bulb =>
    rw [handle_seen]
    unfold match?
    split <;> rfl
  | ended bulb isOk =>
    rw [handle_ended] at hm
    cases hm
  | tick => cases hm

theorem settleAll_seen (control : Control) (messages : List Message) :
    (control.settleAll messages).seen = control.seen := by
  induction messages generalizing control with
  | nil => rfl
  | cons m messages ih =>
    refine (ih _).trans ?_
    cases m <;> rfl

/-- the books agree with the messages that were handled and with those that were cleared away -/
structure Agrees (control : Control) (targets : Targets) (ms late : List Message) : Prop where
  working : control.working = targets.after (bulbs ms)
  matched : control.matched = (targets.picked (bulbs ms)).map Handle.name
  inFlight : control.inFlight = underway targets ms - (ends late).length
  failed : control.failed = ((ends (ms ++ late)).filter fun e => !e.2).map fun e => e.1.name
  idleChecks : control.idleChecks = ticks ms
  isAlive : control.isAlive = true ↔ ¬ Quiet targets ms
  isLooking : control.isLooking = true ↔ Undecided targets ms

theorem agrees_nil (targets : Targets) : Agrees { working := targets } targets [] [] where
  working := rfl
  matched := rfl
  inFlight := rfl
  failed := rfl
  idleChecks := rfl
  isAlive := by simp [not_quiet_nil]
  isLooking := by simp [undecided_nil]

section
variable {control : Control} {targets : Targets} {ms late : List Message}

/-- an announcement does not touch the figures -/
theorem Agrees.announce (h : control.Agrees targets ms late) (bulb : Handle) :
    (control.announce bulb).1.Agrees targets ms late := by
  unfold Control.announce
  split
  · exact h
  · exact ⟨h.working, h.matched, h.inFlight, h.failed, h.idleChecks, h.isAlive, h.isLooking⟩

theorem Agrees.seen (h : control.Agrees targets ms []) (bulb : Handle) :
    (control.match? bulb).1.Agrees targets (ms ++ [.seen bulb]) [] := by
  have hquiet : Quiet targets (ms ++ [.seen bulb]) ↔ _ := quiet_concat_iff (by simp)
  have hpick : (targets.after (bulbs ms)).picked (bulbs [.seen bulb])
      = if control.working.isMatch bulb.name then [bulb] else [] := by
    rw [h.working]
    exact Targets.picked_singleton _ _
  have hbulbs : bulbs (ms ++ [.seen bulb]) = bulbs ms ++ [bulb] := bulbs_append _ _
  have hends : ends (ms ++ [.seen bulb]) = ends ms := by simp [ends, Message.end?]
  have hticks : ticks (ms ++ [.seen bulb]) = ticks ms := by simp [ticks, Message.isTick]
  have hlook : Undecided targets (ms ++ [.seen bulb]) ↔ Undecided targets ms := by
    simp [undecided_concat_iff, Decides]
  have hafter : targets.after (bulbs (ms ++ [.seen bulb])) = control.working.discard bulb.name := by
    rw [hbulbs, Targets.after_append, h.working]
    rfl
  have hall : targets.picked (bulbs (ms ++ [.seen bulb]))
      = targets.picked (bulbs ms)
        ++ if control.working.isMatch bulb.name then [bulb] else [] := by
    rw [bulbs_append, Targets.picked_append, hpick]
  have hfailed : control.failed
      = ((ends (ms ++ [.seen bulb] ++ [])).filter fun e => !e.2).map fun e => e.1.name := by
    rw [h.failed, List.append_nil, List.append_nil, hends]
  rw [hpick] at hquiet
  unfold match?
  split
  · rename_i hmatch
    rw [if_pos hmatch] at hall hquiet
    refine ⟨hafter.symm, ?_, ?_, hfailed, ?_, ?_, ?_⟩
    · show control.matched ++ [bulb.name] = _
      rw [hall, h.matched, List.map_append]
      rfl
    · show control.inFlight + 1 = _
      rw [underway, hall, hends, h.inFlight, underway, List.length_append, List.length_singleton]
      push_cast
      omega
    · show control.idleChecks = _
      rw [hticks, h.idleChecks]
    · simp [hquiet]
    · show control.isLooking = true ↔ _
      rw [hlook, h.isLooking]
  · rename_i hmatch
    rw [if_neg hmatch] at hall hquiet
    rw [Targets.discard_of_not_isMatch (by simpa using hmatch)] at hafter
    rw [List.append_nil] at hall
    refine ⟨hafter.symm, ?_, ?_, hfailed, ?_, ?_, ?_⟩
    · rw [hall, h.matched]
    · rw [underway, hall, hends, h.inFlight, underway]
    · rw [hticks, h.idleChecks]
    · simp [hquiet, h.isAlive]
    · rw [hlook, h.isLooking]

theorem Agrees.settle (h : control.Agrees targets ms []) (bulb : Handle) (isOk : Bool) :
    { control.settle bulb isOk with
      isLooking := control.isLooking && !control.working.isExhausted }.Agrees
      targets (ms ++ [Message.ended bulb isOk]) [] := by
  have hquiet : Quiet targets (ms ++ [.ended bulb isOk]) ↔ _ := quiet_concat_iff (by simp)
  have hbulbs : bulbs (ms ++ [.ended bulb isOk]) = bulbs ms := by simp [bulbs, Message.bulb?]
  have hends : ends (ms ++ [.ended bulb isOk]) = ends ms ++ [(bulb, isOk)] := ends_append _ _
  have hticks : ticks (ms ++ [.ended bulb isOk]) = ticks ms := by simp [ticks, Message.isTick]
  refine ⟨?_, ?_, ?_, ?_, ?_, ?_, ?_⟩
  · rw [hbulbs]
    exact h.working
  · rw [hbulbs]
    exact h.matched
  · show control.inFlight - 1 = _
    rw [underway, hbulbs, hends, h.inFlight, underway, List.length_append, List.length_singleton]
    push_cast
    omega
  · show (if isOk then control.failed else control.failed ++ [bulb.name]) = _
    rw [List.append_nil, hends, h.failed, List.append_nil]
    cases isOk <;> simp
  · show control.idleChecks = _
    rw [hticks, h.idleChecks]
  · show control.isAlive = true ↔ _
    have hnone : bulbs [.ended bulb isOk] = [] := rfl
    rw [hquiet, h.isAlive, hnone]
    simp [Targets.picked]
  · simp [undecided_concat_iff, h.isLooking, h.working, Decides]

theorem Agrees.tick (h : control.Agrees targets ms []) :
    control.tick.Agrees targets (ms ++ [.tick]) [] := by
  have hbulbs : bulbs (ms ++ [.tick]) = bulbs ms := by simp [bulbs, Message.bulb?]
  have hends : ends (ms ++ [.tick]) = ends ms := by simp [ends, Message.end?]
  have hquiet : control.isAlive = false ↔ Quiet targets ms := by
    rw [← Bool.not_eq_true, h.isAlive, not_not]
  have hflight : control.inFlight = underway targets ms := by simpa [ends] using h.inFlight
  have hlook : Undecided targets (ms ++ [.tick]) ↔
      control.isLooking = true ∧ ¬ (control.isAlive = false ∧ control.inFlight = 0) := by
    rw [undecided_concat_iff, h.isLooking, hquiet, hflight]
    rfl
  have hstop : (!control.isAlive && control.inFlight == 0) = true ↔
      control.isAlive = false ∧ control.inFlight = 0 := by
    simp
  unfold Control.tick
  by_cases hc : control.isAlive = false ∧ control.inFlight = 0
  · rw [if_pos (hstop.mpr hc)]
    refine ⟨?_, ?_, ?_, ?_, ?_, ?_, ?_⟩
    · rw [hbulbs]
      exact h.working
    · rw [hbulbs]
      exact h.matched
    · rw [underway, hbulbs, hends]
      exact h.inFlight
    · rw [List.append_nil, hends]
      simpa using h.failed
    · show control.idleChecks + 1 = _
      rw [ticks_append, h.idleChecks]
      rfl
    · simp [quiet_concat_tick, hc.1]
    · simp [hlook, hc]
  · rw [if_neg (fun hs => hc (hstop.mp hs))]
    refine ⟨?_, ?_, ?_, ?_, ?_, ?_, ?_⟩
    · rw [hbulbs]
      exact h.working
    · rw [hbulbs]
      exact h.matched
    · rw [underway, hbulbs, hends]
      exact h.inFlight
    · rw [List.append_nil, hends]
      simpa using h.failed
    · show control.idleChecks + 1 = _
      rw [ticks_append, h.idleChecks]
      rfl
    · simp [quiet_concat_tick]
    · show control.isLooking = true ↔ _
      rw [hlook]
      exact ⟨fun hl => ⟨hl, hc⟩, fun hl => hl.1⟩

/-- handling a message keeps the books in agreement -/
theorem Agrees.handle (h : control.Agrees targets ms []) (m : Message) :
    (control.handle m).1.Agrees targets (ms ++ [m]) [] := by
  cases m with
  | seen bulb =>
    rw [handle_seen]
    exact h.seen bulb
  | ended bulb isOk =>
    rw [handle_ended]
    exact h.settle bulb isOk
  | tick => exact h.tick

/-- clearing the inbox away keeps the books in agreement -/
theorem Agrees.settleAll (h : control.Agrees targets ms late) (more : List Message) :
    (control.settleAll more).Agrees targets ms (late ++ more) := by
  induction more generalizing control late with
  | nil =>
    rw [List.append_nil]
    exact h
  | cons m more ih =>
    rw [← List.singleton_append, ← List.append_assoc]
    have hsame : ends [m] = [] → control.Agrees targets ms (late ++ [m]) := by
      intro hm
      have hends : ends (late ++ [m]) = ends late := by rw [ends_append, hm, List.append_nil]
      refine ⟨h.working, h.matched, ?_, ?_, h.idleChecks, h.isAlive, h.isLooking⟩
      · rw [hends]
        exact h.inFlight
      · rw [ends_append, hends, ← ends_append]
        exact h.failed
    apply ih
    cases m with
    | ended bulb isOk =>
      have hends : ends (late ++ [.ended bulb isOk]) = ends late ++ [(bulb, isOk)] := ends_append _ _
      refine ⟨h.working, h.matched, ?_, ?_, h.idleChecks, h.isAlive, h.isLooking⟩
      · show control.inFlight - 1 = _
        rw [hends, h.inFlight, List.length_append, List.length_singleton]
        push_cast
        omega
      · show (if isOk then control.failed else control.failed ++ [bulb.name]) = _
        rw [ends_append, hends, h.failed, ends_append]
        cases isOk <;> simp
    | seen bulb => exact hsame rfl
    | tick => exact hsame rfl

end

end Control

end Lamplighter
