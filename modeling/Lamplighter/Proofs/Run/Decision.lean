import Lamplighter.Proofs.Run.Conservation

/-!
# Decision: when a run stops looking for bulbs

The search ends with the first message that decides: an effect has ended and no named target is
left, or an idle interval has passed with nothing under way, no bulb having been acted on since an
earlier one passed.  The rule is about the messages that were handled, so bulbs that nobody wants do
not put the end off.

* `decides_unwanted`   an unwanted bulb among the messages makes no difference;
* `Ruled`              a run keeps to the rule;
* `Reached.ruled`      it does in every session that is reached.
-/

namespace Lamplighter

open Deeds

/-! ### Bulbs that nobody wants -/

section
variable {targets : Targets} {older newer : List Message} {bulb : Handle}

lemma after_unwanted (h : (targets.after (bulbs older)).isMatch bulb.name = false) :
    targets.after (bulbs (older ++ .seen bulb :: newer)) = targets.after (bulbs (older ++ newer)) := by
  have hcons : bulbs (.seen bulb :: newer) = bulb :: bulbs newer := rfl
  rw [bulbs_append, bulbs_append, hcons, Targets.after_append, Targets.after_append]
  show ((targets.after (bulbs older)).discard bulb.name).after (bulbs newer) = _
  rw [Targets.discard_of_not_isMatch h]

lemma picked_unwanted (h : (targets.after (bulbs older)).isMatch bulb.name = false) :
    targets.picked (bulbs (older ++ .seen bulb :: newer))
      = targets.picked (bulbs (older ++ newer)) := by
  have hcons : bulbs (.seen bulb :: newer) = bulb :: bulbs newer := rfl
  rw [bulbs_append, bulbs_append, hcons, Targets.picked_append, Targets.picked_append,
    Targets.picked, h, Targets.discard_of_not_isMatch h]
  rfl

/-- by induction on the messages behind the bulb, the last one first -/
lemma quiet_unwanted (h : (targets.after (bulbs older)).isMatch bulb.name = false) :
    Quiet targets (older ++ .seen bulb :: newer) ↔ Quiet targets (older ++ newer) := by
  induction newer using List.reverseRecOn with
  | nil =>
    have hnone : (targets.after (bulbs older)).picked (bulbs [.seen bulb]) = [] := by
      show (targets.after (bulbs older)).picked [bulb] = []
      rw [Targets.picked_singleton, h]
      rfl
    rw [quiet_concat_iff (by simp), List.append_nil]
    exact and_iff_left hnone
  | append_singleton newer m ih =>
    rw [← List.cons_append, ← List.append_assoc, ← List.append_assoc]
    by_cases hm : m = .tick
    · subst hm
      exact iff_of_true quiet_concat_tick quiet_concat_tick
    · rw [quiet_concat_iff hm, quiet_concat_iff hm, ih, after_unwanted h]

/-- an unwanted bulb among the messages does not change what decides -/
theorem decides_unwanted (h : (targets.after (bulbs older)).isMatch bulb.name = false)
    (m : Message) :
    Decides targets (older ++ .seen bulb :: newer) m ↔ Decides targets (older ++ newer) m := by
  cases m with
  | seen other => rfl
  | ended other isOk =>
    show _ = true ↔ _ = true
    rw [after_unwanted h]
  | tick =>
    have hends : ends (older ++ .seen bulb :: newer) = ends (older ++ newer) := by
      rw [ends_append, ends_append]
      rfl
    show Quiet _ _ ∧ underway _ _ = 0 ↔ Quiet _ _ ∧ underway _ _ = 0
    rw [quiet_unwanted h, underway, underway, picked_unwanted h, hends]

end

/-! ### The rule -/

/-- a run keeps to the rule that ends its search -/
structure Ruled (run : Run) (effects : List (Handle × Bool)) : Prop where
  /-- while the run looks for bulbs no message has decided -/
  looking : run.phase = .discovering → Undecided run.action.targets (handled run.deeds)
  /-- once it does not, the last message that it handled decided, and none before -/
  stopped : run.phase = .draining ∨ run.phase = .finished → ∃ before last,
    handled run.deeds = before ++ [last] ∧ Undecided run.action.targets before ∧
      Decides run.action.targets before last
  /-- what is under way is what was picked less what has ended -/
  underway : run.control.inFlight
    = underway run.action.targets (handled run.deeds) - (ends (cleared run.deeds)).length
  /-- a repeated serial is no message, and changes nothing -/
  repeated : ∀ bulb, bulb.serial ∈ (announced run.deeds).map Handle.serial →
    run.control.announce bulb = (run.control, none)
  /-- an unwanted bulb does not put the end off -/
  unwanted : ∀ older bulb newer m,
    (run.action.targets.after (bulbs older)).isMatch bulb.name = false →
    (Decides run.action.targets (older ++ .seen bulb :: newer) m ↔
      Decides run.action.targets (older ++ newer) m)
  /-- a run on all bulbs stops only at an idle interval, when all its effects have ended -/
  every : run.action.targets = .all → run.phase = .draining ∨ run.phase = .finished →
    (∃ before, handled run.deeds = before ++ [.tick]) ∧ AllEnded effects
  idleChecks : run.control.idleChecks = ticks (handled run.deeds)
  summary : ∀ summary, run.outcome = some (.ok summary) →
    summary.idleChecks = ticks (handled run.deeds)
  /-- messages are handled in the order in which they were queued -/
  order : queued run.deeds = handled run.deeds ++ cleared run.deeds ++ run.inbox
  /-- a wanted bulb that was queued ahead of the last message is acted on -/
  ahead : ∀ before last, handled run.deeds = before ++ [last] → ∀ older bulb newer,
    bulbs before = older ++ bulb :: newer →
    (run.action.targets.after older).isMatch bulb.name = true → bulb ∈ effects.map Prod.fst

lemma allEnded_of_length {effects : List (Handle × Bool)}
    (h : effects.length ≤ (ended effects).length) : AllEnded effects := by
  have hlength : (effects.filter (·.2)).length = effects.length := by
    rw [ended, List.length_map] at h
    exact Nat.le_antisymm (List.length_filter_le _ _) h
  exact List.length_filter_eq_length_iff.mp hlength

namespace Session

variable {ν : Type} [Network ν] {r : Nat} {s : Session ν}

/-- in every session that a run comes to without anything going wrong, it keeps to the rule -/
theorem Reached.ruled (h : Reached r s) {run : Run} (hrun : s.runs[r]? = some run)
    (hcalm : .aborted ∉ run.deeds) : Ruled run (s.effects r) := by
  have hsound := h.sound hrun
  have hbooks := hsound.booked.books
  have haborts : aborts run.deeds = 0 := by
    rw [aborts_eq_count]
    exact List.count_eq_zero.mpr hcalm
  have hmail : queued run.deeds = handled run.deeds ++ cleared run.deeds ++ run.inbox :=
    hsound.booked.mail
  have heffects : (s.effects r).map Prod.fst
      = run.action.targets.picked (bulbs (handled run.deeds)) := hsound.staffed.full (.inl haborts)
  have hstopped : run.phase = .draining ∨ run.phase = .finished → ∃ before last,
      handled run.deeds = before ++ [last] ∧ Undecided run.action.targets before ∧
        Decides run.action.targets before last := by
    intro hp
    have hlook : ¬ Undecided run.action.targets (handled run.deeds) := by
      intro hundecided
      have hfalse := (hsound.stopped hp).decided haborts
      exact absurd (hfalse.symm.trans (hbooks.isLooking.mpr hundecided)) (by decide)
    rcases List.eq_nil_or_concat (handled run.deeds) with hnil | ⟨before, last, heq⟩
    · rw [hnil] at hlook
      exact absurd undecided_nil hlook
    · rw [List.concat_eq_append] at heq
      have hbefore := hsound.booked.latest before last heq
      refine ⟨before, last, heq, hbefore, ?_⟩
      rw [heq, undecided_concat_iff] at hlook
      by_contra hnot
      exact hlook ⟨hbefore, hnot⟩
  refine ⟨?_, hstopped, hbooks.inFlight, ?_, ?_, ?_, hbooks.idleChecks, ?_, hmail, ?_⟩
  · intro hp
    exact hbooks.isLooking.mp (hsound.looks hp).looking
  · intro bulb hmem
    have hseen : bulb.serial ∈ run.control.seen := by
      have hserials : run.control.seen = (firsts (announced run.deeds)).map Handle.serial :=
        hsound.told.seen
      rw [hserials]
      exact serial_mem_firsts.mpr hmem
    exact if_pos hseen
  · intro older bulb newer m hm
    exact decides_unwanted hm m
  · intro hall hp
    obtain ⟨before, last, heq, _, hdecides⟩ := hstopped hp
    cases last with
    | seen bulb => exact hdecides.elim
    | ended bulb isOk =>
      have hexhausted : (run.action.targets.after (bulbs before)).isExhausted = true := hdecides
      rw [hall, Targets.after_all] at hexhausted
      cases hexhausted
    | tick =>
      refine ⟨⟨before, heq⟩, allEnded_of_length ?_⟩
      -- nothing is under way, so every effect that was dispatched has reported
      have hzero : underway run.action.targets before = 0 := hdecides.2
      have hless : (ends (handled run.deeds ++ cleared run.deeds)).length
          ≤ (ended (s.effects r)).length := hsound.length_ends_le
      have hlength := congrArg List.length heffects
      have hbulbs : bulbs (before ++ [.tick]) = bulbs before := by simp [bulbs, Message.bulb?]
      have hends : ends (before ++ [.tick]) = ends before := by simp [ends, Message.end?]
      rw [heq, ends_append, hends, List.length_append] at hless
      rw [heq, hbulbs, List.length_map] at hlength
      rw [underway] at hzero
      omega
  · intro summary hsum
    exact (hsound.summed summary hsum).2.idleChecks.trans hbooks.idleChecks
  · intro before last heq older bulb newer hbefore hmatch
    have hmet : bulbs (handled run.deeds) = older ++ bulb :: (newer ++ bulbs [last]) := by
      rw [heq, bulbs_append, hbefore]
      simp
    rw [heffects]
    exact (Targets.mem_picked_iff hsound.nodup_handled hmet).mpr hmatch

set_option maxRecDepth 100000 in
theorem ruled_hallAndAttic : ∃ run, hallAndAttic.runs[0]? = some run ∧ run.phase = .finished ∧
    .aborted ∉ run.deeds ∧ Ruled run (hallAndAttic.effects 0) := by
  have hvalues : hallAndAttic.runs[0]?.map (fun run => (run.phase, decide (.aborted ∈ run.deeds)))
      = some (.finished, false) := by decide +kernel
  obtain ⟨run, hrun, heq⟩ := Option.map_eq_some_iff.mp hvalues
  obtain ⟨hphase, hdeeds⟩ := Prod.mk.inj heq
  have hcalm : .aborted ∉ run.deeds := of_decide_eq_false hdeeds
  have hreached : Reached 0 hallAndAttic :=
    (Reached.start (alone_awaits _ _ _ _ _ _ _)).drive (fun _ => false) 60
  exact ⟨run, hrun, hphase, hcalm, hreached.ruled hrun hcalm⟩

end Session

end Lamplighter
