import Mathlib.Data.List.Basic
import Mathlib.Tactic.Lemma
import Lamplighter.Bulb.Basic
import Lamplighter.Event.Basic

/-!
# Stories: what a run tells from its first event to its last

* `IsTale`          what is told of one effect: that the bulb is matched, then reports, and at last that
                    it has failed, if it has;
* `Covers`          what is told of some effects, one after the other and in between, is a tale of each;
* `Covers.begin`, `Covers.report`, `Covers.fail`, `Covers.finish`   so it stays when an effect starts,
                    reports, fails or ends;
* `StartsOnce`      the first event says that a run starts, and no other one does;
* `Story`           the events of a run, those of its bulbs each with the effect that it is about;
* `Story.IsOf`      the first event says that the run starts, the last one that it has finished, and what
                    is told in between is about its effects, but for reports that come before and after.
-/

namespace Lamplighter

/-- what is told of bulbs, each event with the place of the effect that it is about -/
abbrev Tales := List (Nat × Event)

namespace Tales

/-- what is told of one effect -/
def about (tales : Tales) (i : Nat) : List Event :=
  (tales.filter fun tale => tale.1 == i).map Prod.snd

def ofKind (tales : Tales) (kind : EventKind) : Tales :=
  tales.filter fun tale => tale.2.kind == kind

@[simp] lemma about_concat (tales : Tales) (i j : Nat) (event : Event) :
    about (tales ++ [(j, event)]) i = tales.about i ++ if j = i then [event] else [] := by
  unfold about
  by_cases h : j = i <;> simp [h]

@[simp] lemma ofKind_concat (tales : Tales) (kind : EventKind) (j : Nat) (event : Event) :
    ofKind (tales ++ [(j, event)]) kind
      = tales.ofKind kind ++ if event.kind = kind then [(j, event)] else [] := by
  unfold ofKind
  by_cases h : event.kind = kind <;> simp [h]

end Tales

/-- what is told of one effect: the bulb is matched, there are reports, and at last it has failed,
unless it has not; only of an effect that is over it is said that it has failed -/
structure IsTale (handle : Handle) (isOver : Bool) (events : List Event) : Prop where
  order : ∃ matched reports failed, events = matched :: (reports ++ failed) ∧
    matched.kind = .deviceMatched ∧ (∀ event ∈ reports, event.kind = .deviceReport) ∧
    (∀ event ∈ failed, event.kind = .deviceFailed) ∧ failed.length ≤ isOver.toNat
  named : ∀ event ∈ events, event.device = some handle.name

/-- what is told of some effects, each with whether it is over, is a tale of each -/
structure Covers (tales : Tales) (effects : List (Handle × Bool)) : Prop where
  within : ∀ tale ∈ tales, tale.1 < effects.length
  matched : (tales.ofKind .deviceMatched).map Prod.fst = List.range effects.length
  each : ∀ i handle isOver, effects[i]? = some (handle, isOver) → IsTale handle isOver (tales.about i)

/-- the bulbs that are said to have failed -/
def Blames (tales : Tales) (handles : List Handle) : Prop :=
  (tales.ofKind .deviceFailed).map (fun tale => tale.2.device) = handles.map fun h => some h.name

variable {tales : Tales} {effects : List (Handle × Bool)} {handles : List Handle} {i : Nat}
  {handle : Handle} {event : Event}

lemma IsTale.ends {events : List Event} (h : IsTale handle false events) :
    IsTale handle true events := by
  obtain ⟨matched, reports, failed, heq, hmatched, hreports, hfailed, hlength⟩ := h.order
  exact ⟨⟨matched, reports, failed, heq, hmatched, hreports, hfailed, Nat.le_succ_of_le hlength⟩,
    h.named⟩

lemma IsTale.report {events : List Event} (h : IsTale handle false events)
    (hkind : event.kind = .deviceReport) (hdevice : event.device = some handle.name) :
    IsTale handle false (events ++ [event]) := by
  obtain ⟨matched, reports, failed, rfl, hmatched, hreports, -, hlength⟩ := h.order
  obtain rfl := List.eq_nil_of_length_eq_zero (Nat.le_zero.mp hlength)
  refine ⟨⟨matched, reports ++ [event], [], by simp, hmatched, ?_, by simp, hlength⟩, ?_⟩
  · simpa [or_imp, forall_and, hkind] using hreports
  · simpa [or_imp, forall_and, hdevice] using h.named

lemma IsTale.fail {events : List Event} (h : IsTale handle false events)
    (hkind : event.kind = .deviceFailed) (hdevice : event.device = some handle.name) :
    IsTale handle true (events ++ [event]) := by
  obtain ⟨matched, reports, failed, rfl, hmatched, hreports, -, hlength⟩ := h.order
  obtain rfl := List.eq_nil_of_length_eq_zero (Nat.le_zero.mp hlength)
  refine ⟨⟨matched, reports, [event], by simp, hmatched, hreports, by simp [hkind], Nat.le_refl 1⟩, ?_⟩
  simpa [or_imp, forall_and, hdevice] using h.named

namespace Covers

lemma nil : Covers [] [] :=
  ⟨by simp, rfl, by simp⟩

lemma lt_length (hi : effects[i]? = some (handle, false)) : i < effects.length :=
  (List.getElem?_eq_some_iff.mp hi).1

/-- a bulb is matched, and its effect starts -/
theorem begin (h : Covers tales effects) (hkind : event.kind = .deviceMatched)
    (hdevice : event.device = some handle.name) :
    Covers (tales ++ [(effects.length, event)]) (effects ++ [(handle, false)]) := by
  have hnone : tales.about effects.length = [] := by
    unfold Tales.about
    rw [List.map_eq_nil_iff, List.filter_eq_nil_iff]
    intro tale hmem hown
    exact absurd (beq_iff_eq.mp hown) (Nat.ne_of_lt (h.within tale hmem))
  refine ⟨?_, ?_, ?_⟩
  · intro tale hmem
    rw [List.length_append]
    rcases List.mem_append.mp hmem with hold | hnew
    · exact Nat.lt_succ_of_lt (h.within tale hold)
    · obtain rfl := List.mem_singleton.mp hnew
      exact Nat.lt_succ_self _
  · rw [Tales.ofKind_concat, if_pos hkind, List.map_append, h.matched, List.length_append]
    exact List.range_succ.symm
  · intro i handle' isOver hi
    rw [Tales.about_concat]
    by_cases hlast : effects.length = i
    · subst hlast
      rw [List.getElem?_concat_length] at hi
      obtain ⟨rfl, rfl⟩ := Prod.mk.inj (Option.some.inj hi)
      rw [hnone, if_pos rfl]
      exact ⟨⟨event, [], [], rfl, hkind, by simp, by simp, Nat.le_refl 0⟩, by simp [hdevice]⟩
    · have hlt : i < effects.length := by
        have hbound := (List.getElem?_eq_some_iff.mp hi).1
        rw [List.length_append, List.length_singleton] at hbound
        omega
      rw [List.getElem?_append_left hlt] at hi
      rw [if_neg hlast, List.append_nil]
      exact h.each i handle' isOver hi

/-- an effect that is not over tells something -/
lemma tell (h : Covers tales effects) (hi : effects[i]? = some (handle, false)) {isOver : Bool}
    (htale : IsTale handle isOver (tales.about i ++ [event])) (hkind : event.kind ≠ .deviceMatched) :
    Covers (tales ++ [(i, event)]) (effects.set i (handle, isOver)) := by
  have hlt := lt_length hi
  refine ⟨?_, ?_, ?_⟩
  · intro tale hmem
    rw [List.length_set]
    rcases List.mem_append.mp hmem with hold | hnew
    · exact h.within tale hold
    · obtain rfl := List.mem_singleton.mp hnew
      exact hlt
  · rw [Tales.ofKind_concat, if_neg hkind, List.append_nil, List.length_set]
    exact h.matched
  · intro j handle' isOver' hj
    rw [Tales.about_concat]
    by_cases hji : i = j
    · subst hji
      rw [List.getElem?_set_self hlt] at hj
      obtain ⟨rfl, rfl⟩ := Prod.mk.inj (Option.some.inj hj)
      rw [if_pos rfl]
      exact htale
    · rw [List.getElem?_set_ne hji] at hj
      rw [if_neg hji, List.append_nil]
      exact h.each j handle' isOver' hj

theorem report (h : Covers tales effects) (hi : effects[i]? = some (handle, false))
    (hkind : event.kind = .deviceReport) (hdevice : event.device = some handle.name) :
    Covers (tales ++ [(i, event)]) effects := by
  have htold := h.tell hi ((h.each i handle false hi).report hkind hdevice) (by simp [hkind])
  obtain ⟨hlt, hget⟩ := List.getElem?_eq_some_iff.mp hi
  rwa [← hget, List.set_getElem_self] at htold

theorem fail (h : Covers tales effects) (hi : effects[i]? = some (handle, false))
    (hkind : event.kind = .deviceFailed) (hdevice : event.device = some handle.name) :
    Covers (tales ++ [(i, event)]) (effects.set i (handle, true)) :=
  h.tell hi ((h.each i handle false hi).fail hkind hdevice) (by simp [hkind])

/-- an effect ends, and nothing is told of it -/
theorem finish (h : Covers tales effects) (hi : effects[i]? = some (handle, false)) :
    Covers tales (effects.set i (handle, true)) := by
  refine ⟨?_, ?_, ?_⟩
  · intro tale hmem
    rw [List.length_set]
    exact h.within tale hmem
  · rw [List.length_set]
    exact h.matched
  · intro j handle' isOver' hj
    by_cases hji : i = j
    · subst hji
      rw [List.getElem?_set_self (lt_length hi)] at hj
      obtain ⟨rfl, rfl⟩ := Prod.mk.inj (Option.some.inj hj)
      exact (h.each i handle false hi).ends
    · rw [List.getElem?_set_ne hji] at hj
      exact h.each j handle' isOver' hj

end Covers

lemma Blames.of_ne (h : Blames tales handles) (hkind : event.kind ≠ .deviceFailed) :
    Blames (tales ++ [(i, event)]) handles := by
  rw [Blames, Tales.ofKind_concat, if_neg hkind, List.append_nil]
  exact h

lemma Blames.fail (h : Blames tales handles) (hkind : event.kind = .deviceFailed)
    (hdevice : event.device = some handle.name) :
    Blames (tales ++ [(i, event)]) (handles ++ [handle]) := by
  rw [Blames, Tales.ofKind_concat, if_pos hkind, List.map_append, List.map_append, h]
  simp [hdevice]

/-! ### The start -/

/-- the first events of a run: it starts, and there may be reports that name no bulb -/
def IsOpening (opening : List Event) : Prop :=
  ∃ started misses, opening = started :: misses ∧ started.kind = .runStarted ∧
    ∀ event ∈ misses, event.kind = .deviceReport ∧ event.device = none

/-- the first event says that a run starts, and no other one does -/
def StartsOnce (events : List Event) : Prop :=
  ∃ started rest, events = started :: rest ∧ started.kind = .runStarted ∧
    ∀ event ∈ rest, event.kind ≠ .runStarted

/-- what is told of an effect does not say that a run starts -/
lemma Covers.kind_ne {tale : Nat × Event} (h : Covers tales effects) (hmem : tale ∈ tales) :
    tale.2.kind ≠ .runStarted := by
  obtain ⟨⟨handle, isOver⟩, hget⟩ : ∃ effect, effects[tale.1]? = some effect :=
    ⟨_, List.getElem?_eq_getElem (h.within tale hmem)⟩
  obtain ⟨matched, reports, failed, heq, hmatched, hreports, hfailed, -⟩ :=
    (h.each tale.1 handle isOver hget).order
  have habout : tale.2 ∈ tales.about tale.1 :=
    List.mem_map_of_mem (List.mem_filter.mpr ⟨hmem, beq_iff_eq.mpr rfl⟩)
  rw [heq] at habout
  rcases List.mem_cons.mp habout with hfirst | hlater
  · simp [hfirst, hmatched]
  · rcases List.mem_append.mp hlater with hreport | hfail
    · simp [hreports _ hreport]
    · simp [hfailed _ hfail]

lemma IsOpening.startsOnce {opening more : List Event} (h : IsOpening opening)
    (hcovers : Covers tales effects) (hmore : ∀ event ∈ more, event.kind ≠ .runStarted) :
    StartsOnce (opening ++ tales.map Prod.snd ++ more) := by
  obtain ⟨started, misses, rfl, hstarted, hmisses⟩ := h
  refine ⟨started, misses ++ tales.map Prod.snd ++ more, rfl, hstarted, ?_⟩
  intro event hmem
  rcases List.mem_append.mp hmem with htold | hlast
  · rcases List.mem_append.mp htold with hmiss | htale
    · simp [(hmisses event hmiss).1]
    · obtain ⟨tale, hin, rfl⟩ := List.mem_map.mp htale
      exact hcovers.kind_ne hin
  · exact hmore event hlast

/-! ### Stories -/

structure Story where
  started : Event
  /-- what is reported before a bulb is matched -/
  misses : List Event
  bulbs : Tales
  /-- what is reported when all is done -/
  saves : List Event
  finished : Event

namespace Story

def events (story : Story) : List Event :=
  story.started :: (story.misses ++ story.bulbs.map Prod.snd ++ story.saves ++ [story.finished])

/-- the story of a run that dispatched effects on some bulbs, of which some have failed -/
structure IsOf (story : Story) (bulbs : List Handle) (failed : List String) : Prop where
  started : story.started.kind = .runStarted
  finished : story.finished.kind = .runFinished
  /-- what is not of a bulb is a report -/
  nameless : ∀ event ∈ story.misses ++ story.saves, event.kind = .deviceReport ∧ event.device = none
  /-- what is of bulbs is about the effects -/
  within : ∀ tale ∈ story.bulbs, tale.1 < bulbs.length
  /-- each effect is announced once, in this order -/
  matched : (story.bulbs.ofKind .deviceMatched).map Prod.fst = List.range bulbs.length
  each : ∀ i handle, bulbs[i]? = some handle → IsTale handle true (story.bulbs.about i)
  failed : (story.bulbs.ofKind .deviceFailed).map (fun tale => tale.2.device) = failed.map some

end Story

end Lamplighter
