import Mathlib.Data.List.Nodup
import Lamplighter.Network.Bench
import Lamplighter.Proofs.Command.Names
import Lamplighter.Proofs.Run.Reached

/-!
# Conservation: each bulb once, and no target lost

Whatever order the cues come in, a run acts on the first announcement of each serial that it handles
if and only if the bulb is still wanted, each bulb that it acts on takes its name off the targets,
and what is under way is what was matched less what has ended.

* `Targets.after_named`   what is left of named targets is what was not picked;
* `Balanced`              the books of a run balance;
* `Reached.balanced`      they do in every session that is reached.
-/

namespace Lamplighter

open Deeds

/-! ### Named targets -/

namespace Targets

/-- the normal forms of the bulbs that are picked -/
def taken (targets : Targets) (met : List Handle) : List String :=
  (targets.picked met).map fun bulb => normalName bulb.name

lemma mem_without {entries : List (String × String)} {normal name : String} :
    name ∈ (without entries normal).map Prod.fst ↔ name ∈ entries.map Prod.fst ∧ name ≠ normal := by
  simp only [without, List.mem_map, List.mem_filter, bne_iff_ne]
  constructor
  · rintro ⟨e, ⟨he, hne⟩, rfl⟩
    exact ⟨⟨e, he, rfl⟩, hne⟩
  · rintro ⟨⟨e, he, rfl⟩, hne⟩
    exact ⟨e, ⟨he, hne⟩, rfl⟩

/-- the name of a bulb that is picked is among the targets -/
theorem taken_subset {entries : List (String × String)} {met : List Handle} :
    ∀ name ∈ (named entries).taken met, name ∈ entries.map Prod.fst := by
  induction met generalizing entries with
  | nil =>
    intro name h
    cases h
  | cons bulb rest ih =>
    intro name h
    rw [taken, picked, List.map_append, List.mem_append] at h
    rcases h with hfirst | hlater
    · split at hfirst
      · rename_i hmatch
        obtain rfl : name = normalName bulb.name := by simpa using hfirst
        exact isMatch_named.mp hmatch
      · cases hfirst
    · exact (mem_without.mp (ih name hlater)).1

/-- no name is picked twice -/
theorem nodup_taken (entries : List (String × String)) (met : List Handle) :
    ((named entries).taken met).Nodup := by
  induction met generalizing entries with
  | nil => exact List.nodup_nil
  | cons bulb rest ih =>
    rw [taken, picked, List.map_append]
    have hrest := ih (without entries (normalName bulb.name))
    split
    · refine List.nodup_cons.mpr ⟨?_, hrest⟩
      intro hmem
      exact (mem_without.mp (taken_subset _ hmem)).2 rfl
    · exact hrest

/-- what is left of named targets is what was not picked, in the same order -/
theorem after_named (entries : List (String × String)) (met : List Handle) :
    (named entries).after met
      = named (entries.filter fun e => e.1 ∉ (named entries).taken met) := by
  induction met generalizing entries with
  | nil => simp [after, taken, picked]
  | cons bulb rest ih =>
    show (named (without entries (normalName bulb.name))).after rest = _
    rw [ih, named.injEq, without, List.filter_filter]
    apply List.filter_congr
    intro e he
    have hcons : (named entries).taken (bulb :: rest) =
        (if (named entries).isMatch bulb.name then [normalName bulb.name] else [])
          ++ (named (without entries (normalName bulb.name))).taken rest := by
      rw [taken, picked, List.map_append]
      split <;> rfl
    rw [hcons]
    by_cases hmatch : (named entries).isMatch bulb.name = true
    · rw [if_pos hmatch, Bool.eq_iff_iff]
      simp [and_comm, without]
    · have hne : e.1 ≠ normalName bulb.name := by
        intro heq
        exact hmatch (isMatch_named.mpr (List.mem_map.mpr ⟨e, he, heq⟩))
      rw [if_neg hmatch, List.nil_append, bne_iff_ne.mpr hne, Bool.and_true]
      rfl

end Targets

/-! ### The balance -/

/-- the spellings that are left of some targets when some names were taken -/
def Targets.remaining (targets : Targets) (taken : List String) : List String :=
  match targets with
  | .all => []
  | .named entries => (entries.filter fun e => e.1 ∉ taken).map Prod.snd

/-- the books of a run balance with the bulbs whose effects it dispatched -/
structure Balanced (run : Run) (effects : List Handle) : Prop where
  /-- no serial is acted on twice -/
  once : (effects.map Handle.serial).Nodup
  /-- the messages of bulbs, handled, cleared away or waiting, are those of the first announcement
  of each serial, in this order -/
  first : bulbs (handled run.deeds) ++ bulbs (cleared run.deeds) ++ bulbs run.inbox
    = firsts (announced run.deeds)
  /-- the working set is what those that were handled have left of the targets -/
  working : run.control.working = run.action.targets.after (bulbs (handled run.deeds))
  /-- only bulbs whose message was handled are acted on -/
  met : ∀ bulb ∈ effects, bulb ∈ bulbs (handled run.deeds)
  /-- a bulb whose message is handled is acted on if the working set of that moment has it -/
  acted : ∀ before bulb after, bulbs (handled run.deeds) = before ++ bulb :: after →
    (bulb ∈ effects ↔ (run.action.targets.after before).isMatch bulb.name = true)
  matched : run.control.matched = effects.map Handle.name
  /-- all bulbs stay wanted -/
  every : run.action.targets = .all → run.control.working = .all
  /-- a name that was wanted still is, or was matched, and not both -/
  kept : run.action.targets ≠ .all → ∀ name, name ∈ run.action.targets.normalNames ↔
    name ∈ run.control.working.normalNames ∨ name ∈ run.control.matched.map normalName
  apart : run.action.targets ≠ .all → ∀ name ∈ run.control.working.normalNames,
    name ∉ run.control.matched.map normalName
  distinct : run.action.targets ≠ .all → (run.control.matched.map normalName).Nodup
  inFlight : run.control.inFlight
    = run.control.matched.length - (ends (handled run.deeds ++ cleared run.deeds)).length
  nonneg : 0 ≤ run.control.inFlight
  /-- a summary has every spelling whose name was not matched, in the order of the targets -/
  unmatched : ∀ summary, run.outcome = some (.ok summary) →
    summary.matched = run.control.matched ∧
    summary.unmatched = run.action.targets.remaining (summary.matched.map normalName)

namespace Targets

variable {targets : Targets} {met : List Handle}

/-- of bulbs with different serials exactly those are picked that are wanted at their moment -/
lemma mem_picked_iff (hnodup : (met.map Handle.serial).Nodup) {before after : List Handle}
    {bulb : Handle} (hmet : met = before ++ bulb :: after) :
    bulb ∈ targets.picked met ↔ (targets.after before).isMatch bulb.name = true := by
  subst hmet
  rw [List.map_append, List.map_cons, List.nodup_middle, List.nodup_cons, List.mem_append] at hnodup
  have hserial := fun l (hl : bulb ∈ l) => List.mem_map_of_mem (f := Handle.serial) hl
  have hbefore : bulb ∉ targets.picked before := fun hin =>
    hnodup.1 (.inl (hserial _ ((picked_sublist targets before).subset hin)))
  have hafter : ∀ rest : Targets, bulb ∉ rest.picked after := fun rest hin =>
    hnodup.1 (.inr (hserial _ ((picked_sublist rest after).subset hin)))
  rw [picked_append, picked, List.mem_append, List.mem_append]
  constructor
  · rintro (hin | hin | hin)
    · exact absurd hin hbefore
    · by_contra hmatch
      rw [if_neg hmatch] at hin
      cases hin
    · exact absurd hin (hafter _)
  · intro hmatch
    rw [if_pos hmatch]
    exact .inr (.inl (List.mem_singleton_self bulb))

/-- what is left is what was not taken -/
lemma names_after : (targets.after met).names = targets.remaining (targets.taken met) := by
  cases targets with
  | all => rw [after_all]; rfl
  | named entries => rw [after_named]; rfl

/-- a name of the targets is left, or it was taken -/
lemma mem_normalNames_iff (hnamed : targets ≠ .all) (name : String) :
    name ∈ targets.normalNames ↔
      name ∈ (targets.after met).normalNames ∨ name ∈ targets.taken met := by
  cases targets with
  | all => exact absurd rfl hnamed
  | named entries =>
    rw [after_named]
    show name ∈ entries.map Prod.fst ↔ name ∈ List.map Prod.fst (entries.filter _) ∨ _
    simp only [List.mem_map, List.mem_filter]
    constructor
    · rintro ⟨e, he, rfl⟩
      by_cases htaken : e.1 ∈ (named entries).taken met
      · exact .inr htaken
      · exact .inl ⟨e, ⟨he, decide_eq_true htaken⟩, rfl⟩
    · rintro (⟨e, ⟨he, _⟩, rfl⟩ | htaken)
      · exact ⟨e, he, rfl⟩
      · exact List.mem_map.mp (taken_subset name htaken)

lemma not_mem_taken (hnamed : targets ≠ .all) :
    ∀ name ∈ (targets.after met).normalNames, name ∉ targets.taken met := by
  cases targets with
  | all => exact absurd rfl hnamed
  | named entries =>
    rw [after_named]
    intro name hleft
    obtain ⟨e, he, rfl⟩ : ∃ e ∈ entries.filter _, Prod.fst e = name := List.mem_map.mp hleft
    exact of_decide_eq_true (List.mem_filter.mp he).2

end Targets

lemma length_ended_le (effects : List (Handle × Bool)) : (ended effects).length ≤ effects.length := by
  rw [ended, List.length_map]
  exact List.length_filter_le _ _

namespace Session

variable {ν : Type} [Network ν] {r : Nat} {s : Session ν}

/-- in every session that a run with a reliable audience comes to, its books balance -/
theorem Reached.balanced (h : Reached r s) {run : Run} (hrun : s.runs[r]? = some run)
    (hreliable : run.audience.isReliable = true) :
    Balanced run ((s.effects r).map Prod.fst) := by
  have hsound := h.sound hrun
  have hbooks := hsound.booked.books
  have hnodup : ((bulbs (handled run.deeds)).map Handle.serial).Nodup := hsound.nodup_handled
  have heffects : (s.effects r).map Prod.fst
      = run.action.targets.picked (bulbs (handled run.deeds)) := hsound.staffed.full (.inr hreliable)
  have hworking : run.control.working = run.action.targets.after (bulbs (handled run.deeds)) :=
    hbooks.working
  have hmatched : run.control.matched
      = (run.action.targets.picked (bulbs (handled run.deeds))).map Handle.name := hbooks.matched
  have htaken : run.control.matched.map normalName
      = run.action.targets.taken (bulbs (handled run.deeds)) := by
    rw [hmatched, List.map_map]
    rfl
  have hflight : run.control.inFlight = run.control.matched.length
      - (ends (handled run.deeds ++ cleared run.deeds)).length := by
    have hunder : run.control.inFlight = underway run.action.targets (handled run.deeds)
        - (ends (cleared run.deeds)).length := hbooks.inFlight
    rw [hunder, underway, hmatched, ends_append, List.length_append, List.length_map]
    push_cast
    omega
  have hcount : (ends (handled run.deeds ++ cleared run.deeds)).length
      ≤ run.control.matched.length := by
    have hless : _ ≤ (ended (s.effects r)).length := hsound.length_ends_le
    have hlength := congrArg List.length heffects
    rw [List.length_map] at hlength
    rw [hmatched, List.length_map, ← hlength]
    exact Nat.le_trans hless (length_ended_le _)
  refine ⟨?_, hsound.bulbs_eq_firsts, hworking, ?_, ?_, ?_, ?_, ?_, ?_, ?_, hflight, ?_, ?_⟩
  · rw [heffects]
    exact hnodup.sublist ((Targets.picked_sublist _ _).map _)
  · intro bulb hin
    rw [heffects] at hin
    exact (Targets.picked_sublist _ _).subset hin
  · intro before bulb after hmet
    rw [heffects]
    exact Targets.mem_picked_iff hnodup hmet
  · rw [heffects, hmatched]
  · intro hall
    rw [hworking, hall, Targets.after_all]
  · intro hnamed name
    rw [hworking, htaken]
    exact Targets.mem_normalNames_iff hnamed name
  · intro hnamed
    rw [hworking, htaken]
    exact Targets.not_mem_taken hnamed
  · intro hnamed
    rw [htaken]
    cases htargets : run.action.targets with
    | all => exact absurd htargets hnamed
    | named entries => exact Targets.nodup_taken entries _
  · rw [hflight]
    omega
  · intro summary hsum
    obtain ⟨_, hsums⟩ := hsound.summed summary hsum
    have hsame : summary.matched = run.control.matched := hsums.matched
    have hleft : summary.unmatched = run.control.working.names := hsums.unmatched
    refine ⟨hsame, ?_⟩
    rw [hleft, hsame, htaken, hworking]
    exact Targets.names_after

/-- two bulbs of one name, the first of which is announced again when it has another name -/
def twoHalls : Bench where
  bulbs := [
    { handle := { serial := "1", label := "Hall", host := "" }
      state := { label := "Hall", power := 0, hue := 1, saturation := 2, brightness := 3, kelvin := 4 } },
    { handle := { serial := "2", label := " hall ", host := "" }
      state := { label := "Hall", power := 0, hue := 5, saturation := 6, brightness := 7, kelvin := 8 } }]
  clients := [{ announced := some [("1", 0), ("2", 0), ("1", 1), ("2", 3)] }]

/-- turn on the hall and an attic that there is not -/
def hallAndAttic : Session Bench :=
  let run := Run.ofAction { command := "on hall and attic", effect := .on
                            targets := .ofNames ["hall", "attic"] } {} 0 (.recorder [])
  drive (fun _ => false) 60 ((alone twoHalls run).start 0 run)

set_option maxRecDepth 100000 in
theorem balanced_hallAndAttic : ∃ run, hallAndAttic.runs[0]? = some run ∧
    run.control.matched = ["Hall"] ∧ run.control.unmatched = ["attic"] ∧
    Balanced run ((hallAndAttic.effects 0).map Prod.fst) := by
  have hvalues : hallAndAttic.runs[0]?.map (fun run =>
      (run.control.matched, run.control.unmatched, run.audience.isReliable))
        = some (["Hall"], ["attic"], true) := by decide +kernel
  obtain ⟨run, hrun, heq⟩ := Option.map_eq_some_iff.mp hvalues
  obtain ⟨hmatched, hrest⟩ := Prod.mk.inj heq
  obtain ⟨hunmatched, hreliable⟩ := Prod.mk.inj hrest
  have hreached : Reached 0 hallAndAttic :=
    (Reached.start (alone_awaits _ _ _ _ _ _ _)).drive (fun _ => false) 60
  exact ⟨run, hrun, hmatched, hunmatched, hreached.balanced hrun hreliable⟩

end Session

end Lamplighter
