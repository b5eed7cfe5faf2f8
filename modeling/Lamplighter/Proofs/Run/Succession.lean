import Lamplighter.Proofs.Run.Serial

/-!
# Succession: what runs that take turns come to

* `Proceeds.actions`       with a step, each run keeps its action;
* `Proceeds.searches`      and what is asked about searches is asked by the run that does something;
* `Stands.startsOnce`      a run that has begun has told so, first and once;
* `Serial.searches_of_over` a run that has ended has stopped to look for bulbs;
* `Session.Stirs`          what happens around the runs;
* `Serial.stirs`, `Serial.enqueue`   runs take turns, whatever happens around them, and a new run waits
                           behind all others.
-/

set_option linter.unusedSectionVars false

namespace Lamplighter

namespace Backdrop

variable {b b' : Backdrop} {r : Nat}

/-- a run keeps its action -/
lemma Deal.actions (h : Deal r b b') :
    b'.runs.map Run.Core.action = b.runs.map Run.Core.action := by
  have hmodify : ∀ change : Run.Core → Run.Core, (∀ core, (change core).action = core.action) →
      (b.runs.modify r change).map Run.Core.action = b.runs.map Run.Core.action := by
    intro change hchange
    rw [Session.map_modify_of_comp id hchange, List.modify_id]
  cases h with
  | ready | seek | tick | stop | complete => exact hmodify _ fun _ => rfl
  | finish here rests outcome =>
    show ((b.modify r _).pass r).runs.map _ = _
    rw [runs_pass]
    exact hmodify _ fun _ => rfl
  | _ => rfl

lemma Deals.actions (h : Deals r b b') :
    b'.runs.map Run.Core.action = b.runs.map Run.Core.action := by
  induction h with
  | refl => rfl
  | tail _ hdeal ih => exact hdeal.actions.trans ih

end Backdrop

namespace Session

open Deeds Backdrop

variable {ν : Type} [Network ν] {s t u : Session (Recorded ν)} {r q e begun begun' : Nat} {cue : Cue}
  {agenda : Agenda Cue} {run run' : Run} {told : Nat → List Event} {who : Option Nat} {events : List Event}

lemma getElem?_core (r : Nat) : s.backdrop.runs[r]? = s.runs[r]?.map Run.core :=
  List.getElem?_map ..

namespace Proceeds

/-- each run keeps its action -/
lemma actions (h : s.Proceeds t begun begun' told who events) :
    t.runs.map Run.action = s.runs.map Run.action := by
  have hcores : t.backdrop.runs.map Run.Core.action = s.backdrop.runs.map Run.Core.action := by
    rcases h.deals with hsame | ⟨r, b, -, -, hruns, hdeals⟩
    · rw [hsame]
    · rw [Deals.actions hdeals, hruns]
  have hread : ∀ s : Session (Recorded ν), s.backdrop.runs.map Run.Core.action = s.runs.map Run.action :=
    fun _ => List.map_map
  rwa [hread, hread] at hcores

/-- what is asked about searches is asked by the run that does something -/
theorem searches (h : s.Proceeds t begun begun' told who events) (hs : s.Serial begun told)
    {more : List Contact} (hmore : t.network.contacts = s.network.contacts ++ more)
    (hget : s.runs[r]? = some run) (hget' : t.runs[r]? = some run') :
    run'.core.searches
      = run.core.searches ++ if who = some r then more.filter Contact.isSearch else [] := by
  have hsearches : t.backdrop.searches = s.backdrop.searches ++ more.filter Contact.isSearch := by
    show t.network.contacts.filter _ = s.network.contacts.filter _ ++ _
    rw [hmore, List.filter_append]
  have hcore : s.backdrop.runs[r]? = some run.core := by rw [getElem?_core, hget]; rfl
  have hcore' : t.backdrop.runs[r]? = some run'.core := by rw [getElem?_core, hget']; rfl
  rcases h.deals with hsame | ⟨q, b, hwho, hq, hruns, hdeals⟩
  · have hnone : more.filter Contact.isSearch = [] := by
      rw [h.serial.balance.listed, hsame, ← hs.balance.listed] at hsearches
      exact List.self_eq_append_right.mp hsearches
    rw [hsame, hcore] at hcore'
    rw [← Option.some.inj hcore', hnone, ite_self, List.append_nil]
  · by_cases hrq : r = q
    · subst hrq
      rw [if_pos hwho]
      refine Deals.searches hdeals hruns hs.balance (fun i core hi hcore => ?_) h.serial.balance
        (h.serial.isLast hq) hcore hcore' hsearches
      refine (hs.queued.fresh i core hcore ?_).1
      rcases h.begins with hbegun | ⟨hbegun, -⟩
      · omega
      · omega
    · have hother : ¬ who = some r := fun hr => hrq (Option.some.inj (hr.symm.trans hwho))
      rw [Deals.runs_ne hdeals hrq, hruns, hcore] at hcore'
      rw [← Option.some.inj hcore', if_neg hother, List.append_nil]

end Proceeds

/-! ### Runs that have begun, and runs that have ended -/

/-- a run that has begun has told so, first and once -/
lemma Stands.startsOnce {s : Session ν} {ear : Ear} {told : List Event} (h : s.Stands r ear told) :
    StartsOnce told := by
  cases h with
  | goesOn begins recounts =>
    obtain ⟨run, tales, -, -, hvoice, hcovers, -⟩ := recounts.told
    rw [voice_readerOf] at hvoice
    rw [hvoice]
    exact begins.startsOnce hcovers (by simp)
  | settled here rests ended starts => exact starts

namespace Serial

lemma lt_of_over (h : s.Serial begun told) (hget : s.runs[r]? = some run)
    (hover : run.isOver = true) : r < begun := by
  by_contra hr
  have hfresh := (h.queued.fresh r run.core (by rw [getElem?_core, hget]; rfl) (by omega)).2
  have hopen : run.outcome = none := hfresh
  rw [Run.isOver, hopen] at hover
  cases hover

/-- a run that has ended has stopped to look for bulbs, if it has looked for them -/
theorem searches_of_over (h : s.Serial begun told) (hget : s.runs[r]? = some run)
    (hover : run.isOver = true) :
    run.core.searches = [] ∨ run.core.searches = [.start run.client, .stop run.client] := by
  have hsound := (h.kept r (h.lt_of_over hget hover)).sound_of hget
  have hlooks : run.phase ≠ .discovering := by
    intro hphase
    have hopen : run.outcome = none := (hsound.looks hphase).outcome
    rw [Run.isOver, hopen] at hover
    cases hover
  unfold Run.Core.searches
  cases hphase : run.core.phase with
  | idle => exact .inl rfl
  | discovering => exact absurd hphase hlooks
  | draining | finished => exact .inr rfl

end Serial

/-! ### What happens around the runs -/

/-- what happens around the runs: any client finds a bulb, an alarm is set, and the network, the store
and the subscribers come to any state -/
inductive Stirs (s : Session (Recorded ν)) : Session (Recorded ν) → Prop
  | hear (client : Nat) (handle : Handle) : Stirs s (s.hear client handle)
  | alarm (duration : Duration) :
    Stirs s { s with isRung := false, agenda := s.agenda.pause duration .alarm }
  | network (inner : ν) : Stirs s { s with network := { s.network with inner } }
  | store (store : Snapshot.Store) : Stirs s { s with store }
  | hub (hub : Hub Event) : Stirs s { s with hub }

lemma Stirs.contacts (h : s.Stirs t) : t.network.contacts = s.network.contacts := by
  cases h with
  | hear client handle => exact congrArg Recorded.contacts (network_hear s client handle)
  | alarm | network | store | hub => rfl

lemma Stirs.line (h : s.Stirs t) : KeepsLine s.agenda.line t.agenda.line := by
  cases h with
  | hear client handle => exact keepsLine_hear s client handle
  | alarm duration => exact .pause ..
  | network | store | hub => exact .refl _

lemma Stirs.backdrop (h : s.Stirs t) : ∃ store, t.backdrop = { s.backdrop with store } := by
  cases h with
  | hear client handle => exact ⟨s.store, backdrop_hear s client handle⟩
  | alarm duration => exact ⟨s.store, backdrop_pause s duration rfl⟩
  | store store => exact ⟨store, rfl⟩
  | network | hub => exact ⟨s.store, rfl⟩

lemma Stirs.kept (h : s.Stirs t) (hkept : s.Kept r) : t.Kept r := by
  cases h with
  | hear client handle => exact hkept.advance (.hear r s client handle)
  | alarm duration =>
    have hset : ({ s with agenda := s.agenda.pause duration .alarm } : Session (Recorded ν)).Kept r :=
      hkept.same (.of_cue .alarm (Agenda.cues_pause ..) rfl (by simp))
    exact hset.same (.of_cues rfl rfl rfl (.refl _) fun _ => id)
  | network inner => exact hkept.same (.network r s _)
  | store | hub => exact hkept.same (.of_cues rfl rfl rfl (.refl _) fun _ => id)

lemma Stirs.stands {told : List Event} (h : s.Stirs t)
    (hs : (s.tuned attentive).Stands r (.subscriber 0) told) :
    (t.tuned attentive).Stands r (.subscriber 0) told := by
  cases h with
  | hear client handle =>
    have hheard : Touches none (s.tuned attentive) ((s.tuned attentive).hear client handle) :=
      .single (.hear _ client handle)
    rw [← hear_tuned]
    exact hs.aside hheard (by simp)
  | alarm duration =>
    have hset := bearing_set (s := s) (r := r) (Agenda.cues_pause s.agenda duration .alarm) ⟨rfl, rfl⟩
    exact hs.of_same hset rfl rfl id
  | network inner => exact hs.of_same (bearing_of_effects rfl rfl rfl) rfl rfl id
  | store store => exact hs.of_same (bearing_of_effects rfl rfl rfl) rfl rfl id
  | hub hub => exact hs

lemma Stirs.untouched (h : s.Stirs t) (hs : s.Untouched begun) :
    t.Untouched begun ∧ ∀ r, begun ≤ r → t.runs[r]? = s.runs[r]? := by
  cases h with
  | hear client handle => exact hs.hear client handle
  | alarm duration =>
    have hset := hs.set (Agenda.cues_pause s.agenda duration .alarm) (fun q hq => by cases hq) (by simp)
    exact ⟨hset.of_same rfl rfl rfl, fun _ _ => rfl⟩
  | network | store | hub => exact ⟨hs.of_same rfl rfl rfl, fun _ _ => rfl⟩

namespace Serial

/-- the runs take turns, whatever happens around them -/
theorem stirs (h : s.Serial begun told) (hstirs : s.Stirs t) : t.Serial begun told := by
  obtain ⟨store, hbackdrop⟩ := hstirs.backdrop
  obtain ⟨huntouched, hruns⟩ := hstirs.untouched h.untouched
  refine ⟨?_, ?_, huntouched, h.silent, h.waiting_of_runs (Nat.le_refl _) hruns,
    fun r hr => hstirs.kept (h.kept r hr), fun r hr => hstirs.stands (h.stands r hr)⟩
  · rw [hbackdrop]
    exact h.queued.of_same rfl rfl rfl rfl
  · rw [hbackdrop]
    exact ⟨h.balance.listed, h.balance.quiet⟩

lemma backdrop_enqueue (s : Session (Recorded ν)) (run : Run) :
    (s.enqueue run).1.backdrop = { s.backdrop with
      runs := s.backdrop.runs ++ [run.core]
      cues := s.backdrop.cues.soon 0 (.enter s.backdrop.runs.length) } := by
  have hlength : s.backdrop.runs.length = s.runs.length := List.length_map ..
  have hruns : (s.runs ++ [run]).map Run.core = s.backdrop.runs ++ [run.core] := List.map_append
  have hcues : ((s.agenda.soon 0 (.enter s.runs.length)).drop fun cue => !cue.isInner)
      = s.backdrop.cues.soon 0 (.enter s.runs.length) := Agenda.drop_soon_kept rfl 0
  rw [hlength, ← hruns, ← hcues]
  rfl

/-- nothing has happened yet -/
lemma fresh (now : Moment) (inner : ν) (store : Snapshot.Store) (hub : Hub Event) :
    ({ agenda := { now }, network := { inner }, store, hub } : Session (Recorded ν)).Serial 0
      fun _ => [] where
  queued := ⟨Nat.le_refl 0, rfl, rfl, ⟨fun _ hmem => (by cases hmem), fun _ hmem => (by cases hmem)⟩,
    fun _ hturn => (by cases hturn), fun _ _ hget => (by cases hget), fun _ _ hget => (by cases hget)⟩
  balance := ⟨rfl, fun _ _ hget => by cases hget⟩
  untouched := ⟨fun _ hmem => (by cases hmem), fun _ hmem => (by cases hmem),
    fun _ hmem => (by cases hmem), fun _ hmem => (by cases hmem)⟩
  silent _ _ := rfl
  waiting _ _ hget := by cases hget
  kept _ hr := by cases hr
  stands _ hr := by cases hr

/-- a new run waits behind all others -/
theorem enqueue (h : s.Serial begun told) (action : Action) (settings : Settings) (client : Nat) :
    (s.enqueue (.ofAction action settings client .hub)).1.Serial begun told := by
  have hlength : s.backdrop.runs.length = s.runs.length := List.length_map ..
  generalize hrun : Run.ofAction action settings client .hub = run
  have hphase : run.core.phase = .idle := hrun ▸ rfl
  have hopen : run.core.outcome = none := hrun ▸ rfl
  refine ⟨?_, ?_, ?_, h.silent, ?_, fun r hr => ?_, fun r hr => ?_⟩
  · rw [backdrop_enqueue]
    exact h.queued.enqueue hphase hopen
  · rw [backdrop_enqueue]
    refine ⟨?_, fun r core hcore hrests cue hmem => ?_⟩
    · refine h.balance.listed.trans ?_
      have hnone : run.core.searches = [] := by rw [Run.Core.searches, hphase]
      simp [hnone]
    · rcases List.mem_cons.mp ((Agenda.cues_soon ..).mem_iff.mp hmem) with rfl | hold
      · rfl
      · rw [List.getElem?_append] at hcore
        split at hcore
        · exact h.balance.quiet r core hcore hrests cue hold
        · -- no run that has not begun has its idle clock set
          rename_i hr
          refine Bool.eq_false_iff.mpr fun hclock => ?_
          have hrun : cue.runOf? = some r ∧ cue.turnOf? = none := by
            cases cue <;> simp_all [Cue.isClockOf, Cue.runOf?, Cue.turnOf?, Cue.enters?, Cue.takes?]
          have hold : cue ∈ (s.agenda.drop fun cue => !cue.isInner).cues := hold
          rw [Agenda.cues_drop] at hold
          have hbound := h.queued.bound
          rcases h.untouched.cues cue (List.mem_filter.mp hold).1 r hrun.1 with hlt | hturn
          · omega
          · rw [hrun.2] at hturn
            cases hturn
  · have hadded : (s.addRun run).1.Untouched begun := h.untouched.of_same rfl rfl rfl
    refine hadded.soon 0 (fun q hq => .inr hq) (by simp)
  · intro r run' hget hr
    have hget : (s.runs ++ [run])[r]? = some run' := hget
    rw [List.getElem?_append] at hget
    split at hget
    · exact h.waiting r run' hget hr
    · exact ⟨action, settings, client, hrun ▸ (List.mem_singleton.mp (List.mem_of_getElem? hget))⟩
  · obtain ⟨run', hget⟩ := h.exists_run hr
    exact (h.kept r hr).same (.enqueue hget run)
  · obtain ⟨run', hget⟩ := h.exists_run hr
    have hdrift : Drift (.subscriber 0) (s.tuned attentive) ((s.tuned attentive).enqueue run).1 :=
      .enqueue run
    exact hdrift.stands hget (h.stands r hr)

end Serial

end Session

end Lamplighter
