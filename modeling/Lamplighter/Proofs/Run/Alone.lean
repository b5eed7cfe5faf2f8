import Lamplighter.Proofs.Run.Resolution

/-!
# Alone: the only run of a session, over any network and for any audience

* `Session.Lone`      there is one run, and every errand is an effect of it;
* `Session.Alone`     what is more, its ledger is sound;
* `Session.Turns`     what a cue does to the gist of the run: it leaves it as it is, or the run goes
                      on, breaks off, closes, or is told of a fault;
* `Alone.perform`     every cue that is set does one of these, and the run is still alone;
* `Begins`, `alone_start`   so it is once the run has started.
-/

set_option linter.unusedSectionVars false

namespace Lamplighter

open Deeds

namespace Run.Gist

/-- a run has broken off -/
def abort (gist : Run.Gist) (fault : Fault) : Run.Gist :=
  { gist with aborts := gist.aborts + 1, outcome := some (.error fault) }

/-- a run has closed -/
def close (gist : Run.Gist) (outcome : Except Fault Summary) : Run.Gist :=
  { gist with finals := gist.finals + 1, outcome := some outcome }

/-- a run has a fault that an effect or the start came to -/
def halt (gist : Run.Gist) (fault : Fault) : Run.Gist :=
  { gist with outcome := some (.error fault) }

/-- a run has not broken off, and has not closed -/
structure IsUnresolved (gist : Run.Gist) : Prop where
  aborts : gist.aborts = 0
  finals : gist.finals = 0

end Run.Gist

namespace Session

variable {ν : Type} [Network ν] {s t u : Session ν} {gist gist' : Run.Gist} {cue : Cue}
  {agenda : Agenda Cue} {run : Run} {plan : Plan}

structure Lone (s : Session ν) (gist : Run.Gist) : Prop where
  runs : s.gist.runs = [gist]
  own : ∀ errand ∈ s.errands, errand.run = some 0

structure Alone (s : Session ν) (gist : Run.Gist) : Prop extends Lone s gist where
  kept : s.Kept 0

/-! ### One run and its effects -/

namespace Lone

lemma exists_run (h : s.Lone gist) : ∃ run, s.runs = [run] ∧ run.gist = gist := by
  obtain ⟨run, hruns, hgist⟩ := List.map_eq_singleton_iff.mp h.runs
  exact ⟨run, hruns, hgist⟩

lemma gist_eq (h : s.Lone gist) (hget : s.runs[0]? = some run) : run.gist = gist := by
  obtain ⟨run', hruns, hgist⟩ := h.exists_run
  rw [hruns] at hget
  obtain rfl := Option.some.inj hget
  exact hgist

lemma sole (h : s.Lone gist) : ∀ q, q ≠ 0 → s.runs[q]? = none := by
  obtain ⟨run, hruns, -⟩ := h.exists_run
  intro q hq
  rw [hruns, List.getElem?_eq_none_iff]
  exact Nat.one_le_iff_ne_zero.mpr hq

lemma allEnded_iff (h : s.Lone gist) :
    AllEnded (s.effects 0) ↔ ∀ errand ∈ s.errands, errand.isOver = true := by
  rw [effects_of_own h.own, AllEnded, List.forall_mem_map]

/-! ### What the run does -/

lemma of_gist (h : s.Lone gist) (hsame : t.gist = s.gist) : t.Lone gist := by
  refine ⟨(congrArg Gist.runs hsame).trans h.runs, ?_⟩
  have howners : t.errands.map Errand.run = s.errands.map Errand.run := congrArg Gist.owners hsame
  intro errand hmem
  have hrun := List.mem_map_of_mem (f := Errand.run) hmem
  rw [howners] at hrun
  obtain ⟨old, hold, heq⟩ := List.mem_map.mp hrun
  exact heq.symm.trans (h.own old hold)

lemma of_leads (hs : s.Lone gist) (h : Leads 0 plan s t) : t.Lone gist := by
  refine ⟨h.runs.trans hs.runs, ?_⟩
  obtain ⟨handles, heffects⟩ := h.effects
  rw [heffects]
  intro errand hmem
  rcases List.mem_append.mp hmem with hold | hnew
  · exact hs.own errand hold
  · obtain ⟨handle, -, rfl⟩ := List.mem_map.mp hnew
    rfl

lemma endRun (h : s.Lone gist) (fault : Fault) :
    (s.endRun 0 (.error fault)).Lone (gist.halt fault) := by
  refine ⟨?_, (errands_endRun s 0 _).symm ▸ h.own⟩
  rw [gist_endRun, h.runs]
  rfl

lemma abort (h : s.Lone gist) (run : Run) (fault : Fault) :
    (s.abort 0 run fault).Lone (gist.abort fault) := by
  constructor
  · rw [gist_abort, h.runs]
    rfl
  · rw [errands_abort]
    intro errand hmem
    obtain ⟨old, hold, rfl⟩ := List.mem_map.mp hmem
    unfold Errand.calledOffBy
    split
    · rw [Errand.run_calledOff]
      exact h.own old hold
    · exact h.own old hold

lemma close (h : s.Lone gist) (hget : s.runs[0]? = some run) :
    ∃ outcome, (s.close 0 run).Lone (gist.close outcome) := by
  obtain ⟨outcome, hruns, herrands⟩ := close_cases s hget
  refine ⟨outcome, ?_, herrands ▸ h.own⟩
  rw [hruns, h.runs]
  rfl

end Lone

/-! ### What a cue does -/

/-- a run has gone on, or has come to an end of its own -/
inductive Comes (plan : Plan) (s t : Session ν) (gist : Run.Gist) : Run.Gist → Prop where
  | goesOn (leads : Leads 0 plan s t) : Comes plan s t gist gist
  | breaksOff {u : Session ν} {run : Run} {fault : Fault} (leads : Leads 0 plan s u)
    (broken : t = u.abort 0 run fault) : Comes plan s t gist (gist.abort fault)
  | closes {u : Session ν} {run : Run} {outcome : Except Fault Summary} (leads : Leads 0 plan s u)
    (here : u.runs[0]? = some run) (closed : t = u.close 0 run) :
    Comes plan s t gist (gist.close outcome)

lemma Lone.comes (hs : s.Lone gist) (h : Resolves 0 plan s t) :
    ∃ gist', Comes plan s t gist gist' ∧ t.Lone gist' := by
  cases h with
  | goesOn leads => exact ⟨_, .goesOn leads, hs.of_leads leads⟩
  | breaksOff leads broken =>
    subst broken
    exact ⟨_, .breaksOff leads rfl, (hs.of_leads leads).abort _ _⟩
  | closes leads here closed =>
    subst closed
    obtain ⟨outcome, hclosed⟩ := (hs.of_leads leads).close here
    exact ⟨_, .closes leads here rfl, hclosed⟩

lemma Comes.plan_eq (h : Comes plan s t gist gist') : gist'.plan = gist.plan := by
  cases h <;> rfl

inductive Turns (s t : Session ν) (gist : Run.Gist) (cue : Cue) : Run.Gist → Prop where
  | aside (concerns : cue.concerns 0 = false) (same : t.gist = s.gist) : Turns s t gist cue gist
  | comes {gist' : Run.Gist} (concerns : cue.concerns 0 = true) (unresolved : gist.IsUnresolved)
    (comes : Comes gist.plan s t gist gist') : Turns s t gist cue gist'
  | halts {fault : Fault} (concerns : cue.concerns 0 = true) (unresolved : gist.IsUnresolved)
    (ended : t = s.endRun 0 (.error fault)) : Turns s t gist cue (gist.halt fault)

namespace Alone

lemma sound (h : s.Alone gist) : ∃ run, s.runs[0]? = some run ∧ run.gist = gist ∧
    (s.ledgerOf 0 run).Sound := by
  obtain ⟨l, hl, hsound⟩ := h.kept.sound
  obtain ⟨run, hget, rfl⟩ := Option.map_eq_some_iff.mp hl
  exact ⟨run, hget, h.gist_eq hget, hsound⟩

/-- a cue that concerns the run comes only before the run has broken off or closed -/
lemma unresolved (h : s.Alone gist) (hcues : s.agenda.cues.Perm (cue :: agenda.cues))
    (hconcerns : cue.concerns 0 = true) : gist.IsUnresolved ∧
      (cue = .wake 0 ∨ ∃ fault, cue = .drained 0 fault) := by
  have hcue := Cue.eq_of_concerns hconcerns
    (h.kept.not_isEntryOf (hcues.mem_iff.mpr (List.mem_cons_self ..)))
  refine ⟨?_, hcue⟩
  obtain ⟨run, hget, rfl, hsound⟩ := h.sound
  have hl : s.ledger 0 = some (s.ledgerOf 0 run) := by
    rw [ledger, hget]
    rfl
  have hzero : ∀ l : Ledger, l.deeds = run.deeds → l.toll = 0 → run.gist.IsUnresolved := by
    intro l hdeeds htoll
    rw [Ledger.toll, hdeeds] at htoll
    exact ⟨by show aborts run.deeds = 0; omega, by show finals run.deeds = 0; omega⟩
  rcases hcue with rfl | ⟨fault, rfl⟩
  · obtain ⟨hp, -⟩ := ledger_wake hsound hl hcues
    exact hzero _ rfl (hsound.looks hp).toll
  · obtain ⟨l, -, hcounts⟩ := ledger_remove hl hcues
    have hdeeds : run.deeds = l.deeds := congrArg Ledger.deeds hcounts
    cases fault with
    | none => exact hzero l hdeeds.symm (draining_of_drained 1 0 hsound
        (by simpa [Cue.isWakeOf, Cue.isCalmOf, Cue.isHaltOf, Cue.isEntryOf] using hcounts) rfl).2
    | some fault => exact hzero l hdeeds.symm (draining_of_drained 0 1 hsound
        (by simpa [Cue.isWakeOf, Cue.isCalmOf, Cue.isHaltOf, Cue.isEntryOf] using hcounts) rfl).2

/-- a run that looks into its inbox has not ended -/
lemma open_of_wake (h : s.Alone gist) (hcues : s.agenda.cues.Perm (.wake 0 :: agenda.cues)) :
    gist.outcome = none := by
  obtain ⟨run, hget, rfl, hsound⟩ := h.sound
  have hl : s.ledger 0 = some (s.ledgerOf 0 run) := by
    rw [ledger, hget]
    rfl
  obtain ⟨hp, -⟩ := ledger_wake hsound hl hcues
  exact (hsound.looks hp).outcome

/-- a run that has closed has no effect on its way -/
lemma over_of_finals (h : s.Alone gist) (hfinal : 0 < gist.finals) :
    ∀ errand ∈ s.errands, errand.isOver = true := by
  obtain ⟨run, -, rfl, hsound⟩ := h.sound
  have hfinal : 0 < finals run.deeds := hfinal
  have hbefore := hsound.toll_eq_zero
  simp only [Ledger.toll] at hbefore
  have hstopped : run.phase = .draining ∨ run.phase = .finished := by
    cases hp : run.phase with
    | idle =>
      have htoll := hbefore (.inl hp)
      exact absurd htoll (by show _ + _ + _ + finals run.deeds + _ ≠ 0; omega)
    | discovering =>
      have htoll := hbefore (.inr hp)
      exact absurd htoll (by show _ + _ + _ + finals run.deeds + _ ≠ 0; omega)
    | draining => exact .inl rfl
    | finished => exact .inr rfl
  rw [← h.allEnded_iff]
  exact ((hsound.stopped hstopped).closed hfinal).1

/-- whatever cue is performed, the run is alone -/
theorem perform (h : s.Alone gist) (hcues : s.agenda.cues.Perm (cue :: agenda.cues)) :
    ∃ gist', Turns { s with agenda } (({ s with agenda } : Session ν).perform cue) gist cue gist' ∧
      (({ s with agenda } : Session ν).perform cue).Alone gist' := by
  have hkept := h.kept.perform hcues
  have hlone : ({ s with agenda } : Session ν).Lone gist := ⟨h.runs, h.own⟩
  obtain ⟨run, hget, hgist, -⟩ := h.sound
  have hhere : ({ s with agenda } : Session ν).runs[0]? = some run := hget
  cases hconcerns : cue.concerns 0 with
  | false =>
    have hsame := gist_perform (s := { s with agenda }) h.sole hconcerns
    exact ⟨gist, .aside hconcerns hsame, hlone.of_gist hsame, hkept⟩
  | true =>
    obtain ⟨hunresolved, hcue⟩ := h.unresolved hcues hconcerns
    rcases hcue with rfl | ⟨_ | fault, rfl⟩
    · rw [perform_wake hhere] at hkept ⊢
      obtain ⟨gist', hcomes, hafter⟩ :=
        hlone.comes (.handleAll _ (congrArg Run.Gist.plan hgist) run.inbox)
      exact ⟨gist', .comes hconcerns hunresolved hcomes, hafter, hkept⟩
    · rw [perform_drained hhere] at hkept ⊢
      have hcloses : Resolves 0 gist.plan ({ s with agenda } : Session ν)
          (({ s with agenda } : Session ν).close 0 run) := .closes (.refl _) hhere rfl
      obtain ⟨gist', hcomes, hafter⟩ := hlone.comes hcloses
      exact ⟨gist', .comes hconcerns hunresolved hcomes, hafter, hkept⟩
    · exact ⟨gist.halt fault, .halts hconcerns hunresolved rfl, hlone.endRun fault, hkept⟩

end Alone

/-! ### The start -/

/-- a run has started: it has a fault at once, or comes to something when it looks for bulbs -/
inductive Begins (s : Session ν) (run : Run) (t : Session ν) : Run.Gist → Prop where
  | fails {u : Session ν} {fault : Fault} (leads : Leads 0 run.plan s u)
    (ended : t = u.endRun 0 (.error fault)) : Begins s run t (run.gist.halt fault)
  | seeks {u : Session ν} {saved : Option Saved} {gist : Run.Gist} (leads : Leads 0 run.plan s u)
    (lone : (u.modifyRun 0 fun run => { run with saved }).Lone
      { run.gist with plan := { run.plan with saved } })
    (comes : Comes { run.plan with saved } (u.modifyRun 0 fun run => { run with saved }) t
      { run.gist with plan := { run.plan with saved } } gist) : Begins s run t gist

/-- a run that is alone starts, and is alone still -/
theorem alone_start (network : ν) (action : Action) (settings : Settings) (client : Nat)
    (audience : Audience) (hasStore : Bool) (store : Snapshot.Store) :
    let run := Run.ofAction action settings client audience hasStore
    ∃ gist, Begins (alone network run store) run ((alone network run store).start 0 run) gist ∧
      ((alone network run store).start 0 run).Alone gist := by
  intro run
  have hkept : ((alone network run store).start 0 run).Kept 0 :=
    (Reached.start (alone_awaits network action settings client audience hasStore store)).kept
  have hlone : (alone network run store).Lone run.gist := ⟨rfl, fun errand hmem => by cases hmem⟩
  have hstarts : Starts 0 run (alone network run store) ((alone network run store).start 0 run) :=
    starts _ rfl
  cases hstarts with
  | fails leads failed =>
    refine ⟨_, .fails leads failed, ?_, hkept⟩
    rw [failed]
    exact (hlone.of_leads leads).endRun _
  | @seeks u saved leads resolves =>
    have hseeks : (u.modifyRun 0 fun run => { run with saved }).Lone
        { run.gist with plan := { run.plan with saved } } := by
      refine ⟨?_, (hlone.of_leads leads).own⟩
      rw [gist_modifyRun u 0 (fun gist => { gist with plan := { gist.plan with saved } })
        fun _ => rfl]
      show u.gist.runs.modify 0 _ = _
      rw [leads.runs, hlone.runs]
      rfl
    obtain ⟨gist, hcomes, hafter⟩ := hseeks.comes resolves
    exact ⟨gist, .seeks leads hseeks hcomes, hafter, hkept⟩

end Session

end Lamplighter
