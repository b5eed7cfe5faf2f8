import Lamplighter.Proofs.Run.Fair

/-!
# Completion: a run that only bulbs can trouble comes to its end

* `not_undecided`       two idle intervals with nothing under way and no bulb acted on decide;
* `Course.finishes`     in a fair course a lively run finishes;
* `Session.Complete`    the run has a summary, nothing is in flight, and the effect finished its work
                        once, after all bulbs;
* `Fair.completes`     whatever the bulbs do, a run in a fair course comes to be complete.
-/

set_option linter.unusedSectionVars false

namespace Lamplighter

open Deeds

/-! ### Idle intervals -/

section
variable {targets : Targets} {first older newer rest ms ms' : List Message}

lemma Targets.length_picked_le (targets : Targets) (h : ms <+: ms') :
    (targets.picked (bulbs ms)).length ≤ (targets.picked (bulbs ms')).length := by
  obtain ⟨later, rfl⟩ := h
  rw [bulbs_append, Targets.picked_append, List.length_append]
  exact Nat.le_add_right _ _

lemma length_ends_le (h : ms <+: ms') : (ends ms).length ≤ (ends ms').length := by
  obtain ⟨later, rfl⟩ := h
  rw [ends_append, List.length_append]
  exact Nat.le_add_right _ _

/-- two idle intervals decide when every effect that was ever dispatched had ended before -/
theorem not_undecided (hfirst : first <+: older) (hms : older ++ .tick :: (newer ++ [.tick]) <+: ms)
    (hpicked : (targets.picked (bulbs ms)).length = (targets.picked (bulbs first)).length)
    (hends : (ends ms).length = (ends first).length)
    (hzero : underway targets first = 0) : ¬ Undecided targets ms := by
  intro hundecided
  obtain ⟨rest, rfl⟩ := hms
  have hbefore : older ++ .tick :: newer
      <+: older ++ .tick :: (newer ++ [.tick]) ++ rest := by
    refine ⟨.tick :: rest, ?_⟩
    simp
  have holder : older <+: older ++ .tick :: newer := List.prefix_append _ _
  have hp₁ := targets.length_picked_le hfirst
  have hp₂ := targets.length_picked_le holder
  have hp₃ := targets.length_picked_le hbefore
  have he₁ := length_ends_le hfirst
  have he₂ := length_ends_le holder
  have he₃ := length_ends_le hbefore
  have hcons : bulbs (older ++ .tick :: newer) = bulbs older ++ bulbs newer := by
    rw [bulbs_append]
    rfl
  refine hundecided (older ++ .tick :: newer) .tick rest (by simp) ⟨⟨older, newer, rfl, ?_⟩, ?_⟩
  · rw [hcons, Targets.picked_append, List.length_append] at hp₃
    exact List.length_eq_zero_iff.mp (by omega)
  · rw [underway] at hzero ⊢
    omega

end

namespace Session

variable {σ : Nat → Session Bench} {r : Nat} {plan : Plan} {k : Handle → Prop} {n m : Nat}
  {cue : Cue} {l : Nat → Ledger}

/-! ### The end of the search, and of the run -/

namespace Course

lemma goes (h : Course σ r plan k) (hl : ∀ n, (σ n).Lively r plan k (l n))
    (hturn : (σ n).Turn (σ (n + 1)) cue) : (σ n).Goes (σ (n + 1)) r plan k cue (l n) (l (n + 1)) := by
  obtain ⟨l', hgoes⟩ := (hl n).turn h.idle hturn
  obtain rfl := Option.some.inj (hgoes.lively.ledger.symm.trans (hl (n + 1)).ledger)
  exact hgoes

/-- what holds of each turn holds of each step, if nothing need happen for it -/
lemma step_cases (h : Course σ r plan k) (hl : ∀ n, (σ n).Lively r plan k (l n)) (n : Nat) :
    (∃ cue, (σ n).Turn (σ (n + 1)) cue ∧ (σ n).Goes (σ (n + 1)) r plan k cue (l n) (l (n + 1))) ∨
      l (n + 1) = l n ∧ σ (n + 1) = σ n := by
  rcases h.fair.turns n with ⟨cue, hturn⟩ | ⟨_, hsame⟩
  · exact .inl ⟨cue, hturn, h.goes hl hturn⟩
  · refine .inr ⟨?_, hsame⟩
    have hledger := (hl (n + 1)).ledger
    rw [hsame, (hl n).ledger] at hledger
    exact (Option.some.inj hledger).symm

/-- a run that need not look for bulbs any longer, and whose effects are over, finishes -/
lemma closes (h : Course σ r plan k) (hl : ∀ n, (σ n).Lively r plan k (l n))
    (hended : ∀ m, n ≤ m → AllEnded (l m).effects) (hp : (l n).phase ≠ .discovering) :
    ∃ m, (l m).phase = .finished := by
  by_contra hnever
  have hdraining : ∀ m, n ≤ m → (l m).phase = .draining := by
    intro m hm
    have hnot : (l m).phase ≠ .discovering := by
      induction m, hm using Nat.le_induction with
      | base => exact hp
      | succ m _ ih =>
        rcases h.step_cases hl m with ⟨cue, _, hgoes⟩ | ⟨hsame, _⟩
        · exact hgoes.forward ih
        · rwa [hsame]
    cases hphase : (l m).phase with
    | idle => exact absurd hphase (hl m).alert.begun
    | discovering => exact absurd hphase hnot
    | draining => rfl
    | finished => exact absurd ⟨m, hphase⟩ hnever
  have hcalm : ∀ m, n ≤ m → .drained r none ∈ (σ m).agenda.cues := by
    intro m hm
    have hcalms := ((hl m).alert.waits (hdraining m hm)).resolve_right fun hopen =>
      hopen.2 (hended m hm)
    obtain ⟨run, hget, heq⟩ := Option.map_eq_some_iff.mp (hl m).ledger
    rw [← heq] at hcalms
    obtain ⟨cue, hmem, hcue⟩ := List.countP_pos_iff.mp hcalms
    have : cue = .drained r none := by
      unfold Cue.isCalmOf at hcue
      split at hcue
      · rw [beq_iff_eq.mp hcue]
      · cases hcue
    exact this ▸ hmem
  obtain ⟨m, hm, hturn⟩ := h.fair.just n _ hcalm
  exact hnever ⟨m + 1, (h.goes hl hturn).closed rfl⟩

section
variable (h : Course σ r plan k) (hl : ∀ n, (σ n).Lively r plan k (l n))
  (hlooks : ∀ m, n ≤ m → (l m).phase = .discovering)

include h hl hlooks

/-- a run that looks for bulbs empties its inbox again and again -/
lemma empties (hm : n ≤ m) : ∃ m', m ≤ m' ∧ (l m').inbox = [] := by
  by_contra hnever
  have hwake : ∀ m', m ≤ m' → .wake r ∈ (σ m').agenda.cues := by
    intro m' hm'
    have hwakes := ((hl m').alert.looks (hlooks m' (Nat.le_trans hm hm'))).resolve_right
      fun hempty => hnever ⟨m', hm', hempty.2⟩
    obtain ⟨run, hget, heq⟩ := Option.map_eq_some_iff.mp (hl m').ledger
    rw [← heq] at hwakes
    obtain ⟨cue, hmem, hcue⟩ := List.countP_pos_iff.mp hwakes
    have : cue = .wake r := by
      unfold Cue.isWakeOf at hcue
      split at hcue
      · rw [beq_iff_eq.mp hcue]
      · cases hcue
    exact this ▸ hmem
  obtain ⟨m', hm', hturn⟩ := h.fair.just m _ hwake
  have hempty := (h.goes hl hturn).emptied rfl (hlooks (m' + 1) (by omega))
  exact hnever ⟨m' + 1, by omega, hempty.2⟩

/-- messages are only added -/
lemma queued_le (hm : n ≤ m) {m' : Nat} (hm' : m ≤ m') :
    queued (l m).deeds <+: queued (l m').deeds := by
  induction m', hm' using Nat.le_induction with
  | base => exact List.prefix_rfl
  | succ m' hle ih =>
    rcases h.step_cases hl m' with ⟨cue, _, hgoes⟩ | ⟨hsame, _⟩
    · exact ih.trans (hgoes.mail (hlooks (m' + 1) (by omega)))
    · rwa [hsame]

/-- a clock that is set is performed some time -/
lemma clock_comes (hm : n ≤ m) {clock : Cue} (hclock : clock.isClockOf r = true)
    (hset : clock ∈ (σ m).agenda.cues) : ∃ m', m ≤ m' ∧ (σ m').Turn (σ (m' + 1)) clock := by
  by_contra hnever
  have hstays : ∀ m', m ≤ m' → clock ∈ (σ m').agenda.cues := by
    intro m' hm'
    induction m', hm' using Nat.le_induction with
    | base => exact hset
    | succ m' hle ih =>
      rcases h.step_cases hl m' with ⟨cue, hturn, hgoes⟩ | ⟨_, hsame⟩
      · refine hgoes.clocks (hlooks (m' + 1) (by omega)) clock hclock ?_ ih
        rintro rfl
        exact hnever ⟨m', hle, hturn⟩
      · rwa [hsame]
  exact hnever (h.fair.just m clock hstays)

/-- an idle interval passes again and again -/
lemma ticks (hm : n ≤ m) :
    ∃ m', m ≤ m' ∧ queued (l m').deeds ++ [.tick] <+: queued (l (m' + 1)).deeds := by
  obtain ⟨clock, hclock, hset⟩ := (hl m).ticking (hlooks m hm)
  obtain ⟨m₁, hm₁, hturn⟩ := h.clock_comes hl hlooks hm hclock hset
  have hwound := (h.goes hl hturn).wound hclock
  have htick : (Cue.tick r).isClockOf r = true := by simp [Cue.isClockOf]
  obtain ⟨m₂, hm₂, hturn'⟩ := h.clock_comes hl hlooks (m := m₁ + 1) (by omega) htick hwound
  exact ⟨m₂, by omega, (h.goes hl hturn').ticked rfl⟩

end

end Course

namespace Lively

variable {s : Session Bench} {l : Ledger}

lemma effects_eq (h : s.Lively r plan k l) : l.effects = s.effects r := by
  obtain ⟨run, _, rfl⟩ := Option.map_eq_some_iff.mp h.ledger
  rfl

/-- every effect is on a bulb that was picked, and there are no others -/
lemma length_picked (h : s.Lively r plan k l) :
    (plan.action.targets.picked (bulbs (handled l.deeds))).length = s.errands.length := by
  obtain ⟨haudience, haction⟩ := plan_of_ledger h.planned h.ledger
  have hfull := h.sound.staffed.full (.inr (by rw [haudience]; exact h.reliable))
  rw [← haction, ← hfull, h.effects_eq, h.toHosts.effects_eq, List.length_map, List.length_map]

lemma allEnded (h : s.Lively r plan k l) (hover : ∀ errand ∈ s.errands, errand.isOver = true) :
    AllEnded l.effects := by
  rw [h.effects_eq, h.toHosts.effects_eq]
  intro effect hmem
  obtain ⟨errand, herrand, rfl⟩ := List.mem_map.mp hmem
  exact hover errand herrand

/-- every effect that has ended has put a message into the inbox -/
lemma ends_perm (h : s.Lively r plan k l) (hended : AllEnded l.effects) :
    ((ends (queued l.deeds)).map Prod.fst).Perm (l.effects.map Prod.fst) := by
  have hperm := h.sound.booked.accounted (h.alert.untroubled h.sound).2
  rwa [ended, List.filter_eq_self.mpr hended] at hperm

lemma length_ends (h : s.Lively r plan k l) (hended : AllEnded l.effects) :
    (ends (queued l.deeds)).length = s.errands.length := by
  have hlength := (h.ends_perm hended).length_eq
  rwa [List.length_map, List.length_map, h.effects_eq, h.toHosts.effects_eq,
    List.length_map] at hlength

/-- when the inbox is empty every message has been handled, and none has ended the search -/
lemma handled_eq (h : s.Lively r plan k l) (hp : l.phase = .discovering) (hinbox : l.inbox = []) :
    handled l.deeds = queued l.deeds ∧ Undecided plan.action.targets (queued l.deeds) := by
  have hlooks := h.sound.looks hp
  have hmail := h.sound.booked.mail
  rw [hinbox, hlooks.cleared, List.append_nil, List.append_nil] at hmail
  refine ⟨hmail.symm, ?_⟩
  rw [hmail, ← (plan_of_ledger h.planned h.ledger).2]
  exact h.sound.booked.books.isLooking.mp hlooks.looking

end Lively

/-- in a fair course a lively run finishes -/
theorem Course.finishes (h : Course σ r plan k) {serials : List String}
    (hk : ∀ handle, k handle → handle.serial ∈ serials) :
    ∃ n l, (σ n).Lively r plan k l ∧ l.phase = .finished := by
  choose l hl using h.lively_at
  by_contra hnever
  obtain ⟨last, count, hover⟩ := h.all_over hk
  have hended : ∀ m, last ≤ m → AllEnded (l m).effects := fun m hm => (hl m).allEnded (hover m hm).2
  have hlooks : ∀ m, last ≤ m → (l m).phase = .discovering := by
    intro m hm
    by_contra hp
    obtain ⟨m', hm'⟩ := h.closes hl (fun m' hm' => hended m' (Nat.le_trans hm hm')) hp
    exact hnever ⟨m', l m', hl m', hm'⟩
  obtain ⟨m₁, hm₁, hempty⟩ := h.empties hl hlooks (Nat.le_refl last)
  obtain ⟨m₂, hm₂, htick⟩ := h.ticks hl hlooks hm₁
  obtain ⟨m₃, hm₃, htick'⟩ := h.ticks hl hlooks (m := m₂ + 1) (by omega)
  obtain ⟨m₄, hm₄, hempty'⟩ := h.empties hl hlooks (m := m₃ + 1) (by omega)
  obtain ⟨newer, hnewer⟩ := htick.trans (h.queued_le hl hlooks (m := m₂ + 1) (by omega) hm₃)
  have hms := htick'.trans (h.queued_le hl hlooks (m := m₃ + 1) (by omega) hm₄)
  rw [← hnewer, List.append_assoc, List.append_assoc] at hms
  -- nothing was acted on or ended between the two times when the inbox was empty
  have hfigures : ∀ m, last ≤ m → (l m).inbox = [] →
      (plan.action.targets.picked (bulbs (queued (l m).deeds))).length = count ∧
        (ends (queued (l m).deeds)).length = count := by
    intro m hm hinbox
    have hpicked := (hl m).length_picked
    rw [((hl m).handled_eq (hlooks m hm) hinbox).1, (hover m hm).1] at hpicked
    exact ⟨hpicked, ((hl m).length_ends (hended m hm)).trans (hover m hm).1⟩
  obtain ⟨hpicked, hends⟩ := hfigures m₁ hm₁ hempty
  obtain ⟨hpicked', hends'⟩ := hfigures m₄ (by omega) hempty'
  refine not_undecided (h.queued_le hl hlooks hm₁ hm₂) hms (hpicked'.trans hpicked.symm)
    (hends'.trans hends.symm) ?_ ((hl m₄).handled_eq (hlooks m₄ (by omega)) hempty').2
  rw [underway, hpicked, hends]
  omega

/-! ### Complete runs -/

/-- what a run has come to when nothing but bulbs could trouble it -/
structure Complete (run : Run) (effects : List Handle) : Prop where
  finished : run.phase = .finished
  inFlight : run.control.inFlight = 0
  summary : ∃ summary, run.outcome = some (.ok summary) ∧
    summary.matched = effects.map Handle.name ∧
    /- the bulbs whose effect had a fault -/
    summary.failed = (raised run.deeds).map fun f => f.1.name
  /-- faults are recorded in the order in which the effects have ended -/
  order : (raised run.deeds).map Prod.fst
    = ((ends (queued run.deeds)).filter fun e => !e.2).map Prod.fst
  /-- the effect finishes its work once, when the search was stopped and all effects had ended -/
  once : finals run.deeds = 1
  last : ∃ later earlier, run.deeds = later ++ .finalized :: earlier ∧ .stopped ∈ earlier ∧
    ((ends (queued earlier)).map Prod.fst).Perm effects

namespace Lively

variable {s : Session Bench} {l : Ledger}

/-- no effect has ended since the effect of the run finished its work -/
lemma last_of_closed (h : s.Lively r plan k l) (hended : AllEnded l.effects)
    (hclosed : Closed l.deeds) : ∃ later earlier, l.deeds = later ++ .finalized :: earlier ∧
      .stopped ∈ earlier ∧ ((ends (queued earlier)).map Prod.fst).Perm (l.effects.map Prod.fst) := by
  obtain ⟨later, earlier, hdeeds, hstops, hlater⟩ := hclosed
  refine ⟨later, earlier, hdeeds, ?_, ?_⟩
  · rw [stops_eq_count] at hstops
    exact List.count_pos_iff.mp hstops
  · have hperm := h.ends_perm hended
    rw [hdeeds, queued_append, ends_append, hlater, List.append_nil] at hperm
    exact hperm

/-- an effect in flight would be one that has not ended -/
lemma inFlight_eq_zero (h : s.Lively r plan k l) (hended : AllEnded l.effects)
    (hinbox : ends l.inbox = []) : l.control.inFlight = 0 := by
  have hmail : (ends (queued l.deeds)).length
      = (ends (handled l.deeds)).length + (ends (cleared l.deeds)).length := by
    rw [h.sound.booked.mail, ends_append, hinbox, List.append_nil, ends_append, List.length_append]
  have hpicked := h.length_picked
  have hends := h.length_ends hended
  rw [h.sound.booked.books.inFlight, underway, (plan_of_ledger h.planned h.ledger).2]
  omega

/-- a run that nothing but bulbs has troubled is complete when it has finished -/
theorem complete (h : s.Lively r plan k l) (hp : l.phase = .finished) :
    ∃ run, s.runs[r]? = some run ∧ Complete run ((s.effects r).map Prod.fst) := by
  have hsound := h.sound
  have hfinals := hsound.finished hp
  have hstopped := hsound.stopped (.inr hp)
  obtain ⟨hended, hinbox, hclosed⟩ := hstopped.closed hfinals
  obtain ⟨summary, hsummary⟩ := h.alert.finished hp
  have hsums := (hsound.summed summary hsummary).2
  have hbooks := hsound.booked.books
  have hinFlight := h.inFlight_eq_zero hended hinbox
  have hlast := h.last_of_closed hended hclosed
  have honce : finals l.deeds = 1 := by
    have htoll := hstopped.toll
    rw [Ledger.toll] at htoll
    omega
  have hpicked : l.effects.map Prod.fst = l.action.targets.picked (bulbs (handled l.deeds)) :=
    hsound.staffed.full (.inl (h.alert.untroubled hsound).2)
  have hfailed : summary.failed = (raised l.deeds).map fun f => f.1.name := by
    rw [hsums.failed, hsound.failed_eq hinbox]
  have hmatched : summary.matched = (l.effects.map Prod.fst).map Handle.name := by
    rw [hsums.matched, hbooks.matched, hpicked]
  rw [← h.effects_eq]
  obtain ⟨run, hget, rfl⟩ := Option.map_eq_some_iff.mp h.ledger
  exact ⟨run, hget, hp, hinFlight, ⟨summary, hsummary, hmatched, hfailed⟩, hsound.blamed, honce, hlast⟩

end Lively

/-- a run that nothing but bulbs can trouble comes to be complete, in whatever order the cues are
performed: with faults of any kind, whenever bulbs are announced -/
theorem Fair.completes (hfair : Fair σ) {bench : Bench} {store : Snapshot.Store} {action : Action}
    {settings : Settings} {client : Nat} {audience : Audience} {hasStore : Bool}
    (hstart : σ 0 = (alone bench (.ofAction action settings client audience hasStore) store).start 0
      (.ofAction action settings client audience hasStore))
    (hreliable : audience.isReliable = true) (hserves : store.Serves action hasStore)
    (hunbroken : (bench.client client).isBroken = false)
    (hidle : Duration.ofFloat settings.idleSeconds ≠ .endless)
    (hquery : Duration.ofFloat settings.queryTimeout ≠ .endless) :
    ∃ n run, (σ n).runs[0]? = some run ∧ Complete run (((σ n).effects 0).map Prod.fst) := by
  let serials := (bench.announcements client).map fun a => a.1.serial
  obtain ⟨l, hl⟩ := Lively.start settings (k := fun handle => handle.serial ∈ serials) hreliable
    hserves hunbroken fun a ha => List.mem_map_of_mem ha
  have hcourse : Course σ 0 (.opening action settings client audience hasStore store)
      fun handle => handle.serial ∈ serials :=
    ⟨hfair, ⟨l, hstart ▸ hl⟩, hidle, hquery⟩
  obtain ⟨n, l', hl', hp⟩ := hcourse.finishes fun _ => id
  obtain ⟨run, hrun, hcomplete⟩ := hl'.complete hp
  exact ⟨n, run, hrun, hcomplete⟩

/-- two bulbs, the first of which does not answer when it is asked for its state -/
def silentHall : Bench where
  bulbs := [
    { handle := { serial := "1", label := "Hall", host := "" }, replies := [.silence]
      state := { label := "Hall", power := 0, hue := 1, saturation := 2, brightness := 3, kelvin := 4 } },
    { handle := { serial := "2", label := "Attic", host := "" }
      state := { label := "Attic", power := 0, hue := 5, saturation := 6, brightness := 7, kelvin := 8 } }]
  clients := [{ announced := some [("1", 0), ("2", 1)] }]

/-- ask all bulbs for their state -/
def statusOfAll : Action where
  command := "status all"
  effect := .status
  targets := .all

def hallAsked : Session Bench :=
  (alone silentHall (.ofAction statusOfAll { queryRetries := 0 } 0 (.recorder [])) {}).start 0
    (.ofAction statusOfAll { queryRetries := 0 } 0 (.recorder []))

set_option maxRecDepth 100000 in
theorem completes_hallAsked : Fair hallAsked.trace ∧ ∃ n run,
    (hallAsked.trace n).runs[0]? = some run ∧
      Complete run (((hallAsked.trace n).effects 0).map Prod.fst) := by
  have hrest : (hallAsked.trace 20).agenda.cues = [] := by decide +kernel
  have hfair : Fair hallAsked.trace := fair_trace hrest
  have hstart : hallAsked.trace 0 =
      (alone silentHall (.ofAction statusOfAll { queryRetries := 0 } 0 (.recorder [])) {}).start 0
        (.ofAction statusOfAll { queryRetries := 0 } 0 (.recorder [])) := rfl
  have hidle : Duration.ofFloat ({ queryRetries := 0 } : Settings).idleSeconds ≠ .endless := by
    decide +kernel
  have hquery : Duration.ofFloat ({ queryRetries := 0 } : Settings).queryTimeout ≠ .endless := by
    decide +kernel
  exact ⟨hfair, hfair.completes hstart rfl trivial rfl hidle hquery⟩

end Session

end Lamplighter
