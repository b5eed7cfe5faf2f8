import Lamplighter.Proofs.Run.Backed

/-!
# Lively: a run that goes on whatever comes next

* `Session.Lively`    the only run of a session is alert, its clock is set while it looks for bulbs,
                      and nothing goes wrong but on the bulbs;
* `Session.Goes`      what one turn makes of such a run;
* `Lively.turn`       whatever cue is performed, the run stays lively.
-/

set_option linter.unusedSectionVars false

namespace Lamplighter

open Deeds

lemma Agenda.cues_pause_of_finite {α : Type} (agenda : Agenda α) {duration : Duration}
    (h : duration ≠ .endless) (cue : α) :
    (agenda.pause duration cue).cues.Perm (cue :: agenda.cues) := by
  unfold Agenda.pause
  split
  · exact cues_soon agenda 0 cue
  · cases duration with
    | endless => exact absurd rfl h
    | seconds seconds => exact cues_after_seconds agenda seconds 1 cue

lemma Cue.eq_of_isClockOf {cue : Cue} {r : Nat} (h : cue.isClockOf r = true) :
    cue = .clock r ∨ cue = .tick r := by
  cases cue <;> simp_all [Cue.isClockOf]

namespace Session

variable {s t : Session Bench} {r : Nat} {plan : Plan} {k : Handle → Prop} {l l' : Ledger}
  {cue : Cue} {agenda : Agenda Cue}

structure Lively (s : Session Bench) (r : Nat) (plan : Plan) (k : Handle → Prop) (l : Ledger) :
    Prop extends Hosts s r plan k where
  ledger : s.ledger r = some l
  alert : l.Alert
  ticking : l.phase = .discovering → ∃ cue, cue.isClockOf r = true ∧ cue ∈ s.agenda.cues
  serves : l.phase ≠ .finished → s.store.Serves plan.action plan.hasStore

/-- a turn leaves a run lively, and brings it on if the cue is the one that it waits for -/
structure Goes (s t : Session Bench) (r : Nat) (plan : Plan) (k : Handle → Prop) (cue : Cue)
    (l l' : Ledger) : Prop where
  lively : t.Lively r plan k l'
  forward : l.phase ≠ .discovering → l'.phase ≠ .discovering
  finished : l.phase = .finished → l'.phase = .finished
  mail : l'.phase = .discovering → queued l.deeds <+: queued l'.deeds
  clocks : l'.phase = .discovering → ∀ clock, clock.isClockOf r = true → clock ≠ cue →
    clock ∈ s.agenda.cues → clock ∈ t.agenda.cues
  emptied : cue = .wake r → l'.phase = .discovering → l'.isWaiting = true ∧ l'.inbox = []
  closed : cue = .drained r none → l'.phase = .finished
  ticked : cue = .tick r → queued l.deeds ++ [.tick] <+: queued l'.deeds
  wound : cue.isClockOf r = true → .tick r ∈ t.agenda.cues

/-- no effect ends with a fault that goes further -/
lemma Hosts.well (h : s.Hosts r plan k) : ∀ errand ∈ s.errands, errand.raised? = none := by
  intro errand hmem
  obtain ⟨e, he⟩ := List.getElem?_of_mem hmem
  have hattended := h.attended e
  have hdesk : (s.desk e).errand = some { errand with isAttached := true } := by
    show s.errands[e]?.map _ = _
    rw [he]
    rfl
  simp only [Desk.IsAttended, hdesk] at hattended
  unfold Errand.raised?
  split
  · rename_i fault hstage
    have hover := hattended.1
    simp only [Errand.Attended, hstage] at hover
    obtain ⟨⟨reply, hok⟩, _⟩ := hover
    cases hok
  · rfl

namespace Lively

lemma sound (h : s.Lively r plan k l) : l.Sound := by
  obtain ⟨l', hl', hsound⟩ := h.kept.sound
  obtain rfl := Option.some.inj (h.ledger.symm.trans hl')
  exact hsound

lemma backed (h : s.Lively r plan k l) (hp : l.phase ≠ .finished) : s.Backed r plan :=
  ⟨h.planned, h.reliable, h.serves hp⟩

/-- when its clock ticks, it is set for another interval -/
lemma wound (h : s.Lively r plan k l) (hidle : Duration.ofFloat plan.settings.idleSeconds ≠ .endless)
    (hcue : cue.isClockOf r = true) :
    .tick r ∈ (({ s with agenda } : Session Bench).perform cue).agenda.cues := by
  obtain ⟨run, hget, rfl⟩ := Option.map_eq_some_iff.mp h.planned
  have hset : ∀ u : Session Bench, .tick r ∈ (u.wind r run).agenda.cues := fun u =>
    (Agenda.cues_pause_of_finite u.agenda hidle (.tick r)).mem_iff.mpr (List.mem_cons_self ..)
  rcases Cue.eq_of_isClockOf hcue with rfl | rfl
  · simp only [Session.perform, Session.overRun, hget]
    exact hset { s with agenda }
  · simp only [Session.perform, Session.overRun, hget]
    exact hset _

/-- when an interval has passed, that becomes a message -/
lemma ticked (h : s.Lively r plan k l) (hcues : s.agenda.cues.Perm (.tick r :: agenda.cues)) :
    (({ s with agenda } : Session Bench).perform (.tick r)).ledger r = some (l.post .tick) := by
  obtain ⟨run, hget, _⟩ := Option.map_eq_some_iff.mp h.planned
  have hremoved : ({ s with agenda } : Session Bench).ledger r = some l :=
    (Same.remove hcues rfl).ledger.trans h.ledger
  simp only [Session.perform, Session.overRun, hget]
  exact (Same.wind r _ r run).ledger.trans (ledger_post hremoved .tick)

/-- a cue that does not concern the run -/
theorem turn_aside (h : s.Lively r plan k l)
    (hidle : Duration.ofFloat plan.settings.idleSeconds ≠ .endless)
    (hcues : s.agenda.cues.Perm (cue :: agenda.cues))
    (hhosts : (({ s with agenda } : Session Bench).perform cue).Hosts r plan k)
    (hconcerns : cue.concerns r = false) :
    ∃ l', s.Goes (({ s with agenda } : Session Bench).perform cue) r plan k cue l l' := by
  have hmoved : Advances r s (({ s with agenda } : Session Bench).perform cue) := by
    refine (Same.remove hcues hconcerns).advances.trans
      (Advances.perform h.sole h.kept.not_mem_line hconcerns ?_)
    rintro i rfl
    exact h.kept.orderly.retired i (hcues.mem_iff.mpr (List.mem_cons_self ..))
  obtain ⟨l', hl', hmoves⟩ := hmoved.ledger h.kept.orderly l h.ledger
  have hunmoved := hmoves.unmoved
  obtain ⟨e, he⟩ := exists_not_awaited cue
  obtain ⟨x, hforeign⟩ := s.exists_foreign he
  have hspares := Spares.perform (c := 0) (s := { s with agenda }) h.sole hforeign hconcerns
    (h.kind_signal hcues)
  have hclocks : ∀ clock, clock.isClockOf r = true → clock ≠ cue → clock ∈ s.agenda.cues →
      clock ∈ (({ s with agenda } : Session Bench).perform cue).agenda.cues := by
    intro clock hclock hne hmem
    refine hspares.clocks clock hclock ?_
    exact (List.mem_cons.mp (hcues.mem_iff.mp hmem)).resolve_left hne
  have hticking : l'.phase = .discovering → ∃ clock, clock.isClockOf r = true ∧
      clock ∈ (({ s with agenda } : Session Bench).perform cue).agenda.cues := by
    intro hp
    by_cases hclock : cue.isClockOf r = true
    · exact ⟨.tick r, by simp [Cue.isClockOf], h.wound hidle hclock⟩
    · obtain ⟨clock, hset, hmem⟩ := h.ticking (hunmoved.phase ▸ hp)
      refine ⟨clock, hset, hclocks clock hset ?_ hmem⟩
      rintro rfl
      exact hclock hset
  refine ⟨l', ⟨hhosts, hl', h.alert.moves hmoves, hticking, ?_⟩, ?_, ?_, fun _ => hunmoved.queued,
    fun _ => hclocks, ?_, ?_, ?_, h.wound hidle⟩
  · intro hp
    rw [hspares.store]
    exact h.serves (hunmoved.phase ▸ hp)
  · exact fun hp => hunmoved.phase ▸ hp
  · exact fun hp => hunmoved.phase.trans hp
  · rintro rfl
    simp [Cue.concerns, Cue.isWakeOf] at hconcerns
  · rintro rfl
    simp [Cue.concerns, Cue.isCalmOf] at hconcerns
  · rintro rfl
    obtain rfl := Option.some.inj ((h.ticked hcues).symm.trans hl')
    exact List.prefix_rfl

/-- the run looks into its inbox -/
theorem turn_wake (h : s.Lively r plan k l) (hcues : s.agenda.cues.Perm (.wake r :: agenda.cues))
    (hhosts : (({ s with agenda } : Session Bench).perform (.wake r)).Hosts r plan k) :
    ∃ l', s.Goes (({ s with agenda } : Session Bench).perform (.wake r)) r plan k (.wake r) l l' := by
  obtain ⟨hp, l₀, hl₀, hp₀, hdeeds⟩ := ledger_wake h.sound h.ledger hcues
  have hbacked : ({ s with agenda } : Session Bench).Backed r plan :=
    (h.backed (by rw [hp]; decide)).of_plans rfl rfl
  obtain ⟨run, hget, hrun⟩ := Option.map_eq_some_iff.mp h.planned
  obtain ⟨l', hsettled⟩ := hbacked.handleAll hl₀ hp₀ (h.kept.remove hcues).orderly h.well hrun run.inbox
  rw [perform_wake (s := { s with agenda }) hget] at hhosts ⊢
  have hclocks : l'.phase = .discovering → ∀ clock, clock.isClockOf r = true → clock ≠ .wake r →
      clock ∈ s.agenda.cues → clock ∈ (({ s with agenda } : Session Bench).handleAll r run
        run.inbox).agenda.cues := by
    intro hd clock hclock hne hmem
    refine hsettled.clocks hd clock hclock ?_
    exact (List.mem_cons.mp (hcues.mem_iff.mp hmem)).resolve_left hne
  refine ⟨l', ⟨hhosts, hsettled.ledger, hsettled.alert, ?_, ?_⟩, fun hn => absurd hp hn, ?_, ?_,
    hclocks, fun _ => hsettled.emptied, ?_, ?_, ?_⟩
  · intro hd
    obtain ⟨clock, hclock, hmem⟩ := h.ticking hp
    refine ⟨clock, hclock, hclocks hd clock hclock ?_ hmem⟩
    rintro rfl
    cases hclock
  · intro hf
    rw [hsettled.store hf]
    exact hbacked.serves
  · exact fun hf => absurd (hp.symm.trans hf) (by decide)
  · intro hd
    have hsame : queued l'.deeds = queued l.deeds :=
      (hsettled.queued hd).trans (congrArg queued hdeeds)
    exact hsame ▸ List.prefix_rfl
  · exact fun heq => by cases heq
  · exact fun heq => by cases heq
  · exact fun hclock => by cases hclock

/-- the effects of the run have ended -/
theorem turn_drained (h : s.Lively r plan k l)
    (hcues : s.agenda.cues.Perm (.drained r none :: agenda.cues))
    (hhosts : (({ s with agenda } : Session Bench).perform (.drained r none)).Hosts r plan k) :
    ∃ l', s.Goes (({ s with agenda } : Session Bench).perform (.drained r none)) r plan k
      (.drained r none) l l' := by
  obtain ⟨hp, -⟩ := ledger_drained h.sound h.ledger hcues
  have hbacked : ({ s with agenda } : Session Bench).Backed r plan :=
    (h.backed (by rw [hp]; decide)).of_plans rfl rfl
  obtain ⟨run, hget, hrun⟩ := Option.map_eq_some_iff.mp h.planned
  obtain ⟨l', hl', hp', halert⟩ := hbacked.close hget
  rw [perform_drained (s := { s with agenda }) hget] at hhosts ⊢
  have hnot : l'.phase ≠ .discovering := by
    rw [hp']
    decide
  refine ⟨l', ⟨hhosts, hl', halert, fun hd => absurd hd hnot, fun hf => absurd hp' hf⟩,
    fun _ => hnot, fun _ => hp', fun hd => absurd hd hnot, fun hd => absurd hd hnot, ?_, fun _ => hp',
    ?_, ?_⟩
  · exact fun heq => by cases heq
  · exact fun heq => by cases heq
  · exact fun hclock => by cases hclock

/-- nothing tells the run of a fault that goes further -/
lemma not_halted (h : s.Lively r plan k l) (fault : Fault) :
    .drained r (some fault) ∉ s.agenda.cues := by
  intro hmem
  obtain ⟨run, hget, rfl⟩ := Option.map_eq_some_iff.mp h.ledger
  have hhalts : s.agenda.cues.countP (·.isHaltOf r) = 0 := (h.alert.untroubled h.sound).1
  have hnone := List.countP_eq_zero.mp hhalts _ hmem
  simp [Cue.isHaltOf] at hnone

/-- whatever cue is performed, the run stays lively -/
theorem turn (h : s.Lively r plan k l)
    (hidle : Duration.ofFloat plan.settings.idleSeconds ≠ .endless) (ht : s.Turn t cue) :
    ∃ l', s.Goes t r plan k cue l l' := by
  have hhosts := h.toHosts.turn ht
  obtain ⟨agenda, hcues, _, rfl⟩ := ht
  have hmem : cue ∈ s.agenda.cues := hcues.mem_iff.mpr (List.mem_cons_self ..)
  cases hconcerns : cue.concerns r with
  | false => exact h.turn_aside hidle hcues hhosts hconcerns
  | true =>
    rcases Cue.eq_of_concerns hconcerns (h.kept.not_isEntryOf hmem) with rfl | ⟨_ | fault, rfl⟩
    · exact h.turn_wake hcues hhosts
    · exact h.turn_drained hcues hhosts
    · exact absurd hmem (h.not_halted fault)

end Lively

end Session

end Lamplighter
