import Lamplighter.Proofs.Run.Locality

/-!
# Tracking: what has become of every bulb, of what was kept and of the store

No step of an effect is a matter of time here: an effect comes to somewhere by steps of its own,
whichever they are and whenever they come.

* `Solo.Comes`        an errand has come to somewhere, and has kept some states on its way;
* `Session.Fares`     a run has left a bulb alone, or its effect on it has come to somewhere;
* `Session.Shelves`   a run puts away what it kept just when it finishes;
* `Session.Tracks`    so it is with every bulb, and what was kept is what the effects kept;
* `Trial.tracks`      so it is after every number of steps.
-/

set_option linter.unusedSectionVars false

namespace Lamplighter

open Deeds

/-! ### The way of an errand -/

namespace Solo

/-- an errand has come to somewhere, and has kept some states on its way -/
inductive Comes (first : Solo) : List BulbState → Solo → Prop
  | start : Comes first [] first
  | step {states more : List BulbState} {solo solo' : Solo} (comes : Comes first states solo)
    (goes : solo.Goes more solo') : Comes first (states ++ more) solo'

variable {first solo solo' : Solo} {states : List BulbState}

lemma Goes.continues (h : solo.Goes states solo') : solo.Continues solo' := by
  have hself := Continues.refl solo
  cases h with
  | begin stage => exact hself.follow _
  | attempt stage => exact hself.attempt _ _
  | arrive answer stage => exact hself.arrive _ _ answer
  | expire stage => exact hself.setStage _
  | take stage verdict => exact hself.follow _
  | again stage => exact hself.ask _ _
  | give fault stage => exact Continues.setStage (Continues.of_errand rfl) _
  | stay => exact hself

lemma Comes.continues (h : first.Comes states solo) : first.Continues solo := by
  induction h with
  | start => exact .refl first
  | step _ goes ih =>
    obtain ⟨stage, herrand⟩ := ih
    obtain ⟨stage', herrand'⟩ := goes.continues
    exact ⟨stage', by rw [herrand', herrand]⟩

end Solo

namespace Session

variable {s t : Session Bench} {r e : Nat} {plan : Plan} {k : Handle → Prop} {cue : Cue}
  {handle : Handle} {corner : Corner} {states : List BulbState} {solo : Solo} {cues : Agenda Cue}
  {errand : Errand}

/-! ### One effect -/

/-- a run has not acted on a bulb, or its effect has come to somewhere -/
inductive Fares (s : Session Bench) (r : Nat) (plan : Plan) (handle : Handle) (corner : Corner)
    (states : List BulbState) : Prop where
  | untouched (same : s.corner plan.client r handle.serial = corner)
    (none : ∀ errand ∈ s.errands, errand.handle.serial ≠ handle.serial) (nothing : states = [])
  | begun {e : Nat} {solo : Solo} {cues : Agenda Cue} (has : s.Has r e solo cues)
    (comes : (firstOf plan r handle corner).Comes states solo)

lemma Outset.fares (h : s.Outset r plan handle corner) : s.Fares r plan handle corner [] := by
  cases h with
  | untouched same none => exact .untouched same none rfl
  | first keeps =>
    cases keeps with
    | settled has awaits => exact .begun has .start
    | underway stage => cases stage

lemma handle_of_comes (h : (firstOf plan r handle corner).Comes states solo) :
    solo.errand.handle = handle := by
  obtain ⟨stage, herrand⟩ := h.continues
  rw [herrand]
  rfl

lemma Has.corner_of_comes (h : s.Has r e solo cues)
    (hcomes : (firstOf plan r handle corner).Comes states solo) :
    s.corner plan.client r handle.serial = solo.corner := by
  obtain ⟨stage, herrand⟩ := hcomes.continues
  have hcorner := h.corner
  rw [herrand] at hcorner
  exact hcorner

lemma Has.get (h : s.Has r e solo cues) : ∃ errand, s.errands[e]? = some errand ∧
    errand.handle = solo.errand.handle := by
  obtain ⟨errand, he, _, _, stage, hsolo⟩ := h.errand
  exact ⟨errand, he, by rw [hsolo]⟩

lemma Has.removed {agenda : Agenda Cue} (h : s.Has r e solo cues) (horder : agenda.IsOrdered) :
    ({ s with agenda } : Session Bench).Has r e solo (({ s with agenda } : Session Bench).desk e).cues :=
  ⟨congrArg (Desk.mk · _) (Desk.mk.inj h.desk).1, h.corner, h.run, h.here, h.reliable, horder⟩

/-- with a cue of its own an effect goes on, and what it keeps is added to the stock -/
theorem Hosts.goes (h : s.Hosts r plan k) (ht : s.Turn t cue) (hhas : s.Has r e solo cues)
    (hcue : cue.isAwaitedBy e = true) : ∃ solo' more cues', solo.Goes more solo' ∧
      t.Has r e solo' cues' ∧ t.stock r = (s.stock r).add more := by
  obtain ⟨agenda, hcues, horder, rfl⟩ := ht
  have hattended := h.attended e
  have hremove := cues_desk_remove hcues e
  have herrand : (s.desk e).errand = some solo.errand := (Desk.mk.inj hhas.desk).1
  simp only [Desk.IsAttended, herrand] at hattended
  rw [if_pos hcue] at hremove
  exact (hhas.removed (horder h.ordered)).goes (hattended.1.perm hremove.symm).due

/-- with any other cue it stays where it is -/
theorem Hosts.stays (h : s.Hosts r plan k) (ht : s.Turn t cue) (hhas : s.Has r e solo cues)
    (hcue : cue.isAwaitedBy e = false) : ∃ cues', t.Has r e solo cues' := by
  obtain ⟨agenda, hcues, horder, rfl⟩ := ht
  exact ⟨_, .aside h hcues (hhas.removed (horder h.ordered)) hcue⟩

/-- a step that is not about the effect on a bulb -/
theorem Fares.aside (h : s.Fares r plan handle corner states) (hhosts : s.Hosts r plan k)
    (hone : ∀ other, k other → other.serial = handle.serial → other = handle)
    (hstep : s.step = some t) (ht : s.Turn t cue)
    (hforeign : ∀ e errand, cue.isAwaitedBy e = true → s.errands[e]? = some errand →
      errand.handle.serial ≠ handle.serial) : t.Fares r plan handle corner states := by
  cases h with
  | untouched same none nothing =>
    subst nothing
    exact (hhosts.outset_untouched hone same none hstep).fares
  | @begun e solo cues has comes =>
    obtain ⟨errand, he, hhandle⟩ := has.get
    rw [handle_of_comes comes] at hhandle
    have hcue : cue.isAwaitedBy e = false := by
      refine Bool.eq_false_iff.mpr fun hcue => hforeign e errand hcue he ?_
      rw [hhandle]
    obtain ⟨cues', hstays⟩ := hhosts.stays ht has hcue
    exact .begun hstays comes

/-- a step of the effect on a bulb -/
theorem Fares.own (h : s.Fares r plan handle corner states) (hhosts : s.Hosts r plan k)
    (ht : s.Turn t cue) (he : s.errands[e]? = some errand)
    (hserial : errand.handle.serial = handle.serial) (hcue : cue.isAwaitedBy e = true) :
    ∃ more, t.Fares r plan handle corner (states ++ more) ∧
      t.stock r = (s.stock r).add more := by
  cases h with
  | untouched same none nothing => exact absurd hserial (none errand (List.mem_of_getElem? he))
  | @begun e' solo cues has comes =>
    obtain ⟨errand', he', hhandle⟩ := has.get
    rw [handle_of_comes comes] at hhandle
    obtain rfl := hhosts.eq_of_serial he he' (by rw [hserial, hhandle])
    obtain ⟨solo', more, cues', hgoes, hhas, hstock⟩ := hhosts.goes ht has hcue
    exact ⟨more, .begun hhas (comes.step hgoes), hstock⟩

/-- an effect that is over waits for nothing -/
lemma Hosts.not_awaited (h : s.Hosts r plan k) (ht : s.Turn t cue) (he : s.errands[e]? = some errand)
    (hover : errand.isOver = true) : cue.isAwaitedBy e = false := by
  obtain ⟨agenda, hcues, _, _⟩ := ht
  have hattended := h.attended e
  have hdesk : (s.desk e).errand = some { errand with isAttached := true } := by
    show s.errands[e]?.map _ = _
    rw [he]
    rfl
  obtain ⟨outcome, hstage⟩ := exists_over hover
  simp only [Desk.IsAttended, hdesk, Errand.Attended, hstage] at hattended
  refine Bool.eq_false_iff.mpr fun hcue => ?_
  have hremove := cues_desk_remove hcues e
  rw [if_pos hcue, hattended.1.2] at hremove
  exact absurd hremove.length_eq (by simp)

/-! ### The run -/

/-- a cue that does not concern the run leaves it in its phase -/
lemma Hosts.phase_turn (h : s.Hosts r plan k) (ht : s.Turn t cue)
    (hconcerns : cue.concerns r = false) {l' : Ledger} (hl' : t.ledger r = some l') :
    ∃ l, s.ledger r = some l ∧ l'.phase = l.phase := by
  obtain ⟨agenda, hcues, _, rfl⟩ := ht
  have hmoved : Advances r s (({ s with agenda } : Session Bench).perform cue) := by
    refine (Same.remove hcues hconcerns).advances.trans
      (Advances.perform h.sole h.kept.not_mem_line hconcerns ?_)
    rintro i rfl
    exact h.kept.orderly.retired i (hcues.mem_iff.mpr (List.mem_cons_self ..))
  obtain ⟨l, hl, _⟩ := h.kept.sound
  obtain ⟨l'', hl'', hmoves⟩ := hmoved.ledger h.kept.orderly l hl
  obtain rfl := Option.some.inj (hl'.symm.trans hl'')
  exact ⟨l, hl, hmoves.unmoved.phase⟩

/-- a run that has not finished keeps its stock, and puts away what it kept when it finishes -/
def Shelves (s t : Session Bench) (r : Nat) (plan : Plan) : Prop :=
  ∀ l', t.ledger r = some l' →
    (l'.phase ≠ .finished → t.stock r = s.stock r) ∧ (l'.phase = .finished → s.Files t r plan)

lemma Backed.shelves_wake {l : Ledger} (h : s.Backed r plan) (hl : s.ledger r = some l)
    (hp : l.phase = .discovering) (horderly : s.Orderly r)
    (hwell : ∀ errand ∈ s.errands, errand.raised? = none) :
    s.Shelves (s.perform (.wake r)) r plan := by
  obtain ⟨run, hget, hrun⟩ := Option.map_eq_some_iff.mp h.planned
  obtain ⟨l', hsettled⟩ := h.handleAll hl hp horderly hwell hrun run.inbox
  rw [perform_wake hget]
  intro l'' hl''
  obtain rfl := Option.some.inj (hl''.symm.trans hsettled.ledger)
  exact ⟨hsettled.stock, hsettled.files⟩

lemma Backed.shelves_drained (h : s.Backed r plan) :
    s.Shelves (s.perform (.drained r none)) r plan := by
  obtain ⟨run, hget, hrun⟩ := Option.map_eq_some_iff.mp h.planned
  obtain ⟨l', hl', hp', _⟩ := h.close hget
  rw [perform_drained hget]
  intro l'' hl''
  obtain rfl := Option.some.inj (hl''.symm.trans hl')
  exact ⟨fun hn => absurd hp' hn, fun _ => h.files_close hget⟩

/-- a run that breaks off is in the phase that it was in -/
lemma shelves_broken {l : Ledger} (hl : s.ledger r = some l) (hp : l.phase = .draining)
    (fault : Fault) : s.Shelves (s.perform (.drained r (some fault))) r plan := by
  intro l' hl'
  obtain ⟨run', hget', rfl⟩ := Option.map_eq_some_iff.mp hl'
  obtain ⟨run, hget, rfl⟩ := Option.map_eq_some_iff.mp hl
  have hrun' : (s.endRun r (.error fault)).runs[r]? = some run' := hget'
  rw [runs_endRun, hget] at hrun'
  obtain rfl := Option.some.inj hrun'
  have hphase : run.phase = .draining := hp
  refine ⟨fun _ => stock_endRun _ _ _, fun hfinished => ?_⟩
  have hfinished : run.phase = .finished := hfinished
  rw [hphase] at hfinished
  cases hfinished

/-- a cue that concerns the run comes before it has finished; when it finishes with it, it puts away
what it kept -/
theorem Hosts.shelves_turn (h : s.Hosts r plan k) (ht : s.Turn t cue)
    (hconcerns : cue.concerns r = true)
    (hserves : ∀ l, s.ledger r = some l → l.phase ≠ .finished →
      s.store.Serves plan.action plan.hasStore) :
    ∃ l, s.ledger r = some l ∧ l.phase ≠ .finished ∧ s.Shelves t r plan := by
  obtain ⟨agenda, hcues, _, rfl⟩ := ht
  obtain ⟨l, hl, hsound⟩ := h.kept.sound
  have hbacked : l.phase ≠ .finished → ({ s with agenda } : Session Bench).Backed r plan :=
    fun hp => ⟨h.planned, h.reliable, hserves l hl hp⟩
  have hentry := h.kept.not_isEntryOf (hcues.mem_iff.mpr (List.mem_cons_self ..))
  rcases Cue.eq_of_concerns hconcerns hentry with rfl | ⟨_ | fault, rfl⟩
  · obtain ⟨hp, l₀, hl₀, hp₀, _⟩ := ledger_wake hsound hl hcues
    have hne : l.phase ≠ .finished := by
      rw [hp]
      decide
    exact ⟨l, hl, hne, (hbacked hne).shelves_wake hl₀ hp₀ (h.kept.remove hcues).orderly h.well⟩
  · obtain ⟨hp, _⟩ := ledger_drained hsound hl hcues
    have hne : l.phase ≠ .finished := by
      rw [hp]
      decide
    exact ⟨l, hl, hne, (hbacked hne).shelves_drained⟩
  · obtain ⟨hp, l₀, hl₀, hp₀⟩ := ledger_drained hsound hl hcues
    have hne : l.phase ≠ .finished := by
      rw [hp]
      decide
    exact ⟨l, hl, hne, shelves_broken hl₀ hp₀ fault⟩

/-! ### Everything at once -/

/-- what was kept for the bulb of a serial -/
def keptFor (log : List (Handle × BulbState)) (serial : String) : List BulbState :=
  (log.filter fun entry => entry.1.serial == serial).map Prod.snd

lemma keptFor_append_self (log : List (Handle × BulbState)) (handle : Handle)
    (more : List BulbState) : keptFor (log ++ more.map (handle, ·)) handle.serial
      = keptFor log handle.serial ++ more := by
  simp [keptFor, List.filter_map, Function.comp_def]

lemma keptFor_append_ne (log : List (Handle × BulbState)) {handle : Handle} {serial : String}
    (h : handle.serial ≠ serial) (more : List BulbState) :
    keptFor (log ++ more.map (handle, ·)) serial = keptFor log serial := by
  simp [keptFor, List.filter_map, Function.comp_def, h]

/-- every bulb is as the effect on it has left it so far, what was kept is in the log under its bulb,
and is put away when the run has finished -/
structure Tracks (s : Session Bench) (r : Nat) (plan : Plan) (k : Handle → Prop)
    (corner : String → Corner) (store : Snapshot.Store) (log : List (Handle × BulbState)) :
    Prop where
  fares : ∀ handle, (∀ other, k other → other.serial = handle.serial → other = handle) →
    s.Fares r plan handle (corner handle.serial) (keptFor log handle.serial)
  kept : (s.stock r).kept = some (log.map Prod.snd)
  known : ∀ entry ∈ log, k entry.1
  opened : ∀ l, s.ledger r = some l → l.phase ≠ .finished → s.store = store
  filed : ∀ l, s.ledger r = some l → l.phase = .finished →
    ∃ seconds, s.store = plan.filed store (log.map Prod.snd) seconds

namespace Tracks

variable {corners : String → Corner} {store : Snapshot.Store} {log : List (Handle × BulbState)}

lemma awaited_not_concerns (hcue : cue.isAwaitedBy e = true) : cue.concerns r = false := by
  cases cue <;> first | rfl | cases hcue

/-- a step of an effect -/
lemma own (h : s.Tracks r plan k corners store log) (hhosts : s.Hosts r plan k)
    (honly : ∀ a b, k a → k b → a.serial = b.serial → a = b) (hstep : s.step = some t)
    (ht : s.Turn t cue) (he : s.errands[e]? = some errand) (hcue : cue.isAwaitedBy e = true) :
    ∃ more : List BulbState,
      t.Tracks r plan k corners store (log ++ more.map (errand.handle, ·)) := by
  have hk := hhosts.kind he
  obtain ⟨more, hfares, hstock⟩ := (h.fares errand.handle fun other hother hserial =>
    honly other errand.handle hother hk hserial).own hhosts ht he rfl hcue
  have hkept : (t.stock r).kept = some (log.map Prod.snd ++ more) := by
    rw [hstock, Stock.add, h.kept]
    rfl
  have hstore : t.store = s.store := congrArg Stock.store hstock
  refine ⟨more, ?_, ?_, ?_, ?_, ?_⟩
  · intro handle hone
    by_cases hserial : errand.handle.serial = handle.serial
    · obtain rfl := hone _ hk hserial
      rw [keptFor_append_self]
      exact hfares
    · rw [keptFor_append_ne log hserial]
      refine (h.fares handle hone).aside hhosts hone hstep ht ?_
      intro i other hi hother
      obtain rfl := Cue.isAwaitedBy_inj hcue hi
      obtain rfl := Option.some.inj (he.symm.trans hother)
      exact hserial
  · rw [hkept, List.map_append, List.map_map]
    simp [Function.comp_def]
  · intro entry hmem
    rcases List.mem_append.mp hmem with hold | hnew
    · exact h.known entry hold
    · obtain ⟨state, _, rfl⟩ := List.mem_map.mp hnew
      exact hk
  · intro l' hl' hp
    obtain ⟨l, hl, hphase⟩ := hhosts.phase_turn ht (awaited_not_concerns hcue) hl'
    rw [hstore]
    exact h.opened l hl (hphase ▸ hp)
  · intro l' hl' hp
    obtain ⟨l, hl, hphase⟩ := hhosts.phase_turn ht (awaited_not_concerns hcue) hl'
    have hover := hhosts.over_of_finished hl (hphase ▸ hp) errand (List.mem_of_getElem? he)
    exact absurd (hcue.symm.trans (hhosts.not_awaited ht he hover)) (by decide)

/-- a step of the run, or of nothing that it knows -/
lemma aside (h : s.Tracks r plan k corners store log) (hhosts : s.Hosts r plan k)
    (hserves : store.Serves plan.action plan.hasStore) (hstep : s.step = some t)
    (ht : s.Turn t cue) (hnone : ∀ e, cue.isAwaitedBy e = true → s.errands[e]? = none) :
    t.Tracks r plan k corners store log := by
  have hfares : ∀ handle, (∀ other, k other → other.serial = handle.serial → other = handle) →
      t.Fares r plan handle (corners handle.serial) (keptFor log handle.serial) := by
    intro handle hone
    refine (h.fares handle hone).aside hhosts hone hstep ht ?_
    intro e errand hcue he
    rw [hnone e hcue] at he
    cases he
  cases hconcerns : cue.concerns r with
  | false =>
    have hstock : t.stock r = s.stock r := by
      obtain ⟨agenda, _, _, rfl⟩ := ht
      exact stock_perform_aside (s := { s with agenda }) hhosts.sole hconcerns hnone
    have hstore : t.store = s.store := congrArg Stock.store hstock
    refine ⟨hfares, by rw [hstock, h.kept], h.known, ?_, ?_⟩
    · intro l' hl' hp
      obtain ⟨l, hl, hphase⟩ := hhosts.phase_turn ht hconcerns hl'
      rw [hstore]
      exact h.opened l hl (hphase ▸ hp)
    · intro l' hl' hp
      obtain ⟨l, hl, hphase⟩ := hhosts.phase_turn ht hconcerns hl'
      rw [hstore]
      exact h.filed l hl (hphase ▸ hp)
  | true =>
    obtain ⟨l, hl, hne, hthen⟩ := hhosts.shelves_turn ht hconcerns fun l hl hp =>
      (h.opened l hl hp).symm ▸ hserves
    have hopened := h.opened l hl hne
    have hfiled : ∀ l', t.ledger r = some l' → l'.phase = .finished → ∃ seconds,
        t.stock r = ⟨some (log.map Prod.snd), plan.filed store (log.map Prod.snd) seconds⟩ := by
      intro l' hl' hp
      obtain ⟨kept, seconds, hkept, hstock⟩ := (hthen l' hl').2 hp
      obtain rfl := Option.some.inj (h.kept.symm.trans hkept)
      rw [hopened] at hstock
      exact ⟨seconds, hstock⟩
    obtain ⟨l', hl', _⟩ := (hhosts.turn ht).kept.sound
    refine ⟨hfares, ?_, h.known, ?_, ?_⟩
    · by_cases hp : l'.phase = .finished
      · obtain ⟨seconds, hstock⟩ := hfiled l' hl' hp
        rw [hstock]
      · rw [(hthen l' hl').1 hp, h.kept]
    · intro l'' hl'' hp
      exact (congrArg Stock.store ((hthen l'' hl'').1 hp)).trans hopened
    · intro l'' hl'' hp
      obtain ⟨seconds, hstock⟩ := hfiled l'' hl'' hp
      exact ⟨seconds, congrArg Stock.store hstock⟩

/-- a step adds what it keeps to the log -/
theorem step (h : s.Tracks r plan k corners store log) (hhosts : s.Hosts r plan k)
    (hserves : store.Serves plan.action plan.hasStore)
    (honly : ∀ a b, k a → k b → a.serial = b.serial → a = b) (hstep : s.step = some t) :
    ∃ log', t.Tracks r plan k corners store log' := by
  obtain ⟨cue, ht⟩ := turn_of_step hstep
  by_cases hown : ∃ e errand, cue.isAwaitedBy e = true ∧ s.errands[e]? = some errand
  · obtain ⟨e, errand, hcue, he⟩ := hown
    obtain ⟨more, htracks⟩ := h.own hhosts honly hstep ht he hcue
    exact ⟨_, htracks⟩
  · refine ⟨log, h.aside hhosts hserves hstep ht fun e hcue => ?_⟩
    cases he : s.errands[e]? with
    | none => rfl
    | some errand => exact absurd ⟨e, errand, hcue, he⟩ hown

end Tracks

end Session

/-! ### Trials -/

namespace Trial

variable {trial : Trial} {n : Nat} {run : Run} {summary : Summary}

namespace IsFit

lemma exists_of_announced (h : trial.IsFit) {handle : Handle} (ha : trial.IsAnnounced handle) :
    ∃ bulb, trial.bench.find? handle.serial = some bulb ∧ bulb.handle = handle :=
  Bench.exists_of_announced h.distinct ha

lemma only (h : trial.IsFit) : ∀ a b, trial.IsAnnounced a → trial.IsAnnounced b →
    a.serial = b.serial → a = b := by
  intro a b ha hb hserial
  obtain ⟨bulb, hbulb, rfl⟩ := h.exists_of_announced hb
  exact h.eq_handle hbulb a ha hserial

/-- after every number of steps every bulb is as the effect on it has left it so far, and what was
kept is what the effects kept -/
theorem tracks (h : trial.IsFit) (hopen : (trial.bench.client trial.client).isBroken = false)
    (n : Nat) : ∃ log, (trial.after n).Tracks 0 trial.plan trial.IsAnnounced
      (trial.bench.corner trial.client) trial.store log := by
  induction n with
  | zero =>
    obtain ⟨v, run, l, l', hstart, hopens, hsettled⟩ := Session.start_settled
      (k := trial.IsAnnounced) trial.settings h.reliable h.serves hopen
      fun a ha => List.mem_map_of_mem ha
    have hafter : trial.after 0 = v.handleAll 0 run run.inbox := hstart
    rw [← hafter] at hsettled
    have hstock : v.stock 0 = ⟨some [], trial.store⟩ := hopens.stock
    have hstore : v.store = trial.store := hopens.store
    have hfiled : l'.phase = .finished → ∃ seconds,
        (trial.after 0).stock 0 = ⟨some [], trial.plan.filed trial.store [] seconds⟩ := by
      intro hp
      obtain ⟨kept, seconds, hkept, hfiled⟩ := hsettled.files hp
      rw [hstock] at hkept
      obtain rfl := Option.some.inj hkept
      rw [hstore] at hfiled
      exact ⟨seconds, hfiled⟩
    refine ⟨[], fun handle hone => (h.outset_start hopen hone).1.fares, ?_, by simp, ?_, ?_⟩
    · by_cases hp : l'.phase = .finished
      · obtain ⟨seconds, hfiled⟩ := hfiled hp
        rw [hfiled]
        rfl
      · rw [hsettled.stock hp, hstock]
        rfl
    · intro l'' hl'' hp
      obtain rfl := Option.some.inj (hsettled.ledger.symm.trans hl'')
      exact (hsettled.store hp).trans hstore
    · intro l'' hl'' hp
      obtain rfl := Option.some.inj (hsettled.ledger.symm.trans hl'')
      obtain ⟨seconds, hfiled⟩ := hfiled hp
      exact ⟨seconds, congrArg Stock.store hfiled⟩
  | succ n ih =>
    obtain ⟨log, htracks⟩ := ih
    rw [after_succ]
    cases hstep : (trial.after n).step with
    | none => exact ⟨log, htracks⟩
    | some t => exact htracks.step (h.hosts hopen n) h.serves h.only hstep

end IsFit

end Trial

end Lamplighter
