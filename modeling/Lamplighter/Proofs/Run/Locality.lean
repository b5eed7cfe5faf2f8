import Lamplighter.Proofs.Run.Fair
import Lamplighter.Proofs.Run.Timely

/-!
# Locality: what a run does to a bulb is no business of the others

* `Session.Outset`    a run has left a bulb alone, or its effect on it has yet to begin;
* `Session.Tends`     a run has left a bulb alone, or has come so far with its effect on it;
* `Tends.step`        and so it is after each step;
* `Trial`             a run that is alone on a bench, and its sessions step by step;
* `Trial.corner_eq`   where a run has ended with a summary, a bulb that it has acted on is as its
                      effect leaves it;
* `Trial.fares_alike` in two runs that act on a bulb it fares the same, whatever the other bulbs do.
-/

set_option linter.unusedSectionVars false

namespace Lamplighter

open Deeds

namespace Session

variable {s t : Session Bench} {r e : Nat} {plan : Plan} {k : Handle → Prop} {cue : Cue}
  {rest : Agenda Cue} {handle : Handle} {corner : Corner}

/-- the effect of a run on a bulb before it begins -/
def firstOf (plan : Plan) (r : Nat) (handle : Handle) (corner : Corner) : Solo :=
  ⟨plan.errand r handle, corner⟩

/-- a run has not acted on a bulb, or it has come so far with its effect on it -/
inductive Tends (s : Session Bench) (r : Nat) (plan : Plan) (handle : Handle) (corner : Corner) :
    Prop where
  | untouched (same : s.corner plan.client r handle.serial = corner)
    (none : ∀ errand ∈ s.errands, errand.handle.serial ≠ handle.serial)
  | begun {e j : Nat} (keeps : s.Keeps r e (Solo.onward^[j] (firstOf plan r handle corner)))

/-- a run has not acted on a bulb, or its effect has yet to begin -/
inductive Outset (s : Session Bench) (r : Nat) (plan : Plan) (handle : Handle) (corner : Corner) :
    Prop where
  | untouched (same : s.corner plan.client r handle.serial = corner)
    (none : ∀ errand ∈ s.errands, errand.handle.serial ≠ handle.serial)
  | first {e : Nat} (keeps : s.Keeps r e (firstOf plan r handle corner))

lemma Outset.tends (h : s.Outset r plan handle corner) : s.Tends r plan handle corner := by
  cases h with
  | untouched same none => exact .untouched same none
  | first keeps => exact .begun (j := 0) keeps

lemma continues_iterate (first : Solo) (j : Nat) : first.Continues (Solo.onward^[j] first) := by
  induction j with
  | zero => exact .refl _
  | succ j ih =>
    rw [Function.iterate_succ_apply']
    exact ih.onward

lemma handle_iterate (plan : Plan) (r : Nat) (handle : Handle) (corner : Corner) (j : Nat) :
    (Solo.onward^[j] (firstOf plan r handle corner)).errand.handle = handle := by
  obtain ⟨stage, herrand⟩ := continues_iterate (firstOf plan r handle corner) j
  rw [herrand]
  rfl

lemma client_iterate (plan : Plan) (r : Nat) (handle : Handle) (corner : Corner) (j : Nat) :
    (Solo.onward^[j] (firstOf plan r handle corner)).errand.client = plan.client := by
  obtain ⟨stage, herrand⟩ := continues_iterate (firstOf plan r handle corner) j
  rw [herrand]
  rfl

/-! ### New effects -/

/-- an effect that is new has yet to begin -/
lemma Hosts.keeps_new (ht : t.Hosts r plan k)
    (hadmits : Admits plan.client r handle.serial e k plan s t)
    (hnone : (s.desk e).errand = none) (hclear : (s.desk e).cues.cues = []) {errand : Errand}
    (he : t.errands[e]? = some errand) (hserial : errand.handle.serial = handle.serial) :
    t.Keeps r e (firstOf plan r errand.handle (s.corner plan.client r handle.serial)) := by
  have hhere : t.runs[r]?.isSome = true := by
    have hsome := congrArg Option.isSome ht.planned
    rwa [Option.isSome_map] at hsome
  have hdesk : (t.desk e).errand = some { errand with isAttached := true } := by
    show t.errands[e]?.map _ = _
    rw [he]
    rfl
  rcases hadmits.desk with hsame | ⟨_, handle', hnew⟩
  · rw [hsame, hnone] at hdesk
    cases hdesk
  · rw [hnew] at hdesk
    have hhandle : handle' = errand.handle := congrArg Errand.handle (Option.some.inj hdesk)
    subst hhandle
    obtain ⟨hline, htimers⟩ := List.append_eq_nil_iff.mp hclear
    rw [List.map_eq_nil_iff] at hline htimers
    refine .settled ⟨hnew, ?_, rfl, hhere, ht.reliable_run, ht.ordered⟩
      (.begins rfl (Effect.isPlain_play _ _ _ _) ?_ htimers)
    · rw [firstOf, ← hadmits.corner, ← hserial]
      rfl
    · rw [Agenda.line_soon, hline]
      rfl

/-- where a run had not acted on a bulb, it still has not or its effect has yet to begin -/
lemma Hosts.outset_new (ht : t.Hosts r plan k)
    (hone : ∀ other, k other → other.serial = handle.serial → other = handle)
    (hbefore : s.corner plan.client r handle.serial = corner)
    (hafter : t.corner plan.client r handle.serial = s.corner plan.client r handle.serial)
    (hnew : ∀ e errand, t.errands[e]? = some errand → errand.handle.serial = handle.serial →
      Admits plan.client r handle.serial e k plan s t ∧ (s.desk e).errand = none ∧
        (s.desk e).cues.cues = []) :
    t.Outset r plan handle corner := by
  by_cases hacts : ∃ errand ∈ t.errands, errand.handle.serial = handle.serial
  · obtain ⟨errand, hmem, hserial⟩ := hacts
    obtain ⟨e, he⟩ := List.getElem?_of_mem hmem
    obtain ⟨hadmits, hnone, hclear⟩ := hnew e errand he hserial
    have hkeeps := ht.keeps_new hadmits hnone hclear he hserial
    rw [hone _ (ht.kind he) hserial, hbefore] at hkeeps
    exact .first hkeeps
  · refine .untouched (hafter.trans hbefore) ?_
    intro errand hmem hserial
    exact hacts ⟨errand, hmem, hserial⟩

/-! ### Steps -/

/-- the time is what it was -/
lemma Hosts.now_perform (h : s.Hosts r plan k) (hcues : s.agenda.cues.Perm (cue :: rest.cues)) :
    (({ s with agenda := rest } : Session Bench).perform cue).agenda.now = rest.now := by
  obtain ⟨e, he⟩ := exists_not_awaited cue
  obtain ⟨x, hforeign⟩ := s.exists_foreign he
  have hnow : ∀ u : Session Bench, (u.desk e).cues.now = u.agenda.now := fun _ => rfl
  rcases (h.admits hcues hforeign 0).desk with hsame | ⟨_, handle, hnew⟩
  · rw [← hnow, hsame]
    rfl
  · rw [← hnow, hnew]
    rfl

lemma Hosts.now_step (h : s.Hosts r plan k) (hstep : s.step = some t) :
    s.agenda.now ≤ t.agenda.now := by
  unfold Session.step at hstep
  obtain ⟨⟨cue, rest⟩, hnext, rfl⟩ := Option.map_eq_some_iff.mp hstep
  have hkept := h.now_perform (Agenda.cues_next hnext)
  dsimp only
  rw [hkept]
  rcases Agenda.next_cases hnext with ⟨_, hnow, _⟩ | ⟨hline, hnow, _⟩
  · exact hnow.ge
  · obtain ⟨now, hle, hnow', _⟩ := Agenda.advance_eq h.ordered hline
    rw [hnow, hnow']
    exact hle

/-- a bulb that a run has not acted on is left alone by a step, or a new effect is on it -/
lemma Hosts.outset_untouched (h : s.Hosts r plan k)
    (hone : ∀ other, k other → other.serial = handle.serial → other = handle)
    (hbefore : s.corner plan.client r handle.serial = corner)
    (hnone : ∀ errand ∈ s.errands, errand.handle.serial ≠ handle.serial)
    (hstep : s.step = some t) : t.Outset r plan handle corner := by
  have hturned : t.Hosts r plan k := by
    obtain ⟨cue, hturn⟩ := turn_of_step hstep
    exact h.turn hturn
  unfold Session.step at hstep
  obtain ⟨⟨cue, rest⟩, hnext, rfl⟩ := Option.map_eq_some_iff.mp hstep
  have hcues := Agenda.cues_next hnext
  have hforeign : ∀ e, cue.isAwaitedBy e = false → s.IsForeign cue handle.serial e :=
    fun e he => ⟨he, fun i errand _ hget => hnone errand (List.mem_of_getElem? hget)⟩
  refine hturned.outset_new (s := { s with agenda := rest }) hone hbefore ?_ ?_
  · obtain ⟨e, he⟩ := exists_not_awaited cue
    exact (h.admits hcues (hforeign e he) plan.client).corner
  · intro e errand he hserial
    have hattended := h.attended e
    have hremove := cues_desk_remove hcues e
    have hempty : (s.desk e).errand = none := by
      cases hdesk : (s.desk e).errand with
      | none => rfl
      | some old =>
        -- the handle of an effect stays the same
        obtain ⟨cue', hturn⟩ := turn_of_step (s := s) (t := _) (by
          unfold Session.step
          rw [hnext]
          rfl)
        obtain ⟨errand', hdesk', _, ⟨stage, rfl⟩, _⟩ := h.errand_turn hturn hdesk
        obtain ⟨old', hget, hhandle⟩ := errand_desk hdesk
        obtain ⟨new', hget', hhandle'⟩ := errand_desk hdesk'
        obtain rfl := Option.some.inj (hget'.symm.trans he)
        refine absurd ?_ (hnone old' (List.mem_of_getElem? hget))
        rw [hhandle, ← hserial, hhandle']
    simp only [Desk.IsAttended, hempty] at hattended
    rw [hattended] at hremove
    cases hawait : cue.isAwaitedBy e with
    | true =>
      rw [if_pos hawait] at hremove
      exact absurd hremove.length_eq (by simp)
    | false =>
      rw [if_neg (by simp [hawait])] at hremove
      exact ⟨h.admits hcues (hforeign e hawait) plan.client, hempty, List.nil_perm.mp hremove⟩

/-- after a step a run still has not acted on a bulb, or it has come so far with its effect on it -/
theorem Tends.step (h : s.Tends r plan handle corner) (hhosts : s.Hosts r plan k)
    (hone : ∀ other, k other → other.serial = handle.serial → other = handle)
    (hnow : 0 ≤ s.agenda.now) (hties : ¬ s.Ties handle.serial) (hstep : s.step = some t) :
    t.Tends r plan handle corner := by
  cases h with
  | untouched same none => exact (hhosts.outset_untouched hone same none hstep).tends
  | @begun e j keeps =>
    rcases keeps.step hhosts hnow (by rwa [handle_iterate]) hstep with hstays | hgoes
    · exact .begun hstays
    · rw [← Function.iterate_succ_apply' Solo.onward] at hgoes
      exact .begun hgoes

/-! ### Where an effect has come to -/

/-- all effects of a run that has finished are over -/
lemma Hosts.over_of_finished (h : s.Hosts r plan k) {l : Ledger} (hl : s.ledger r = some l)
    (hp : l.phase = .finished) : ∀ errand ∈ s.errands, errand.isOver = true := by
  obtain ⟨l', hl', hsound⟩ := h.kept.sound
  obtain rfl := Option.some.inj (hl.symm.trans hl')
  obtain ⟨run, _, rfl⟩ := Option.map_eq_some_iff.mp hl
  have hended : AllEnded (s.effects r) := ((hsound.stopped (.inr hp)).closed (hsound.finished hp)).1
  rw [h.effects_eq] at hended
  exact fun errand hmem => hended _ (List.mem_map_of_mem hmem)

/-- an errand comes to one end only -/
lemma eq_of_over {first : Solo} {i j : Nat} {outcome outcome' : Except Fault Reply}
    (hi : (Solo.onward^[i] first).errand.stage = .over outcome)
    (hj : (Solo.onward^[j] first).errand.stage = .over outcome') :
    Solo.onward^[i] first = Solo.onward^[j] first := by
  rcases Nat.le_total i j with hle | hle
  · obtain ⟨more, rfl⟩ := Nat.exists_eq_add_of_le hle
    rw [Nat.add_comm, Function.iterate_add_apply, Solo.iterate_onward_over hi]
  · obtain ⟨more, rfl⟩ := Nat.exists_eq_add_of_le hle
    rw [Nat.add_comm, Function.iterate_add_apply, Solo.iterate_onward_over hj]

lemma exists_over {errand : Errand} (h : errand.isOver = true) :
    ∃ outcome, errand.stage = .over outcome := by
  obtain ⟨outcome, hended⟩ := Option.isSome_iff_exists.mp h
  refine ⟨outcome, ?_⟩
  unfold Errand.outcome? at hended
  split at hended
  · rename_i other hstage
    rw [hstage, Option.some.inj hended]
  · cases hended

/-- an errand that the session has is over when all errands are -/
lemma Has.over {solo : Solo} {cues : Agenda Cue} (h : s.Has r e solo cues)
    (hover : ∀ errand ∈ s.errands, errand.isOver = true) :
    (∃ outcome, solo.errand.stage = .over outcome) ∧
      ∃ errand ∈ s.errands, errand.handle = solo.errand.handle := by
  obtain ⟨errand, he, hsame, _, stage, hsolo⟩ := h.errand
  have hmem := List.mem_of_getElem? he
  obtain ⟨outcome, hended⟩ := exists_over (hover errand hmem)
  exact ⟨⟨outcome, hsame ▸ hended⟩, errand, hmem, by rw [hsolo]⟩

/-- a session that has come so far with an errand that is over has come to its end -/
lemma Keeps.over {solo : Solo} (h : s.Keeps r e solo)
    (hover : ∀ errand ∈ s.errands, errand.isOver = true) :
    (∃ outcome, solo.errand.stage = .over outcome) ∧
      s.corner solo.errand.client r solo.errand.handle.serial = solo.corner ∧
      ∃ errand ∈ s.errands, errand.handle = solo.errand.handle := by
  cases h with
  | settled has awaits => exact ⟨(has.over hover).1, has.corner, (has.over hover).2⟩
  | underway stage quick patient sent has underway =>
    obtain ⟨outcome, hend⟩ := (has.over hover).1
    rw [((solo.rank_attempt stage).2 (by simp [sent])).1, stage] at hend
    cases hend

end Session

/-! ### The course of a run -/

/-- the bulbs whose effect had a fault -/
def Run.failures (run : Run) : List Handle :=
  (raised run.deeds).map Prod.fst

namespace Bench

/-- the commands that a client has sent to a bulb, its requests for the state apart -/
def commandsFor (bench : Bench) (client : Nat) (serial : String) : List Call :=
  ((bench.callsFor client serial).getD []).filter fun call => call.request != .read

variable {bench : Bench} {bulb : BenchBulb} {client : Nat} {handle : Handle}

/-- what a bench has of a bulb before a run -/
def corner (bench : Bench) (client : Nat) (serial : String) : Corner :=
  ⟨bench.find? serial, bench.callsFor client serial, []⟩

/-- no two bulbs have the same serial -/
def IsDistinct (bench : Bench) : Prop :=
  (bench.bulbs.map fun b => b.handle.serial).Nodup

instance (bench : Bench) : Decidable bench.IsDistinct :=
  inferInstanceAs (Decidable (List.Nodup _))

lemma find?_of_mem (h : bench.IsDistinct) (hmem : bulb ∈ bench.bulbs) :
    bench.find? bulb.handle.serial = some bulb := by
  unfold IsDistinct at h
  unfold find?
  revert hmem h
  induction bench.bulbs with
  | nil => exact fun _ hmem => by cases hmem
  | cons first rest ih =>
    intro h hmem
    rw [List.map_cons, List.nodup_cons] at h
    rcases List.mem_cons.mp hmem with rfl | hmem
    · exact List.find?_cons_of_pos (by simp)
    · rw [List.find?_cons_of_neg, ih h.2 hmem]
      intro hsame
      refine h.1 (List.mem_map.mpr ⟨bulb, hmem, ?_⟩)
      simpa using (beq_iff_eq.mp hsame).symm

/-- a bulb is announced under its own handle -/
lemma exists_of_announced (h : bench.IsDistinct)
    (hmem : handle ∈ (bench.announcements client).map Prod.fst) :
    ∃ bulb, bench.find? handle.serial = some bulb ∧ bulb.handle = handle := by
  obtain ⟨announcement, ha, rfl⟩ := List.mem_map.mp hmem
  unfold announcements at ha
  split at ha
  · obtain ⟨bulb, hbulb, rfl⟩ := List.mem_map.mp ha
    exact ⟨bulb, find?_of_mem h hbulb, rfl⟩
  · obtain ⟨⟨serial, time⟩, _, hsome⟩ := List.mem_filterMap.mp ha
    obtain ⟨bulb, hbulb, rfl⟩ := Option.map_eq_some_iff.mp hsome
    exact ⟨bulb, by rw [serial_of_find? hbulb]; exact hbulb, rfl⟩

lemma handle_of_announced (h : bench.IsDistinct) (hbulb : bench.find? handle.serial = some bulb)
    (hmem : handle ∈ (bench.announcements client).map Prod.fst) : handle = bulb.handle := by
  obtain ⟨other, hother, hhandle⟩ := exists_of_announced h hmem
  obtain rfl := Option.some.inj (hbulb.symm.trans hother)
  exact hhandle.symm

end Bench

/-- a run of an action on a bench that nothing else goes on at -/
structure Trial where
  bench : Bench
  store : Snapshot.Store
  action : Action
  settings : Settings
  client : Nat
  audience : Audience
  hasStore : Bool

namespace Trial

variable {trial other : Trial} {n n' : Nat} {handle : Handle} {bulb : BenchBulb}
  {summary summary' : Summary} {run run' : Run}

/-- the run before it starts -/
def opening (trial : Trial) : Run :=
  .ofAction trial.action trial.settings trial.client trial.audience trial.hasStore

/-- the session after so many steps -/
def after (trial : Trial) (n : Nat) : Session Bench :=
  ((Session.alone trial.bench trial.opening trial.store).start 0 trial.opening).trace n

/-- what the run is about once it has got ready -/
def plan (trial : Trial) : Plan :=
  .opening trial.action trial.settings trial.client trial.audience trial.hasStore trial.store

/-- the audience and the store have no fault, and the bulbs have serials of their own -/
structure IsFit (trial : Trial) : Prop where
  reliable : trial.audience.isReliable = true
  serves : trial.store.Serves trial.action trial.hasStore
  distinct : trial.bench.IsDistinct

/-- the bulbs that the run can hear of -/
def IsAnnounced (trial : Trial) (handle : Handle) : Prop :=
  handle ∈ (trial.bench.announcements trial.client).map Prod.fst

/-- the run has ended with a summary after so many steps -/
structure Concludes (trial : Trial) (n : Nat) (run : Run) (summary : Summary) : Prop where
  here : (trial.after n).runs[0]? = some run
  outcome : run.outcome = some (.ok summary)

/-- the serials of the bulbs that the run has acted on -/
def matched (trial : Trial) (n : Nat) : List String :=
  ((trial.after n).effects 0).map fun effect => effect.1.serial

/-! ### The steps of a trial -/

lemma after_succ (trial : Trial) (n : Nat) :
    trial.after (n + 1) = ((trial.after n).step).getD (trial.after n) :=
  Session.trace_succ _ n

/-- where the client cannot listen, the run has no summary -/
lemma Concludes.unbroken (h : trial.Concludes n run summary) (hfit : trial.IsFit) :
    (trial.bench.client trial.client).isBroken = false := by
  refine Bool.eq_false_iff.mpr ?_
  intro hbroken
  obtain ⟨hcues, fault, hout⟩ := Session.start_broken trial.settings hfit.reliable hfit.serves hbroken
  have hstays : ∀ m, trial.after m = trial.after 0 := by
    intro m
    induction m with
    | zero => rfl
    | succ m ih =>
      have hstep : (trial.after 0).step = none := by
        rw [Session.step_eq_none_iff]
        exact hcues
      rw [after_succ, ih, hstep]
      rfl
  have hhere := h.here
  rw [hstays] at hhere
  exact absurd ((hout run hhere).symm.trans h.outcome) (by simp)

namespace IsFit

lemma hosts (h : trial.IsFit) (hopen : (trial.bench.client trial.client).isBroken = false) (n : Nat) :
    (trial.after n).Hosts 0 trial.plan trial.IsAnnounced := by
  induction n with
  | zero =>
    obtain ⟨l, hlively⟩ := Session.Lively.start (k := trial.IsAnnounced) trial.settings h.reliable
      h.serves hopen fun a ha => List.mem_map_of_mem ha
    exact hlively.toHosts
  | succ n ih =>
    rw [after_succ]
    cases hstep : (trial.after n).step with
    | none => exact ih
    | some t =>
      obtain ⟨cue, hturn⟩ := Session.turn_of_step hstep
      exact ih.turn hturn

lemma eq_handle (h : trial.IsFit) (hbulb : trial.bench.find? bulb.handle.serial = some bulb) :
    ∀ other, trial.IsAnnounced other → other.serial = bulb.handle.serial →
      other = bulb.handle :=
  fun other hother hsame =>
    Bench.handle_of_announced h.distinct (by rw [hsame]; exact hbulb) hother

/-- at first a run has not acted on a bulb, or its effect has yet to begin -/
lemma outset_start (h : trial.IsFit) (hopen : (trial.bench.client trial.client).isBroken = false)
    (hone : ∀ other, trial.IsAnnounced other → other.serial = handle.serial → other = handle) :
    (trial.after 0).Outset 0 trial.plan handle (trial.bench.corner trial.client handle.serial) ∧
      (trial.after 0).agenda.now = 0 := by
  have hk : ∀ a ∈ trial.bench.announcements trial.client, trial.IsAnnounced a.1 :=
    fun a ha => List.mem_map_of_mem ha
  obtain ⟨v, run, hstart, hopens⟩ :=
    Session.start_opens trial.settings h.reliable h.serves hopen hk
  have hhosts := h.hosts hopen 0
  have hafter : trial.after 0 = v.handleAll 0 run run.inbox := hstart
  rw [hafter] at hhosts ⊢
  have hrun : v.Reliable 0 := by
    intro run' hget
    have haudience := congrArg Plan.audience hopens.planned
    rw [hopens.here] at hget
    rw [← Option.some.inj hget]
    exact (congrArg Audience.isReliable haudience).trans h.reliable
  have hadmits : ∀ c x e, Session.Admits c 0 x e trial.IsAnnounced trial.plan v
      (v.handleAll 0 run run.inbox) := fun c x e => .handleAll v hopens.planned hrun run.inbox
  refine ⟨hhosts.outset_new hone (hopens.corner _ _) (hadmits _ _ 0).corner ?_, ?_⟩
  · intro e errand _ _
    rw [hopens.desk e]
    exact ⟨hadmits _ _ e, rfl, rfl⟩
  · have hnow : ∀ u : Session Bench, (u.desk 0).cues.now = u.agenda.now := fun _ => rfl
    rcases (hadmits 0 "" 0).desk with hsame | ⟨_, other, hnew⟩
    · rw [← hnow, hsame, hopens.desk 0]
      rfl
    · rw [← hnow, hnew, hopens.desk 0]
      rfl

/-- a run has not acted on a bulb, or it has come so far with its effect on it -/
theorem tends (h : trial.IsFit) (hopen : (trial.bench.client trial.client).isBroken = false)
    (hone : ∀ other, trial.IsAnnounced other → other.serial = handle.serial → other = handle)
    (hties : ∀ m < n, ¬ (trial.after m).Ties handle.serial) :
    (trial.after n).Tends 0 trial.plan handle (trial.bench.corner trial.client handle.serial) ∧
      0 ≤ (trial.after n).agenda.now := by
  induction n with
  | zero =>
    obtain ⟨houtset, hnow⟩ := h.outset_start hopen hone
    exact ⟨houtset.tends, hnow.ge⟩
  | succ n ih =>
    obtain ⟨htends, hnow⟩ := ih fun m hm => hties m (by omega)
    rw [after_succ]
    cases hstep : (trial.after n).step with
    | none => exact ⟨htends, hnow⟩
    | some t =>
      exact ⟨htends.step (h.hosts hopen n) hone hnow (hties n (Nat.lt_succ_self n)) hstep,
        hnow.trans ((h.hosts hopen n).now_step hstep)⟩

end IsFit

/-! ### The end of a trial -/

/-- a run that has ended with a summary has finished -/
lemma Concludes.finished (h : trial.Concludes n run summary) (hfit : trial.IsFit) :
    run.phase = .finished := by
  obtain ⟨l, hl, hsound⟩ := (hfit.hosts (h.unbroken hfit) n).kept.sound
  obtain ⟨run', hget, rfl⟩ := Option.map_eq_some_iff.mp hl
  obtain rfl := Option.some.inj (h.here.symm.trans hget)
  exact (hsound.summed summary h.outcome).1

/-- when a run has ended with a summary all effects are over, and it names those that had a fault -/
lemma Concludes.over (h : trial.Concludes n run summary) (hfit : trial.IsFit) :
    (∀ errand ∈ (trial.after n).errands, errand.isOver = true) ∧
      summary.failed = run.failures.map Handle.name := by
  have hhosts := hfit.hosts (h.unbroken hfit) n
  obtain ⟨l, hl, hsound⟩ := hhosts.kept.sound
  obtain ⟨run', hget, rfl⟩ := Option.map_eq_some_iff.mp hl
  obtain rfl := Option.some.inj (h.here.symm.trans hget)
  obtain ⟨hp, hsums⟩ := hsound.summed summary h.outcome
  obtain ⟨_, hinbox, _⟩ := (hsound.stopped (.inr hp)).closed (hsound.finished hp)
  refine ⟨hhosts.over_of_finished hl hp, ?_⟩
  rw [hsums.failed, hsound.failed_eq hinbox, Run.failures, List.map_map]
  rfl

lemma Concludes.mem_matched (h : trial.Concludes n run summary) (hfit : trial.IsFit)
    {serial : String} : serial ∈ trial.matched n ↔
    ∃ errand ∈ (trial.after n).errands, errand.handle.serial = serial := by
  rw [matched, (hfit.hosts (h.unbroken hfit) n).effects_eq, List.map_map, List.mem_map]
  rfl

/-- where a run has ended, a bulb is as the effect on it leaves it, or as it was if there is none -/
theorem corner_eq (h : trial.Concludes n run summary) (hfit : trial.IsFit)
    (hbulb : trial.bench.find? bulb.handle.serial = some bulb)
    (hties : ∀ m < n, ¬ (trial.after m).Ties bulb.handle.serial) :
    if bulb.handle.serial ∈ trial.matched n then ∃ j outcome,
      (Solo.onward^[j] (Session.firstOf trial.plan 0 bulb.handle
        (trial.bench.corner trial.client bulb.handle.serial))).errand.stage = .over outcome ∧
      (trial.after n).corner trial.client 0 bulb.handle.serial
        = (Solo.onward^[j] (Session.firstOf trial.plan 0 bulb.handle
          (trial.bench.corner trial.client bulb.handle.serial))).corner
    else (trial.after n).corner trial.client 0 bulb.handle.serial
      = trial.bench.corner trial.client bulb.handle.serial := by
  obtain ⟨htends, _⟩ := hfit.tends (h.unbroken hfit) (hfit.eq_handle hbulb) hties
  cases htends with
  | untouched same none =>
    rw [if_neg]
    · exact same
    · rw [h.mem_matched hfit]
      rintro ⟨errand, hmem, hserial⟩
      exact none errand hmem hserial
  | @begun e j keeps =>
    obtain ⟨⟨outcome, hover⟩, hcorner, errand, hmem, hhandle⟩ := keeps.over (h.over hfit).1
    rw [Session.handle_iterate] at hcorner hhandle
    rw [Session.client_iterate] at hcorner
    rw [if_pos ((h.mem_matched hfit).mpr ⟨errand, hmem, by rw [hhandle]⟩)]
    exact ⟨j, outcome, hover, hcorner⟩

/-! ### Two trials -/

/-- two runs of the same action, with the same settings and snapshots -/
structure IsLike (trial other : Trial) : Prop where
  store : other.store = trial.store
  action : other.action = trial.action
  settings : other.settings = trial.settings
  client : other.client = trial.client
  hasStore : other.hasStore = trial.hasStore

/-- Two runs of an action both act on a bulb that is the same at first, or both leave it alone; the
other bulbs, and when any are announced, may differ.  Then the bulb is sent the same commands, comes
to the same state, and has failed the same in both. -/
theorem fares_alike (trial other : Trial) (hlike : trial.IsLike other)
    (hfit : trial.IsFit) (hfit' : other.IsFit)
    (hbulb : trial.bench.find? bulb.handle.serial = some bulb)
    (hbulb' : other.bench.find? bulb.handle.serial = some bulb)
    (hcalls : other.bench.callsFor other.client bulb.handle.serial
      = trial.bench.callsFor trial.client bulb.handle.serial)
    (hends : trial.Concludes n run summary) (hends' : other.Concludes n' run' summary')
    (hmatched : bulb.handle.serial ∈ trial.matched n ↔ bulb.handle.serial ∈ other.matched n')
    (hties : ∀ m < n, ¬ (trial.after m).Ties bulb.handle.serial)
    (hties' : ∀ m < n', ¬ (other.after m).Ties bulb.handle.serial) :
    (trial.after n).network.commandsFor trial.client bulb.handle.serial
        = (other.after n').network.commandsFor other.client bulb.handle.serial ∧
      (trial.after n).network.find? bulb.handle.serial
        = (other.after n').network.find? bulb.handle.serial ∧
      summary.failed = run.failures.map Handle.name ∧
      summary'.failed = run'.failures.map Handle.name ∧
      run.failures.filter (fun failure => failure.serial == bulb.handle.serial)
        = run'.failures.filter fun failure => failure.serial == bulb.handle.serial := by
  have hcorner := corner_eq hends hfit hbulb hties
  have hcorner' := corner_eq hends' hfit' hbulb' hties'
  have hfirst : Session.firstOf other.plan 0 bulb.handle
        (other.bench.corner other.client bulb.handle.serial)
      = Session.firstOf trial.plan 0 bulb.handle
        (trial.bench.corner trial.client bulb.handle.serial) := by
    rw [Bench.corner, Bench.corner, hbulb, hbulb', hcalls]
    unfold Session.firstOf plan Plan.opening Plan.errand
    rw [hlike.store, hlike.action, hlike.settings, hlike.client, hlike.hasStore]
  have hsame : (other.after n').corner trial.client 0 bulb.handle.serial
      = (trial.after n).corner trial.client 0 bulb.handle.serial := by
    rw [← hlike.client]
    rw [hfirst] at hcorner'
    by_cases hacts : bulb.handle.serial ∈ trial.matched n
    · rw [if_pos hacts] at hcorner
      rw [if_pos (hmatched.mp hacts)] at hcorner'
      obtain ⟨j, outcome, hover, hcorner⟩ := hcorner
      obtain ⟨j', outcome', hover', hcorner'⟩ := hcorner'
      rw [hcorner', hlike.client, hcorner, Session.eq_of_over hover hover']
    · rw [if_neg hacts] at hcorner
      rw [if_neg (mt hmatched.mpr hacts)] at hcorner'
      refine hcorner'.trans ((congrArg Solo.corner hfirst).trans ?_)
      rw [hlike.client]
      exact hcorner.symm
  have hfailures : ∀ {trial : Trial} {n run summary}, trial.Concludes n run summary →
      run.failures.filter (fun failure => failure.serial == bulb.handle.serial)
        = ((trial.after n).faultsOf 0 bulb.handle.serial).map Prod.fst := by
    intro trial n run summary hends
    unfold Session.faultsOf Run.failures
    rw [hends.here, List.filter_map]
    rfl
  refine ⟨?_, ?_, (hends.over hfit).2, (hends'.over hfit').2, ?_⟩
  · unfold Bench.commandsFor
    rw [hlike.client]
    exact congrArg (fun corner : Corner => (corner.calls.getD []).filter _) hsame.symm
  · exact congrArg Corner.bulb hsame.symm
  · rw [hfailures hends, hfailures hends']
    exact congrArg (fun corner : Corner => corner.faults.map Prod.fst) hsame.symm

/-- a bulb that takes its time to answer -/
def slowHall : BenchBulb where
  handle := { serial := "1", label := "Hall", host := "" }
  replies := [.answer (some (.seconds (1 / 4))) none]
  state := { label := "Hall", power := powerOn, hue := 1, saturation := 2, brightness := 0x9000,
             kelvin := 4 }

/-- a bulb that does not answer -/
def silentAttic : BenchBulb where
  handle := { serial := "2", label := "Attic", host := "" }
  replies := [.silence]
  state := { label := "Attic", power := powerOff, hue := 5, saturation := 6, brightness := 7,
             kelvin := 8 }

/-- a bulb that is on and answers at once -/
def brightAttic : BenchBulb :=
  { silentAttic with
    replies := []
    state := { silentAttic.state with power := powerOn, brightness := 0x9000 } }

/-- all bulbs are dimmed: the one in the hall, and another one -/
def dimming (other : BenchBulb) (announced : List (String × Rat)) : Trial where
  bench := { bulbs := [slowHall, other], clients := [{ announced := some announced }] }
  store := {}
  action := { command := "darker all", effect := .darker ⟨none, 0x2000, 0⟩, targets := .all }
  settings := { queryRetries := 0 }
  client := 0
  audience := .nobody
  hasStore := false

def besideSilent : Trial :=
  dimming silentAttic [("2", 0), ("1", 1)]

def besideBright : Trial :=
  dimming brightAttic [("1", 0), ("2", 1 / 2)]

lemma exists_concludes
    (h : (((trial.after n).runs[0]?.bind Run.outcome).any fun outcome => outcome.isOk) = true) :
    ∃ run summary, trial.Concludes n run summary := by
  cases hget : (trial.after n).runs[0]? with
  | none => simp [hget] at h
  | some run =>
    rw [hget, Option.bind_some] at h
    cases hout : run.outcome with
    | none => simp [hout] at h
    | some outcome =>
      cases outcome with
      | error fault => simp [hout, Except.isOk, Except.toBool] at h
      | ok summary => exact ⟨run, summary, hget, hout⟩

set_option maxRecDepth 100000 in
theorem fares_alike_hall : ∃ run summary run' summary',
    besideSilent.Concludes 19 run summary ∧ besideBright.Concludes 18 run' summary' ∧
    (besideSilent.after 19).network.commandsFor 0 "1"
      = (besideBright.after 18).network.commandsFor 0 "1" ∧
    (besideSilent.after 19).network.find? "1" = (besideBright.after 18).network.find? "1" ∧
    summary.failed = run.failures.map Handle.name ∧
    summary'.failed = run'.failures.map Handle.name ∧
    run.failures.filter (fun failure => failure.serial == "1")
      = run'.failures.filter fun failure => failure.serial == "1" := by
  obtain ⟨run, summary, hends⟩ : ∃ run summary, besideSilent.Concludes 19 run summary :=
    exists_concludes (by decide +kernel)
  obtain ⟨run', summary', hends'⟩ : ∃ run summary, besideBright.Concludes 18 run summary :=
    exists_concludes (by decide +kernel)
  have hdistinct : ∀ other announced, other.handle.serial = "2" →
      (dimming other announced).bench.IsDistinct := by
    intro other announced hserial
    simp [Bench.IsDistinct, dimming, slowHall, hserial]
  have hfit : ∀ other announced, other.handle.serial = "2" → (dimming other announced).IsFit :=
    fun other announced hserial => ⟨rfl, trivial, hdistinct other announced hserial⟩
  have hbulb : besideSilent.bench.find? slowHall.handle.serial = some slowHall := rfl
  have hbulb' : besideBright.bench.find? slowHall.handle.serial = some slowHall := rfl
  have hmatched : "1" ∈ besideSilent.matched 19 ↔ "1" ∈ besideBright.matched 18 := by
    decide +kernel
  have hties : ∀ m < 19, ¬ (besideSilent.after m).Ties "1" := by decide +kernel
  have hties' : ∀ m < 18, ¬ (besideBright.after m).Ties "1" := by decide +kernel
  exact ⟨run, summary, run', summary', hends, hends',
    fares_alike besideSilent besideBright ⟨rfl, rfl, rfl, rfl, rfl⟩ (hfit _ _ rfl) (hfit _ _ rfl)
      hbulb hbulb' rfl hends hends' hmatched hties hties'⟩

end Trial

end Lamplighter
