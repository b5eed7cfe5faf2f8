import Lamplighter.Proofs.Run.Alone
import Lamplighter.Proofs.Run.Balance

/-!
# Release: whatever goes wrong, the search for bulbs is stopped

A run that is alone starts and goes on, over any network that is on record and for any audience, while
its cues come in any order and the network, the store and the subscribers change as they like.

* `Session.Later`      a session that another one can come to;
* `Session.Strides`    a step of the run, its start included;
* `Session.Tended`     the run is alone, and the searches on record are those that it made;
* `Later.tended`       so it is in every later session;
* `discovery_released` with the step by which the run ends it has either asked the network for nothing
                       at all, or has started to look for bulbs once and has stopped once after that.
-/

set_option linter.unusedSectionVars false

namespace Lamplighter.Session

open Deeds Backdrop

variable {ν : Type} [Network ν] {s t u : Session (Recorded ν)} {gist gist' : Run.Gist} {cue : Cue}
  {agenda : Agenda Cue} {run : Run}

/-! ### Later sessions -/

/-- a session that another one can come to: cues are performed in any order, and between them any
client may find a bulb, and the network, the store and the subscribers may come to any state -/
inductive Later (s : Session (Recorded ν)) : Session (Recorded ν) → Prop
  | refl : Later s s
  | next {t u : Session (Recorded ν)} : Later s t → t.Next u → Later s u
  | hear {t : Session (Recorded ν)} (client : Nat) (handle : Handle) :
    Later s t → Later s (t.hear client handle)
  | network {t : Session (Recorded ν)} (inner : ν) :
    Later s t → Later s { t with network := { t.network with inner } }
  | store {t : Session (Recorded ν)} (store : Snapshot.Store) : Later s t → Later s { t with store }
  | hub {t : Session (Recorded ν)} (hub : Hub Event) : Later s t → Later s { t with hub }

/-- what is driven step by step comes later -/
theorem Later.drive (h : Later s t) (isDone : Session (Recorded ν) → Bool) (fuel : Nat) :
    Later s (Session.drive isDone fuel t) := by
  induction fuel generalizing t with
  | zero => exact h
  | succ fuel ih =>
    unfold Session.drive
    split
    · exact h
    · split
      · exact h
      · rename_i u hstep
        exact ih (h.next (next_of_step hstep))

/-! ### A session in which nothing is under way -/

lemma setting_endRun (h : s.turn = none) (outcome : Except Fault Summary) :
    (s.endRun 0 outcome).setting = s.setting := by
  rw [endRun_eq]
  unfold Session.pass
  rw [if_neg (by rw [show (s.modifyRun 0 _).turn = s.turn from rfl, h]; simp)]
  rfl

/-- nothing is under way, and the network was asked for nothing -/
structure Bare (s : Session (Recorded ν)) : Prop where
  cues : s.agenda.cues = []
  errands : s.errands = []
  listeners : s.listeners = []
  contacts : s.network.contacts = []
  turn : s.turn = none

lemma Bare.of_setting (h : s.Bare) (hsame : t.setting = s.setting) : t.Bare := by
  have hagenda : t.agenda = s.agenda := congrArg (·.1) hsame
  have herrands : t.errands = s.errands := congrArg (·.2.1) hsame
  have hlisteners : t.listeners = s.listeners := congrArg (·.2.2.1) hsame
  have hnetwork : t.network = s.network := congrArg (·.2.2.2.1) hsame
  have hturn : t.turn = s.turn := congrArg (·.2.2.2.2) hsame
  exact ⟨hagenda ▸ h.cues, herrands ▸ h.errands, hlisteners ▸ h.listeners, hnetwork ▸ h.contacts,
    hturn ▸ h.turn⟩

/-- nothing comes of a session in which nothing is under way -/
theorem Later.bare (h : Later s t) (hs : s.Bare) : t.Bare ∧ t.runs = s.runs := by
  induction h with
  | refl => exact ⟨hs, rfl⟩
  | next _ hnext ih =>
    obtain ⟨cue, agenda, hcues, -⟩ := hnext
    rw [ih.1.cues] at hcues
    exact absurd hcues.length_eq (by simp)
  | @hear t client handle _ ih =>
    have hsame : t.hear client handle = t := by
      unfold Session.hear
      rw [ih.1.listeners]
      rfl
    rwa [hsame]
  | network _ _ ih | store _ _ ih | hub _ _ ih =>
    exact ⟨⟨ih.1.cues, ih.1.errands, ih.1.listeners, ih.1.contacts, ih.1.turn⟩, ih.2⟩

/-! ### The run and its searches -/

/-- the run is alone, and the searches on record are those that it made -/
structure Tended (s : Session (Recorded ν)) (gist : Run.Gist) : Prop extends Alone s gist where
  balance : s.backdrop.Balanced

lemma Lone.isLast (h : s.Lone gist) : s.backdrop.IsLast 0 := by
  intro q core hq hcore
  obtain ⟨run, hruns, -⟩ := h.exists_run
  have hcore : (s.runs.map Run.core)[q]? = some core := hcore
  rw [hruns, List.getElem?_eq_none (Nat.succ_le_of_lt hq)] at hcore
  cases hcore

/-- a cue is taken off the agenda -/
lemma balanced_remove (h : s.backdrop.Balanced) (hcues : s.agenda.cues.Perm (cue :: agenda.cues)) :
    ({ s with agenda } : Session (Recorded ν)).backdrop.Balanced := by
  refine Balanced.cues h fun cue' hmem => .inl ?_
  rw [Agenda.cues_drop] at hmem
  show cue' ∈ (s.agenda.drop fun cue => !cue.isInner).cues
  rw [Agenda.cues_drop]
  obtain ⟨hmem, hinner⟩ := List.mem_filter.mp hmem
  exact List.mem_filter.mpr ⟨hcues.mem_iff.mpr (List.mem_cons_of_mem _ hmem), hinner⟩

/-- a cue of the idle clock comes only while the run looks for bulbs -/
lemma looks_of_clock {r : Nat} (h : s.backdrop.Balanced) (hget : s.runs[r]? = some run)
    (hcue : cue ∈ s.agenda.cues) (hclock : cue.isClockOf r = true) : run.phase = .discovering := by
  obtain ⟨core, hcore, hphase, -⟩ := isIn_core hget
  rw [← hphase]
  by_contra hrests
  have hinner : cue.isInner = true := by
    cases cue <;> first | rfl | cases hclock
  have hmem : cue ∈ s.backdrop.cues.cues := by
    show cue ∈ (s.agenda.drop fun cue => !cue.isInner).cues
    rw [Agenda.cues_drop]
    exact List.mem_filter.mpr ⟨hcue, by simp [hinner]⟩
  rw [h.quiet r core hcore hrests cue hmem] at hclock
  cases hclock

/-- a cue by which a run that has entered is to do something of its own -/
lemma deals_perform {r : Nat} (h : s.backdrop.Balanced) (hkept : s.Kept r)
    (hget : s.runs[r]? = some run) (hcues : s.agenda.cues.Perm (cue :: agenda.cues))
    (hrun : cue.runOf? = some r) : Deals r ({ s with agenda } : Session (Recorded ν)).backdrop
      (({ s with agenda } : Session (Recorded ν)).perform cue).backdrop := by
  have hmem : cue ∈ s.agenda.cues := hcues.mem_iff.mpr (List.mem_cons_self ..)
  have hentry := hkept.not_isEntryOf hmem
  have hl : s.ledger r = some (s.ledgerOf r run) := by
    rw [ledger, hget]
    rfl
  obtain ⟨l, hl', hsound⟩ := hkept.sound
  obtain rfl := Option.some.inj (hl.symm.trans hl')
  cases cue with
  | clock q =>
    obtain rfl : q = r := Option.some.inj hrun
    exact deals_clock hget (looks_of_clock h hget hmem (by simp [Cue.isClockOf]))
  | tick q =>
    obtain rfl : q = r := Option.some.inj hrun
    exact deals_tick hget (looks_of_clock h hget hmem (by simp [Cue.isClockOf]))
  | wake q =>
    obtain rfl : q = r := Option.some.inj hrun
    exact (does_wake (s := { s with agenda }) hget (ledger_wake hsound hl hcues).1).deals
  | drained q fault =>
    obtain rfl : q = r := Option.some.inj hrun
    exact (does_drained (s := { s with agenda }) hget (ledger_drained hsound hl hcues).1 fault).deals
  | enter q | takeTurn q =>
    obtain rfl : q = r := Option.some.inj hrun
    simp [Cue.isEntryOf] at hentry
  | _ => cases hrun

namespace Tended

/-- what a cue does: the run does something, or what is about it stays as it is but for a turn -/
theorem perform_cases (h : s.Tended gist) (hcues : s.agenda.cues.Perm (cue :: agenda.cues)) :
    let s' : Session (Recorded ν) := { s with agenda }
    Deals 0 s'.backdrop (s'.perform cue).backdrop ∨
      ∃ q, (s'.perform cue).backdrop = s'.backdrop.pass q := by
  intro s'
  obtain ⟨run, hget, -⟩ := h.sound
  cases hrun : cue.runOf? with
  | none => exact .inl (by rw [backdrop_perform s' hrun])
  | some q =>
    by_cases hq : q = 0
    · subst hq
      exact .inl (deals_perform h.balance h.kept hget hcues hrun)
    · have hnone : s'.runs[q]? = none := h.sole q hq
      rcases perform_of_none hrun hnone with hsame | hpass
      · exact .inl (by rw [hsame])
      · exact .inr ⟨q, by rw [hpass, backdrop_pass]⟩

lemma perform (h : s.Tended gist) (hcues : s.agenda.cues.Perm (cue :: agenda.cues)) :
    ∃ gist', (({ s with agenda } : Session (Recorded ν)).perform cue).Tended gist' := by
  obtain ⟨gist', -, halone⟩ := h.toAlone.perform hcues
  have hbalanced := balanced_remove h.balance hcues
  refine ⟨gist', halone, ?_⟩
  rcases h.perform_cases hcues with hdeals | ⟨q, hpass⟩
  · exact hdeals.balance (Lone.isLast ⟨h.runs, h.own⟩) hbalanced
  · rw [hpass]
    exact hbalanced.pass q

/-- whatever becomes of the session, the run is tended -/
theorem later (h : s.Tended gist) (hlater : Later s t) : ∃ gist', t.Tended gist' := by
  induction hlater with
  | refl => exact ⟨gist, h⟩
  | next _ hnext ih =>
    obtain ⟨gist', ih⟩ := ih
    obtain ⟨cue, agenda, hcues, rfl⟩ := hnext
    exact ih.perform hcues
  | @hear t client handle _ ih =>
    obtain ⟨gist', ih⟩ := ih
    exact ⟨gist', ⟨ih.toLone.of_gist (gist_hear t client handle),
      ih.kept.advance (.hear 0 t client handle)⟩, (backdrop_hear t client handle).symm ▸ ih.balance⟩
  | @network t inner _ ih =>
    obtain ⟨gist', ih⟩ := ih
    exact ⟨gist', ⟨ih.toLone.of_gist rfl, ih.kept.same (.network 0 t _)⟩, ih.balance⟩
  | @store t store _ ih =>
    obtain ⟨gist', ih⟩ := ih
    have hkept : ({ t with store } : Session (Recorded ν)).Kept 0 :=
      ih.kept.same (.of_cues rfl rfl rfl (.refl _) fun _ => id)
    exact ⟨gist', ⟨⟨ih.runs, ih.own⟩, hkept⟩, ih.balance.listed, ih.balance.quiet⟩
  | @hub t hub _ ih =>
    obtain ⟨gist', ih⟩ := ih
    have hkept : ({ t with hub } : Session (Recorded ν)).Kept 0 :=
      ih.kept.same (.of_cues rfl rfl rfl (.refl _) fun _ => id)
    exact ⟨gist', ⟨ih.toLone.of_gist rfl, hkept⟩, ih.balance⟩

/-- what holds of the backdrop of a run, whatever it does of its own, holds later too -/
lemma later_backdrop {p : Backdrop → Prop} (h : s.Tended gist) (hlater : Later s t)
    (hdeals : ∀ b b', Deals 0 b b' → p b → p b') (hpass : ∀ b q, p b → p (b.pass q))
    (hstore : ∀ b store, p b → p { b with store }) (hcues : ∀ b cues, p b → p { b with cues })
    (hs : p s.backdrop) : p t.backdrop := by
  induction hlater with
  | refl => exact hs
  | @next t u hbefore hnext ih =>
    obtain ⟨gist', hthen⟩ := h.later hbefore
    obtain ⟨cue, agenda, htaken, rfl⟩ := hnext
    have hremoved : p ({ t with agenda } : Session (Recorded ν)).backdrop := hcues _ _ ih
    rcases hthen.perform_cases htaken with hgoes | ⟨q, hpassed⟩
    · exact hdeals _ _ hgoes hremoved
    · rw [hpassed]
      exact hpass _ q hremoved
  | @hear t client handle _ ih => exact (backdrop_hear t client handle).symm ▸ ih
  | network inner _ ih => exact ih
  | store store _ ih => exact hstore _ store ih
  | hub hub _ ih => exact ih

lemma later_hasSought {client : Nat} (h : s.Tended gist) (hlater : Later s t)
    (hs : s.backdrop.HasSought 0 client) : t.backdrop.HasSought 0 client :=
  h.later_backdrop hlater (fun _ _ hdeals hb => hdeals.hasSought hb) (fun _ q hb => hb.pass q)
    (fun _ _ => id) (fun _ _ => id) hs

lemma later_rests {ticks : Nat} {searches : List Contact} (h : s.Tended gist) (hlater : Later s t)
    (hs : s.backdrop.Rests 0 ticks searches) : t.backdrop.Rests 0 ticks searches :=
  h.later_backdrop hlater (fun _ _ hdeals hb => hdeals.rests hb) (fun _ q hb => hb.pass q)
    (fun _ _ => id) (fun _ _ => id) hs

/-- a run that has looked for bulbs and has ended has stopped to -/
theorem released {client : Nat} (h : s.Tended gist) (hsought : s.backdrop.HasSought 0 client)
    (hget : s.runs[0]? = some run) (hover : run.isOver = true) :
    (run.phase = .draining ∨ run.phase = .finished) ∧
      s.backdrop.Rests 0 run.core.ticks [.start client, .stop client] := by
  obtain ⟨core, hcore, hidle, rfl⟩ := hsought
  obtain ⟨run', hruns, -⟩ := h.exists_run
  rw [hruns] at hget
  obtain rfl : run' = run := Option.some.inj hget
  have hcores : s.backdrop.runs = [run'.core] := by
    show s.runs.map Run.core = _
    rw [hruns]
    rfl
  rw [hcores] at hcore
  obtain rfl : run'.core = core := Option.some.inj hcore
  have hlooks : run'.phase ≠ .discovering := by
    intro hphase
    obtain ⟨run, hget, -, hsound⟩ := h.sound
    rw [hruns] at hget
    obtain rfl : run' = run := Option.some.inj hget
    have hopen : run'.outcome = none := (hsound.looks hphase).outcome
    rw [Run.isOver, hopen] at hover
    cases hover
  have hphase : run'.phase = .draining ∨ run'.phase = .finished := by
    have hidle : run'.phase ≠ .idle := hidle
    cases hp : run'.phase with
    | idle => exact absurd hp hidle
    | discovering => exact absurd hp hlooks
    | draining => exact .inl rfl
    | finished => exact .inr rfl
  have hsearches : s.backdrop.searches = [.start run'.client, .stop run'.client] := by
    rw [h.balance.listed, hcores, List.flatMap_singleton]
    have hphase : run'.core.phase = .draining ∨ run'.core.phase = .finished := hphase
    show run'.core.searches = _
    unfold Run.Core.searches
    rcases hphase with hphase | hphase <;> rw [hphase] <;> rfl
  exact ⟨hphase, hsearches, run'.core, by rw [hcores]; rfl, hphase, rfl⟩

end Tended

/-! ### The start, and the end -/

lemma isIn_alone (network : Recorded ν) (run : Run) (store : Snapshot.Store)
    (hidle : run.phase = .idle) : (alone network run store).IsIn 0 .idle run.client :=
  ⟨run.core, rfl, hidle, rfl⟩

/-- the run has started: either it has ended at once and nothing is under way, or it has looked for
bulbs -/
theorem start_cases (network : ν) (action : Action) (settings : Settings) (client : Nat)
    (audience : Audience) (hasStore : Bool) (store : Snapshot.Store) :
    let run := Run.ofAction action settings client audience hasStore
    let first := alone (Recorded.mk network []) run store
    ((first.start 0 run).Bare ∧ ∃ run', (first.start 0 run).runs[0]? = some run' ∧
        run'.phase = .idle ∧ ∃ fault, run'.outcome = some (.error fault)) ∨
      ∃ gist, (first.start 0 run).Tended gist ∧ (first.start 0 run).backdrop.HasSought 0 client := by
  intro run first
  have hbalance : first.backdrop.Balanced := ⟨rfl, fun _ _ _ _ cue hmem => by cases hmem⟩
  have hlast : first.backdrop.IsLast 0 := by
    intro q core hq hcore
    rw [List.getElem?_eq_none (Nat.succ_le_of_lt hq)] at hcore
    cases hcore
  have hbare : first.Bare := ⟨rfl, rfl, rfl, rfl, rfl⟩
  obtain ⟨gist, -, halone⟩ := alone_start (Recorded.mk network []) action settings client audience
    hasStore store
  have hlaunches := launches_start (isIn_alone (Recorded.mk network []) run store rfl)
  have hkept := hlaunches.does.deals.balance hlast hbalance
  cases hlaunches with
  | @fails u fault deals isIn same failed =>
    have hu := hbare.of_setting same
    obtain ⟨core, hcore, hphase, -⟩ := isIn
    have hended : (u.endRun 0 (.error fault)).backdrop.runs[0]?
        = some { core with outcome := some (.error fault) } := by
      rw [backdrop_endRun]
      unfold Backdrop.finish
      rw [Backdrop.runs_pass]
      show (u.backdrop.runs.modify 0 _)[0]? = _
      rw [List.getElem?_modify_eq, hcore]
      rfl
    rw [← failed] at hended
    obtain ⟨run', hget, hcores⟩ := Option.map_eq_some_iff.mp (List.getElem?_map .. ▸ hended)
    refine .inl ⟨?_, run', hget, ?_, fault, ?_⟩
    · rw [failed]
      exact hu.of_setting (setting_endRun hu.turn _)
    · exact (congrArg Run.Core.phase hcores).trans hphase
    · exact congrArg Run.Core.outcome hcores
  | seeks before idle deals looks does =>
    obtain ⟨core, hcore, hphase, hclient⟩ := looks
    exact .inr ⟨gist, ⟨halone, hkept⟩,
      does.deals.hasSought ⟨core, hcore, by rw [hphase]; decide, hclient⟩⟩

/-- a step of a run that is alone: it starts, or one of the cues that are set is performed -/
inductive Strides (first : Session (Recorded ν)) (run : Run) :
    Session (Recorded ν) → Session (Recorded ν) → Prop
  | start : Strides first run first (first.start 0 run)
  | next {s t : Session (Recorded ν)} (later : Later (first.start 0 run) s) (next : s.Next t) :
    Strides first run s t

/-- with its last step the run has finished its work, and nothing went wrong with that: what was left
in the inbox has been cleared away, and the effect has done what it has to do at the end -/
def Completes (s t : Session (Recorded ν)) : Prop :=
  ∃ (agenda : Agenda Cue) (u : Session (Recorded ν)) (run : Run),
    Deals 0 ({ s with agenda } : Session (Recorded ν)).backdrop u.backdrop ∧
    u.runs[0]? = some run ∧ run.phase = .draining ∧ t = u.close 0 run ∧
    ((u.clearAway 0).finalize 0 run).2 = none

lemma Completes.finished (h : Completes s t) (hget : t.runs[0]? = some run) :
    run.phase = .finished := by
  obtain ⟨agenda, u, run', -, hhere, hdrains, rfl, hfinal⟩ := h
  have hends := (deals_close (hdrains ▸ isIn_core hhere)).2
  rw [if_pos hfinal] at hends
  exact (hends.eq_core hget).1

/-- a run that has finished with what it does has finished its work -/
lemma Does.completes_of_finished (h : Does 0 ({ s with agenda } : Session (Recorded ν)) t)
    (hget : t.runs[0]? = some run) (hfinished : run.phase = .finished) : Completes s t := by
  cases h with
  | goesOn deals isIn unfinished =>
    exact absurd ((isIn.eq_core hget).1.symm.trans hfinished) unfinished
  | @closes u current deals here drains closed =>
    refine ⟨agenda, u, current, deals, here, drains, closed, ?_⟩
    by_contra hfault
    have hends := (deals_close (drains ▸ isIn_core here)).2
    rw [if_neg hfault, ← closed] at hends
    exact absurd ((hends.eq_core hget).1.symm.trans hfinished) (by decide)

/-- with a cue that ends the run, it does something of its own -/
lemma Tended.does_of_over (h : s.Tended gist) (hcues : s.agenda.cues.Perm (cue :: agenda.cues))
    {before : Run} (hopen : s.runs[0]? = some before) (hopen' : before.isOver = false)
    (hover : (({ s with agenda } : Session (Recorded ν)).perform cue).runs[0]? = some run)
    (hover' : run.isOver = true) : Does 0 ({ s with agenda } : Session (Recorded ν))
      (({ s with agenda } : Session (Recorded ν)).perform cue) := by
  have hconcerns : cue.concerns 0 = true := by
    by_contra hother
    have hsame := gist_perform (s := { s with agenda }) h.sole (Bool.eq_false_iff.mpr hother)
    have hgist := congrArg (·.runs[0]?) hsame
    simp only [Session.gist, List.getElem?_map, hover] at hgist
    rw [show ({ s with agenda } : Session (Recorded ν)).runs[0]? = some before from hopen] at hgist
    have houtcome : run.outcome = before.outcome := congrArg Run.Gist.outcome (Option.some.inj hgist)
    rw [Run.isOver, houtcome] at hover'
    rw [Run.isOver, hover'] at hopen'
    cases hopen'
  obtain ⟨run', hget, -, hsound⟩ := h.sound
  have hl : s.ledger 0 = some (s.ledgerOf 0 run') := by
    rw [ledger, hget]
    rfl
  rcases (h.unresolved hcues hconcerns).2 with rfl | ⟨fault, rfl⟩
  · exact does_wake (s := { s with agenda }) hget (ledger_wake hsound hl hcues).1
  · exact does_drained (s := { s with agenda }) hget (ledger_drained hsound hl hcues).1 fault

/-! ### The release -/

section

variable {network : ν} {action : Action} {settings : Settings} {client : Nat} {audience : Audience}
  {hasStore : Bool} {store : Snapshot.Store}

/-- what holds when a run that has looked for bulbs has ended -/
lemma Tended.released_later {after : Run} (h : t.Tended gist)
    (hsought : t.backdrop.HasSought 0 client) (hrun : t.runs[0]? = some run)
    (hover : run.isOver = true) (hlater : Later t u) (hafter : u.runs[0]? = some after) :
    t.network.searches = [.start client, .stop client] ∧
      u.network.searches = [.start client, .stop client] ∧ run.phase ≠ .discovering ∧
      (∀ cue ∈ u.agenda.cues, cue.isClockOf 0 = false) ∧
      after.deeds.count (.queued .tick) = run.deeds.count (.queued .tick) := by
  obtain ⟨hphase, hrests⟩ := h.released hsought hrun hover
  obtain ⟨hsearches, core, hcore, hrested, hticks⟩ := h.later_rests hlater hrests
  obtain ⟨gist', hthen⟩ := h.later hlater
  have hsame : after.core = core := by
    have hcore' : (u.runs.map Run.core)[0]? = some core := hcore
    rw [List.getElem?_map, hafter] at hcore'
    exact Option.some.inj hcore'
  refine ⟨hrests.1, hsearches, ?_, ?_, ?_⟩
  · rcases hphase with hphase | hphase <;> simp [hphase]
  · intro cue hmem
    refine Bool.eq_false_iff.mpr fun hclock => ?_
    have hlooks : after.core.phase = .discovering := looks_of_clock hthen.balance hafter hmem hclock
    rw [hsame] at hlooks
    rcases hrested with hrested | hrested <;> simp [hrested] at hlooks
  · have hcount : after.core.ticks = run.core.ticks := by rw [hsame, hticks]
    exact hcount

/-- with the step by which it ends, a run has asked the network for nothing at all and never does; or
it has started to look for bulbs just once and has stopped just once after that, its idle clock is not
set and it is told of no further idle interval -/
theorem discovery_released {before run after : Run}
    (hstep : Strides (alone (Recorded.mk network [])
      (.ofAction action settings client audience hasStore) store)
      (.ofAction action settings client audience hasStore) s t)
    (hbefore : s.runs[0]? = some before) (hopen : before.isOver = false)
    (hrun : t.runs[0]? = some run) (hover : run.isOver = true)
    (hlater : Later t u) (hafter : u.runs[0]? = some after) :
    (run.phase = .idle ∧ after.phase = .idle ∧ (∃ fault, run.outcome = some (.error fault)) ∧
      t.network.contacts = [] ∧ u.network.contacts = []) ∨
    (t.network.searches = [.start client, .stop client] ∧
      u.network.searches = [.start client, .stop client] ∧
      run.phase ≠ .discovering ∧ (run.phase = .finished ↔ Completes s t) ∧
      (∀ cue ∈ u.agenda.cues, cue.isClockOf 0 = false) ∧
      after.deeds.count (.queued .tick) = run.deeds.count (.queued .tick)) := by
  have hcases := start_cases network action settings client audience hasStore store
  dsimp only at hcases
  cases hstep with
  | start =>
    rcases hcases with ⟨hbare, run', hget, hidle, hfault⟩ | ⟨gist, htended, hsought⟩
    · obtain rfl := Option.some.inj (hget.symm.trans hrun)
      obtain ⟨hstill, hsame⟩ := hlater.bare hbare
      rw [hsame, hrun] at hafter
      obtain rfl := Option.some.inj hafter
      exact .inl ⟨hidle, hidle, hfault, hbare.contacts, hstill.contacts⟩
    · obtain ⟨hmade, hlast, hlooks, hquiet, hticks⟩ :=
        htended.released_later hsought hrun hover hlater hafter
      have hdoes := (launches_start (isIn_alone (Recorded.mk network [])
        (.ofAction action settings client audience hasStore) store rfl)).does
      exact .inr ⟨hmade, hlast, hlooks, ⟨fun hfinished => hdoes.completes_of_finished hrun hfinished,
        fun hcompletes => hcompletes.finished hrun⟩, hquiet, hticks⟩
  | next later hnext =>
    rcases hcases with ⟨hbare, -⟩ | ⟨gist, htended, hsought⟩
    · -- nothing is under way, so no cue comes
      obtain ⟨cue, agenda, hcues, -⟩ := hnext
      rw [(later.bare hbare).1.cues] at hcues
      exact absurd hcues.length_eq (by simp)
    · obtain ⟨gist', hthen⟩ := htended.later later
      obtain ⟨gist'', hended⟩ := htended.later (later.next hnext)
      have hstill := htended.later_hasSought (later.next hnext) hsought
      obtain ⟨hmade, hlast, hlooks, hquiet, hticks⟩ :=
        hended.released_later hstill hrun hover hlater hafter
      obtain ⟨cue, agenda, hcues, rfl⟩ := hnext
      have hdoes := hthen.does_of_over hcues hbefore hopen hrun hover
      exact .inr ⟨hmade, hlast, hlooks, ⟨fun hfinished => hdoes.completes_of_finished hrun hfinished,
        fun hcompletes => hcompletes.finished hrun⟩, hquiet, hticks⟩

/-- a run that has ended has come to its end with one of its steps -/
theorem exists_stride_of_over (hlater : Later ((alone (Recorded.mk network [])
      (.ofAction action settings client audience hasStore) store).start 0
      (.ofAction action settings client audience hasStore)) u)
    (hrun : u.runs[0]? = some run) (hover : run.isOver = true) : ∃ s t before ended,
      Strides (alone (Recorded.mk network [])
        (.ofAction action settings client audience hasStore) store)
        (.ofAction action settings client audience hasStore) s t ∧
      s.runs[0]? = some before ∧ before.isOver = false ∧ t.runs[0]? = some ended ∧
      ended.isOver = true ∧ Later t u := by
  have hcases := start_cases network action settings client audience hasStore store
  dsimp only at hcases
  induction hlater generalizing run with
  | refl => exact ⟨_, _, _, run, .start, rfl, rfl, hrun, hover, .refl⟩
  | @next t u hbefore hnext ih =>
    rcases hcases with ⟨hbare, -⟩ | ⟨gist, htended, -⟩
    · obtain ⟨cue, agenda, hcues, -⟩ := hnext
      rw [(hbefore.bare hbare).1.cues] at hcues
      exact absurd hcues.length_eq (by simp)
    · obtain ⟨gist', hthen⟩ := htended.later hbefore
      obtain ⟨before, hget, -⟩ := hthen.sound
      cases hopen : before.isOver with
      | true =>
        obtain ⟨s, t, earlier, ended, hstride, hs, hs', ht, ht', hlater⟩ := ih hget hopen
        exact ⟨s, t, earlier, ended, hstride, hs, hs', ht, ht', hlater.next hnext⟩
      | false => exact ⟨t, u, before, run, .next hbefore hnext, hget, hopen, hrun, hover, .refl⟩
  | @hear t client handle hbefore ih =>
    have hgists : (t.hear client handle).gist.runs[0]? = t.gist.runs[0]? := by rw [gist_hear]
    simp only [Session.gist, List.getElem?_map, hrun] at hgists
    obtain ⟨old, hget, hgist⟩ := Option.map_eq_some_iff.mp hgists.symm
    have houtcome : old.outcome = run.outcome := congrArg Run.Gist.outcome hgist
    obtain ⟨s, t, earlier, ended, hstride, hs, hs', ht, ht', hlater⟩ :=
      ih hget (by rw [Run.isOver, houtcome]; exact hover)
    exact ⟨s, t, earlier, ended, hstride, hs, hs', ht, ht', hlater.hear client handle⟩
  | network inner _ ih =>
    obtain ⟨s, t, earlier, ended, hstride, hs, hs', ht, ht', hlater⟩ := ih hrun hover
    exact ⟨s, t, earlier, ended, hstride, hs, hs', ht, ht', hlater.network inner⟩
  | store store _ ih =>
    obtain ⟨s, t, earlier, ended, hstride, hs, hs', ht, ht', hlater⟩ := ih hrun hover
    exact ⟨s, t, earlier, ended, hstride, hs, hs', ht, ht', hlater.store store⟩
  | hub hub _ ih =>
    obtain ⟨s, t, earlier, ended, hstride, hs, hs', ht, ht', hlater⟩ := ih hrun hover
    exact ⟨s, t, earlier, ended, hstride, hs, hs', ht, ht', hlater.hub hub⟩

end

/-- a bulb that is announced at once -/
def recordedHall : Recorded Bench where
  inner :=
    { bulbs := [{ handle := { serial := "1", label := "Hall", host := "" }, state :=
        { label := "Hall", power := 0, hue := 1, saturation := 2, brightness := 3, kelvin := 4 } }]
      clients := [{}] }

def statusOfHall : Action where
  command := "status all"
  effect := .status
  targets := .all

/-- the run whose last event fails, just before it ends -/
def hallReported : Session (Recorded Bench) :=
  drive (fun _ => false) 9
    ((alone recordedHall (.ofAction statusOfHall {} 0 (.recorder [3])) {}).start 0
      (.ofAction statusOfHall {} 0 (.recorder [3])))

set_option maxRecDepth 100000 in
theorem discovery_released_hallReported : ∃ t run, hallReported.step = some t ∧
    t.runs[0]? = some run ∧ run.isOver = true ∧ run.phase = .finished ∧
    t.network.searches = [.start 0, .stop 0] := by
  have hstep : hallReported.step.isSome = true := by decide +kernel
  obtain ⟨t, ht⟩ := Option.isSome_iff_exists.mp hstep
  have hbefore : hallReported.runs[0]?.map Run.isOver = some false := by decide +kernel
  obtain ⟨before, hhere, hopen⟩ := Option.map_eq_some_iff.mp hbefore
  have hafter : (hallReported.step.bind fun t => t.runs[0]?).map
      (fun run => (run.isOver, run.phase)) = some (true, .finished) := by decide +kernel
  rw [ht] at hafter
  obtain ⟨run, hrun, heq⟩ := Option.map_eq_some_iff.mp hafter
  obtain ⟨hover, hphase⟩ := Prod.mk.inj heq
  have hreleased := discovery_released (.next (Later.refl.drive _ 9) (next_of_step ht)) hhere hopen
    hrun hover .refl hrun
  rcases hreleased with ⟨hidle, -⟩ | ⟨hsearches, -⟩
  · rw [hphase] at hidle
    cases hidle
  · exact ⟨t, run, ht, hrun, hover, hphase, hsearches⟩

end Lamplighter.Session
