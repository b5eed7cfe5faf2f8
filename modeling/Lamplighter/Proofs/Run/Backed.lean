import Lamplighter.Proofs.Run.Alert
import Lamplighter.Proofs.Run.Stock

/-!
# Backed: runs that only bulbs can trouble

* `Store.Serves`      the store does what an effect asks of it;
* `Plan.filed`        the store once a run has put away what it kept;
* `Session.Backed`    a run has a reliable audience and a store that serves;
* `Backed.close`      such a run finishes with a summary when its effects have ended, and puts away
                      what it kept;
* `Backed.drain`      when it need not look for bulbs any longer, it finishes or waits for an effect
                      that has not ended;
* `Backed.handleAll`  when it looks into its inbox it empties it, or stops looking for bulbs.
-/

set_option linter.unusedSectionVars false

namespace Lamplighter

open Deeds

/-- the store has no fault in what the effect of an action asks of it -/
def Snapshot.Store.Serves (store : Snapshot.Store) (action : Action) (hasStore : Bool) : Prop :=
  match action.effect with
  | .save name => hasStore = true ∧ ∀ states seconds,
      (store.save (some action.key) states name seconds).2 = none
  | .restore name _ => hasStore = true → ∃ saved, store.load (some action.key) name = .ok saved
  | _ => True

/-- the store once a run has put away what it kept -/
def Plan.filed (plan : Plan) (store : Snapshot.Store) (kept : List BulbState) (seconds : Int) :
    Snapshot.Store :=
  match plan.action.effect with
  | .save name =>
    if kept.isEmpty || !plan.hasStore then store
    else (store.save (some plan.action.key) kept name seconds).1
  | _ => store

lemma Ledger.alert_of_finished {l : Ledger} (hreliable : l.audience.isReliable = true)
    (hp : l.phase = .finished) {summary : Summary} (hout : l.outcome = some (.ok summary)) :
    l.Alert := by
  refine ⟨hreliable, ?_, ?_, ?_, fun _ => ⟨summary, hout⟩⟩
  · rw [hp]
    decide
  · rw [hp]
    intro hd
    cases hd
  · rw [hp]
    intro hd
    cases hd

namespace Session

/-! ### What becomes of the stock -/

section
variable {ν : Type} [Network ν] {r : Nat}

lemma stock_finalize (s : Session ν) (q : Nat) (run : Run) :
    (s.finalize q run).1.stock r
      = ⟨(s.stock r).kept, run.plan.filed s.store run.kept s.agenda.now.wholeSeconds⟩ := by
  unfold Session.finalize Plan.filed
  cases heffect : run.action.effect with
  | save name =>
    simp only [Run.plan, heffect]
    rcases Bool.eq_false_or_eq_true run.kept.isEmpty with hempty | hempty
    · simp only [hempty, Bool.true_or, ↓reduceIte]
      exact stock_emit s q _ _ _ _
    · rcases Bool.eq_false_or_eq_true run.hasStore with hstore | hstore
      · simp only [hempty, hstore, Bool.not_true, Bool.or_false, Bool.false_eq_true, ↓reduceIte]
        generalize s.store.save (some run.action.key) run.kept name s.agenda.now.wholeSeconds = saved
        obtain ⟨store, _ | fault⟩ := saved
        · exact stock_emit { s with store } q _ _ _ _
        · rfl
      · simp only [hempty, hstore, Bool.not_false, Bool.or_true, Bool.false_eq_true, ↓reduceIte]
        rfl
  | _ =>
    simp only [Run.plan, heffect]
    rfl

@[simp] lemma stock_sumUp (s : Session ν) (q : Nat) (text : String) :
    (s.sumUp q text).stock r = s.stock r := by
  have hemit := stock_emit (r := r) s q .runFinished text none none
  cases sumUp_course s q text with
  | absent said gone result =>
    rw [result]
    exact hemit
  | mute said result | ends said here result =>
    rw [result]
    exact (stock_endRun _ q _).trans hemit

/-- a run that closes puts away what it kept, if the effect and the store let it -/
theorem stock_close (s : Session ν) (q : Nat) (run : Run) :
    (s.close q run).stock r
      = ⟨(s.stock r).kept, run.plan.filed s.store run.kept s.agenda.now.wholeSeconds⟩ := by
  have hfinal := stock_finalize (r := r) (s.clearAway q) q run
  rw [clearAway, stock_modifyRun s q (by intro; rfl)] at hfinal
  cases close_course s q run with
  | fails finalized result =>
    rw [result]
    exact (stock_endRun _ q _).trans hfinal
  | sums finalized result =>
    rw [result, stock_sumUp, stock_modifyRun _ q (by intro; rfl)]
    exact hfinal

end

/-! ### Runs that are backed -/

variable {s t : Session Bench} {r : Nat} {plan : Plan} {run : Run} {l : Ledger}

structure Backed (s : Session Bench) (r : Nat) (plan : Plan) : Prop where
  planned : s.runs[r]?.map Run.plan = some plan
  reliable : plan.audience.isReliable = true
  serves : s.store.Serves plan.action plan.hasStore

/-- what of a plan is in a ledger -/
lemma plan_of_ledger (hplan : s.runs[r]?.map Run.plan = some plan) (hl : s.ledger r = some l) :
    l.audience = plan.audience ∧ l.action = plan.action := by
  obtain ⟨run, hget, rfl⟩ := Option.map_eq_some_iff.mp hl
  rw [hget] at hplan
  obtain rfl := Option.some.inj hplan
  exact ⟨rfl, rfl⟩

/-- a run has put away what it kept -/
def Files (s t : Session Bench) (r : Nat) (plan : Plan) : Prop :=
  ∃ kept seconds, (s.stock r).kept = some kept ∧
    t.stock r = ⟨some kept, plan.filed s.store kept seconds⟩

lemma Files.of_stock {u : Session Bench} (h : t.Files u r plan) (hstock : t.stock r = s.stock r) :
    s.Files u r plan := by
  obtain ⟨kept, seconds, hkept, hfiled⟩ := h
  have hstore : t.store = s.store := congrArg Stock.store hstock
  rw [hstore] at hfiled
  exact ⟨kept, seconds, hstock ▸ hkept, hfiled⟩

namespace Backed

lemma of_plans (h : s.Backed r plan) (hplans : t.runs.map Run.plan = s.runs.map Run.plan)
    (hstore : t.store = s.store) : t.Backed r plan :=
  ⟨(map_plan_of_plans hplans r).trans h.planned, h.reliable, hstore ▸ h.serves⟩

lemma reliable_run (h : s.Backed r plan) : s.Reliable r := by
  intro run hrun
  have hplan := h.planned
  rw [hrun] at hplan
  have haudience : run.audience = plan.audience := congrArg Plan.audience (Option.some.inj hplan)
  rw [haudience]
  exact h.reliable

/-- the last work of the effect goes well -/
lemma finalize (h : s.Backed r plan) (hrun : run.plan = plan) : (s.finalize r run).2 = none := by
  have hemit : ∀ (t : Session Bench) message, t.Reliable r →
      (t.emit r .deviceReport message none none).2 = none := by
    intro t message ht
    rw [emit_of_reliable ht]
  have hserves := h.serves
  subst hrun
  unfold Session.finalize
  split
  · rename_i name heffect
    have hserves : run.hasStore = true ∧ ∀ states seconds,
        (s.store.save (some run.action.key) states name seconds).2 = none := by
      simpa only [Snapshot.Store.Serves, Run.plan, heffect] using hserves
    split
    · exact hemit s _ h.reliable_run
    · split
      · rename_i hnone
        simp [hserves.1] at hnone
      · split
        · rename_i store fault heq
          have hwell := hserves.2 run.kept s.agenda.now.wholeSeconds
          rw [heq] at hwell
          cases hwell
        · exact hemit { s with store := _ } _ h.reliable_run
  · rfl

/-- a run that has done its work sums up -/
lemma sumUp (hreliable : s.Reliable r) (text : String) (hl : s.ledger r = some l)
    (hp : l.phase = .finished) :
    ∃ l', (s.sumUp r text).ledger r = some l' ∧ l'.phase = .finished ∧ l'.Alert := by
  have hemit := (Same.emit (r := r) s r .runFinished text none none).ledger.trans hl
  have haudience : l.audience.isReliable = true := by
    obtain ⟨run, hget, rfl⟩ := Option.map_eq_some_iff.mp hl
    exact hreliable run hget
  obtain ⟨run, hget, rfl⟩ := Option.map_eq_some_iff.mp hemit
  cases sumUp_course s r text with
  | mute said result =>
    rw [emit_of_reliable hreliable] at said
    cases said
  | absent said gone result =>
    rw [hget] at gone
    cases gone
  | ends said here result =>
    obtain rfl := Option.some.inj (hget.symm.trans here)
    rw [result]
    generalize (s.emit r .runFinished text).1 = t at hget
    have hended : ((t.endRun r (.ok (run.summary t.agenda.now))).ledger r) =
        some ((t.endRun r (.ok (run.summary t.agenda.now))).ledgerOf r { run with
          outcome := some (.ok (run.summary t.agenda.now)), isWaiting := false
          isGathering := false }) := by
      rw [Session.ledger, runs_endRun, hget]
      rfl
    exact ⟨_, hended, hp, Ledger.alert_of_finished haudience hp rfl⟩

/-- a run that finishes puts away what it kept -/
theorem files_close (h : s.Backed r plan) (hget : s.runs[r]? = some run) :
    s.Files (s.close r run) r plan := by
  have hrun : run.plan = plan := by
    have hplan := h.planned
    rw [hget] at hplan
    exact Option.some.inj hplan
  have hkept : (s.stock r).kept = some run.kept := by
    rw [stock, hget]
    rfl
  refine ⟨run.kept, s.agenda.now.wholeSeconds, hkept, ?_⟩
  rw [stock_close, hkept, hrun]

/-- a run whose effects have ended finishes with a summary -/
theorem close (h : s.Backed r plan) (hget : s.runs[r]? = some run) :
    ∃ l', (s.close r run).ledger r = some l' ∧ l'.phase = .finished ∧ l'.Alert := by
  have hrun : run.plan = plan := by
    have hplan := h.planned
    rw [hget] at hplan
    exact Option.some.inj hplan
  have hplans : (s.clearAway r).runs.map Run.plan = s.runs.map Run.plan :=
    plans_modifyRun s r fun _ => rfl
  have hwell := (h.of_plans hplans rfl).finalize hrun
  have hfinal : ∀ t : Session Bench, Admits 0 r "" 0 (fun _ => True) plan t (t.finalize r run).1 :=
    fun t => .finalize t r run
  have hafter := (hfinal _).plans.trans hplans
  cases close_course s r run with
  | fails finalized result =>
    rw [hwell] at finalized
    cases finalized
  | sums finalized result =>
    rw [result]
    revert hafter
    generalize ((s.clearAway r).finalize r run).1 = t
    intro hafter
    have hfinished : (t.modifyRun r fun run => { run with phase := .finished }).runs.map Run.plan
        = s.runs.map Run.plan := by
      rw [← hafter]
      exact plans_modifyRun t r fun _ => rfl
    obtain ⟨run', hget', _⟩ :=
      Option.map_eq_some_iff.mp ((map_plan_of_plans hafter r).trans h.planned)
    have hl : (t.modifyRun r fun run => { run with phase := .finished }).ledger r
        = some { t.ledgerOf r run' with phase := .finished } := by
      rw [ledger_modifyRun, hget']
      rfl
    exact sumUp (h.reliable_run.of_plans hfinished) _ hl rfl

/-- what a run that looked into its inbox has come to -/
structure Settled (s t : Session Bench) (r : Nat) (plan : Plan) (l l' : Ledger) : Prop where
  ledger : t.ledger r = some l'
  alert : l'.Alert
  stock : l'.phase ≠ .finished → t.stock r = s.stock r
  files : l'.phase = .finished → s.Files t r plan
  emptied : l'.phase = .discovering → l'.isWaiting = true ∧ l'.inbox = []
  queued : l'.phase = .discovering → Deeds.queued l'.deeds = Deeds.queued l.deeds
  clocks : l'.phase = .discovering → ∀ cue, cue.isClockOf r = true → cue ∈ s.agenda.cues →
    cue ∈ t.agenda.cues

lemma settled_of_ne {l' : Ledger} (hl : t.ledger r = some l') (halert : l'.Alert)
    (hnot : l'.phase ≠ .discovering) (hstock : l'.phase ≠ .finished → t.stock r = s.stock r)
    (hfiles : l'.phase = .finished → s.Files t r plan) : Settled s t r plan l l' :=
  ⟨hl, halert, hstock, hfiles, fun hd => absurd hd hnot, fun hd => absurd hd hnot,
    fun hd => absurd hd hnot⟩

lemma Settled.store {l' : Ledger} (h : Settled s t r plan l l') (hp : l'.phase ≠ .finished) :
    t.store = s.store :=
  congrArg Stock.store (h.stock hp)

/-- a run that need not look for bulbs any longer finishes, or waits for an effect -/
theorem drain (h : s.Backed r plan) (hl : s.ledger r = some l) (hp : l.phase = .discovering)
    (horderly : s.Orderly r) (hwell : ∀ errand ∈ s.errands, errand.raised? = none) (run : Run) :
    ∃ l', Settled s (s.drain r run) r plan l l' := by
  have hstop := ledger_stopSearch run [] hl hp
  have hadmits : Admits 0 r "" 0 (fun _ => True) plan s (s.stopSearch r run) := .stopSearch s r run
  have hstopped := h.of_plans (t := s.stopSearch r run) hadmits.plans rfl
  have hall := allEnded_iff (horderly.stopSearch r run)
  have hwell : ∀ errand ∈ (s.stopSearch r run).errands, errand.raised? = none := hwell
  have hreliable : (l.stop []).audience.isReliable = true := by
    rw [(plan_of_ledger hstopped.planned hstop).1]
    exact h.reliable
  have hstock : (s.stopSearch r run).stock r = s.stock r := stock_stopSearch s r run
  obtain ⟨run', hget, hbook⟩ := Option.map_eq_some_iff.mp hstop
  cases drain_course s r run with
  | absent ended gone result =>
    rw [hget] at gone
    cases gone
  | closes ended here result =>
    obtain rfl := Option.some.inj (hget.symm.trans here)
    obtain ⟨l', hl', hp', halert⟩ := hstopped.close hget
    rw [result]
    refine ⟨l', settled_of_ne hl' halert ?_ (fun hne => absurd hp' hne) fun _ => ?_⟩
    · rw [hp']
      decide
    · exact (hstopped.files_close hget).of_stock hstock
  | harmed raised result =>
    obtain ⟨errand, hmem, hraised⟩ := List.exists_of_findSome?_eq_some raised
    rw [hwell errand (List.mem_filter.mp hmem).1] at hraised
    cases hraised
  | calm busy unharmed ended result =>
    rw [result]
    refine ⟨_, settled_of_ne (ledger_soon_calm hstop 1) ?_ (by simp [Ledger.stop])
      (fun _ => hstock) (by simp [Ledger.stop])⟩
    refine ⟨hreliable, by simp [Ledger.stop], fun hd => ?_, fun _ => .inl (Nat.succ_pos _),
      fun hf => ?_⟩
    · cases hd
    · cases hf
  | gathers unharmed unended result =>
    rw [result]
    revert hall hget hbook hstock unended
    generalize s.stopSearch r run = t
    intro hall hstock hget hbook unended
    have hgather : (t.modifyRun r fun run => { run with isGathering := true }).ledger r
        = some { l.stop [] with isGathering := true } := by
      rw [ledger_modifyRun, hget, ← hbook]
      rfl
    have hkept : (t.modifyRun r fun run => { run with isGathering := true }).stock r
        = s.stock r := (stock_modifyRun t r (by intro; rfl)).trans hstock
    refine ⟨_, settled_of_ne hgather ?_ (by simp [Ledger.stop]) (fun _ => hkept)
      (by simp [Ledger.stop])⟩
    refine ⟨hreliable, by simp [Ledger.stop], fun hd => ?_, fun _ => .inr ⟨rfl, ?_⟩, fun hf => ?_⟩
    · cases hd
    · intro hended
      have heffects : l.effects = t.effects r := (congrArg Ledger.effects hbook).symm
      have hended : AllEnded (t.effects r) := heffects ▸ hended
      refine Bool.eq_false_iff.mp unended ?_
      simpa [List.all_filter] using hall.mpr hended
    · cases hf

/-- what a run has come to, seen from before a part of its step -/
lemma Settled.after {u : Session Bench} {l' l'' : Ledger} (h : Settled t u r plan l' l'')
    (hstock : t.stock r = s.stock r) (hqueued : Deeds.queued l'.deeds = Deeds.queued l.deeds)
    (hclocks : ∀ cue, cue.isClockOf r = true → cue ∈ s.agenda.cues → cue ∈ t.agenda.cues) :
    Settled s u r plan l l'' :=
  ⟨h.ledger, h.alert, fun hf => (h.stock hf).trans hstock, fun hf => (h.files hf).of_stock hstock,
    h.emptied,
    fun hd => (h.queued hd).trans hqueued, fun hd cue hcue hmem =>
    h.clocks hd cue hcue (hclocks cue hcue hmem)⟩

/-- a run that looks into its inbox empties it, or stops looking for bulbs; by induction on the
messages that are left -/
theorem handleAll (h : s.Backed r plan) (hl : s.ledger r = some l) (hp : l.phase = .discovering)
    (horderly : s.Orderly r) (hwell : ∀ errand ∈ s.errands, errand.raised? = none)
    (hrun : run.plan = plan) (messages : List Message) :
    ∃ l', Settled s (s.handleAll r run messages) r plan l l' := by
  induction messages generalizing s l with
  | nil =>
    obtain ⟨current, hget, rfl⟩ := Option.map_eq_some_iff.mp hl
    have hemptied : (s.handleAll r run []).ledger r
        = some { s.ledgerOf r current with inbox := [], isWaiting := true } := by
      unfold Session.handleAll
      rw [ledger_modifyRun, hget]
      rfl
    have hreliable := h.reliable_run current hget
    have hkept : (s.handleAll r run []).stock r = s.stock r := stock_modifyRun s r (by intro; rfl)
    refine ⟨_, hemptied, ⟨hreliable, ?_, fun _ => .inr ⟨rfl, rfl⟩, ?_, ?_⟩, fun _ => hkept, ?_,
      fun _ => ⟨rfl, rfl⟩, fun _ => rfl, fun _ _ _ => id⟩
    · exact fun hi => absurd (hp.symm.trans hi) (by decide)
    · exact fun hd => absurd (hp.symm.trans hd) (by decide)
    · exact fun hf => absurd (hp.symm.trans hf) (by decide)
    · exact fun hf => absurd (hp.symm.trans hf) (by decide)
  | cons message rest ih =>
    obtain ⟨current, hget, rfl⟩ := Option.map_eq_some_iff.mp hl
    have htaken := ledger_take hget message rest
    have hnoted : Spares 0 r "" 0 (fun _ => True) s (s.take r current message rest) :=
      Spares.modifyRun s r (fun _ => rfl) (fun _ => rfl) fun _ _ => .inl
    have horder : (s.take r current message rest).Orderly r := horderly.modifyRun r _
    have hkept : (s.take r current message rest).stock r = s.stock r :=
      stock_modifyRun s r (by intro; rfl)
    have hbacked := h.of_plans hnoted.plans hnoted.store
    cases handleAll_course s r run message rest with
    | absent gone result =>
      rw [hget] at gone
      cases gone
    | breaksOff here matched said result =>
      obtain rfl := Option.some.inj (hget.symm.trans here)
      rw [sayMatch, emit_of_reliable hbacked.reliable_run] at said
      cases said
    | @acts current' handle here matched said result =>
      obtain rfl := Option.some.inj (hget.symm.trans here)
      rw [result]
      have hemit : Same r _ ((s.take r current message rest).sayMatch r handle).1 :=
        .emit (s.take r current message rest) r .deviceMatched _ (some handle.name) none
      have hsaid : Spares 0 r "" 0 (fun _ => True) s _ :=
        hnoted.trans (Spares.emit _ r .deviceMatched ("Running action on " ++ handle.name)
          (some handle.name) none)
      have herrands : ((s.take r current message rest).sayMatch r handle).1.errands = s.errands :=
        errands_emit _ r .deviceMatched _ (some handle.name) none
      have hstock : ((s.take r current message rest).sayMatch r handle).1.stock r = s.stock r :=
        (stock_emit _ r .deviceMatched _ (some handle.name) none).trans hkept
      have hdispatch : ∀ u, Admits 0 r "" 0 (fun _ => True) plan u (u.dispatch r run handle) :=
        fun u => .dispatch u hrun handle
      have hthen : ∀ errand ∈ (((s.take r current message rest).sayMatch r handle).1.dispatch r run
          handle).errands, errand.raised? = none := by
        intro errand hmem
        rcases List.mem_append.mp hmem with hold | hnew
        · exact hwell errand (herrands ▸ hold)
        · obtain rfl := List.mem_singleton.mp hnew
          rfl
      obtain ⟨l', hsettled⟩ := ih (h.of_plans ((hdispatch _).plans.trans hsaid.plans) hsaid.store)
        (ledger_dispatch (hemit.ledger.trans htaken) run handle) hp
        ((hemit.orderly horder).dispatch r run handle) hthen
      refine ⟨l', hsettled.after hstock rfl fun cue hcue hmem => ?_⟩
      exact (Agenda.cues_soon _ 0 _).mem_iff.mpr
        (List.mem_cons_of_mem _ (hsaid.clocks cue hcue hmem))
    | goesOn here matched looks result =>
      obtain rfl := Option.some.inj (hget.symm.trans here)
      obtain ⟨l', hsettled⟩ := ih hbacked htaken hp horder hwell
      rw [result]
      exact ⟨l', hsettled.after hkept rfl hnoted.clocks⟩
    | drains here matched looked result =>
      obtain rfl := Option.some.inj (hget.symm.trans here)
      obtain ⟨l', hsettled⟩ := hbacked.drain htaken hp horder hwell run
      rw [result]
      exact ⟨l', hsettled.after hkept rfl hnoted.clocks⟩

end Backed

end Session

end Lamplighter
