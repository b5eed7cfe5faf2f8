import Mathlib.Data.List.Nodup
import Lamplighter.Proofs.Run.Capture
import Lamplighter.Proofs.Run.Locality
import Lamplighter.Proofs.Snapshot.Store

/-!
# Saving: a run that saves puts away all that it read, or nothing

* `Session.Reads`     a session that a run can come to, with the states that its effects have read;
* `Session.Holds`     the run has kept what its effects have read, each state once;
* `Session.Saving`    and its store is as it was at first, or the run has closed, all effects are over,
                      and what was read has been put in;
* `Reads.saving`      so it is in every session that a run which saves can come to;
* `Reads.all_or_nothing`   what that says of the tables of the store.
-/

set_option linter.unusedSectionVars false

namespace Lamplighter

open Deeds Snapshot

/-- what a run that saves kept is put into the store as a whole, or the tables stay as they are -/
lemma Plan.filed_cases {plan : Plan} {given : Option String} (heffect : plan.action.effect = .save given)
    {store : Store} (hsettled : store.IsSettled) {kept : List BulbState}
    (hkept : ∀ state ∈ kept, state.IsShort) (seconds : Int) :
    (plan.filed store kept seconds).tables = store.tables ∨
      kept ≠ [] ∧ Store.Puts store.tables (plan.filed store kept seconds).tables plan.action.key given
        kept := by
  unfold Plan.filed
  simp only [heffect]
  split
  · exact .inl rfl
  · rename_i hnone
    refine (hsettled.save plan.action.key given hkept seconds).imp id fun hputs => ⟨?_, hputs⟩
    rintro rfl
    exact hnone rfl

namespace Session

section
variable {ν : Type} [Network ν] {s t start : Session ν} {gist gist' : Run.Gist} {cue : Cue}
  {agenda : Agenda Cue} {plan : Plan} {log : List (Handle × BulbState)}
  {entry : Option (Handle × BulbState)} {given : Option String}

/-! ### What the run has kept -/

structure Holds (s : Session ν) (log : List (Handle × BulbState)) : Prop where
  captures : ∀ errand ∈ s.errands, errand.IsCapture
  kept : (s.stock 0).kept = some (log.map Prod.snd)
  read : ∀ entry ∈ log, ∃ errand ∈ s.errands, errand.handle = entry.1 ∧ errand.isOver = true
  distinct : (log.map fun entry => entry.1.serial).Nodup

namespace Holds

lemma of_same (h : s.Holds log) (herrands : t.errands = s.errands)
    (hkept : (t.stock 0).kept = (s.stock 0).kept) : t.Holds log :=
  ⟨herrands ▸ h.captures, hkept.trans h.kept, herrands ▸ h.read, h.distinct⟩

/-- new effects have yet to ask for a state -/
lemma leads (h : s.Holds log) (heffect : plan.action.effect = .save given) (hl : Leads 0 plan s t) :
    t.Holds log := by
  obtain ⟨handles, herrands⟩ := hl.effects
  refine ⟨?_, (congrArg Stock.kept hl.stock).trans h.kept, ?_, h.distinct⟩
  · rw [herrands]
    intro errand hmem
    rcases List.mem_append.mp hmem with hold | hnew
    · exact h.captures errand hold
    · obtain ⟨handle, -, rfl⟩ := List.mem_map.mp hnew
      simp only [Errand.IsCapture, Plan.errand, heffect, Effect.play]
      rfl
  · rw [herrands]
    intro entry hentry
    obtain ⟨errand, hmem, hread⟩ := h.read entry hentry
    exact ⟨errand, List.mem_append_left _ hmem, hread⟩

/-- effects that are called off are over, or go on as before -/
lemma abort (h : s.Holds log) (run : Run) (fault : Fault) : (s.abort 0 run fault).Holds log := by
  refine ⟨?_, (congrArg Stock.kept (stock_abort s 0 run fault)).trans h.kept, ?_, h.distinct⟩
  · rw [errands_abort]
    intro errand hmem
    obtain ⟨old, hold, rfl⟩ := List.mem_map.mp hmem
    exact (h.captures old hold).calledOffBy 0
  · rw [errands_abort]
    intro entry hentry
    obtain ⟨errand, hmem, hhandle, hover⟩ := h.read entry hentry
    exact ⟨_, List.mem_map_of_mem hmem, (errand.handle_calledOffBy 0).trans hhandle,
      Errand.isOver_calledOffBy hover 0⟩

lemma comes (h : s.Holds log) (heffect : plan.action.effect = .save given)
    (hc : Comes plan s t gist gist') : t.Holds log := by
  cases hc with
  | goesOn leads => exact h.leads heffect leads
  | breaksOff leads broken =>
    subst broken
    exact (h.leads heffect leads).abort _ _
  | @closes u run outcome leads here closed =>
    subst closed
    obtain ⟨_, -, herrands⟩ := close_cases u here
    refine (h.leads heffect leads).of_same herrands ?_
    rw [stock_close]

/-- an effect goes on, and what it has read is kept -/
theorem moves (h : s.Holds log) (hdistinct : (s.errands.map fun errand => errand.handle.serial).Nodup)
    (hm : s.Moves t entry) : t.Holds (log ++ entry.toList) := by
  cases hm with
  | still herrands hstock =>
    rw [Option.toList_none, List.append_nil]
    exact h.of_same herrands (congrArg Stock.kept hstock)
  | @goes errand errand' taken hgoes =>
    obtain ⟨⟨hhandle, hcapture, hover, hended⟩, ⟨older, newer, hs, ht⟩, hstock⟩ := hgoes
    have hold : ∀ x ∈ s.errands, ∃ x' ∈ t.errands, x'.handle = x.handle ∧
        (x.isOver = true → x'.isOver = true) := by
      intro x hx
      rw [hs] at hx
      rw [ht]
      rcases List.mem_append.mp hx with hx | hx
      · exact ⟨x, List.mem_append_left _ hx, rfl, id⟩
      · rcases List.mem_cons.mp hx with rfl | hx
        · exact ⟨errand', by simp, hhandle, fun hx => (hover hx).1⟩
        · exact ⟨x, List.mem_append_right _ (List.mem_cons_of_mem _ hx), rfl, id⟩
    have hhere : errand ∈ s.errands := by simp [hs]
    have hthere : errand' ∈ t.errands := by simp [ht]
    refine ⟨?_, ?_, ?_, ?_⟩
    · intro x hx
      rw [ht] at hx
      rcases List.mem_append.mp hx with hx | hx
      · exact h.captures x (hs ▸ List.mem_append_left _ hx)
      · rcases List.mem_cons.mp hx with rfl | hx
        · exact hcapture
        · exact h.captures x (hs ▸ List.mem_append_right _ (List.mem_cons_of_mem _ hx))
    · rw [hstock, Stock.add, h.kept]
      cases taken <;> simp
    · intro read hread
      rcases List.mem_append.mp hread with hread | hnew
      · obtain ⟨x, hx, hxhandle, hxover⟩ := h.read read hread
        obtain ⟨x', hx', hxhandle', hxover'⟩ := hold x hx
        exact ⟨x', hx', hxhandle'.trans hxhandle, hxover' hxover⟩
      · cases taken with
        | none => cases hnew
        | some state =>
          obtain rfl : read = (errand.handle, state) := by simpa using hnew
          exact ⟨errand', hthere, hhandle, hended (by simp)⟩
    · cases taken with
      | none =>
        rw [Option.map_none, Option.toList_none, List.append_nil]
        exact h.distinct
      | some state =>
        -- an effect that is not over has read nothing yet
        have hnew : ∀ read ∈ log, read.1.serial ≠ errand.handle.serial := by
          intro read hread hserial
          obtain ⟨x, hx, hxhandle, hxover⟩ := h.read read hread
          have hsame : x = errand :=
            List.inj_on_of_nodup_map hdistinct hx hhere (by rw [hxhandle, hserial])
          subst hsame
          cases (hover hxover).2
        rw [List.map_append, List.nodup_append]
        refine ⟨h.distinct, by simp, ?_⟩
        intro serial hmem other hother
        obtain ⟨read, hread, rfl⟩ := List.mem_map.mp hmem
        obtain rfl : other = errand.handle.serial := by simpa using hother
        exact hnew read hread

end Holds

/-! ### Where it goes -/

/-- a run that comes to something leaves the store as it is, or closes and puts away what it kept -/
lemma Comes.filed (h : Comes plan s t gist gist') (hs : s.Lone gist) (hplan : gist.plan = plan)
    {kept : List BulbState} (hkept : (s.stock 0).kept = some kept) :
    gist'.finals = gist.finals ∧ t.store = s.store ∨
      gist'.finals = gist.finals + 1 ∧ ∃ seconds, t.store = plan.filed s.store kept seconds := by
  cases h with
  | goesOn leads => exact .inl ⟨rfl, congrArg Stock.store leads.stock⟩
  | breaksOff leads broken =>
    subst broken
    exact .inl ⟨rfl, congrArg Stock.store ((stock_abort _ 0 _ _).trans leads.stock)⟩
  | @closes u run outcome leads here closed =>
    subst closed
    have hrun : run.plan = plan := by
      rw [← hplan]
      exact congrArg Run.Gist.plan ((hs.of_leads leads).gist_eq here)
    have hsame : run.kept = kept := by
      have hstock := congrArg Stock.kept leads.stock
      rw [hkept] at hstock
      have hstock : u.runs[0]?.map Run.kept = some kept := hstock
      rw [here] at hstock
      exact Option.some.inj hstock
    refine .inr ⟨rfl, u.agenda.now.wholeSeconds, ?_⟩
    have hstore := congrArg Stock.store (stock_close (r := 0) u 0 run)
    rw [hrun, hsame, show u.store = s.store from congrArg Stock.store leads.stock] at hstore
    exact hstore

/-- a run that saves has kept what its effects have read, and the tables are as they were at first, or
it has closed and what was read has been put into them -/
structure Saving (s : Session ν) (action : Action) (given : Option String) (first : Store)
    (gist : Run.Gist) (log : List (Handle × BulbState)) : Prop extends s.Alone gist where
  planned : gist.plan.action = action
  holds : s.Holds log
  files : s.store.tables = first.tables ∨
    0 < gist.finals ∧ log ≠ [] ∧
      Store.Puts first.tables s.store.tables action.key given (log.map Prod.snd)

variable {action : Action} {first : Store}

/-- a cue of an effect -/
lemma Saving.aside (h : s.Saving action given first gist log) (ht : t.Alone gist)
    (hsame : t.gist = s.gist) (hm : s.Moves t entry) :
    t.Saving action given first gist (log ++ entry.toList) := by
  have hstore : t.store = s.store := congrArg Session.Gist.store hsame
  refine ⟨ht, h.planned, h.holds.moves (h.kept.nodup_of_own h.own) hm, ?_⟩
  rw [hstore]
  refine h.files.imp id fun hputs => ?_
  -- once the run has closed no effect reads anything
  have hnone : entry = none := by
    cases hm with
    | still herrands hstock => rfl
    | @goes errand errand' taken hgoes =>
      obtain ⟨older, newer, hs, -⟩ := hgoes.split
      have hover := h.over_of_finals hputs.1 errand (by simp [hs])
      rw [(hgoes.goes.stays hover).2, Option.map_none]
  rw [hnone, Option.toList_none, List.append_nil]
  exact hputs

/-- a cue that the run waits for -/
lemma Saving.comes (h : s.Saving action given first gist log) (heffect : action.effect = .save given)
    (hsettled : first.IsSettled) (hshort : ∀ entry ∈ log, entry.2.IsShort)
    (hopen : gist.finals = 0) (hc : Comes gist.plan s t gist gist') (ht : t.Alone gist') :
    t.Saving action given first gist' log := by
  have hplan : gist.plan.action.effect = .save given := by rw [h.planned, heffect]
  have htables : s.store.tables = first.tables :=
    h.files.resolve_right fun hputs => absurd hopen (Nat.ne_of_gt hputs.1)
  refine ⟨ht, hc.plan_eq ▸ h.planned, h.holds.comes hplan hc, ?_⟩
  rcases hc.filed h.toLone rfl h.holds.kept with ⟨-, hstore⟩ | ⟨hfinals, seconds, hstore⟩
  · rw [hstore]
    exact .inl htables
  · have hsettled' : s.store.IsSettled := hsettled.of_tables htables
    have hkept : ∀ state ∈ log.map Prod.snd, state.IsShort := List.forall_mem_map.mpr hshort
    have hfiled := Plan.filed_cases hplan hsettled' hkept seconds
    rw [← hstore, htables, h.planned] at hfiled
    refine hfiled.imp id fun ⟨hsome, hputs⟩ => ⟨by omega, ?_, hputs⟩
    rintro rfl
    exact hsome rfl

/-- a fault ends the run -/
lemma Saving.endRun (h : s.Saving action given first gist log) {fault : Fault}
    (ht : (s.endRun 0 (.error fault)).Alone (gist.halt fault)) :
    (s.endRun 0 (.error fault)).Saving action given first (gist.halt fault) log := by
  have hstock := stock_endRun (r := 0) s 0 (.error fault)
  have hstore : (s.endRun 0 (.error fault)).store = s.store := congrArg Stock.store hstock
  refine ⟨ht, h.planned, h.holds.of_same (errands_endRun s 0 _) (congrArg Stock.kept hstock), ?_⟩
  rw [hstore]
  exact h.files

/-- whatever cue is performed, what is read is kept or put away -/
theorem Saving.perform (h : s.Saving action given first gist log)
    (heffect : action.effect = .save given) (hsettled : first.IsSettled)
    (hshort : ∀ entry ∈ log, entry.2.IsShort) (hcues : s.agenda.cues.Perm (cue :: agenda.cues)) :
    ∃ gist', (({ s with agenda } : Session ν).perform cue).Saving action given first gist'
      (log ++ (s.reading cue).toList) := by
  have hhere : ({ s with agenda } : Session ν).Saving action given first gist log :=
    ⟨⟨⟨h.runs, h.own⟩, h.kept.remove hcues⟩, h.planned,
      h.holds.of_same rfl rfl, h.files⟩
  obtain ⟨gist', hturns, halone⟩ := h.toAlone.perform hcues
  refine ⟨gist', ?_⟩
  cases hconcerns : cue.concerns 0 with
  | false =>
    have hm : ({ s with agenda } : Session ν).Moves (({ s with agenda } : Session ν).perform cue)
        (s.reading cue) :=
      moves_perform hhere.sole hhere.own hhere.holds.captures hconcerns
    cases hturns with
    | aside concerns same => exact hhere.aside halone same hm
    | comes concerns unresolved comes => exact absurd (concerns.symm.trans hconcerns) (by decide)
    | halts concerns unresolved ended => exact absurd (concerns.symm.trans hconcerns) (by decide)
  | true =>
    have hreading : s.reading cue = none := by
      rcases (h.unresolved hcues hconcerns).2 with rfl | ⟨fault, rfl⟩ <;> rfl
    rw [hreading, Option.toList_none, List.append_nil]
    cases hturns with
    | aside concerns same => exact absurd (concerns.symm.trans hconcerns) (by decide)
    | comes concerns unresolved comes =>
      exact hhere.comes heffect hsettled hshort unresolved.finals comes halone
    | @halts fault concerns unresolved ended =>
      rw [ended] at halone ⊢
      exact hhere.endRun halone

/-! ### Every session that the run can come to -/

/-- a session that is come to from a start, with the states that were read on the way, each with its
bulb: cues are performed in any order, and meanwhile any client finds bulbs, the network comes to any
state, and the database has any outage -/
inductive Reads (start : Session ν) : List (Handle × BulbState) → Session ν → Prop
  | start : Reads start [] start
  | next {log : List (Handle × BulbState)} {s : Session ν} {cue : Cue} {agenda : Agenda Cue}
    (reads : Reads start log s) (cues : s.agenda.cues.Perm (cue :: agenda.cues)) :
    Reads start (log ++ (s.reading cue).toList) (({ s with agenda } : Session ν).perform cue)
  | hear {log : List (Handle × BulbState)} {s : Session ν} (client : Nat) (handle : Handle)
    (reads : Reads start log s) : Reads start log (s.hear client handle)
  | network {log : List (Handle × BulbState)} {s : Session ν} (network : ν)
    (reads : Reads start log s) : Reads start log { s with network }
  | outage {log : List (Handle × BulbState)} {s : Session ν} (outage : Option Outage)
    (reads : Reads start log s) : Reads start log { s with store := { s.store with outage } }

/-- so it is once the run has started -/
lemma saving_start (network : ν) (settings : Settings) (client : Nat) (audience : Audience)
    (hasStore : Bool) (store : Store) (heffect : action.effect = .save given)
    (hsettled : store.IsSettled) :
    let run := Run.ofAction action settings client audience hasStore
    ∃ gist, ((alone network run store).start 0 run).Saving action given store gist [] := by
  intro run
  obtain ⟨gist, hbegins, halone⟩ :=
    alone_start network action settings client audience hasStore store
  refine ⟨gist, ?_⟩
  have hfirst : (alone network run store).Holds [] :=
    ⟨fun errand hmem => (by cases hmem), rfl, fun entry hmem => (by cases hmem), List.nodup_nil⟩
  have hplan : run.plan.action.effect = .save given := heffect
  cases hbegins with
  | @fails u fault leads ended =>
    have hstock := (stock_endRun (r := 0) u 0 (.error fault)).trans leads.stock
    have hstore := congrArg Stock.store hstock
    rw [ended] at halone ⊢
    refine ⟨halone, rfl, ?_, .inl (congrArg Store.tables hstore)⟩
    exact (hfirst.leads hplan leads).of_same (errands_endRun u 0 _)
      (congrArg Stock.kept (stock_endRun u 0 _))
  | @seeks u saved gist leads lone comes =>
    have hstock : (u.modifyRun 0 fun run => { run with saved }).stock 0 = u.stock 0 :=
      stock_modifyRun u 0 fun _ => rfl
    have hseeks : (u.modifyRun 0 fun run => { run with saved }).Holds [] :=
      (hfirst.leads hplan leads).of_same rfl (congrArg Stock.kept hstock)
    have hstore : u.store = store := congrArg Stock.store leads.stock
    have hready : ({ run.plan with saved } : Plan).action.effect = .save given := heffect
    refine ⟨halone, congrArg Plan.action comes.plan_eq, hseeks.comes hready comes, .inl ?_⟩
    rcases comes.filed lone rfl hseeks.kept with ⟨-, hsame⟩ | ⟨-, seconds, hfiled⟩
    · rw [hsame]
      exact congrArg Store.tables hstore
    · have hnone : ∀ state ∈ ([] : List BulbState), state.IsShort := fun state hmem => by cases hmem
      have htables := congrArg Store.tables hstore
      rw [hfiled]
      exact ((Plan.filed_cases hready (hsettled.of_tables htables) hnone seconds).resolve_right
        fun hputs => hputs.1 rfl).trans htables

/-- in every session that a run which saves can come to, what was read is kept or put away -/
theorem Reads.saving {network : ν} {settings : Settings} {client : Nat} {audience : Audience}
    {hasStore : Bool} {store : Store} {run : Run}
    (hrun : run = Run.ofAction action settings client audience hasStore)
    (heffect : action.effect = .save given) (hsettled : store.IsSettled)
    (h : Reads ((alone network run store).start 0 run) log s)
    (hshort : ∀ entry ∈ log, entry.2.IsShort) : ∃ gist, s.Saving action given store gist log := by
  induction h with
  | start =>
    subst hrun
    exact saving_start network settings client audience hasStore store heffect hsettled
  | @next log s cue agenda reads cues ih =>
    have hbefore : ∀ entry ∈ log, entry.2.IsShort :=
      fun entry hmem => hshort entry (List.mem_append_left _ hmem)
    obtain ⟨gist, hsaving⟩ := ih hbefore
    exact hsaving.perform heffect hsettled hbefore cues
  | @hear log s client handle reads ih =>
    obtain ⟨gist, hsaving⟩ := ih hshort
    have hsame : (s.hear client handle).gist = s.gist := gist_hear s client handle
    have hstock : (s.hear client handle).stock 0 = s.stock 0 := stock_hear s client handle
    have hstore : (s.hear client handle).store = s.store := congrArg Stock.store hstock
    refine ⟨gist, ⟨hsaving.toLone.of_gist hsame, hsaving.kept.advance (.hear 0 s client handle)⟩,
      hsaving.planned, ?_, hstore ▸ hsaving.files⟩
    exact hsaving.holds.of_same (errands_hear s client handle) (congrArg Stock.kept hstock)
  | @network log s network reads ih =>
    obtain ⟨gist, hsaving⟩ := ih hshort
    exact ⟨gist, ⟨⟨hsaving.runs, hsaving.own⟩, hsaving.kept.same (.network 0 s network)⟩,
      hsaving.planned, hsaving.holds.of_same rfl rfl, hsaving.files⟩
  | @outage log s outage reads ih =>
    obtain ⟨gist, hsaving⟩ := ih hshort
    have hsame : Same 0 s { s with store := { s.store with outage } } :=
      .of_cues rfl rfl rfl (.refl _) fun _ => id
    exact ⟨gist, ⟨⟨hsaving.runs, hsaving.own⟩, hsaving.kept.same hsame⟩,
      hsaving.planned, hsaving.holds.of_same rfl rfl, hsaving.files⟩

end

end Session

/-! ### Trials -/

namespace Trial

open Session

/-- the states that the effects of a trial read in so many steps -/
def readings (trial : Trial) : Nat → List (Handle × BulbState)
  | 0 => []
  | n + 1 => trial.readings n ++
      ((trial.after n).agenda.next?.bind fun next => (trial.after n).reading next.1).toList

lemma reads (trial : Trial) (n : Nat) :
    Reads ((alone trial.bench trial.opening trial.store).start 0 trial.opening) (trial.readings n)
      (trial.after n) := by
  induction n with
  | zero => exact .start
  | succ n ih =>
    rw [after_succ, readings, Session.step]
    cases hnext : (trial.after n).agenda.next? with
    | none =>
      rw [Option.bind_none, Option.toList_none, List.append_nil]
      exact ih
    | some next =>
      obtain ⟨cue, agenda⟩ := next
      exact ih.next (Agenda.cues_next hnext)

/-- two bulbs are saved, one of which does not answer, and the last event does not get through -/
def savingBoth : Trial where
  bench := { bulbs := [slowHall, silentAttic], clients := [{}] }
  store := .connect [{ key := "all", name := "", text := "[1", updated := 0 }]
  action := { command := "save all to movie", effect := .save (some "movie"), targets := .all }
  settings := { queryRetries := 0 }
  client := 0
  audience := .recorder [6]
  hasStore := true

end Trial

end Lamplighter
