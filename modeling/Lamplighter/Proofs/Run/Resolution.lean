import Lamplighter.Proofs.Run.Backed
import Lamplighter.Proofs.Run.Gist

/-!
# Resolutions: a run goes on, breaks off or closes

* `Session.Leads`     a part of a step dispatches effects, if anything, and leaves alone the gists of
                      the runs, the store and what the run has kept;
* `Session.Resolves`  a run has been led so far, and goes on, breaks off or closes;
* `Resolves.handleAll`, `Resolves.search`, `starts`   so it is with each run that looks into its inbox,
                      or starts;
* `errands_abort`, `gist_abort`   a run that breaks off calls its effects off, and has an outcome;
* `close_cases`       a run that closes has an outcome too, and leaves its effects as they were.
-/

set_option linter.unusedSectionVars false

namespace Lamplighter

open Deeds

namespace Session

variable {ν : Type} [Network ν] {s t u : Session ν} {r q : Nat} {plan : Plan} {run : Run}

lemma errands_expect (s : Session ν) (signal : Wait × Signal) :
    (s.expect signal).errands = s.errands := by
  unfold Session.expect
  split <;> rfl

@[simp] lemma errands_sight (s : Session ν) (client : Nat) (sighting : Sighting) :
    (s.sight client sighting).errands = s.errands := by
  obtain ⟨agenda, hsighted⟩ := s.sight_frame client sighting
  rw [hsighted]
  exact errands_hearAll s client sighting.found

structure Leads (r : Nat) (plan : Plan) (s t : Session ν) : Prop where
  runs : t.gist.runs = s.gist.runs
  stock : t.stock r = s.stock r
  effects : ∃ handles : List Handle, t.errands = s.errands ++ handles.map (plan.errand r)

namespace Leads

theorem refl (s : Session ν) : Leads r plan s s :=
  ⟨rfl, rfl, [], (List.append_nil _).symm⟩

theorem trans (h : Leads r plan s t) (h' : Leads r plan t u) : Leads r plan s u := by
  obtain ⟨handles, heffects⟩ := h.effects
  obtain ⟨more, heffects'⟩ := h'.effects
  refine ⟨h'.runs.trans h.runs, h'.stock.trans h.stock, handles ++ more, ?_⟩
  rw [heffects', heffects, List.append_assoc, List.map_append]

/-- nothing is dispatched -/
lemma of_errands (hruns : t.gist.runs = s.gist.runs) (hstock : t.stock r = s.stock r)
    (herrands : t.errands = s.errands) : Leads r plan s t :=
  ⟨hruns, hstock, [], herrands.trans (List.append_nil _).symm⟩

lemma modifyRun (s : Session ν) (q : Nat) {change : Run → Run}
    (hgist : ∀ run, (change run).gist = run.gist) (hkept : ∀ run, (change run).kept = run.kept) :
    Leads r plan s (s.modifyRun q change) :=
  of_errands (congrArg Gist.runs (gist_modifyRun_of_eq s q hgist)) (stock_modifyRun s q hkept) rfl

lemma emit (s : Session ν) (q : Nat) (kind : EventKind) (message : String)
    (device : Option String) (data : Option Json) :
    Leads r plan s (s.emit q kind message device data).1 :=
  of_errands (congrArg Gist.runs (gist_emit s q kind message device data))
    (stock_emit s q kind message device data) (errands_emit s q kind message device data)

lemma soon (s : Session ν) (turns : Nat) (cue : Cue) : Leads r plan s (s.soon turns cue) :=
  of_errands rfl rfl rfl

lemma stopSearch (s : Session ν) (q : Nat) (run : Run) : Leads r plan s (s.stopSearch q run) := by
  have hstopped : Leads r plan s (s.stopping q) := modifyRun s q (fun _ => rfl) fun _ => rfl
  rw [stopSearch_eq]
  exact ⟨hstopped.runs, hstopped.stock, hstopped.effects⟩

lemma sight (s : Session ν) (client : Nat) (sighting : Sighting) :
    Leads r plan s (s.sight client sighting) :=
  of_errands (congrArg Gist.runs (gist_sight s client sighting)) (stock_sight s client sighting)
    (errands_sight s client sighting)

lemma listen (s : Session ν) (client : Nat) (listener : Listener) :
    Leads r plan s (s.listen client listener).1 := by
  unfold Session.listen
  generalize Network.start s.network client = started
  obtain ⟨network, fault | sighting⟩ := started
  · exact of_errands rfl rfl rfl
  · have hlistening : Leads r plan s { s with
        network, listeners := Assoc.put s.listeners client listener } := of_errands rfl rfl rfl
    exact hlistening.trans (sight _ client sighting)

lemma dispatch (s : Session ν) (hplan : run.plan = plan) (handle : Handle) :
    Leads r plan s (s.dispatch r run handle) := by
  subst hplan
  exact ⟨rfl, rfl, [handle], rfl⟩

lemma planned (h : Leads r plan s t) (hplan : s.runs[r]?.map Run.plan = some plan) :
    t.runs[r]?.map Run.plan = some plan := by
  have hgist : (t.runs.map Run.gist)[r]? = (s.runs.map Run.gist)[r]? := congrArg (·[r]?) h.runs
  rw [List.getElem?_map, List.getElem?_map] at hgist
  have hsame := congrArg (Option.map Run.Gist.plan) hgist
  rw [Option.map_map, Option.map_map] at hsame
  exact hsame.trans hplan

end Leads

/-! ### Handling messages -/

inductive Resolves (r : Nat) (plan : Plan) (s t : Session ν) : Prop where
  | goesOn (leads : Leads r plan s t)
  | breaksOff {u : Session ν} {run : Run} {fault : Fault} (leads : Leads r plan s u)
    (broken : t = u.abort r run fault)
  | closes {u : Session ν} {run : Run} (leads : Leads r plan s u) (here : u.runs[r]? = some run)
    (closed : t = u.close r run)

namespace Resolves

lemma after (h : Resolves r plan t u) (hleads : Leads r plan s t) : Resolves r plan s u := by
  cases h with
  | goesOn leads => exact .goesOn (hleads.trans leads)
  | breaksOff leads broken => exact .breaksOff (hleads.trans leads) broken
  | closes leads here closed => exact .closes (hleads.trans leads) here closed

/-- a run that need not look for bulbs any longer waits or closes -/
lemma drain (s : Session ν) (run : Run) : Resolves r plan s (s.drain r run) := by
  have hstopped : Leads r plan s (s.stopSearch r run) := .stopSearch s r run
  cases drain_course s r run with
  | absent ended gone result =>
    rw [result]
    exact .goesOn hstopped
  | closes ended here result => exact .closes hstopped here result
  | harmed raised result | calm busy unharmed ended result =>
    rw [result]
    exact .goesOn (hstopped.trans (.soon _ 1 _))
  | gathers unharmed unended result =>
    rw [result]
    exact .goesOn (hstopped.trans (.modifyRun _ r (fun _ => rfl) fun _ => rfl))

/-- by induction on the messages that are left -/
theorem handleAll (s : Session ν) (hplan : run.plan = plan) (messages : List Message) :
    Resolves r plan s (s.handleAll r run messages) := by
  induction messages generalizing s with
  | nil => exact .goesOn (.modifyRun s r (fun _ => rfl) fun _ => rfl)
  | cons message rest ih =>
    have htaken : ∀ current, Leads r plan s (s.take r current message rest) :=
      fun current => .modifyRun s r (fun _ => rfl) fun _ => rfl
    have hsaid : ∀ current handle, Leads r plan s ((s.take r current message rest).sayMatch r handle).1 :=
      fun current handle => (htaken current).trans (.emit _ r .deviceMatched _ (some handle.name) none)
    cases handleAll_course s r run message rest with
    | absent gone result =>
      rw [result]
      exact .goesOn (.refl s)
    | breaksOff here matched said result => exact .breaksOff (hsaid _ _) result
    | @acts current handle here matched said result =>
      rw [result]
      exact (ih _).after ((hsaid current handle).trans (.dispatch _ hplan handle))
    | goesOn here matched looks result =>
      rw [result]
      exact (ih _).after (htaken _)
    | drains here matched looked result =>
      rw [result]
      exact (drain _ run).after (htaken _)

/-- a run listens for bulbs, and looks into its inbox for those that were found at once -/
theorem search (s : Session ν) (run : Run) (hplan : s.runs[r]?.map Run.plan = some plan) :
    Resolves r plan s (s.search r run) := by
  have hsought : Leads r plan s (s.seeking r) := .modifyRun s r (fun _ => rfl) fun _ => rfl
  have hlistened := hsought.trans (.listen _ run.client (.run r))
  obtain ⟨run', hget', hplan'⟩ := Option.map_eq_some_iff.mp (hlistened.planned hplan)
  cases search_course s r run with
  | breaksOff listened result => exact .breaksOff hlistened result
  | absent listened gone result =>
    rw [hget'] at gone
    cases gone
  | looks listened here result =>
    obtain rfl := Option.some.inj (hget'.symm.trans here)
    rw [result]
    exact (handleAll _ hplan' _).after (hlistened.trans (.soon _ 0 _))

end Resolves

/-! ### The start -/

lemma Leads.prepare (s : Session ν) (q : Nat) (run : Run) :
    Leads r plan s (s.prepare q run).1 := by
  rcases prepare_cases s q run with heq | heq
  · rw [heq]
    exact .refl s
  · rw [heq]
    exact .emit s q .deviceReport _ none none

inductive Starts (r : Nat) (run : Run) (s t : Session ν) : Prop where
  | fails {u : Session ν} {fault : Fault} (leads : Leads r run.plan s u)
    (failed : t = u.endRun r (.error fault))
  | seeks {u : Session ν} {saved : Option Saved} (leads : Leads r run.plan s u)
    (resolves : Resolves r { run.plan with saved } (u.modifyRun r fun run => { run with saved }) t)

/-- a run that starts has a fault before it looks for bulbs, or is led so far as to look for them -/
theorem starts (s : Session ν) (hget : s.runs[r]? = some run) : Starts r run s (s.start r run) := by
  have hstarted : Leads r run.plan s (s.modifyRun r fun run => { run with
      started := s.agenda.now }) := .modifyRun s r (fun _ => rfl) fun _ => rfl
  have hsaid : Leads r run.plan s (s.sayStart r run).1 := hstarted.trans (.emit _ r .runStarted _ none _)
  have hready : Leads r run.plan s (s.readied r run) := hsaid.trans (.prepare _ r run)
  cases start_course s r run with
  | mute said result => exact .fails hsaid result
  | unready said prepared result => exact .fails hready result
  | @seeks saved said prepared result =>
    rw [result]
    have hplan := hready.planned (by rw [hget]; rfl)
    have hsaved : ((s.readied r run).modifyRun r fun run => { run with saved }).runs[r]?.map Run.plan
        = some { run.plan with saved } := by
      rw [runs_modifyRun_self, Option.map_map]
      exact (Option.map_map (fun plan : Plan => { plan with saved }) Run.plan _).symm.trans
        (congrArg _ hplan)
    exact .seeks hready (.search _ _ hsaved)

end Session

/-! ### Breaking off -/

namespace Errand

variable {errand : Errand}

/-- the errand once it has been called off -/
def calledOff (errand : Errand) : Errand :=
  match errand.stage with
  | .over _ | .answered _ _ (some _) => errand
  | _ => { errand with stage := .over (.ok .nothing) }

/-- the request for the state was answered, and the errand does not know yet -/
def isAnswered (errand : Errand) : Bool :=
  match errand.stage with
  | .answered _ _ (some _) => true
  | _ => false

lemma calledOff_cases (errand : Errand) : errand.calledOff = errand ∨
    errand.calledOff = { errand with stage := .over (.ok .nothing) } := by
  unfold calledOff
  split
  · exact .inl rfl
  · exact .inl rfl
  · exact .inr rfl

lemma isOver_or_isAnswered_calledOff (errand : Errand) :
    errand.calledOff.isOver = true ∨ errand.calledOff.isAnswered = true := by
  unfold calledOff
  split
  · rename_i outcome hstage
    exact .inl (by simp [isOver, outcome?, hstage])
  · rename_i next retries result hstage
    exact .inr (by simp [isAnswered, hstage])
  · exact .inl rfl

@[simp] lemma calledOff_calledOff (errand : Errand) :
    errand.calledOff.calledOff = errand.calledOff := by
  rcases calledOff_cases errand with h | h
  · rw [h, h]
  · rw [h]
    rfl

@[simp] lemma run_calledOff (errand : Errand) : errand.calledOff.run = errand.run := by
  rcases calledOff_cases errand with h | h <;> rw [h]

@[simp] lemma isOf_calledOff (errand : Errand) (q : Nat) :
    errand.calledOff.isOf q = errand.isOf q := by
  rcases calledOff_cases errand with h | h <;> rw [h]
  rfl

/-- called off if it is one of the effects that a run counts among its own -/
def calledOffBy (errand : Errand) (q : Nat) : Errand :=
  if errand.isOf q then errand.calledOff else errand

lemma calledOffBy_calledOffBy (errand : Errand) (q : Nat) :
    (errand.calledOffBy q).calledOffBy q = errand.calledOffBy q := by
  unfold calledOffBy
  split <;> simp_all

end Errand

namespace Session

variable {ν : Type} [Network ν] {s t : Session ν} {r q e : Nat} {run : Run} {errand : Errand}

lemma modify_congr {α : Type} {list : List α} {i : Nat} {a : α} {f g : α → α}
    (h : list[i]? = some a) (hfg : f a = g a) : list.modify i f = list.modify i g := by
  apply List.ext_getElem?
  intro j
  rw [List.getElem?_modify, List.getElem?_modify]
  split
  · rename_i hij
    rw [← hij, h]
    exact congrArg some hfg
  · rfl

lemma errands_callOff (he : s.errands[e]? = some errand) :
    (s.callOff e errand).errands = s.errands.modify e Errand.calledOff := by
  have hcases : s.callOff e errand = s ∧ errand.calledOff = errand ∨
      s.callOff e errand = (s.dropAwaited e).setStage e (.over (.ok .nothing)) ∧
        errand.calledOff = { errand with stage := .over (.ok .nothing) } := by
    unfold Session.callOff Errand.calledOff
    split
    · exact .inl ⟨rfl, by simp [*]⟩
    · exact .inl ⟨rfl, by simp [*]⟩
    · exact .inr ⟨rfl, by simp⟩
  rcases hcases with ⟨hsame, hstays⟩ | ⟨hcalled, hover⟩
  · rw [hsame, modify_congr (g := id) he hstays, List.modify_id]
  · rw [hcalled, modify_congr (g := fun errand => { errand with stage := .over (.ok .nothing) })
      he hover]
    rfl

/-- the errands at some places are changed, each once or more: by induction on the places that are left -/
lemma errands_foldl {step : Session ν → Nat → Session ν} (change : Errand → Errand)
    (hchange : ∀ errand, change (change errand) = change errand)
    (hstep : ∀ s e j, (step s e).errands[j]?
      = s.errands[j]?.map fun errand => if j = e then change errand else errand)
    (places : List Nat) (s : Session ν) (j : Nat) : (places.foldl step s).errands[j]?
      = s.errands[j]?.map fun errand => if j ∈ places then change errand else errand := by
  induction places generalizing s with
  | nil => simp
  | cons e places ih =>
    rw [List.foldl_cons, ih, hstep, Option.map_map]
    congr 1
    funext errand
    by_cases hj : j = e <;> by_cases hplace : j ∈ places <;> simp [hj, hplace, hchange]

/-- every effect that a run counts among its own is called off -/
theorem errands_callOffAll (s : Session ν) (q : Nat) :
    (s.callOffAll q).errands = s.errands.map fun errand => errand.calledOffBy q := by
  apply List.ext_getElem?
  intro j
  rw [List.getElem?_map]
  unfold Session.callOffAll
  rw [errands_foldl (fun errand => errand.calledOffBy q)
    fun errand => errand.calledOffBy_calledOffBy q]
  · cases he : s.errands[j]? with
    | none => rfl
    | some errand =>
      have hplace : j ∈ List.range s.errands.length :=
        List.mem_range.mpr (List.getElem?_eq_some_iff.mp he).1
      rw [Option.map_some, Option.map_some, if_pos hplace]
  · intro s e j
    by_cases hj : j = e
    · subst hj
      cases he : s.errands[j]? with
      | none =>
        dsimp only
        rw [he]
        rfl
      | some errand =>
        dsimp only
        split
        · rename_i hof
          rw [errands_callOff he, List.getElem?_modify]
          simp [he, Errand.calledOffBy, hof]
        · rename_i hof
          simp [he, Errand.calledOffBy, hof]
    · split
      · simp [hj]
      · rename_i errand he
        split
        · rw [errands_callOff he, List.getElem?_modify]
          simp [Ne.symm hj]
        · simp

/-- what holds of a session and of nothing in it but errands and cues -/
lemma callOffAll_congr {α : Type} (read : Session ν → α)
    (h : ∀ (s : Session ν) e stage, read ((s.dropAwaited e).setStage e stage) = read s)
    (s : Session ν) (q : Nat) : read (s.callOffAll q) = read s := by
  refine callOffAll_induction (p := fun t => read t = read s) rfl ?_
  intro t e errand ht _ _
  rcases callOff_cases t e errand with hsame | ⟨-, hcalled⟩
  · rw [hsame]
    exact ht
  · rw [hcalled, h]
    exact ht

lemma errands_endRun (s : Session ν) (q : Nat) (outcome : Except Fault Summary) :
    (s.endRun q outcome).errands = s.errands := by
  obtain ⟨agenda, turn, hended⟩ := s.endRun_frame q outcome
  rw [hended]
  rfl

/-- a run that breaks off says so, and has the fault for its outcome -/
lemma gist_abort (s : Session ν) (r : Nat) (run : Run) (fault : Fault) :
    (s.abort r run fault).gist = { s.gist with runs := s.gist.runs.modify r fun gist =>
      { gist with aborts := gist.aborts + 1, outcome := some (.error fault) } } := by
  have hnoted : (s.note r .aborted).gist = { s.gist with runs := s.gist.runs.modify r fun gist =>
      { gist with aborts := gist.aborts + 1 } } := gist_modifyRun s r _ fun _ => rfl
  have hstopped : ∀ s : Session ν, (s.stopSearch r run).gist = s.gist := by
    intro s
    rw [stopSearch_eq]
    exact gist_modifyRun_of_eq s r fun _ => rfl
  have hcalled : ∀ s : Session ν, (s.callOffAll r).gist = s.gist :=
    fun s => callOffAll_congr Session.gist (fun s e stage => gist_setStage _ e stage) s r
  unfold Session.abort
  rw [gist_endRun, hcalled, hstopped, hnoted, List.modify_modify_eq]
  rfl

lemma stock_abort (s : Session ν) (q : Nat) (run : Run) (fault : Fault) :
    (s.abort q run fault).stock r = s.stock r := by
  have hcalled : ∀ s : Session ν, (s.callOffAll q).stock r = s.stock r :=
    fun s => callOffAll_congr (fun s => s.stock r) (fun _ _ _ => rfl) s q
  unfold Session.abort
  rw [stock_endRun, hcalled, stock_stopSearch, stock_note]

lemma errands_abort (s : Session ν) (q : Nat) (run : Run) (fault : Fault) :
    (s.abort q run fault).errands = s.errands.map fun errand => errand.calledOffBy q := by
  unfold Session.abort
  rw [errands_endRun, errands_callOffAll]
  rfl

/-! ### Closing -/

lemma gist_finalize (s : Session ν) (q : Nat) (run : Run) :
    (s.finalize q run).1.gist.runs = s.gist.runs := by
  obtain ⟨store, hfiled | ⟨message, htold⟩⟩ := s.finalize_frame q run
  · rw [hfiled]
    rfl
  · rw [htold, gist_emit]
    rfl

lemma errands_finalize (s : Session ν) (q : Nat) (run : Run) :
    (s.finalize q run).1.errands = s.errands := by
  obtain ⟨store, hfiled | ⟨message, htold⟩⟩ := s.finalize_frame q run
  · rw [hfiled]
  · rw [htold, errands_emit]

lemma isSome_runs (h : t.gist.runs = s.gist.runs) :
    (t.runs[r]?).isSome = (s.runs[r]?).isSome := by
  have hruns : (t.runs.map Run.gist)[r]? = (s.runs.map Run.gist)[r]? := congrArg (·[r]?) h
  rw [List.getElem?_map, List.getElem?_map] at hruns
  have hhere := congrArg Option.isSome hruns
  rwa [Option.isSome_map, Option.isSome_map] at hhere

/-- a run that sums up has an outcome -/
lemma sumUp_cases (s : Session ν) (text : String) (hget : (s.runs[r]?).isSome = true) :
    ∃ outcome, (s.sumUp r text).gist = { s.gist with
        runs := s.gist.runs.modify r fun gist => { gist with outcome := some outcome } } ∧
      (s.sumUp r text).errands = s.errands := by
  have hemit := gist_emit s r .runFinished text none none
  have herrands := errands_emit s r .runFinished text none none
  have hhere := (isSome_runs (congrArg Gist.runs hemit)).trans hget
  have hended : ∀ outcome, ((s.emit r .runFinished text).1.endRun r outcome).gist = { s.gist with
      runs := s.gist.runs.modify r fun gist => { gist with outcome := some outcome } } ∧
      ((s.emit r .runFinished text).1.endRun r outcome).errands = s.errands := by
    intro outcome
    rw [← hemit]
    exact ⟨gist_endRun _ r outcome, (errands_endRun _ r outcome).trans herrands⟩
  cases sumUp_course s r text with
  | absent said gone result =>
    rw [gone] at hhere
    cases hhere
  | mute said result | ends said here result =>
    rw [result]
    exact ⟨_, hended _⟩

/-- a run that closes says so and has an outcome, and its effects are left as they were -/
theorem close_cases (s : Session ν) (hget : s.runs[r]? = some run) :
    ∃ outcome, (s.close r run).gist.runs = s.gist.runs.modify r (fun gist =>
        { gist with finals := gist.finals + 1, outcome := some outcome }) ∧
      (s.close r run).errands = s.errands := by
  have hcleared : (s.clearAway r).gist.runs
      = s.gist.runs.modify r fun gist => { gist with finals := gist.finals + 1 } := by
    refine congrArg Gist.runs (gist_modifyRun s r _ fun run => ?_)
    simp [Run.gist, Run.plan, aborts, finals]
  have hhere : ((s.clearAway r).runs[r]?).isSome = true := by
    rw [clearAway, runs_modifyRun_self, hget]
    rfl
  have hwhole : ∀ (list : List Run.Gist) (outcome : Except Fault Summary),
      (list.modify r fun gist => { gist with finals := gist.finals + 1 }).modify r
          (fun gist => { gist with outcome := some outcome })
        = list.modify r fun gist =>
          { gist with finals := gist.finals + 1, outcome := some outcome } :=
    fun list outcome => List.modify_modify_eq ..
  have herrands : ((s.clearAway r).finalize r run).1.errands = s.errands := errands_finalize _ r run
  have hruns := (gist_finalize (s.clearAway r) r run).trans hcleared
  have hthere := (isSome_runs (gist_finalize (s.clearAway r) r run)).trans hhere
  cases close_course s r run with
  | @fails fault finalized result =>
    rw [result]
    refine ⟨.error fault, ?_, (errands_endRun _ r _).trans herrands⟩
    rw [gist_endRun, hruns]
    exact hwhole _ _
  | sums finalized result =>
    rw [result]
    have hfinished : ∀ t : Session ν,
        (t.modifyRun r fun run => { run with phase := .finished }).gist = t.gist :=
      fun t => gist_modifyRun_of_eq t r fun _ => rfl
    obtain ⟨outcome, hsummed, hkept⟩ := sumUp_cases _
      ("Finishing action " ++ run.action.verb.word)
      ((isSome_runs (congrArg Gist.runs (hfinished _))).trans hthere)
    refine ⟨outcome, ?_, hkept.trans herrands⟩
    rw [hsummed, hfinished, hruns]
    exact hwhole _ outcome

end Session

end Lamplighter
