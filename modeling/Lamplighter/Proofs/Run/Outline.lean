import Lamplighter.Proofs.Run.Prompt
import Lamplighter.Proofs.Timeline.Renaming

/-!
# Outlines: a session but for what only the lights and the audience know

The states of the bulbs, what they were sent, and what the audience was told are left out; so is how
often a client has listened before.  What a run does of its own comes to the same on the outline.

* `Session.outline`     the outline of a session;
* `outline_post`, `outline_conclude`, ...   parts of a step on the outline;
* `Session.IsSmooth`    no event of the run fails, and it does not save anything;
* `outline_close`, `outline_handleAll`   such a run goes on as the one on the outline.
-/

set_option linter.unusedSectionVars false

namespace Lamplighter

open Deeds

/-! ### Sessions -/

namespace Stage

/-- a stage but for the state that was told -/
def outline : Stage → Stage
  | .answered next retries result => .answered next retries (result.map (Except.map Reply.outline))
  | stage => stage

@[simp] lemma outline_outline (stage : Stage) : stage.outline.outline = stage.outline := by
  have hreply : ∀ reply : Reply, reply.outline.outline = reply.outline := fun reply => by
    cases reply <;> rfl
  rcases stage with _ | _ | ⟨next, retries, _ | fault | reply⟩ | _ | _ <;> try rfl
  exact congrArg (fun reply => Stage.answered next retries (some (.ok reply))) (hreply reply)

end Stage

namespace Errand

variable {errand : Errand}

/-- an errand but for the state that it was told -/
def outline (errand : Errand) : Errand :=
  { errand with stage := errand.stage.outline }

@[simp] lemma raised?_outline : errand.outline.raised? = errand.raised? := by
  unfold raised? outline
  cases errand.stage <;> rfl

@[simp] lemma isOver_outline : errand.outline.isOver = errand.isOver := by
  unfold isOver outcome? outline
  cases errand.stage <;> rfl

@[simp] lemma isOf_outline (r : Nat) : errand.outline.isOf r = errand.isOf r := rfl

lemma outline_comp_outline : outline ∘ outline = outline := by
  funext errand
  exact congrArg (fun stage => { errand with stage }) (Stage.outline_outline errand.stage)

end Errand

/-- a run but for its audience -/
def Run.outline (run : Run) : Run :=
  { run with audience := .nobody, emitted := 0, events := [] }

lemma Run.outline_comp_outline : Run.outline ∘ Run.outline = Run.outline := rfl

/-- a cue that says of an announcement only whether it will be heard -/
def Cue.outline (bench : Bench) : Cue → Cue
  | .signal (.bulb client session handle) =>
    .signal (.bulb client (if bench.hears client session then 0 else 1) handle)
  | cue => cue

lemma Cue.outline_congr {bench other : Bench} (h : other.hears = bench.hears) :
    Cue.outline other = Cue.outline bench := by
  funext cue
  unfold Cue.outline
  rw [h]

lemma Cue.outline_comp_outline (bench : Bench) :
    Cue.outline bench.outline ∘ Cue.outline bench = Cue.outline bench := by
  funext cue
  rcases cue with (⟨client, session, handle⟩ | _) | _ | _ | _ | _ | _ | _ | _ | _ | _ | _ | _ | _ | _
  · simp only [Function.comp_apply, Cue.outline, Bench.hears_outline]
  all_goals rfl

namespace Session

variable {s t : Session Bench} {r e : Nat} {run : Run} {errand : Errand}

/-- the session but for what only the lights and the audience know -/
def outline (s : Session Bench) : Session Bench where
  agenda := s.agenda.map (Cue.outline s.network)
  network := s.network.outline
  runs := s.runs.map Run.outline
  errands := s.errands.map Errand.outline
  listeners := s.listeners
  lists := s.lists
  line := s.line
  turn := s.turn
  store := s.store
  isRung := s.isRung

lemma get_outline (s : Session Bench) (r : Nat) :
    s.outline.runs[r]? = (s.runs[r]?).map Run.outline :=
  List.getElem?_map ..

lemma errand_outline (s : Session Bench) (e : Nat) :
    s.outline.errands[e]? = (s.errands[e]?).map Errand.outline :=
  List.getElem?_map ..

/-! ### Parts of a session -/

lemma outline_modifyRun (s : Session Bench) (r : Nat) (change : Run → Run)
    (h : ∀ run, (change run).outline = change run.outline) :
    (s.modifyRun r change).outline = s.outline.modifyRun r change :=
  congrArg (fun runs => { s.outline with runs }) (map_modify_of_comp change h s.runs r)

/-- what only the audience knows of a run is changed -/
lemma outline_modifyRun_of_eq (s : Session Bench) (r : Nat) {change : Run → Run}
    (h : ∀ run, (change run).outline = run.outline) : (s.modifyRun r change).outline = s.outline := by
  refine congrArg (fun runs => { s.outline with runs }) ?_
  show (s.runs.modify r change).map Run.outline = _
  rw [map_modify_of_comp id h, List.modify_id]

lemma outline_modifyErrand (s : Session Bench) (e : Nat) {change : Errand → Errand}
    (change' : Errand → Errand) (h : ∀ errand, (change errand).outline = change' errand.outline) :
    (s.modifyErrand e change).outline = s.outline.modifyErrand e change' :=
  congrArg (fun errands => { s.outline with errands }) (map_modify_of_comp change' h s.errands e)

lemma outline_setStage (s : Session Bench) (e : Nat) (stage : Stage) :
    (s.setStage e stage).outline = s.outline.setStage e stage.outline :=
  outline_modifyErrand s e _ fun _ => rfl

lemma outline_soon (s : Session Bench) (turns : Nat) (cue : Cue) :
    (s.soon turns cue).outline = s.outline.soon turns (cue.outline s.network) :=
  congrArg (fun agenda => { s.outline with agenda }) (Agenda.map_soon ..)

lemma outline_after (s : Session Bench) (duration : Duration) (turns : Nat) (cue : Cue) :
    ({ s with agenda := s.agenda.after duration turns cue } : Session Bench).outline = { s.outline with
      agenda := s.outline.agenda.after duration turns (cue.outline s.network) } :=
  congrArg (fun agenda => { s.outline with agenda }) (Agenda.map_after ..)

lemma outline_pause (s : Session Bench) (duration : Duration) (cue : Cue) :
    ({ s with agenda := s.agenda.pause duration cue } : Session Bench).outline = { s.outline with
      agenda := s.outline.agenda.pause duration (cue.outline s.network) } :=
  congrArg (fun agenda => { s.outline with agenda }) (Agenda.map_pause ..)

lemma outline_drop (s : Session Bench) {unwanted : Cue → Bool}
    (h : ∀ cue, unwanted (cue.outline s.network) = unwanted cue) :
    ({ s with agenda := s.agenda.drop unwanted } : Session Bench).outline
      = { s.outline with agenda := s.outline.agenda.drop unwanted } :=
  congrArg (fun agenda => { s.outline with agenda }) (Agenda.map_drop _ _ h)

lemma outline_dropAwaited (s : Session Bench) (e : Nat) :
    (s.dropAwaited e).outline = s.outline.dropAwaited e := by
  refine outline_drop s fun cue => ?_
  unfold Cue.outline
  split <;> rfl

/-- bulbs are changed that stay what they are, and clients that listen as before -/
lemma outline_network (s : Session Bench) {network : Bench} (h : s.network.Retains network) :
    ({ s with network } : Session Bench).outline = s.outline := by
  unfold outline
  rw [h.outline, Cue.outline_congr h.hears]

lemma outline_outline (s : Session Bench) : s.outline.outline = s.outline := by
  simp only [outline, Agenda.map_map, Cue.outline_comp_outline, Bench.outline_outline, List.map_map,
    Run.outline_comp_outline, Errand.outline_comp_outline]

/-! ### Events and messages -/

/-- what is told to an audience that is left out -/
lemma outline_emit (s : Session Bench) (r : Nat) (kind : EventKind) (message : String)
    (device : Option String) (data : Option Json) :
    (s.emit r kind message device data).1.outline = s.outline := by
  obtain ⟨_, _, _, -, htold⟩ := s.emit_frame r kind message device data
  rw [htold]
  exact outline_modifyRun_of_eq s r fun _ => rfl

lemma emit_outline (s : Session Bench) (r : Nat) (kind : EventKind) (message : String)
    (device : Option String) (data : Option Json) :
    s.outline.emit r kind message device data = (s.outline, none) := by
  unfold Session.emit
  rw [get_outline]
  cases s.runs[r]? <;> rfl

lemma outline_note (s : Session Bench) (r : Nat) (deed : Deed) :
    (s.note r deed).outline = s.outline.note r deed :=
  outline_modifyRun s r _ fun _ => rfl

lemma outline_post (s : Session Bench) (r : Nat) (message : Message) :
    (s.post r message).outline = s.outline.post r message := by
  have hposted := outline_modifyRun s r (fun run => { run with
    inbox := run.inbox ++ [message], isWaiting := false, deeds := .queued message :: run.deeds })
    fun _ => rfl
  unfold Session.post
  rw [get_outline]
  cases s.runs[r]? with
  | none => rfl
  | some run =>
    dsimp only [Option.map_some]
    have hwaiting : run.outline.isWaiting = run.isWaiting := rfl
    rw [hwaiting]
    split
    · rw [outline_soon, hposted]
      rfl
    · exact hposted

lemma outline_hear (s : Session Bench) (client : Nat) (handle : Handle) :
    (s.hear client handle).outline = s.outline.hear client handle := by
  have hlisteners : s.outline.listeners = s.listeners := rfl
  unfold Session.hear
  rw [hlisteners]
  cases Assoc.get? s.listeners client with
  | none => rfl
  | some listener =>
    cases listener with
    | list i => rfl
    | run q =>
      dsimp only
      rw [get_outline]
      cases s.runs[q]? with
      | none => rfl
      | some run =>
        have hnoted := outline_modifyRun s q (fun run' => { run' with
          control := (run.control.announce handle).1, deeds := .heard handle :: run'.deeds })
          fun _ => rfl
        dsimp only [Option.map_some]
        have hcontrol : run.outline.control = run.control := rfl
        rw [hcontrol]
        cases (run.control.announce handle).2 with
        | none => exact hnoted
        | some message =>
          dsimp only
          rw [outline_post, hnoted]

lemma outline_hearAll (s : Session Bench) (client : Nat) (handles : List Handle) :
    (s.hearAll client handles).outline = s.outline.hearAll client handles := by
  unfold Session.hearAll
  induction handles generalizing s with
  | nil => rfl
  | cons handle rest ih =>
    rw [List.foldl_cons, List.foldl_cons, ih, outline_hear]

/-! ### The end of an errand -/

lemma outline_checkGathered (s : Session Bench) (r : Nat) (fault : Option Fault) :
    (s.checkGathered r fault).outline = s.outline.checkGathered r fault := by
  have hall : (s.outline.errands.all fun errand => !errand.isOf r || errand.isOver)
      = s.errands.all fun errand => !errand.isOf r || errand.isOver := by
    show (s.errands.map Errand.outline).all _ = _
    rw [List.all_map]
    simp only [Function.comp_def, Errand.isOf_outline, Errand.isOver_outline]
  unfold Session.checkGathered
  rw [get_outline, hall]
  cases s.runs[r]? with
  | none => rfl
  | some run =>
    dsimp only [Option.map_some]
    have hgathering : run.outline.isGathering = run.isGathering := rfl
    rw [hgathering]
    split
    · have hfree := outline_modifyRun s r (fun run => { run with isGathering := false }) fun _ => rfl
      rw [outline_soon, hfree]
      rfl
    · rfl

lemma outline_conclude (s : Session Bench) (e : Nat) (errand : Errand) (isOk : Bool)
    (outcome : Except Fault Reply) :
    (s.conclude e errand isOk outcome).outline = s.outline.conclude e errand isOk outcome := by
  have hended : ((s.dropAwaited e).setStage e (.over outcome)).outline
      = (s.outline.dropAwaited e).setStage e (.over outcome) := by
    rw [outline_setStage, outline_dropAwaited]
    rfl
  unfold Session.conclude
  dsimp only
  split
  · exact hended
  · rw [outline_checkGathered, outline_soon, outline_post, hended]
    rfl

lemma outline_fail (s : Session Bench) (e : Nat) {errand : Errand} (hrun : errand.run = some r)
    (hreliable : s.Reliable r) (fault : Fault) :
    (s.fail e errand fault).outline = s.outline.fail e errand fault := by
  have hnoted : (s.note r (.raised errand.handle fault)).Reliable r :=
    hreliable.of_plans (plans_modifyRun s r fun _ => rfl)
  unfold Session.fail
  simp only [hrun]
  rw [emit_of_reliable hnoted, ← outline_note, emit_outline]
  dsimp only
  rw [outline_conclude, outline_emit]

/-! ### The end of a run -/

lemma outline_unlisten (s : Session Bench) (client : Nat) :
    (s.unlisten client).outline = (s.outline.unlisten client).outline := by
  have hcues : Cue.outline (s.network.outline.stop client) ∘ Cue.outline s.network
      = Cue.outline (s.network.stop client) := by
    funext cue
    rcases cue with (⟨other, session, handle⟩ | _) | _ | _ | _ | _ | _ | _ | _ | _ | _ | _ | _ | _ | _
    · simp only [Function.comp_apply, Cue.outline, Bench.hears_stop, Bench.hears_outline]
    all_goals rfl
  have hstop : ∀ bench : Bench, Network.stop bench client = bench.stop client := fun _ => rfl
  simp only [outline, unlisten, hstop, Agenda.map_map, hcues, Bench.outline_stop, Bench.outline_outline,
    List.map_map, Run.outline_comp_outline, Errand.outline_comp_outline]

lemma outline_stopSearch (s : Session Bench) (r : Nat) (run : Run) :
    (s.stopSearch r run).outline = (s.outline.stopSearch r run.outline).outline := by
  have hstopped : (s.stopping r).outline = s.outline.stopping r :=
    outline_modifyRun s r _ fun _ => rfl
  rw [stopSearch_eq, stopSearch_eq]
  dsimp only
  rw [outline_unlisten, outline_drop, hstopped]
  · rfl
  · intro cue
    unfold Cue.outline
    split <;> rfl

lemma outline_endRun (s : Session Bench) (r : Nat) (outcome : Except Fault Summary) :
    (s.endRun r outcome).outline = s.outline.endRun r outcome := by
  have hended := outline_modifyRun s r (fun run => { run with
    outcome := some outcome, isWaiting := false, isGathering := false }) fun _ => rfl
  rw [endRun_eq, endRun_eq, ← hended]
  generalize s.modifyRun r _ = t
  unfold Session.pass
  show (if t.turn = some r then _ else t).outline = if t.turn = some r then _ else t.outline
  split
  · have hline : t.outline.line = t.line := rfl
    rw [hline]
    cases t.line with
    | nil => rfl
    | cons next rest =>
      exact outline_soon { t with turn := none, line := next :: rest } 0 (.takeTurn next)
  · rfl

/-- no event of the run fails, and it does not save anything -/
structure IsSmooth (s : Session Bench) (r : Nat) : Prop where
  reliable : s.Reliable r
  unsaved : ∀ run, s.runs[r]? = some run → ∀ name, run.action.effect ≠ .save name

lemma IsSmooth.of_plans (h : s.IsSmooth r) (hp : t.runs.map Run.plan = s.runs.map Run.plan) :
    t.IsSmooth r := by
  refine ⟨h.reliable.of_plans hp, fun run hrun => ?_⟩
  have hsame := map_plan_of_plans hp r
  rw [hrun] at hsame
  obtain ⟨run', hrun', heq⟩ := Option.map_eq_some_iff.mp hsame.symm
  have haction : run'.action = run.action := congrArg Plan.action heq
  rw [← haction]
  exact h.unsaved run' hrun'

lemma IsSmooth.outline (h : s.IsSmooth r) : s.outline.IsSmooth r := by
  constructor <;> intro run hrun <;> rw [get_outline] at hrun <;>
    obtain ⟨run', hrun', rfl⟩ := Option.map_eq_some_iff.mp hrun
  · rfl
  · exact h.unsaved run' hrun'

lemma IsSmooth.modifyRun (h : s.IsSmooth r) (q : Nat) {change : Run → Run}
    (hsame : ∀ run, (change run).audience = run.audience ∧ (change run).action = run.action) :
    (s.modifyRun q change).IsSmooth r := by
  have hold : ∀ run, (s.modifyRun q change).runs[r]? = some run → ∃ old, s.runs[r]? = some old ∧
      run.audience = old.audience ∧ run.action = old.action := by
    intro run hrun
    by_cases hq : q = r
    · subst hq
      rw [runs_modifyRun_self] at hrun
      obtain ⟨old, hget, rfl⟩ := Option.map_eq_some_iff.mp hrun
      exact ⟨old, hget, hsame old⟩
    · rw [runs_modifyRun_ne hq] at hrun
      exact ⟨run, hrun, rfl, rfl⟩
  constructor <;> intro run hrun <;> obtain ⟨old, hget, haudience, haction⟩ := hold run hrun
  · rw [haudience]
    exact h.reliable old hget
  · rw [haction]
    exact h.unsaved old hget

lemma IsSmooth.emit (h : s.IsSmooth r) (kind : EventKind) (message : String)
    (device : Option String) (data : Option Json) :
    (s.emit r kind message device data).1.IsSmooth r := by
  have hspares : Spares 0 r "" 0 (fun _ => True) s (s.emit r kind message device data).1 :=
    .emit s r kind message device data
  exact h.of_plans hspares.plans

lemma outline_sumUp (hsmooth : s.IsSmooth r) (text : String) :
    (s.sumUp r text).outline = s.outline.sumUp r text := by
  have htold := outline_emit s r .runFinished text none none
  unfold Session.sumUp
  rw [emit_of_reliable hsmooth.reliable, emit_outline, ← htold]
  generalize (s.emit r .runFinished text none none).1 = t
  dsimp only
  rw [get_outline]
  cases t.runs[r]? with
  | none => rfl
  | some run => exact outline_endRun t r _

lemma outline_close (hsmooth : s.IsSmooth r) (hget : s.runs[r]? = some run) :
    (s.close r run).outline = s.outline.close r run.outline := by
  have hfinalize : ∀ t : Session Bench, t.finalize r run = (t, none) := by
    intro t
    unfold Session.finalize
    split
    · rename_i name heffect
      exact absurd heffect (hsmooth.unsaved run hget name)
    · rfl
  have hfinalize' : ∀ t : Session Bench, t.finalize r run.outline = (t, none) := hfinalize
  have hcleared : (s.clearAway r).outline = s.outline.clearAway r :=
    outline_modifyRun s r _ fun _ => rfl
  have hsmooth' : (s.clearAway r).IsSmooth r := hsmooth.modifyRun r fun _ => ⟨rfl, rfl⟩
  rw [close_eq, close_eq, hfinalize, hfinalize', ← hcleared]
  revert hsmooth'
  generalize s.clearAway r = t
  intro hsmooth'
  have hfinished := outline_modifyRun t r (fun run => { run with phase := .finished }) fun _ => rfl
  have hsmooth'' : (t.modifyRun r fun run => { run with phase := .finished }).IsSmooth r :=
    hsmooth'.modifyRun r fun _ => ⟨rfl, rfl⟩
  dsimp only
  rw [outline_sumUp hsmooth'', hfinished]
  rfl

lemma outline_drain (hsmooth : s.IsSmooth r) (run : Run) :
    (s.drain r run).outline = (s.outline.drain r run.outline).outline := by
  have hsame := outline_stopSearch s r run
  have hstopped : ∀ s : Session Bench,
      Admits 0 0 "" 0 (fun _ => True) run.plan s (s.stopSearch r run) :=
    fun s => .stopSearch s r run
  have ht := hsmooth.of_plans (hstopped s).plans
  have hu : (s.outline.stopSearch r run.outline).IsSmooth r :=
    hsmooth.outline.of_plans (hstopped s.outline).plans
  have herrands : (s.outline.stopSearch r run.outline).errands
      = (s.stopSearch r run).errands.map Errand.outline := rfl
  unfold Session.drain
  dsimp only
  rw [herrands]
  revert hsame ht hu
  generalize s.stopSearch r run = t
  generalize s.outline.stopSearch r run.outline = u
  intro hsame ht hu
  have hown : (t.errands.map Errand.outline).filter (fun errand => errand.isOf r)
      = (t.errands.filter fun errand => errand.isOf r).map Errand.outline := by
    rw [List.filter_map]
    rfl
  have hraised : Errand.raised? ∘ Errand.outline = Errand.raised? :=
    funext fun _ => Errand.raised?_outline
  have hover : Errand.isOver ∘ Errand.outline = Errand.isOver :=
    funext fun _ => Errand.isOver_outline
  have hsoon : ∀ fault,
      (t.soon 1 (.drained r fault)).outline = (u.soon 1 (.drained r fault)).outline := by
    intro fault
    rw [outline_soon, outline_soon, hsame]
    rfl
  rw [hown, List.isEmpty_map, List.findSome?_map, List.all_map, hraised, hover]
  split
  · have hruns := congrArg (fun s : Session Bench => s.runs[r]?) hsame
    simp only [get_outline] at hruns
    cases ht' : t.runs[r]? with
    | none =>
      rw [ht', Option.map_none] at hruns
      rw [Option.map_eq_none_iff.mp hruns.symm]
      exact hsame
    | some run =>
      rw [ht', Option.map_some] at hruns
      obtain ⟨run', hu', heq⟩ := Option.map_eq_some_iff.mp hruns.symm
      rw [hu']
      dsimp only
      rw [outline_close ht ht', outline_close hu hu', hsame, heq]
  · split
    · exact hsoon _
    · split
      · exact hsoon none
      · have hgathers := fun s : Session Bench =>
          outline_modifyRun s r (fun run => { run with isGathering := true }) fun _ => rfl
        rw [hgathers, hgathers, hsame]

/-! ### The inbox -/

lemma outline_dispatch (s : Session Bench) (r : Nat) (run : Run) (handle : Handle) :
    (s.dispatch r run handle).outline = s.outline.dispatch r run.outline handle := by
  unfold Session.dispatch
  rw [outline_soon]
  have hlength : s.outline.errands.length = s.errands.length := List.length_map ..
  rw [hlength]
  refine congrArg (fun s : Session Bench => s.soon 0 (.begin _)) ?_
  refine congrArg (fun errands => { s.outline with errands }) ?_
  rw [List.map_append]
  rfl

/-- by induction on the messages that are left -/
theorem outline_handleAll (hsmooth : s.IsSmooth r) (run : Run) (messages : List Message) :
    (s.handleAll r run messages).outline
      = (s.outline.handleAll r run.outline messages).outline := by
  induction messages generalizing s with
  | nil =>
    have hwaits := fun s : Session Bench => outline_modifyRun s r (fun run => { run with
      inbox := [], isWaiting := true }) fun _ => rfl
    show (s.modifyRun r _).outline = (s.outline.modifyRun r _).outline
    rw [hwaits, hwaits, outline_outline]
  | cons message rest ih =>
    cases hget : s.runs[r]? with
    | none =>
      have hget' : s.outline.runs[r]? = none := by rw [get_outline, hget, Option.map_none]
      unfold Session.handleAll
      rw [hget, hget']
      exact (outline_outline s).symm
    | some current =>
      have hget' : s.outline.runs[r]? = some current.outline := by
        rw [get_outline, hget, Option.map_some]
      have htaken : (s.take r current message rest).outline
          = s.outline.take r current.outline message rest := outline_modifyRun s r _ fun _ => rfl
      have hsmooth' : (s.take r current message rest).IsSmooth r :=
        hsmooth.modifyRun r fun _ => ⟨rfl, rfl⟩
      have hcontrol : current.outline.control = current.control := rfl
      rw [handleAll_cons s r run hget, handleAll_cons s.outline r run.outline hget', ← htaken, hcontrol]
      revert hsmooth'
      generalize s.take r current message rest = t
      intro hsmooth'
      split
      · rename_i handle _
        have htold : (t.sayMatch r handle).1.outline = t.outline := outline_emit ..
        have hsmooth'' : (t.sayMatch r handle).1.IsSmooth r := hsmooth'.emit ..
        have hsaid : t.sayMatch r handle = ((t.sayMatch r handle).1, none) :=
          emit_of_reliable hsmooth'.reliable ..
        have hsaid' : t.outline.sayMatch r handle = (t.outline, none) := emit_outline ..
        rw [hsaid, hsaid', ← htold]
        revert hsmooth''
        generalize (t.sayMatch r handle).1 = u
        intro hsmooth''
        have hdispatched : (u.dispatch r run handle).IsSmooth r := hsmooth''.of_plans rfl
        dsimp only
        rw [ih hdispatched, outline_dispatch]
      · split
        · exact ih hsmooth'
        · exact outline_drain hsmooth' run

end Session

end Lamplighter
