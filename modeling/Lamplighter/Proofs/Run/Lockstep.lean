import Lamplighter.Proofs.Run.Opening
import Lamplighter.Proofs.Run.Outline
import Lamplighter.Proofs.Run.Waiting

/-!
# Lockstep: sessions of one outline go on alike

* `Play.IsSteady`       a play asks for the state at most once, to begin with, and then sends commands;
* `Session.Supplies`    the bulb of an errand is there, and every bulb is prompt;
* `outline_follow`      then commands come to their end, whatever they are;
* `outline_perform`, `outline_step`   so a cue brings about the same on the outline;
* `outline_start`       and two runs of one outline start alike.
-/

set_option linter.unusedSectionVars false

namespace Lamplighter

/-! ### Plays -/

namespace Play

/-- nothing but commands and reports, and nothing is given back -/
def IsCommand : Play → Prop
  | .done reply => reply = .nothing
  | .ask _ => False
  | .send request next => request ≠ .read ∧ ∀ reply, (next reply).IsCommand
  | .report _ _ next => next.IsCommand
  | .keep _ _ => False

/-- commands, which may depend on the state that the bulb is in to begin with -/
def IsSteady : Play → Prop
  | .ask next => ∀ state, (next state).IsCommand
  | play => play.IsCommand

end Play

namespace Stage

/-- what is left to do are commands, or to ask for the state before -/
def IsSteady : Stage → Prop
  | .fresh play => play.IsSteady
  | .asking next _ | .answered next _ _ => ∀ state, (next state).IsCommand
  | .sending _ => False
  | .over _ => True

end Stage

namespace Query

/-- the state that was told does not matter, but for what is taken -/
lemma judge_outline (handle : Handle) (maxRetries : Int) (retries : Nat)
    (result : Option (Except Fault Reply)) :
    judge handle maxRetries retries (result.map (Except.map Reply.outline))
      = match judge handle maxRetries retries result with
        | .take _ => .take default
        | verdict => verdict := by
  have hunanswered : ∀ name, unanswered name maxRetries retries
      = match unanswered name maxRetries retries with
        | .take _ => .take default
        | verdict => verdict := by
    intro name
    unfold unanswered
    split <;> rfl
  rcases result with _ | fault | _ | ⟨answering, state⟩
  · exact hunanswered _
  · cases fault <;> first | rfl | exact hunanswered _
  · rfl
  · simp only [Option.map_some, Except.map, Reply.outline, judge]
    split <;> rfl

end Query

namespace Session

variable {s t : Session Bench} {r e : Nat} {errand : Errand} {run : Run}

/-! ### Requests -/

lemma outline_settle (s : Session Bench) (errand : Errand) (request : Request) (answer : Answer) :
    (s.settle errand request answer).1.outline = s.outline := by
  rw [Has.settle_eq]
  exact outline_network s (.settle s.network errand.handle request answer)

/-- an errand of a run with a reliable audience; its bulb is there, and every bulb is prompt -/
structure Supplies (s : Session Bench) (r : Nat) (errand : Errand) : Prop where
  run : errand.run = some r
  reliable : s.Reliable r
  prompt : s.network.IsPrompt
  found : (s.network.find? errand.handle.serial).isSome = true

namespace Supplies

lemma outline (h : s.Supplies r errand) : s.outline.Supplies r errand.outline := by
  refine ⟨h.run, ?_, Bench.isPrompt_outline _, ?_⟩
  · intro run hrun
    rw [get_outline] at hrun
    obtain ⟨run', -, rfl⟩ := Option.map_eq_some_iff.mp hrun
    rfl
  · exact (Bench.isSome_find? (Bench.outline_outline s.network) _).trans h.found

lemma network (h : s.Supplies r errand) {network : Bench} (hn : s.network.Retains network) :
    ({ s with network } : Session Bench).Supplies r errand :=
  ⟨h.run, h.reliable, hn.prompt h.prompt, (Bench.isSome_find? hn.outline _).trans h.found⟩

/-- a request is settled well at once -/
lemma settles (h : s.Supplies r errand) (request : Request) :
    ∃ (network : Bench) (state : BulbState), s.network.Retains network ∧
    s.send errand request = ({ s with network := (s.network.send errand.client errand.handle request).1 },
      .atOnce, .ok) ∧
    (s.send errand request).1.settle errand request .ok
      = ({ s with network }, .ok (Bench.replyOf errand.handle state request)) := by
  obtain ⟨bulb, hbulb⟩ := Option.isSome_iff_exists.mp h.found
  have hsent := Bench.Retains.send s.network errand.client errand.handle request
  have hsettled := hsent.trans (.settle _ errand.handle request .ok)
  have hfound : ((s.network.send errand.client errand.handle request).1.find?
      errand.handle.serial).isSome = true := (Bench.isSome_find? hsent.outline _).trans h.found
  obtain ⟨bulb', hbulb'⟩ := Option.isSome_iff_exists.mp hfound
  have hsend : s.send errand request = ({ s with
      network := (s.network.send errand.client errand.handle request).1 }, .atOnce, .ok) :=
    Prod.ext rfl (h.prompt.send hbulb errand.client request)
  refine ⟨_, bulb'.state, hsettled, hsend, ?_⟩
  rw [hsend, Has.settle_eq]
  refine Prod.ext rfl ?_
  dsimp only
  unfold Bench.settle
  rw [hbulb']

end Supplies

/-! ### Going through a play -/

lemma outline_ask (s : Session Bench) (e : Nat) (errand : Errand) (next : BulbState → Play)
    (retries : Nat) : (s.ask e errand next retries).outline = s.outline.ask e errand next retries := by
  unfold Session.ask
  split
  · rw [outline_soon, outline_setStage]
    rfl
  · have hwaits := outline_after (s.setStage e (.asking next retries)) errand.timeout 1 (.expire e)
    rw [outline_setStage] at hwaits
    exact (outline_soon _ 0 (.attempt e)).trans
      (congrArg (fun s : Session Bench => s.soon 0 (.attempt e)) hwaits)

/-- commands come to their end: by induction on what is left of them -/
theorem outline_follow (h : s.Supplies r errand) {play : Play} (hcommand : play.IsCommand) :
    (s.follow e errand play).outline = s.outline.conclude e errand true (.ok .nothing) := by
  induction play generalizing s with
  | done reply =>
    obtain rfl : reply = .nothing := hcommand
    exact outline_conclude s e errand true _
  | ask next => exact hcommand.elim
  | keep state next ih => exact hcommand.elim
  | report message data next ih =>
    have htold := outline_emit s r .deviceReport message (some errand.handle.name) data
    obtain ⟨runs, hub, hsame⟩ := emit_eq s r .deviceReport message (some errand.handle.name) data
    have hspares : Spares 0 r "" 0 (fun _ => True) s
      (s.emit r .deviceReport message (some errand.handle.name) data).1 := .emit s r _ _ _ _
    have hsupplies :
        (s.emit r .deviceReport message (some errand.handle.name) data).1.Supplies r errand := by
      refine ⟨h.run, h.reliable.of_plans hspares.plans, ?_, ?_⟩
      · rw [hsame]
        exact h.prompt
      · rw [hsame]
        exact h.found
    unfold Session.follow
    simp only [h.run]
    rw [emit_of_reliable h.reliable]
    dsimp only
    rw [ih hsupplies hcommand, htold]
  | send request next ih =>
    obtain ⟨network, state, hretains, hsend, hsettle⟩ := h.settles request
    have hreply : Bench.replyOf errand.handle state request = .nothing := by
      cases request with
      | read => exact absurd rfl hcommand.1
      | _ => rfl
    rw [hsend, hreply] at hsettle
    unfold Session.follow
    rw [hsend]
    dsimp only at hsettle ⊢
    rw [hsettle]
    dsimp only
    rw [ih .nothing (h.network hretains) (hcommand.2 _), outline_network s hretains]

/-! ### The steps of an errand -/

/-- commands, after at most one request for the state -/
lemma outline_play (h : s.Supplies r errand) {play : Play} (hsteady : play.IsSteady) :
    (s.follow e errand play).outline = (s.outline.follow e errand.outline play).outline := by
  have hcommand : play.IsCommand →
      (s.follow e errand play).outline = (s.outline.follow e errand.outline play).outline := by
    intro hcommand
    rw [outline_follow h hcommand, outline_follow h.outline hcommand, outline_outline]
    rfl
  cases play with
  | ask next =>
    show (s.ask e errand next 0).outline = (s.outline.ask e errand.outline next 0).outline
    rw [outline_ask, outline_ask, outline_outline]
    rfl
  | _ => exact hcommand hsteady

lemma outline_begin (h : s.Supplies r errand) (hsteady : errand.stage.IsSteady) :
    (s.begin e errand).outline = (s.outline.begin e errand.outline).outline := by
  have hnothing := (outline_outline s).symm
  unfold Session.begin Errand.outline
  cases hstage : errand.stage with
  | fresh play =>
    rw [hstage] at hsteady
    have hplay := outline_play (e := e) h hsteady
    unfold Errand.outline at hplay
    rw [hstage] at hplay
    exact hplay
  | _ => exact hnothing

lemma outline_answer (s : Session Bench) (e : Nat) (next : BulbState → Play) (retries : Nat)
    (result : Except Fault Reply) : (s.answer e next retries result).outline
      = s.outline.answer e next retries (result.map Reply.outline) := by
  unfold Session.answer
  rw [outline_soon, outline_setStage]
  rfl

lemma outline_attempt (h : s.Supplies r errand) :
    (s.attempt e errand).outline = (s.outline.attempt e errand.outline).outline := by
  -- what is told is the state of the bulb, which the outline leaves out
  have hattempt : ∀ {s : Session Bench} {errand : Errand} {next : BulbState → Play} {retries : Nat},
      s.Supplies r errand → errand.stage = .asking next retries → (s.attempt e errand).outline
        = s.outline.answer e next retries (.ok (.state errand.handle default)) := by
    intro s errand next retries h hstage
    obtain ⟨network, state, hretains, hsend, hsettle⟩ := h.settles .read
    rw [hsend] at hsettle
    unfold Session.attempt
    rw [hstage, hsend]
    dsimp only at hsettle ⊢
    rw [hsettle]
    dsimp only
    rw [outline_answer, outline_network s hretains]
    rfl
  cases hstage : errand.stage with
  | asking next retries =>
    have hstage' : errand.outline.stage = .asking next retries :=
      congrArg Stage.outline hstage
    rw [hattempt h hstage, hattempt h.outline hstage', outline_outline]
    rfl
  | _ =>
    unfold Session.attempt Errand.outline
    rw [hstage]
    exact (outline_outline s).symm

lemma outline_arrive (hsteady : errand.stage.IsSteady) (request : Request) (answer : Answer) :
    (s.arrive e errand request answer).outline
      = (s.outline.arrive e errand.outline request answer).outline := by
  have harrive : ∀ {s : Session Bench} {errand : Errand} {next : BulbState → Play} {retries : Nat},
      errand.stage = .asking next retries → (s.arrive e errand request answer).outline
        = s.outline.answer e next retries
          ((s.network.settle errand.handle request answer).2.1.map Reply.outline) := by
    intro s errand next retries hstage
    unfold Session.arrive
    rw [hstage]
    dsimp only
    rw [outline_answer, outline_settle, Has.settle_eq]
  cases hstage : errand.stage with
  | asking next retries =>
    have hstage' : errand.outline.stage = .asking next retries :=
      congrArg Stage.outline hstage
    have hresult := s.network.settle_outline errand.handle request answer
    rw [harrive hstage, harrive hstage', outline_outline, ← hresult]
    rfl
  | sending next =>
    rw [hstage] at hsteady
    exact hsteady.elim
  | _ =>
    unfold Session.arrive Errand.outline
    rw [hstage]
    exact (outline_outline s).symm

lemma outline_expire (s : Session Bench) (e : Nat) (errand : Errand) :
    (s.expire e errand).outline = (s.outline.expire e errand.outline).outline := by
  have hexpire : ∀ {s : Session Bench} {errand : Errand} {next : BulbState → Play} {retries : Nat},
      errand.stage = .asking next retries → (s.expire e errand).outline
        = ((s.outline.dropAwaited e).setStage e (.answered next retries none)).soon 2 (.resume e) := by
    intro s errand next retries hstage
    unfold Session.expire
    rw [hstage]
    dsimp only
    rw [outline_soon, outline_setStage, outline_dropAwaited]
    rfl
  cases hstage : errand.stage with
  | asking next retries =>
    have hstage' : errand.outline.stage = .asking next retries :=
      congrArg Stage.outline hstage
    rw [hexpire hstage, hexpire hstage', outline_outline]
  | _ =>
    unfold Session.expire Errand.outline
    rw [hstage]
    exact (outline_outline s).symm

lemma outline_resume (h : s.Supplies r errand) (hsteady : errand.stage.IsSteady) :
    (s.resume e errand).outline = (s.outline.resume e errand.outline).outline := by
  have hready : (s.dropAwaited e).Supplies r errand := ⟨h.run, h.reliable, h.prompt, h.found⟩
  cases hstage : errand.stage with
  | answered next retries result =>
    rw [hstage] at hsteady
    have hstage' : errand.outline.stage
        = .answered next retries (result.map (Except.map Reply.outline)) :=
      congrArg Stage.outline hstage
    have hjudged : Query.judge errand.outline.handle errand.outline.maxRetries retries _ = _ :=
      Query.judge_outline errand.handle errand.maxRetries retries result
    unfold Session.resume
    rw [hstage, hstage']
    dsimp only
    rw [hjudged, ← outline_dropAwaited]
    cases Query.judge errand.handle errand.maxRetries retries result with
    | take state =>
      have htaken : ∀ {s : Session Bench} {errand : Errand} (state : BulbState),
          s.Supplies r errand → (s.follow e errand (next state)).outline
            = s.outline.conclude e errand true (.ok .nothing) :=
        fun state h => outline_follow h (hsteady state)
      show ((s.dropAwaited e).follow e errand (next state)).outline
        = ((s.dropAwaited e).outline.follow e errand.outline (next default)).outline
      rw [htaken state hready, htaken default hready.outline, outline_outline]
      rfl
    | again retries =>
      show ((s.dropAwaited e).ask e errand next retries).outline
        = ((s.dropAwaited e).outline.ask e errand.outline next retries).outline
      rw [outline_ask, outline_ask, outline_outline]
      rfl
    | give fault =>
      show ((s.dropAwaited e).fail e errand fault).outline
        = ((s.dropAwaited e).outline.fail e errand.outline fault).outline
      rw [outline_fail _ e hready.run hready.reliable,
        outline_fail _ e hready.outline.run hready.outline.reliable, outline_outline]
      rfl
  | _ =>
    unfold Session.resume Errand.outline
    rw [hstage]
    exact (outline_outline s).symm

/-! ### Performing a cue -/

lemma outline_overErrand {act act' : Errand → Session Bench}
    (h : ∀ errand, s.errands[e]? = some errand → (act errand).outline = (act' errand.outline).outline) :
    (s.overErrand e act).outline = (s.outline.overErrand e act').outline := by
  unfold Session.overErrand
  rw [errand_outline]
  cases he : s.errands[e]? with
  | none => exact (outline_outline s).symm
  | some errand => exact h errand he

lemma outline_overRun {q : Nat} {act act' : Run → Session Bench}
    (h : ∀ run, s.runs[q]? = some run → (act run).outline = (act' run.outline).outline) :
    (s.overRun q act).outline = (s.outline.overRun q act').outline := by
  unfold Session.overRun
  rw [get_outline]
  cases hget : s.runs[q]? with
  | none => exact (outline_outline s).symm
  | some run => exact h run hget

lemma outline_wind (s : Session Bench) (r : Nat) (run : Run) :
    (s.wind r run).outline = s.outline.wind r run.outline :=
  outline_pause s _ (.tick r)

/-- the only run of a session is smooth, and its effects are commands on prompt bulbs -/
structure IsSteady (s : Session Bench) (r : Nat) : Prop where
  smooth : s.IsSmooth r
  sole : s.IsSole r
  supplies : ∀ errand ∈ s.errands, s.Supplies r errand ∧ errand.stage.IsSteady

/-- a cue brings about the same on the outline -/
theorem outline_perform (h : s.IsSteady r) {cue : Cue} (hentry : cue.isEntryOf r = false) :
    (s.perform cue).outline = (s.outline.perform (cue.outline s.network)).outline := by
  have hown : ∀ {q : Nat} {act act' : Run → Session Bench},
      (∀ run, s.runs[r]? = some run → q = r → (act run).outline = (act' run.outline).outline) →
      (s.overRun q act).outline = (s.outline.overRun q act').outline := by
    intro q act act' hact
    refine outline_overRun fun run hget => ?_
    by_cases hq : q = r
    · exact hact run (hq ▸ hget) hq
    · rw [h.sole q hq] at hget
      cases hget
  have hsupplies : ∀ {e errand}, s.errands[e]? = some errand →
      s.Supplies r errand ∧ errand.stage.IsSteady := fun he => h.supplies _ (List.mem_of_getElem? he)
  cases cue with
  | signal signal =>
    cases signal with
    | bulb client session handle =>
      have hheard := fun handles => outline_hearAll s client handles
      have hfound : (s.outline.network.hears client
          (if s.network.hears client session then 0 else 1)) = s.network.hears client session :=
        s.network.hears_outline client session
      show (s.hearAll client (if s.network.hears client session then [handle] else [])).outline
        = (s.outline.hearAll client (if s.outline.network.hears client _ then [handle] else [])).outline
      rw [hfound, ← hheard, outline_outline]
    | search client session => exact (outline_outline s).symm
  | clock q =>
    refine outline_overRun fun run _ => ?_
    rw [outline_wind, outline_wind, outline_outline]
    rfl
  | tick q =>
    refine outline_overRun fun run _ => ?_
    rw [outline_wind, outline_wind, outline_post, outline_post, outline_outline]
    rfl
  | wake q =>
    refine hown fun run hget hq => ?_
    subst hq
    exact outline_handleAll h.smooth run run.inbox
  | drained q fault =>
    cases fault with
    | some fault =>
      show (s.endRun q _).outline = (s.outline.endRun q _).outline
      rw [outline_endRun, outline_endRun, outline_outline]
    | none =>
      refine hown fun run hget hq => ?_
      subst hq
      rw [outline_close h.smooth hget, ← outline_close h.smooth hget, outline_outline]
  | enter q =>
    refine hown fun run hget hq => ?_
    simp [Cue.isEntryOf, hq] at hentry
  | takeTurn q =>
    refine hown fun run hget hq => ?_
    simp [Cue.isEntryOf, hq] at hentry
  | begin e =>
    exact outline_overErrand fun errand he => outline_begin (hsupplies he).1 (hsupplies he).2
  | attempt e => exact outline_overErrand fun errand he => outline_attempt (hsupplies he).1
  | arrive e request answer =>
    exact outline_overErrand fun errand he => outline_arrive (hsupplies he).2 request answer
  | expire e => exact outline_overErrand fun errand _ => outline_expire s e errand
  | resume e =>
    exact outline_overErrand fun errand he => outline_resume (hsupplies he).1 (hsupplies he).2
  | retire e =>
    have hretired : ∀ s : Session Bench, (s.perform (.retire e)).outline
        = s.outline.perform (.retire e) := fun s => outline_modifyErrand s e _ fun _ => rfl
    show _ = (s.outline.perform (.retire e)).outline
    rw [hretired, hretired, outline_outline]
  | alarm => exact (outline_outline _).symm

/-- the next cue is performed on the outline -/
theorem outline_step (h : s.IsSteady r) (hentry : ∀ cue ∈ s.agenda.cues, cue.isEntryOf r = false) :
    s.outline.step.map outline = s.step.map outline := by
  have hnext := Agenda.map_next? (Cue.outline s.network) s.agenda
  unfold Session.step
  rw [show s.outline.agenda.next? = _ from hnext]
  cases hsome : s.agenda.next? with
  | none => rfl
  | some next =>
    obtain ⟨cue, agenda⟩ := next
    have hmem := (Agenda.cues_next hsome).mem_iff.mpr (List.mem_cons_self ..)
    have hrest : ({ s with agenda } : Session Bench).IsSteady r :=
      ⟨⟨h.smooth.reliable, h.smooth.unsaved⟩, h.sole, fun errand he =>
        ⟨⟨(h.supplies errand he).1.run, (h.supplies errand he).1.reliable, (h.supplies errand he).1.prompt,
          (h.supplies errand he).1.found⟩, (h.supplies errand he).2⟩⟩
    exact congrArg some (outline_perform hrest (hentry cue hmem)).symm

/-! ### The start of a run -/

lemma outline_prepare (s : Session Bench) (r : Nat) (run : Run) :
    (s.prepare r run).1.outline = s.outline := by
  rcases prepare_cases s r run with heq | heq
  · rw [heq]
  · rw [heq]
    exact outline_emit s r .deviceReport _ none none

/-- nothing is set on the agenda -/
def IsClear (s : Session Bench) : Prop :=
  s.agenda.line = [] ∧ s.agenda.timers = []

/-- a run gets ready before it looks for bulbs -/
lemma outline_ready (hsmooth : s.IsSmooth r) (run : Run)
    (hserves : s.store.Serves run.action run.hasStore) :
    ∃ t : Session Bench,
      s.start r run = t.search r { run with saved := s.store.recalled run.action run.hasStore } ∧
      t.IsSmooth r ∧ t.agenda = s.agenda ∧ t.network = s.network ∧
      t.outline = (s.outline.modifyRun r fun run => { run with started := s.agenda.now }).modifyRun r
        fun run' => { run' with saved := s.store.recalled run.action run.hasStore } := by
  have hsmooth' : (s.readied r run).IsSmooth r :=
    hsmooth.of_plans (Spares.readied (c := 0) (x := "") (e := 0) (k := fun _ => True) s r run).plans
  have hreadied : (s.readied r run).outline
      = s.outline.modifyRun r fun run => { run with started := s.agenda.now } :=
    (outline_prepare _ r run).trans ((outline_emit _ r .runStarted _ none _).trans
      (outline_modifyRun s r _ fun _ => rfl))
  have hsaved := outline_modifyRun (s.readied r run) r (fun run' => { run' with
    saved := s.store.recalled run.action run.hasStore }) fun _ => rfl
  rw [hreadied] at hsaved
  obtain ⟨runs, hub, hframe⟩ := readied_eq s r run
  have hagenda : (s.readied r run).agenda = s.agenda := by rw [hframe]
  have hnetwork : (s.readied r run).network = s.network := by rw [hframe]
  exact ⟨_, start_eq run hsmooth.reliable hserves, hsmooth'.modifyRun r fun _ => ⟨rfl, rfl⟩, hagenda,
    hnetwork, hsaved⟩

/-- announcements to come are set on the agenda -/
lemma outline_expectAll {client session session' : Nat} (later : List (Handle × Rat))
    (h : s.outline = t.outline)
    (hhears : s.network.hears client session = t.network.hears client session') :
    ((later.map fun (handle, time) => (Wait.lasting (.seconds time),
        Signal.bulb client session handle)).foldl expect s).outline
      = ((later.map fun (handle, time) => (Wait.lasting (.seconds time),
        Signal.bulb client session' handle)).foldl expect t).outline := by
  induction later generalizing s t with
  | nil => exact h
  | cons announcement rest ih =>
    obtain ⟨handle, time⟩ := announcement
    refine ih ?_ hhears
    have hset := fun (s : Session Bench) (session : Nat) =>
      outline_after s (.seconds time) 0 (.signal (.bulb client session handle))
    show ({ s with agenda := _ } : Session Bench).outline
      = ({ t with agenda := _ } : Session Bench).outline
    rw [hset, hset, h]
    simp only [Cue.outline, hhears]

/-- a client listens in a new session -/
def listening (s : Session Bench) (client : Nat) (listener : Listener) : Session Bench :=
  { s with
    network := (s.network.start client).1
    listeners := Assoc.put s.listeners client listener }

/-- no announcement of an older session is left that would be heard again -/
lemma outline_listening (hclear : s.IsClear) (client : Nat) (listener : Listener) :
    (s.listening client listener).outline
      = { s.outline with listeners := Assoc.put s.outline.listeners client listener } := by
  simp only [outline, listening, Bench.outline_start, Agenda.map_of_clear _ _ hclear]

lemma listen_of_unbroken {client : Nat} (hunbroken : (s.network.client client).isBroken = false)
    (listener : Listener) : s.listen client listener
      = ((s.listening client listener).sight client (s.network.sighting client), none) := by
  have hstart : Network.start s.network client
      = ((s.network.start client).1, .ok (s.network.sighting client)) := by
    show s.network.start client = _
    unfold Bench.start
    rw [if_neg (by simp [hunbroken])]
    rfl
  unfold Session.listen
  rw [hstart]
  rfl

/-- a client that can listen hears the same -/
lemma outline_listen {client : Nat} (h : s.outline = t.outline) (hclear : s.IsClear) (hclear' : t.IsClear)
    (hunbroken : (s.network.client client).isBroken = false)
    (hunbroken' : (t.network.client client).isBroken = false) (listener : Listener) :
    (s.listen client listener).1.outline = (t.listen client listener).1.outline := by
  have hnetwork : s.network.outline = t.network.outline := congrArg network h
  have hannounced : s.network.announcements client = t.network.announcements client := by
    rw [← Bench.announcements_outline, hnetwork, Bench.announcements_outline]
  have hlength : s.network.clients.length = t.network.clients.length := by
    have hlength := congrArg (fun bench : Bench => bench.clients.length) hnetwork
    simpa [Bench.outline] using hlength
  rw [listen_of_unbroken hunbroken, listen_of_unbroken hunbroken']
  unfold Session.sight Bench.sighting
  dsimp only
  rw [hannounced]
  refine outline_expectAll _ ?_ ?_
  · rw [outline_hearAll, outline_hearAll, outline_listening hclear, outline_listening hclear', h]
  · rw [network_hearAll, network_hearAll]
    show (s.network.start client).1.hears client _ = (t.network.start client).1.hears client _
    rw [Bench.hears_start hunbroken, Bench.hears_start hunbroken', hlength]

/-- two runs look into their inboxes alike -/
lemma outline_wake {run' : Run} (h : s.outline = t.outline) (hsmooth : s.IsSmooth r)
    (hsmooth' : t.IsSmooth r) (hrun : run.outline = run'.outline) :
    (s.wake r run).outline = (t.wake r run').outline := by
  have hinbox : run.outline.inbox = run'.outline.inbox := by rw [hrun]
  have hinbox : run.inbox = run'.inbox := hinbox
  unfold Session.wake
  rw [outline_handleAll hsmooth, outline_handleAll hsmooth', h, hrun, hinbox]

lemma outline_seeking (s : Session Bench) (r : Nat) : (s.seeking r).outline = s.outline.seeking r :=
  outline_modifyRun s r _ fun _ => rfl

/-- two runs look for bulbs alike -/
lemma outline_search {run' : Run} (h : s.outline = t.outline) (hclear : s.IsClear) (hclear' : t.IsClear)
    (hsmooth : s.IsSmooth r) (hsmooth' : t.IsSmooth r) (hclient : run'.client = run.client)
    (hunbroken : (s.network.client run.client).isBroken = false)
    (hunbroken' : (t.network.client run.client).isBroken = false) :
    (s.search r run).outline = (t.search r run').outline := by
  have hlistened : ∀ {s : Session Bench}, s.IsSmooth r → (s.network.client run.client).isBroken = false →
      ∃ u, (s.seeking r).listen run.client (.run r) = (u, none) ∧ u.IsSmooth r := by
    intro s hsmooth hunbroken
    have hseeking : (s.seeking r).IsSmooth r := hsmooth.modifyRun r fun _ => ⟨rfl, rfl⟩
    obtain ⟨u, hlisten, -, hspares⟩ :=
      listen_eq (s := s.seeking r) (r := r) (k := fun _ => True) hunbroken (fun _ _ => trivial) (.run r)
    exact ⟨u, hlisten, hseeking.of_plans (hspares 0 "" 0).plans⟩
  have hseeking : (s.seeking r).outline = (t.seeking r).outline := by
    rw [outline_seeking, outline_seeking, h]
  have heard := outline_listen hseeking hclear hclear' hunbroken hunbroken' (.run r)
  obtain ⟨u, hu, hsmooth⟩ := hlistened hsmooth hunbroken
  obtain ⟨v, hv, hsmooth'⟩ := hlistened hsmooth' hunbroken'
  rw [hu, hv] at heard
  have hclock : (u.soon 0 (.clock r)).outline = (v.soon 0 (.clock r)).outline := by
    rw [outline_soon, outline_soon, heard]
    rfl
  have hget := congrArg (fun s : Session Bench => s.runs[r]?) heard
  simp only [get_outline] at hget
  rw [search_eq, search_eq, hclient, hu, hv]
  dsimp only
  cases hrun : u.runs[r]? with
  | none =>
    rw [hrun, Option.map_none] at hget
    rw [Option.map_eq_none_iff.mp hget.symm]
    exact heard
  | some first =>
    rw [hrun, Option.map_some] at hget
    obtain ⟨second, hsecond, heq⟩ := Option.map_eq_some_iff.mp hget.symm
    rw [hsecond]
    exact outline_wake hclock ⟨hsmooth.reliable, hsmooth.unsaved⟩ ⟨hsmooth'.reliable, hsmooth'.unsaved⟩
      heq.symm

/-- two runs start alike -/
theorem outline_start {run' : Run} (h : s.outline = t.outline) (hclear : s.IsClear) (hclear' : t.IsClear)
    (hsmooth : s.IsSmooth r) (hsmooth' : t.IsSmooth r) (hrun : run.outline = run'.outline)
    (hserves : s.store.Serves run.action run.hasStore)
    (hunbroken : (s.network.client run.client).isBroken = false)
    (hunbroken' : (t.network.client run.client).isBroken = false) :
    (s.start r run).outline = (t.start r run').outline := by
  have haction : run'.action = run.action := (congrArg Run.action hrun).symm
  have hhas : run'.hasStore = run.hasStore := (congrArg Run.hasStore hrun).symm
  have hclient : run'.client = run.client := (congrArg Run.client hrun).symm
  have hstore : t.store = s.store := (congrArg store h).symm
  have hnow : t.agenda.now = s.agenda.now := (congrArg (fun s : Session Bench => s.agenda.now) h).symm
  obtain ⟨u, hu, hsmooth, hagenda, hnetwork, hready⟩ := outline_ready hsmooth run hserves
  obtain ⟨v, hv, hsmooth', hagenda', hnetwork', hready'⟩ :=
    outline_ready hsmooth' run' (by rwa [hstore, haction, hhas])
  rw [hu, hv]
  refine outline_search ?_ ?_ ?_ hsmooth hsmooth' hclient ?_ ?_
  · rw [hready, hready', ← h, hstore, haction, hhas, hnow]
  · rwa [IsClear, hagenda]
  · rwa [IsClear, hagenda']
  · rwa [hnetwork]
  · rwa [hnetwork']

end Session

end Lamplighter
