import Lamplighter.Proofs.Run.Backdrop

/-!
# Broadcasts: what is published does not depend on who listens

* `Session.tuned`          the session over another hub;
* `airs_follow`, `airs_handleAll`, ...   an operation of an errand or a run comes to the same whatever
                           the hub is, and publishes the same events to it;
* `airs_perform`           and so does whatever a cue brings about;
* `Session.published`      what a cue has published;
* `perform_tuned`, `hub_perform`   this is what the hub gets.
-/

set_option linter.unusedSectionVars false

namespace Lamplighter

lemma Hub.publishAll_append {ε : Type} (hub : Hub ε) (older newer : List ε) :
    hub.publishAll (older ++ newer) = (hub.publishAll older).publishAll newer :=
  List.foldl_append

namespace Session

variable {ν : Type} {s t : Session ν} {r e : Nat} {errand : Errand} {run : Run} {hub : Hub Event}

/-- the session over another hub -/
def tuned (s : Session ν) (hub : Hub Event) : Session ν :=
  { s with hub }

/-! ### What publishes nothing -/

@[simp] lemma runs_tuned : (s.tuned hub).runs = s.runs := rfl

@[simp] lemma errands_tuned : (s.tuned hub).errands = s.errands := rfl

@[simp] lemma agenda_tuned : (s.tuned hub).agenda = s.agenda := rfl

@[simp] lemma network_tuned : (s.tuned hub).network = s.network := rfl

@[simp] lemma listeners_tuned : (s.tuned hub).listeners = s.listeners := rfl

@[simp] lemma line_tuned : (s.tuned hub).line = s.line := rfl

@[simp] lemma turn_tuned : (s.tuned hub).turn = s.turn := rfl

@[simp] lemma store_tuned : (s.tuned hub).store = s.store := rfl

@[simp] lemma soon_tuned (turns : Nat) (cue : Cue) :
    (s.tuned hub).soon turns cue = (s.soon turns cue).tuned hub := rfl

@[simp] lemma modifyRun_tuned (change : Run → Run) :
    (s.tuned hub).modifyRun r change = (s.modifyRun r change).tuned hub := rfl

@[simp] lemma note_tuned (deed : Deed) : (s.tuned hub).note r deed = (s.note r deed).tuned hub := rfl

@[simp] lemma setStage_tuned (stage : Stage) :
    (s.tuned hub).setStage e stage = (s.setStage e stage).tuned hub := rfl

@[simp] lemma dropAwaited_tuned : (s.tuned hub).dropAwaited e = (s.dropAwaited e).tuned hub := rfl

@[simp] lemma post_tuned (message : Message) :
    (s.tuned hub).post r message = (s.post r message).tuned hub := by
  unfold Session.post
  rw [runs_tuned]
  split
  · rfl
  · split <;> rfl

@[simp] lemma hear_tuned (client : Nat) (handle : Handle) :
    (s.tuned hub).hear client handle = (s.hear client handle).tuned hub := by
  unfold Session.hear
  rw [listeners_tuned, runs_tuned]
  split
  · rfl
  · rfl
  · split
    · rfl
    · dsimp only
      split
      · rfl
      · rw [modifyRun_tuned, post_tuned]

@[simp] lemma hearAll_tuned (client : Nat) (handles : List Handle) :
    (s.tuned hub).hearAll client handles = (s.hearAll client handles).tuned hub := by
  induction handles generalizing s with
  | nil => rfl
  | cons handle rest ih =>
    show ((s.tuned hub).hear client handle).hearAll client rest = _
    rw [hear_tuned, ih]
    rfl

@[simp] lemma checkGathered_tuned (fault : Option Fault) :
    (s.tuned hub).checkGathered r fault = (s.checkGathered r fault).tuned hub := by
  unfold Session.checkGathered
  rw [runs_tuned, errands_tuned]
  split
  · rfl
  · split <;> rfl

@[simp] lemma conclude_tuned (isOk : Bool) (outcome : Except Fault Reply) :
    (s.tuned hub).conclude e errand isOk outcome = (s.conclude e errand isOk outcome).tuned hub := by
  unfold Session.conclude
  dsimp only
  rw [dropAwaited_tuned, setStage_tuned]
  split
  · rfl
  · rw [post_tuned, soon_tuned, checkGathered_tuned]

@[simp] lemma ask_tuned (next : BulbState → Play) (retries : Nat) :
    (s.tuned hub).ask e errand next retries = (s.ask e errand next retries).tuned hub := by
  unfold Session.ask
  split <;> rfl

@[simp] lemma answer_tuned (next : BulbState → Play) (retries : Nat) (result : Except Fault Reply) :
    (s.tuned hub).answer e next retries result = (s.answer e next retries result).tuned hub := rfl

@[simp] lemma expire_tuned : (s.tuned hub).expire e errand = (s.expire e errand).tuned hub := by
  unfold Session.expire
  split <;> rfl

lemma callOffAll_tuned (r : Nat) : (s.tuned hub).callOffAll r = (s.callOffAll r).tuned hub := by
  unfold Session.callOffAll
  rw [errands_tuned]
  generalize List.range s.errands.length = places
  induction places generalizing s with
  | nil => rfl
  | cons place rest ih =>
    have hoff : ∀ errand, (s.tuned hub).callOff place errand = (s.callOff place errand).tuned hub := by
      intro errand
      unfold Session.callOff
      split <;> rfl
    simp only [List.foldl_cons, errands_tuned]
    split
    · exact ih
    · split
      · rw [hoff]
        exact ih
      · exact ih

@[simp] lemma endRun_tuned (outcome : Except Fault Summary) :
    (s.tuned hub).endRun r outcome = (s.endRun r outcome).tuned hub := by
  have hpass : ∀ s : Session ν, (s.tuned hub).pass r = (s.pass r).tuned hub := by
    intro s
    unfold Session.pass
    rw [turn_tuned, line_tuned]
    split
    · split <;> rfl
    · rfl
  rw [endRun_eq, endRun_eq, modifyRun_tuned, hpass]

variable [Network ν]

lemma sight_tuned (client : Nat) (sighting : Sighting) :
    (s.tuned hub).sight client sighting = (s.sight client sighting).tuned hub := by
  have hexpect : ∀ (s : Session ν) (signal : Wait × Signal),
      (s.tuned hub).expect signal = (s.expect signal).tuned hub := by
    intro s signal
    unfold Session.expect
    split <;> rfl
  unfold Session.sight
  rw [hearAll_tuned]
  generalize s.hearAll client sighting.found = t
  induction sighting.later generalizing t with
  | nil => rfl
  | cons signal rest ih => rw [List.foldl_cons, List.foldl_cons, hexpect, ih]

lemma send_tuned (request : Request) : (s.tuned hub).send errand request
    = ((s.send errand request).1.tuned hub, (s.send errand request).2) := rfl

lemma settle_tuned (request : Request) (answer : Answer) : (s.tuned hub).settle errand request answer
    = ((s.settle errand request answer).1.tuned hub, (s.settle errand request answer).2) := by
  unfold Session.settle
  rw [network_tuned]
  generalize Network.settle s.network errand.client errand.handle request answer = settled
  obtain ⟨network, result, found⟩ := settled
  have hheard : (({ s with network } : Session ν).tuned hub).hearAll errand.client found = _ :=
    hearAll_tuned ..
  exact congrArg (·, result) hheard

lemma listen_tuned (client : Nat) (listener : Listener) : (s.tuned hub).listen client listener
    = ((s.listen client listener).1.tuned hub, (s.listen client listener).2) := by
  unfold Session.listen
  rw [network_tuned]
  generalize Network.start s.network client = started
  obtain ⟨network, fault | sighting⟩ := started
  · rfl
  · have hsighted : (({ s with network, listeners := Assoc.put s.listeners client listener }
        : Session ν).tuned hub).sight client sighting = _ := sight_tuned ..
    exact congrArg (·, none) hsighted

@[simp] lemma stopSearch_tuned :
    (s.tuned hub).stopSearch r run = (s.stopSearch r run).tuned hub := rfl

@[simp] lemma abort_tuned (fault : Fault) :
    (s.tuned hub).abort r run fault = (s.abort r run fault).tuned hub := by
  unfold Session.abort
  rw [note_tuned, stopSearch_tuned, callOffAll_tuned, endRun_tuned]

lemma attempt_tuned : (s.tuned hub).attempt e errand = (s.attempt e errand).tuned hub := by
  unfold Session.attempt
  split
  · rw [send_tuned]
    generalize s.send errand .read = sent
    obtain ⟨t, _ | duration, answer⟩ := sent
    · dsimp only
      rw [settle_tuned]
      rfl
    · rfl
  · rfl

/-! ### What publishes something -/

lemma airs_emit (s : Session ν) (r : Nat) (kind : EventKind) (message : String)
    (device : Option String) (data : Option Json) : ∃ events, ∀ hub,
      (s.tuned hub).emit r kind message device data
        = ((s.emit r kind message device data).1.tuned (hub.publishAll events),
          (s.emit r kind message device data).2) := by
  unfold Session.emit
  simp only [runs_tuned, agenda_tuned]
  split
  · exact ⟨[], fun _ => rfl⟩
  · split
    · exact ⟨[], fun _ => rfl⟩
    · exact ⟨[_], fun _ => rfl⟩
    · split
      · exact ⟨[], fun _ => rfl⟩
      · exact ⟨[], fun _ => rfl⟩

lemma airs_fail (s : Session ν) (e : Nat) (errand : Errand) (fault : Fault) :
    ∃ events, ∀ hub, (s.tuned hub).fail e errand fault
      = (s.fail e errand fault).tuned (hub.publishAll events) := by
  unfold Session.fail
  split
  · exact ⟨[], fun hub => conclude_tuned ..⟩
  · rename_i r _
    obtain ⟨events, hemit⟩ := airs_emit (s.note r (.raised errand.handle fault)) r .deviceFailed
      (failureText errand.handle fault) (some errand.handle.name) none
    refine ⟨events, fun hub => ?_⟩
    rw [note_tuned, hemit]
    generalize (s.note r (.raised errand.handle fault)).emit r .deviceFailed
      (failureText errand.handle fault) (some errand.handle.name) none = out
    obtain ⟨t, _ | further⟩ := out
    · exact conclude_tuned ..
    · exact conclude_tuned ..

/-- by induction on what is left of the play -/
theorem airs_follow (s : Session ν) (e : Nat) (errand : Errand) (play : Play) :
    ∃ events, ∀ hub, (s.tuned hub).follow e errand play
      = (s.follow e errand play).tuned (hub.publishAll events) := by
  induction play generalizing s with
  | done reply => exact ⟨[], fun hub => conclude_tuned ..⟩
  | ask next => exact ⟨[], fun hub => ask_tuned ..⟩
  | keep state next ih =>
    unfold Session.follow
    simp only [modifyRun_tuned]
    split
    · exact ih s
    · exact ih _
  | report message data next ih =>
    unfold Session.follow
    split
    · exact ih s
    · rename_i r _
      obtain ⟨events, hemit⟩ := airs_emit s r .deviceReport message (some errand.handle.name) data
      generalize s.emit r .deviceReport message (some errand.handle.name) data = out at hemit
      obtain ⟨t, _ | fault⟩ := out
      · obtain ⟨later, hlater⟩ := ih t
        refine ⟨events ++ later, fun hub => ?_⟩
        rw [hemit, Hub.publishAll_append]
        exact hlater _
      · obtain ⟨later, hlater⟩ := airs_fail t e errand fault
        refine ⟨events ++ later, fun hub => ?_⟩
        rw [hemit, Hub.publishAll_append]
        exact hlater _
  | send request next ih =>
    unfold Session.follow
    simp only [send_tuned]
    generalize s.send errand request = sent
    obtain ⟨t, _ | duration, answer⟩ := sent
    · simp only [settle_tuned]
      generalize t.settle errand request answer = settled
      obtain ⟨u, fault | reply⟩ := settled
      · exact airs_fail u e errand fault
      · exact ih reply u
    · exact ⟨[], fun hub => rfl⟩

/-- what an errand does -/
lemma airs_begin (s : Session ν) (e : Nat) (errand : Errand) : ∃ events, ∀ hub,
    (s.tuned hub).begin e errand = (s.begin e errand).tuned (hub.publishAll events) := by
  unfold Session.begin
  split
  · exact airs_follow s e errand _
  · exact ⟨[], fun hub => rfl⟩

lemma airs_arrive (s : Session ν) (e : Nat) (errand : Errand) (request : Request) (answer : Answer) :
    ∃ events, ∀ hub, (s.tuned hub).arrive e errand request answer
      = (s.arrive e errand request answer).tuned (hub.publishAll events) := by
  unfold Session.arrive
  simp only [settle_tuned]
  generalize s.settle errand request answer = settled
  obtain ⟨t, result⟩ := settled
  split
  · exact ⟨[], fun hub => answer_tuned ..⟩
  · cases result with
    | error fault => exact airs_fail t e errand fault
    | ok reply => exact airs_follow t e errand _
  · exact ⟨[], fun hub => rfl⟩

lemma airs_resume (s : Session ν) (e : Nat) (errand : Errand) :
    ∃ events, ∀ hub, (s.tuned hub).resume e errand
      = (s.resume e errand).tuned (hub.publishAll events) := by
  unfold Session.resume
  simp only [dropAwaited_tuned]
  split
  · split
    · exact airs_follow (s.dropAwaited e) e errand _
    · exact ⟨[], fun hub => ask_tuned ..⟩
    · exact airs_fail (s.dropAwaited e) e errand _
  · exact ⟨[], fun hub => rfl⟩

/-! ### What a run publishes -/

lemma airs_finalize (s : Session ν) (r : Nat) (run : Run) : ∃ events, ∀ hub,
    (s.tuned hub).finalize r run
      = ((s.finalize r run).1.tuned (hub.publishAll events), (s.finalize r run).2) := by
  unfold Session.finalize
  split
  · split
    · exact airs_emit ..
    · split
      · exact ⟨[], fun hub => rfl⟩
      · simp only [store_tuned, agenda_tuned]
        split
        · exact ⟨[], fun hub => rfl⟩
        · rename_i store _
          exact airs_emit ({ s with store } : Session ν) r .deviceReport _ none none
  · exact ⟨[], fun hub => rfl⟩

lemma airs_sumUp (s : Session ν) (r : Nat) (text : String) :
    ∃ events, ∀ hub, (s.tuned hub).sumUp r text
      = (s.sumUp r text).tuned (hub.publishAll events) := by
  obtain ⟨events, hemit⟩ := airs_emit s r .runFinished text none none
  refine ⟨events, fun hub => ?_⟩
  unfold Session.sumUp
  rw [hemit]
  generalize s.emit r .runFinished text none none = out
  obtain ⟨t, _ | fault⟩ := out
  · dsimp only
    rw [runs_tuned]
    split
    · rfl
    · exact endRun_tuned _
  · exact endRun_tuned _

theorem airs_close (s : Session ν) (r : Nat) (run : Run) :
    ∃ events, ∀ hub, (s.tuned hub).close r run
      = (s.close r run).tuned (hub.publishAll events) := by
  obtain ⟨events, hfinalize⟩ := airs_finalize (s.clearAway r) r run
  have hcleared : ∀ hub, (s.tuned hub).clearAway r = (s.clearAway r).tuned hub := fun _ => rfl
  simp only [close_eq, hcleared]
  generalize (s.clearAway r).finalize r run = out at hfinalize
  obtain ⟨t, _ | fault⟩ := out
  · obtain ⟨later, hsummed⟩ := airs_sumUp (t.modifyRun r fun run => { run with phase := .finished }) r
      ("Finishing action " ++ run.action.verb.word)
    refine ⟨events ++ later, fun hub => ?_⟩
    rw [hfinalize, Hub.publishAll_append]
    exact hsummed _
  · refine ⟨events, fun hub => ?_⟩
    rw [hfinalize]
    exact endRun_tuned _

lemma airs_drain (s : Session ν) (r : Nat) (run : Run) :
    ∃ events, ∀ hub, (s.tuned hub).drain r run
      = (s.drain r run).tuned (hub.publishAll events) := by
  unfold Session.drain
  simp only [stopSearch_tuned, errands_tuned, runs_tuned]
  by_cases hempty : ((s.stopSearch r run).errands.filter fun errand => errand.isOf r).isEmpty = true
  · simp only [hempty, ↓reduceIte]
    cases (s.stopSearch r run).runs[r]? with
    | none => exact ⟨[], fun hub => rfl⟩
    | some run => exact airs_close ..
  · simp only [hempty, Bool.false_eq_true, ↓reduceIte]
    cases ((s.stopSearch r run).errands.filter fun errand => errand.isOf r).findSome?
        Errand.raised? with
    | some fault => exact ⟨[], fun hub => rfl⟩
    | none =>
      by_cases hover : ((s.stopSearch r run).errands.filter fun errand => errand.isOf r).all
          Errand.isOver = true
      · simp only [hover, ↓reduceIte]
        exact ⟨[], fun hub => rfl⟩
      · simp only [hover, Bool.false_eq_true, ↓reduceIte]
        exact ⟨[], fun hub => rfl⟩

/-- by induction on the messages that are left -/
theorem airs_handleAll (s : Session ν) (r : Nat) (run : Run) (messages : List Message) :
    ∃ events, ∀ hub, (s.tuned hub).handleAll r run messages
      = (s.handleAll r run messages).tuned (hub.publishAll events) := by
  induction messages generalizing s with
  | nil => exact ⟨[], fun hub => rfl⟩
  | cons message rest ih =>
    cases hget : s.runs[r]? with
    | none =>
      refine ⟨[], fun hub => ?_⟩
      unfold Session.handleAll
      rw [runs_tuned, hget]
      rfl
    | some current =>
      have hget' : ∀ hub, (s.tuned hub).runs[r]? = some current := fun _ => hget
      have hcons := fun hub => handleAll_cons (s.tuned hub) r run (hget' hub) message rest
      have htaken : ∀ hub, (s.tuned hub).take r current message rest
          = (s.take r current message rest).tuned hub := fun _ => rfl
      simp only [hcons, handleAll_cons s r run hget, htaken]
      split
      · rename_i handle _
        obtain ⟨events, hsaid⟩ := airs_emit (s.take r current message rest) r .deviceMatched
          ("Running action on " ++ handle.name) (some handle.name) none
        have hsaid : ∀ hub, ((s.take r current message rest).tuned hub).sayMatch r handle
            = (((s.take r current message rest).sayMatch r handle).1.tuned (hub.publishAll events),
              ((s.take r current message rest).sayMatch r handle).2) := hsaid
        generalize (s.take r current message rest).sayMatch r handle = out at hsaid
        obtain ⟨t, _ | fault⟩ := out
        · obtain ⟨later, hlater⟩ := ih (t.dispatch r run handle)
          refine ⟨events ++ later, fun hub => ?_⟩
          rw [hsaid, Hub.publishAll_append]
          exact hlater _
        · refine ⟨events, fun hub => ?_⟩
          rw [hsaid]
          exact abort_tuned _
      · split
        · exact ih _
        · exact airs_drain ..

/-! ### The start of a run -/

lemma airs_search (s : Session ν) (r : Nat) (run : Run) :
    ∃ events, ∀ hub, (s.tuned hub).search r run
      = (s.search r run).tuned (hub.publishAll events) := by
  unfold Session.search
  simp only [modifyRun_tuned, listen_tuned]
  generalize (s.modifyRun r _).listen run.client (.run r) = out
  obtain ⟨t, _ | fault⟩ := out
  · simp only [runs_tuned, soon_tuned]
    split
    · exact ⟨[], fun hub => rfl⟩
    · exact airs_handleAll ..
  · exact ⟨[], fun hub => abort_tuned _⟩

lemma airs_prepare (s : Session ν) (r : Nat) (run : Run) : ∃ events, ∀ hub,
    (s.tuned hub).prepare r run
      = ((s.prepare r run).1.tuned (hub.publishAll events), (s.prepare r run).2) := by
  unfold Session.prepare
  split
  · simp only [store_tuned]
    split
    · exact ⟨[], fun hub => rfl⟩
    · exact ⟨[], fun hub => rfl⟩
    · obtain ⟨events, hemit⟩ := airs_emit s r .deviceReport
        "Configuration state not found, cannot restore" none none
      refine ⟨events, fun hub => ?_⟩
      rw [hemit]
      generalize s.emit r .deviceReport "Configuration state not found, cannot restore" none none = out
      obtain ⟨t, _ | fault⟩ := out <;> rfl
  · exact ⟨[], fun hub => rfl⟩

theorem airs_start (s : Session ν) (r : Nat) (run : Run) :
    ∃ events, ∀ hub, (s.tuned hub).start r run
      = (s.start r run).tuned (hub.publishAll events) := by
  obtain ⟨events, hemit⟩ := airs_emit (s.modifyRun r fun run => { run with started := s.agenda.now }) r
    .runStarted ("Starting action " ++ run.action.verb.word) none (some (startData run.action))
  unfold Session.start
  simp only [agenda_tuned, modifyRun_tuned]
  generalize Session.emit _ r .runStarted _ none _ = out at hemit
  obtain ⟨t, _ | fault⟩ := out
  · obtain ⟨misses, hprepare⟩ := airs_prepare t r run
    generalize hout : t.prepare r run = out at hprepare
    obtain ⟨u, fault | saved⟩ := out
    · refine ⟨events ++ misses, fun hub => ?_⟩
      rw [hemit, Hub.publishAll_append]
      dsimp only
      rw [hprepare, hout]
      exact endRun_tuned _
    · obtain ⟨later, hlater⟩ := airs_search (u.modifyRun r fun run => { run with saved }) r
        { run with saved }
      refine ⟨events ++ misses ++ later, fun hub => ?_⟩
      rw [hemit, Hub.publishAll_append, Hub.publishAll_append]
      dsimp only
      rw [hprepare, hout]
      exact hlater _
  · refine ⟨events, fun hub => ?_⟩
    rw [hemit]
    exact endRun_tuned _

lemma airs_takeTurn (s : Session ν) (r : Nat) (run : Run) :
    ∃ events, ∀ hub, (s.tuned hub).takeTurn r run
      = (s.takeTurn r run).tuned (hub.publishAll events) :=
  airs_start { s with turn := some r, line := s.line.filter fun waiting => waiting != r } r run

lemma airs_enter (s : Session ν) (r : Nat) (run : Run) :
    ∃ events, ∀ hub, (s.tuned hub).enter r run
      = (s.enter r run).tuned (hub.publishAll events) := by
  have henter : ∀ s : Session ν, s.enter r run = if s.turn.isSome || !s.line.isEmpty then
      { s with line := s.line ++ [r] } else s.takeTurn r run := fun _ => rfl
  by_cases hwaits : (s.turn.isSome || !s.line.isEmpty) = true
  · refine ⟨[], fun hub => ?_⟩
    rw [henter, henter, turn_tuned, line_tuned, if_pos hwaits, if_pos hwaits]
    rfl
  · obtain ⟨events, htaken⟩ := airs_takeTurn s r run
    refine ⟨events, fun hub => ?_⟩
    rw [henter, henter, turn_tuned, line_tuned, if_neg hwaits, if_neg hwaits, htaken]

/-! ### What a cue brings about -/

lemma airs_overRun (act : Session ν → Run → Session ν) (h : ∀ run, ∃ events, ∀ hub,
    act (s.tuned hub) run = (act s run).tuned (hub.publishAll events)) :
    ∃ events, ∀ hub, (s.tuned hub).overRun r (act (s.tuned hub))
      = (s.overRun r (act s)).tuned (hub.publishAll events) := by
  cases hget : s.runs[r]? with
  | none => exact ⟨[], fun hub => by simp only [overRun, runs_tuned, hget]; rfl⟩
  | some run =>
    obtain ⟨events, hact⟩ := h run
    exact ⟨events, fun hub => by simp only [overRun, runs_tuned, hget, hact]⟩

lemma airs_overErrand (act : Session ν → Errand → Session ν) (h : ∀ errand, ∃ events, ∀ hub,
    act (s.tuned hub) errand = (act s errand).tuned (hub.publishAll events)) :
    ∃ events, ∀ hub, (s.tuned hub).overErrand e (act (s.tuned hub))
      = (s.overErrand e (act s)).tuned (hub.publishAll events) := by
  cases hget : s.errands[e]? with
  | none => exact ⟨[], fun hub => by simp only [overErrand, errands_tuned, hget]; rfl⟩
  | some errand =>
    obtain ⟨events, hact⟩ := h errand
    exact ⟨events, fun hub => by simp only [overErrand, errands_tuned, hget, hact]⟩

/-- whatever the hub is, a cue brings about the same, and the same events are published -/
theorem airs_perform (s : Session ν) (cue : Cue) :
    ∃ events, ∀ hub, (s.tuned hub).perform cue
      = (s.perform cue).tuned (hub.publishAll events) := by
  cases cue with
  | signal signal =>
    exact ⟨[], fun hub => sight_tuned (s := { s with network := (Network.signal s.network signal).1 })
      (client signal) (Network.signal s.network signal).2⟩
  | clock r => exact airs_overRun (fun s run => s.wind r run) fun run => ⟨[], fun hub => rfl⟩
  | tick r =>
    refine airs_overRun (fun s run => (s.post r .tick).wind r run) fun run => ⟨[], fun hub => ?_⟩
    rw [post_tuned]
    rfl
  | wake r => exact airs_overRun (fun s run => s.wake r run) fun run => airs_handleAll s r run run.inbox
  | drained r fault =>
    cases fault with
    | some fault => exact ⟨[], fun hub => endRun_tuned _⟩
    | none => exact airs_overRun (fun s run => s.close r run) fun run => airs_close s r run
  | enter r => exact airs_overRun (fun s run => s.enter r run) fun run => airs_enter s r run
  | takeTurn r => exact airs_overRun (fun s run => s.takeTurn r run) fun run => airs_takeTurn s r run
  | begin e => exact airs_overErrand (fun s errand => s.begin e errand) fun errand => airs_begin s e errand
  | attempt e =>
    exact airs_overErrand (fun s errand => s.attempt e errand) fun errand =>
      ⟨[], fun hub => attempt_tuned⟩
  | arrive e request answer =>
    exact airs_overErrand (fun s errand => s.arrive e errand request answer) fun errand =>
      airs_arrive s e errand request answer
  | expire e =>
    exact airs_overErrand (fun s errand => s.expire e errand) fun errand =>
      ⟨[], fun hub => expire_tuned⟩
  | resume e =>
    exact airs_overErrand (fun s errand => s.resume e errand) fun errand => airs_resume s e errand
  | retire e => exact ⟨[], fun hub => rfl⟩
  | alarm => exact ⟨[], fun hub => rfl⟩

/-! ### What a listener hears -/

/-- a hub with one subscriber, whose queue has no limit and is empty -/
def attentive : Hub Event where
  limit := 0
  subscriptions := [⟨true, []⟩]

lemma waiting_publishAll (events : List Event) : (attentive.publishAll events).waiting 0 = events := by
  have hlonger : ∀ (queue : List Event), ((⟨0, [⟨true, queue⟩]⟩ : Hub Event).publishAll events).waiting 0
      = queue ++ events := by
    induction events with
    | nil => simp [Hub.publishAll, Hub.waiting]
    | cons event rest ih =>
      intro queue
      show ((Hub.publish ⟨0, [⟨true, queue⟩]⟩ event).publishAll rest).waiting 0 = _
      have hpublished : Hub.publish ⟨0, [⟨true, queue⟩]⟩ event = ⟨0, [⟨true, queue ++ [event]⟩]⟩ := rfl
      rw [hpublished, ih, List.append_assoc]
      rfl
  exact hlonger []

/-- what a cue has published, whoever listens -/
def published (s : Session ν) (cue : Cue) : List Event :=
  ((s.tuned attentive).perform cue).hub.waiting 0

/-- the same is brought about over any hub, and this is what the hub gets -/
theorem perform_tuned (s : Session ν) (cue : Cue) (hub : Hub Event) : (s.tuned hub).perform cue
    = (s.perform cue).tuned (hub.publishAll (s.published cue)) := by
  obtain ⟨events, hevents⟩ := airs_perform s cue
  have hpublished : s.published cue = events := by
    rw [published, hevents]
    exact waiting_publishAll events
  rw [hpublished, hevents]

theorem hub_perform (s : Session ν) (cue : Cue) :
    (s.perform cue).hub = s.hub.publishAll (s.published cue) :=
  congrArg hub (s.perform_tuned cue s.hub)

end Session

end Lamplighter
