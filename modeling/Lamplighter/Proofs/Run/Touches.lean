import Lamplighter.Proofs.Run.Backdrop

/-!
# Touches: what is done, one thing after another, and by whom

* `Session.actor?`    the run that a cue makes do something, of its own or with one of its effects;
* `Session.Touch`     one thing that is done by a run or for one of its effects: the run is changed, tells
                      an event, has a cue set or dropped, dispatches an effect, looks for bulbs or gives
                      its turn away; or by nobody: a bulb is heard of, an errand is put aside;
* `Strokes.touches`   whatever is done for an errand comes to touches of its run;
* `Touches.handleAll`, `Touches.start`, ...   so does whatever a run does of its own;
* `touches_perform`   what a cue brings about are touches of its actor, and nothing else.
-/

set_option linter.unusedSectionVars false

namespace Lamplighter

namespace Cue

/-- the cue is set by a run for itself, for a new effect or for the next run -/
def isSetBy (cue : Cue) (r : Nat) : Prop :=
  match cue with
  | .clock q | .wake q | .drained q _ => q = r
  | .begin _ | .takeTurn _ => True
  | _ => False

/-- the errand that waits for the cue -/
def errandOf? : Cue → Option Nat
  | .begin e | .attempt e | .arrive e _ _ | .expire e | .resume e => some e
  | _ => none

lemma isAwaitedBy_of_errandOf {cue : Cue} {e : Nat} (h : cue.errandOf? = some e) :
    cue.isAwaitedBy e = true := by
  cases cue <;> cases h
  all_goals simp [isAwaitedBy]

end Cue

namespace Session

variable {ν : Type} [Network ν] {s t u : Session ν} {r q e : Nat} {who : Option Nat}
  {errand : Errand} {run : Run}

/-- the run that a cue makes do something, of its own or with one of its effects -/
def actor? (s : Session ν) (cue : Cue) : Option Nat :=
  match cue.errandOf? with
  | some e => s.errands[e]?.bind Errand.run
  | none => cue.runOf?

lemma actor?_of_errand {cue : Cue} (h : cue.errandOf? = some e) :
    s.actor? cue = s.errands[e]?.bind Errand.run := by
  unfold actor?
  rw [h]

lemma actor?_of_none {cue : Cue} (h : cue.errandOf? = none) : s.actor? cue = cue.runOf? := by
  unfold actor?
  rw [h]

/-- the errand at its place is an effect of the run, or of no run -/
def IsOwn (s : Session ν) (e : Nat) (who : Option Nat) : Prop :=
  ∃ errand, s.errands[e]? = some errand ∧ errand.run = who

/-- one thing that is done, by a run or by none -/
inductive Touch (who : Option Nat) : Session ν → Session ν → Prop
  | change (s : Session ν) {r : Nat} (change : Run → Run) (mine : who = some r)
    (told : ∀ run, (change run).audience = run.audience ∧ (change run).emitted = run.emitted ∧
      (change run).events = run.events) : Touch who s (s.modifyRun r change)
  | emit (s : Session ν) {r : Nat} (kind : EventKind) (message : String) (device : Option String)
    (data : Option Json) (mine : who = some r) : Touch who s (s.emit r kind message device data).1
  | stroke (s : Session ν) {t : Session ν} {e : Nat} {errand : Errand} (own : s.IsOwn e who)
    (mine : errand.run = who) (stroke : Stroke e errand s t) : Touch who s t
  | dispatch (s : Session ν) {r : Nat} (errand : Errand) (mine : who = some r)
    (own : errand.run = some r) : Touch who s { s with errands := s.errands ++ [errand] }
  | soon (s : Session ν) {r : Nat} (turns : Nat) (cue : Cue) (mine : who = some r)
    (set : cue.isSetBy r) : Touch who s (s.soon turns cue)
  | wind (s : Session ν) {r : Nat} (duration : Duration) (mine : who = some r) :
    Touch who s { s with agenda := s.agenda.pause duration (.tick r) }
  | unwind (s : Session ν) {r : Nat} (mine : who = some r) :
    Touch who s { s with agenda := s.agenda.drop fun cue => cue.isClockOf r }
  | start (s : Session ν) (client : Nat) (mine : who.isSome = true) :
    Touch who s { s with network := (Network.start s.network client).1 }
  | listen (s : Session ν) {r : Nat} (client : Nat) (mine : who = some r) :
    Touch who s { s with listeners := Assoc.put s.listeners client (.run r) }
  | unlisten (s : Session ν) (client : Nat) (mine : who.isSome = true) :
    Touch who s (s.unlisten client)
  | file (s : Session ν) (store : Snapshot.Store) (mine : who.isSome = true) :
    Touch who s { s with store }
  /-- the run comes to the end of the line, or to its turn, or gives it away -/
  | wait (s : Session ν) (line : List Nat) (turn : Option Nat) (mine : who.isSome = true) :
    Touch who s { s with line, turn }
  | hear (s : Session ν) (client : Nat) (handle : Handle) : Touch who s (s.hear client handle)
  | expect (s : Session ν) (signal : Wait × Signal) : Touch who s (s.expect signal)
  | signal (s : Session ν) (signal : Signal) :
    Touch who s { s with network := (Network.signal s.network signal).1 }
  | retire (s : Session ν) (e : Nat) :
    Touch who s (s.modifyErrand e fun errand => { errand with isAttached := false })
  | ring (s : Session ν) : Touch who s { s with isRung := true }

abbrev Touches (who : Option Nat) : Session ν → Session ν → Prop :=
  Relation.ReflTransGen (Touch who)

/-! ### Effects -/

lemma Stroke.isOwn (h : Stroke e errand s t) (hown : s.IsOwn e who) : t.IsOwn e who := by
  cases h with
  | stage stage =>
    obtain ⟨errand, he, hrun⟩ := hown
    refine ⟨{ errand with stage }, ?_, hrun⟩
    show (s.errands.modify e _)[e]? = _
    rw [List.getElem?_modify_eq, he]
    rfl
  | emit mine kind_eq message data =>
    unfold IsOwn
    rw [errands_emit]
    exact hown
  | hear handle =>
    unfold IsOwn
    rw [errands_hear]
    exact hown
  | _ => exact hown

/-- whatever is done for an errand -/
theorem Strokes.touches (h : Strokes e errand s t) (hown : s.IsOwn e who) (hrun : errand.run = who) :
    Touches who s t ∧ t.IsOwn e who := by
  induction h with
  | refl => exact ⟨.refl, hown⟩
  | tail _ hlast ih =>
    obtain ⟨htouches, hstill⟩ := ih
    exact ⟨htouches.tail (.stroke _ hstill hrun hlast), hlast.isOwn hstill⟩

/-! ### The end of a run -/

namespace Touches

lemma change (s : Session ν) (f : Run → Run) (told : ∀ run, (f run).audience = run.audience ∧
    (f run).emitted = run.emitted ∧ (f run).events = run.events) :
    Touches (some r) s (s.modifyRun r f) :=
  .single (.change s f rfl told)

lemma emit (s : Session ν) (kind : EventKind) (message : String) (device : Option String)
    (data : Option Json) : Touches (some r) s (s.emit r kind message device data).1 :=
  .single (.emit s kind message device data rfl)

lemma endRun (s : Session ν) (outcome : Except Fault Summary) :
    Touches (some r) s (s.endRun r outcome) := by
  have hended : Touches (some r) s (s.modifyRun r fun run => { run with
      outcome := some outcome, isWaiting := false, isGathering := false }) :=
    change s _ fun _ => ⟨rfl, rfl, rfl⟩
  rw [endRun_eq]
  refine hended.trans ?_
  generalize s.modifyRun r _ = t
  unfold Session.pass
  split
  · have hfree : Touches (some r) t { t with turn := none } := .single (.wait t t.line none rfl)
    split
    · exact hfree
    · exact hfree.tail (.soon _ 0 _ rfl trivial)
  · exact .refl

lemma callOffAll (s : Session ν) : Touches (some r) s (s.callOffAll r) := by
  refine callOffAll_induction (p := fun t => Touches (some r) s t) .refl ?_
  intro t e errand ht he hof
  have hrun := (isOf_iff.mp hof).1
  exact ht.trans ((strokes_callOff t e errand).touches ⟨errand, he, hrun⟩ hrun).1

lemma stopSearch (s : Session ν) (run : Run) : Touches (some r) s (s.stopSearch r run) := by
  have hstopped : Touches (some r) s (s.stopping r) := change s _ fun _ => ⟨rfl, rfl, rfl⟩
  rw [stopSearch_eq]
  exact (hstopped.tail (.unwind _ rfl)).tail (.unlisten _ _ rfl)

lemma abort (s : Session ν) (run : Run) (fault : Fault) : Touches (some r) s (s.abort r run fault) := by
  have hnoted : Touches (some r) s (s.note r .aborted) := change s _ fun _ => ⟨rfl, rfl, rfl⟩
  exact ((hnoted.trans (stopSearch _ run)).trans (callOffAll _)).trans (endRun _ _)

lemma finalize (s : Session ν) (run : Run) : Touches (some r) s (s.finalize r run).1 := by
  obtain ⟨store, hfiled | ⟨message, htold⟩⟩ := s.finalize_frame r run
  · rw [hfiled]
    exact .single (.file s store rfl)
  · rw [htold]
    exact .head (.file s store rfl) (emit _ .deviceReport message none none)

lemma sumUp (s : Session ν) (text : String) : Touches (some r) s (s.sumUp r text) := by
  have hemit := emit (r := r) s .runFinished text none none
  cases sumUp_course s r text with
  | absent said gone result =>
    rw [result]
    exact hemit
  | mute said result | ends said here result =>
    rw [result]
    exact hemit.trans (endRun _ _)

theorem close (s : Session ν) (run : Run) : Touches (some r) s (s.close r run) := by
  have hcleared : Touches (some r) s (s.clearAway r) := change s _ fun _ => ⟨rfl, rfl, rfl⟩
  have hfinalize := hcleared.trans (finalize _ run)
  cases close_course s r run with
  | fails finalized result =>
    rw [result]
    exact hfinalize.trans (endRun _ _)
  | sums finalized result =>
    rw [result]
    have hfinished : ∀ t : Session ν,
        Touches (some r) t (t.modifyRun r fun run => { run with phase := .finished }) :=
      fun t => change t _ fun _ => ⟨rfl, rfl, rfl⟩
    exact (hfinalize.trans (hfinished _)).trans (sumUp _ _)

/-! ### The inbox -/

lemma drain (s : Session ν) (run : Run) : Touches (some r) s (s.drain r run) := by
  have hstopped := stopSearch (r := r) s run
  cases drain_course s r run with
  | absent ended gone result =>
    rw [result]
    exact hstopped
  | closes ended here result =>
    rw [result]
    exact hstopped.trans (close _ _)
  | harmed raised result | calm busy unharmed ended result =>
    rw [result]
    exact hstopped.tail (.soon _ 1 _ rfl rfl)
  | gathers unharmed unended result =>
    rw [result]
    exact hstopped.trans (change _ _ fun _ => ⟨rfl, rfl, rfl⟩)

lemma dispatch (s : Session ν) (run : Run) (handle : Handle) :
    Touches (some r) s (s.dispatch r run handle) :=
  .tail (.single (.dispatch s _ rfl rfl)) (.soon _ 0 _ rfl trivial)

/-- by induction on the messages that are left -/
theorem handleAll (s : Session ν) (run : Run) (messages : List Message) :
    Touches (some r) s (s.handleAll r run messages) := by
  induction messages generalizing s with
  | nil => exact change s _ fun _ => ⟨rfl, rfl, rfl⟩
  | cons message rest ih =>
    have htaken : ∀ current, Touches (some r) s (s.take r current message rest) :=
      fun current => change s _ fun _ => ⟨rfl, rfl, rfl⟩
    have hsaid : ∀ current handle,
        Touches (some r) s ((s.take r current message rest).sayMatch r handle).1 :=
      fun current handle => (htaken current).trans (emit _ .deviceMatched _ (some handle.name) none)
    cases handleAll_course s r run message rest with
    | absent gone result => rw [result]
    | breaksOff here matched said result =>
      rw [result]
      exact (hsaid _ _).trans (abort _ run _)
    | acts here matched said result =>
      rw [result]
      exact ((hsaid _ _).trans (dispatch _ run _)).trans (ih _)
    | goesOn here matched looks result =>
      rw [result]
      exact (htaken _).trans (ih _)
    | drains here matched looked result =>
      rw [result]
      exact (htaken _).trans (drain _ run)

/-! ### The start of a run -/

lemma sight (s : Session ν) (client : Nat) (sighting : Sighting) :
    Touches who s (s.sight client sighting) := by
  refine sight_induction (hearAll_induction .refl ?_) ?_
  · exact fun t handle _ ht => ht.tail (.hear t client handle)
  · exact fun t signal _ ht => ht.tail (.expect t signal)

lemma listen (s : Session ν) (client : Nat) : Touches (some r) s (s.listen client (.run r)).1 := by
  have hstart : Touches (some r) s { s with network := (Network.start s.network client).1 } :=
    .single (.start s client rfl)
  unfold Session.listen
  revert hstart
  generalize Network.start s.network client = started
  obtain ⟨network, fault | sighting⟩ := started
  · exact id
  · exact fun hstart => (hstart.tail (.listen _ client rfl)).trans (sight _ client sighting)

theorem search (s : Session ν) (run : Run) : Touches (some r) s (s.search r run) := by
  have hsought : Touches (some r) s (s.seeking r) := change s _ fun _ => ⟨rfl, rfl, rfl⟩
  have hlistened := hsought.trans (listen _ run.client)
  cases search_course s r run with
  | breaksOff listened result =>
    rw [result]
    exact hlistened.trans (abort _ run _)
  | absent listened gone result =>
    rw [result]
    exact hlistened
  | looks listened here result =>
    rw [result]
    exact (hlistened.tail (.soon _ 0 (.clock r) rfl rfl)).trans (handleAll _ _ _)

lemma prepare (s : Session ν) (run : Run) : Touches (some r) s (s.prepare r run).1 := by
  rcases prepare_cases s r run with heq | heq
  · rw [heq]
  · rw [heq]
    exact emit s .deviceReport _ none none

theorem start (s : Session ν) (run : Run) : Touches (some r) s (s.start r run) := by
  have hstarted : Touches (some r) s (s.modifyRun r fun run => { run with started := s.agenda.now }) :=
    change s _ fun _ => ⟨rfl, rfl, rfl⟩
  have hsaid : Touches (some r) s (s.sayStart r run).1 := hstarted.trans (emit _ .runStarted _ none _)
  have hready : Touches (some r) s (s.readied r run) := hsaid.trans (prepare _ run)
  cases start_course s r run with
  | mute said result =>
    rw [result]
    exact hsaid.trans (endRun _ _)
  | unready said prepared result =>
    rw [result]
    exact hready.trans (endRun _ _)
  | @seeks saved said prepared result =>
    rw [result]
    have hsaved : ∀ u : Session ν,
        Touches (some r) u (u.modifyRun r fun run => { run with saved }) :=
      fun u => change u _ fun _ => ⟨rfl, rfl, rfl⟩
    exact (hready.trans (hsaved _)).trans (search _ _)

theorem takeTurn (s : Session ν) (run : Run) : Touches (some r) s (s.takeTurn r run) :=
  .trans (.single (.wait s (s.line.filter fun waiting => waiting != r) (some r) rfl)) (start _ run)

theorem enter (s : Session ν) (run : Run) : Touches (some r) s (s.enter r run) := by
  unfold Session.enter
  split
  · exact .single (.wait s (s.line ++ [r]) s.turn rfl)
  · exact takeTurn s run

/-! ### Performing a cue -/

lemma wind (s : Session ν) (run : Run) : Touches (some r) s (s.wind r run) :=
  .single (.wind s _ rfl)

lemma tick (s : Session ν) : Touches (some r) s (s.post r .tick) := by
  have hposted : Touches (some r) s (s.posting r .tick) := change s _ fun _ => ⟨rfl, rfl, rfl⟩
  cases s.post_course r .tick with
  | absent _ result => rw [result]
  | wakes _ _ result =>
    rw [result]
    exact hposted.tail (.soon _ 0 _ rfl rfl)
  | queued _ _ result =>
    rw [result]
    exact hposted

lemma overRun {act : Run → Session ν} (hact : ∀ run, Touches (some r) s (act run)) :
    Touches (some r) s (s.overRun r act) :=
  overRun_induction r .refl fun run _ => hact run

/-- a cue for a run -/
theorem perform {cue : Cue} (hcue : cue.runOf? = some r) : Touches (some r) s (s.perform cue) := by
  cases cue with
  | clock q =>
    obtain rfl : q = r := Option.some.inj hcue
    exact overRun fun run => wind s run
  | tick q =>
    obtain rfl : q = r := Option.some.inj hcue
    exact overRun fun run => (tick s).trans (wind _ run)
  | wake q =>
    obtain rfl : q = r := Option.some.inj hcue
    exact overRun fun run => handleAll s run run.inbox
  | drained q fault =>
    obtain rfl : q = r := Option.some.inj hcue
    cases fault with
    | none => exact overRun fun run => close s run
    | some fault => exact endRun s _
  | enter q =>
    obtain rfl : q = r := Option.some.inj hcue
    exact overRun fun run => enter s run
  | takeTurn q =>
    obtain rfl : q = r := Option.some.inj hcue
    exact overRun fun run => takeTurn s run
  | _ => cases hcue

end Touches

/-- an errand that there is not waits for nothing -/
lemma perform_of_no_errand {cue : Cue} (hcue : cue.errandOf? = some e) (hnone : s.errands[e]? = none) :
    s.perform cue = s :=
  s.perform_idle (Cue.isAwaitedBy_of_errandOf hcue) (by simp [hnone])

/-- what a cue brings about is done by its actor -/
theorem touches_perform (s : Session ν) (cue : Cue) : Touches (s.actor? cue) s (s.perform cue) := by
  cases hcue : cue.errandOf? with
  | some e =>
    rw [actor?_of_errand hcue]
    cases he : s.errands[e]? with
    | none => rw [perform_of_no_errand hcue he]
    | some errand =>
      exact ((strokes_perform he (Cue.isAwaitedBy_of_errandOf hcue)).touches ⟨errand, he, rfl⟩ rfl).1
  | none =>
    rw [actor?_of_none hcue]
    cases hrun : cue.runOf? with
    | some r => exact Touches.perform hrun
    | none =>
      cases cue with
      | signal signal => exact .trans (.single (.signal s signal)) (Touches.sight _ _ _)
      | retire e => exact .single (.retire s e)
      | alarm => exact .single (.ring s)
      | clock r | tick r | wake r | drained r fault | enter r | takeTurn r => cases hrun
      | begin e | attempt e | arrive e request answer | expire e | resume e => cases hcue

end Session

end Lamplighter
