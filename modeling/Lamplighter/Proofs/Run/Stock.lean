import Lamplighter.Proofs.Run.Hosting

/-!
# Stocks: what runs keep for their end, and where it goes

* `Solo.harvest`      the states that an errand keeps while it goes through a play;
* `Solo.Goes`         an errand takes a step of its own, whichever, and keeps some states with it;
* `Session.stock`     what a run has kept, with the store;
* `Has.goes`          a step of an errand adds to the stock what the errand keeps with it;
* `stock_perform_aside`   a step that is about neither an errand nor the run leaves the stock alone.
-/

set_option linter.unusedSectionVars false

namespace Lamplighter

open Deeds

/-! ### What an errand keeps -/

namespace Solo

/-- the states that are kept on the way through a play -/
def harvest (solo : Solo) : Play → List BulbState
  | .done _ => []
  | .ask _ => []
  | .keep state next => state :: harvest solo next
  | .report _ _ next => harvest solo next
  | .send request next =>
    match (solo.request request).2 with
    | .ok reply => harvest (solo.request request).1 (next reply)
    | .error _ => []

/-- an errand goes on with one of its steps, and keeps some states -/
inductive Goes (solo : Solo) : List BulbState → Solo → Prop
  | begin {play : Play} (stage : solo.errand.stage = .fresh play) :
    Goes solo (solo.harvest play) (solo.follow play)
  | attempt {next : BulbState → Play} {retries : Nat}
    (stage : solo.errand.stage = .asking next retries) :
    Goes solo [] (solo.attempt next retries).1
  | arrive {next : BulbState → Play} {retries : Nat} (answer : Answer)
    (stage : solo.errand.stage = .asking next retries) :
    Goes solo [] (solo.arrive next retries answer)
  | expire {next : BulbState → Play} {retries : Nat}
    (stage : solo.errand.stage = .asking next retries) :
    Goes solo [] (solo.expire next retries)
  | take {next : BulbState → Play} {retries : Nat} {result : Option (Except Fault Reply)}
    {state : BulbState} (stage : solo.errand.stage = .answered next retries result)
    (verdict : Query.judge solo.errand.handle solo.errand.maxRetries retries result = .take state) :
    Goes solo (solo.harvest (next state)) (solo.follow (next state))
  | again {next : BulbState → Play} {retries more : Nat} {result : Option (Except Fault Reply)}
    (stage : solo.errand.stage = .answered next retries result) :
    Goes solo [] (solo.ask next more)
  | give {next : BulbState → Play} {retries : Nat} {result : Option (Except Fault Reply)}
    (fault : Fault) (stage : solo.errand.stage = .answered next retries result) :
    Goes solo [] (solo.fail fault)
  /-- the cue came too late -/
  | stay : Goes solo [] solo

end Solo

/-! ### The stock of a run -/

/-- what a run has kept for its end, with the store that it will go to -/
structure Stock where
  kept : Option (List BulbState)
  store : Snapshot.Store

/-- some more states are kept -/
def Stock.add (stock : Stock) (states : List BulbState) : Stock :=
  { stock with kept := stock.kept.map fun kept => kept ++ states }

@[simp] lemma Stock.add_nil (stock : Stock) : stock.add [] = stock := by
  obtain ⟨_ | kept, store⟩ := stock <;> simp [Stock.add]

lemma Stock.add_cons (stock : Stock) (state : BulbState) (states : List BulbState) :
    stock.add (state :: states) = (stock.add [state]).add states := by
  obtain ⟨_ | kept, store⟩ := stock <;> simp [Stock.add]

namespace Session

section
variable {ν : Type} [Network ν] {s t : Session ν} {r e : Nat}

def stock (s : Session ν) (r : Nat) : Stock where
  kept := s.runs[r]?.map Run.kept
  store := s.store

lemma stock_modifyRun (s : Session ν) (q : Nat) {change : Run → Run}
    (h : ∀ run, (change run).kept = run.kept) : (s.modifyRun q change).stock r = s.stock r := by
  refine congrArg (Stock.mk · s.store) ?_
  by_cases hq : q = r
  · subst hq
    rw [runs_modifyRun_self, Option.map_map]
    exact congrArg (fun f => Option.map f s.runs[q]?) (funext h)
  · rw [runs_modifyRun_ne hq]

/-- a run keeps one more state -/
lemma stock_keep (s : Session ν) (r : Nat) (state : BulbState) :
    (s.modifyRun r fun run => { run with kept := run.kept ++ [state] }).stock r
      = (s.stock r).add [state] := by
  unfold Session.stock Stock.add
  rw [runs_modifyRun_self, Option.map_map, Option.map_map]
  rfl

@[simp] lemma stock_soon (s : Session ν) (turns : Nat) (cue : Cue) :
    (s.soon turns cue).stock r = s.stock r := rfl

@[simp] lemma stock_dropAwaited (s : Session ν) (i : Nat) :
    (s.dropAwaited i).stock r = s.stock r := rfl

@[simp] lemma stock_setStage (s : Session ν) (i : Nat) (stage : Stage) :
    (s.setStage i stage).stock r = s.stock r := rfl

@[simp] lemma stock_note (s : Session ν) (q : Nat) (deed : Deed) :
    (s.note q deed).stock r = s.stock r :=
  stock_modifyRun s q fun _ => rfl

@[simp] lemma stock_emit (s : Session ν) (q : Nat) (kind : EventKind) (message : String)
    (device : Option String) (data : Option Json) :
    (s.emit q kind message device data).1.stock r = s.stock r := by
  obtain ⟨_, _, _, -, htold⟩ := s.emit_frame q kind message device data
  rw [htold]
  exact stock_modifyRun s q fun _ => rfl

@[simp] lemma stock_post (s : Session ν) (q : Nat) (message : Message) :
    (s.post q message).stock r = s.stock r := by
  obtain ⟨agenda, hposted⟩ := s.post_frame q message
  rw [hposted]
  exact stock_modifyRun s q fun _ => rfl

@[simp] lemma stock_hear (s : Session ν) (client : Nat) (handle : Handle) :
    (s.hear client handle).stock r = s.stock r :=
  hear_induction (p := fun t => t.stock r = s.stock r) rfl (fun _ => rfl)
    (fun q _ => stock_modifyRun s q fun _ => rfl) fun t q ht => (stock_post t q _).trans ht

@[simp] lemma stock_hearAll (s : Session ν) (client : Nat) (handles : List Handle) :
    (s.hearAll client handles).stock r = s.stock r :=
  hearAll_induction (p := fun t => t.stock r = s.stock r) rfl fun t handle _ =>
    (stock_hear t client handle).trans

@[simp] lemma stock_sight (s : Session ν) (client : Nat) (sighting : Sighting) :
    (s.sight client sighting).stock r = s.stock r := by
  obtain ⟨agenda, hsighted⟩ := s.sight_frame client sighting
  rw [hsighted]
  exact stock_hearAll s client sighting.found

@[simp] lemma stock_endRun (s : Session ν) (q : Nat) (outcome : Except Fault Summary) :
    (s.endRun q outcome).stock r = s.stock r := by
  obtain ⟨agenda, turn, hended⟩ := s.endRun_frame q outcome
  rw [hended]
  exact stock_modifyRun s q fun _ => rfl

@[simp] lemma stock_stopSearch (s : Session ν) (q : Nat) (run : Run) :
    (s.stopSearch q run).stock r = s.stock r :=
  stock_modifyRun s q fun _ => rfl

@[simp] lemma stock_checkGathered (s : Session ν) (q : Nat) (fault : Option Fault) :
    (s.checkGathered q fault).stock r = s.stock r := by
  unfold Session.checkGathered
  split
  · rfl
  · split
    · exact stock_modifyRun s q fun _ => rfl
    · rfl

@[simp] lemma stock_conclude (s : Session ν) (i : Nat) (errand : Errand) (isOk : Bool)
    (outcome : Except Fault Reply) : (s.conclude i errand isOk outcome).stock r = s.stock r := by
  unfold Session.conclude
  dsimp only
  split
  · rfl
  · simp

@[simp] lemma stock_fail (s : Session ν) (i : Nat) (errand : Errand) (fault : Fault) :
    (s.fail i errand fault).stock r = s.stock r := by
  unfold Session.fail
  split
  · simp
  · rename_i q _
    have hemit := stock_emit (r := r) (s.note q (.raised errand.handle fault)) q .deviceFailed
      (failureText errand.handle fault) (some errand.handle.name) none
    rw [stock_note] at hemit
    split
    · rename_i t heq
      rw [heq] at hemit
      exact (stock_conclude t i errand false _).trans hemit
    · rename_i t further heq
      rw [heq] at hemit
      exact (stock_conclude t i errand false _).trans hemit

@[simp] lemma stock_ask (s : Session ν) (i : Nat) (errand : Errand) (next : BulbState → Play)
    (retries : Nat) : (s.ask i errand next retries).stock r = s.stock r := by
  unfold Session.ask
  split <;> rfl

@[simp] lemma stock_send (s : Session ν) (errand : Errand) (request : Request) :
    (s.send errand request).1.stock r = s.stock r := rfl

@[simp] lemma stock_settle (s : Session ν) (errand : Errand) (request : Request)
    (answer : Answer) : (s.settle errand request answer).1.stock r = s.stock r :=
  stock_hearAll _ _ _

/-- asking a bulb for its state adds nothing -/
lemma stock_attempt (s : Session ν) (i : Nat) (errand : Errand) :
    (s.attempt i errand).stock r = s.stock r := by
  unfold Session.attempt
  split
  · rename_i next retries _
    have hsent := stock_send (r := r) s errand .read
    revert hsent
    generalize s.send errand .read = sent
    obtain ⟨t, wait, answer⟩ := sent
    intro hsent
    cases wait with
    | atOnce => exact (stock_settle t errand .read answer).trans hsent
    | lasting duration => exact hsent
  · rfl

lemma stock_expire (s : Session ν) (i : Nat) (errand : Errand) :
    (s.expire i errand).stock r = s.stock r := by
  unfold Session.expire
  split <;> rfl

lemma stock_overErrand {i : Nat} {act : Errand → Session ν}
    (hact : ∀ errand, (act errand).stock r = s.stock r) :
    (s.overErrand i act).stock r = s.stock r := by
  unfold Session.overErrand
  split
  · rfl
  · exact hact _

lemma stock_overRun {q : Nat} {act : Run → Session ν}
    (hact : ∀ run, s.runs[q]? = some run → (act run).stock r = s.stock r) :
    (s.overRun q act).stock r = s.stock r :=
  overRun_induction (p := fun t => t.stock r = s.stock r) q rfl hact

/-- a cue that is about neither an errand nor the only run -/
theorem stock_perform_aside (hsole : ∀ q, q ≠ r → s.runs[q]? = none) {cue : Cue}
    (hconcerns : cue.concerns r = false)
    (hnone : ∀ i, cue.isAwaitedBy i = true → s.errands[i]? = none) :
    (s.perform cue).stock r = s.stock r := by
  have hother : ∀ {q : Nat} {act : Run → Session ν}, q ≠ r →
      (s.overRun q act).stock r = s.stock r := by
    intro q act hq
    refine stock_overRun fun run hget => ?_
    rw [hsole q hq] at hget
    cases hget
  have hidle : ∀ {i}, cue.isAwaitedBy i = true → (s.perform cue).stock r = s.stock r := by
    intro i hawait
    rw [s.perform_idle hawait (by simp [hnone i hawait])]
  cases cue with
  | signal signal => exact stock_sight _ _ _
  | clock q => exact stock_overRun fun run _ => rfl
  | tick q => exact stock_overRun fun run _ => stock_post s q .tick
  | drained q fault =>
    cases fault with
    | none => exact hother (by simpa [Cue.concerns, Cue.isWakeOf, Cue.isCalmOf, Cue.isHaltOf,
        Cue.isEntryOf] using hconcerns)
    | some fault => exact stock_endRun s q _
  | retire i => rfl
  | alarm => rfl
  | begin i => exact hidle (beq_self_eq_true i)
  | attempt i => exact hidle (beq_self_eq_true i)
  | arrive i request answer => exact hidle (beq_self_eq_true i)
  | expire i => exact hidle (beq_self_eq_true i)
  | resume i => exact hidle (beq_self_eq_true i)
  | _ q => exact hother (by simpa [Cue.concerns, Cue.isWakeOf, Cue.isCalmOf, Cue.isHaltOf,
      Cue.isEntryOf] using hconcerns)

end

section
variable {s t : Session Bench} {r e : Nat} {solo : Solo} {cues : Agenda Cue} {cue : Cue}

/-- going through a play adds what is kept on the way: by induction on what is left of it -/
theorem Has.stock_follow (h : s.Has r e solo cues) {errand : Errand} (hrun : errand.run = some r)
    (ho : solo.IsOf errand) {play : Play} (hquick : play.IsQuick) :
    (s.follow e errand play).stock r = (s.stock r).add (solo.harvest play) := by
  induction play generalizing s solo with
  | done reply => exact (stock_conclude s e errand true _).trans (Stock.add_nil _).symm
  | ask next => exact hquick.elim
  | keep state next ih =>
    have hhas : (s.modifyRun r fun run => { run with kept := run.kept ++ [state] }).Has r e solo
        cues := h.spares (Spares.modifyRun s r (fun _ => rfl) (fun _ => rfl) fun _ _ => .inl)
    unfold Session.follow
    simp only [hrun]
    rw [ih hhas ho hquick, stock_keep]
    exact (Stock.add_cons _ state _).symm
  | report message data next ih =>
    obtain ⟨t, hemit, ht⟩ := h.emit .deviceReport message (some errand.handle.name) data
    have hsame := stock_emit (r := r) s r .deviceReport message (some errand.handle.name) data
    rw [hemit] at hsame
    unfold Session.follow
    simp only [hrun, hemit]
    rw [ih ht ho hquick, hsame]
    rfl
  | send request next ih =>
    obtain ⟨network, hhas, ho', hfollow⟩ := h.request ho hquick.1 next
    rw [hfollow, Solo.harvest]
    cases (solo.request request).2 with
    | ok reply => exact ih reply hhas ho' (hquick.2 reply)
    | error fault => exact (stock_fail _ e errand fault).trans (Stock.add_nil _).symm

/-- an errand that goes on with one of its cues adds to the stock what it keeps with it -/
theorem Has.goes (h : s.Has r e solo cues) (hdue : solo.errand.Due e cue cues.cues) :
    ∃ solo' states cues', solo.Goes states solo' ∧ (s.perform cue).Has r e solo' cues' ∧
      (s.perform cue).stock r = (s.stock r).add states := by
  obtain ⟨errand, he, hstage', hrun, ho⟩ := h.errand
  generalize hrest : cues.cues = rest at hdue
  cases hdue with
  | @begin play stage plain =>
    rw [stage] at hstage'
    have hhas := h.begin stage plain (Agenda.cleared_of_cues hrest)
    refine ⟨_, _, _, .begin stage, hhas, ?_⟩
    have hperform : s.perform (.begin e) = s.follow e errand play := by
      simp only [Session.perform, Session.overErrand, he, Session.begin, hstage']
    rw [hperform]
    cases play with
    | ask next => exact (stock_ask s e errand next 0).trans (Stock.add_nil _).symm
    | _ => exact h.stock_follow hrun ho plain
  | attempt stage quick perm =>
    refine ⟨_, _, _, .attempt stage, h.attempt stage, ?_⟩
    rw [Stock.add_nil]
    exact stock_overErrand fun errand => stock_attempt s e errand
  | @arrive next retries rest answer stage quick perm =>
    rw [stage] at hstage'
    refine ⟨_, _, _, .arrive answer stage, h.arrive stage answer, ?_⟩
    rw [Stock.add_nil]
    simp only [Session.perform, Session.overErrand, he, Session.arrive, hstage']
    exact stock_settle s errand .read answer
  | expire stage quick =>
    refine ⟨_, _, _, .expire stage, h.expire stage, ?_⟩
    rw [Stock.add_nil]
    exact stock_overErrand fun errand => stock_expire s e errand
  | @resume next retries result rest stage quick =>
    rw [stage] at hstage'
    have hhas := h.resume stage quick
    have hsame : errand.handle = solo.errand.handle ∧
        errand.maxRetries = solo.errand.maxRetries := by
      obtain ⟨stage, hsolo⟩ := ho
      rw [hsolo]
      exact ⟨rfl, rfl⟩
    simp only [Session.perform, Session.overErrand, he, Session.resume, hstage', hsame, Solo.resume]
      at hhas ⊢
    cases hjudge : Query.judge solo.errand.handle solo.errand.maxRetries retries result with
    | take state =>
      rw [hjudge] at hhas
      exact ⟨_, _, _, .take stage hjudge, hhas, h.dropAwaited.stock_follow hrun ho (quick state)⟩
    | again more =>
      rw [hjudge] at hhas
      exact ⟨_, _, _, .again stage, hhas,
        (stock_ask _ e errand next more).trans (Stock.add_nil _).symm⟩
    | give fault =>
      rw [hjudge] at hhas
      exact ⟨_, _, _, .give fault stage, hhas,
        (stock_fail _ e errand fault).trans (Stock.add_nil _).symm⟩
  | late stage quick =>
    rw [h.perform_late stage]
    exact ⟨_, _, _, .stay, h, (Stock.add_nil _).symm⟩

end

end Session

end Lamplighter
