import Lamplighter.Proofs.Run.Alone

/-!
# Captures: the effects that ask for a state and keep it

* `Errand.IsCapture`  an effect that has yet to ask for a state, or to keep the state it asked for;
* `Session.Furthers`  such an effect goes on to another stage, and the run keeps what it took;
* `Session.reading`   the state that an effect takes with a cue, and the bulb that it is of;
* `furthers_perform`  an effect goes on with a cue that it waits for, and the run keeps the reading;
* `moves_perform`     whatever cue is performed that the run itself does not wait for, at most one
                      effect goes on, and the run keeps the reading.
-/

set_option linter.unusedSectionVars false

namespace Lamplighter

open Deeds

/-! ### Effects that capture a state -/

/-- what is left to do once the state is there -/
def captured (handle : Handle) (state : BulbState) : Play :=
  .keep state (.report ("Captured state of " ++ handle.name) none .finish)

namespace Errand

/-- the errand has yet to ask for the state of its bulb, or to keep the state it asked for -/
def IsCapture (errand : Errand) : Prop :=
  match errand.stage with
  | .fresh play => play = .ask (captured errand.handle)
  | .asking next _ => next = captured errand.handle
  | .answered next _ _ => next = captured errand.handle
  | .sending _ => False
  | .over _ => True

/-- the state that the errand is about to take -/
def taken? (errand : Errand) : Option BulbState :=
  match errand.stage with
  | .answered _ retries result =>
    match Query.judge errand.handle errand.maxRetries retries result with
    | .take state => some state
    | _ => none
  | _ => none

/-- an errand goes on, or ends when it takes a state -/
structure Goes (errand : Errand) (taken : Option BulbState) (errand' : Errand) : Prop where
  handle : errand'.handle = errand.handle
  capture : errand'.IsCapture
  stays : errand.isOver = true → errand'.isOver = true ∧ taken = none
  ended : taken ≠ none → errand'.isOver = true

variable {errand errand' : Errand} {taken : Option BulbState}

lemma Goes.refl (h : errand.IsCapture) : errand.Goes none errand :=
  ⟨rfl, h, fun hover => ⟨hover, rfl⟩, fun hne => absurd rfl hne⟩

lemma Goes.on (hopen : errand.isOver = false) {stage : Stage}
    (h : { errand with stage }.IsCapture) : errand.Goes none { errand with stage } :=
  ⟨rfl, h, fun hover => absurd (hopen.symm.trans hover) (by decide), fun hne => absurd rfl hne⟩

lemma Goes.ends (errand : Errand) (outcome : Except Fault Reply) :
    errand.Goes none { errand with stage := .over outcome } :=
  ⟨rfl, trivial, fun _ => ⟨rfl, rfl⟩, fun _ => rfl⟩

lemma Goes.takes (hopen : errand.isOver = false) (state : BulbState)
    (outcome : Except Fault Reply) :
    errand.Goes (some state) { errand with stage := .over outcome } :=
  ⟨rfl, trivial, fun hover => absurd (hopen.symm.trans hover) (by decide), fun _ => rfl⟩

lemma IsCapture.calledOffBy (h : errand.IsCapture) (q : Nat) : (errand.calledOffBy q).IsCapture := by
  unfold Errand.calledOffBy
  split
  · rcases calledOff_cases errand with hsame | hover
    · rw [hsame]
      exact h
    · rw [hover]
      simp [IsCapture]
  · exact h

lemma handle_calledOffBy (errand : Errand) (q : Nat) :
    (errand.calledOffBy q).handle = errand.handle := by
  unfold Errand.calledOffBy
  split
  · rcases calledOff_cases errand with h | h <;> rw [h]
  · rfl

lemma isOver_calledOffBy (h : errand.isOver = true) (q : Nat) :
    (errand.calledOffBy q).isOver = true := by
  unfold Errand.calledOffBy
  split
  · rcases calledOff_cases errand with hsame | hover
    · rw [hsame]
      exact h
    · rw [hover]
      rfl
  · exact h

end Errand

namespace Session

section
variable {ν : Type} {s t : Session ν} {e : Nat} {errand errand' : Errand} {taken : Option BulbState}

/-! ### The errands after a step -/

lemma errands_setStage (h : t.errands = s.errands) (e : Nat) (stage : Stage) :
    (t.setStage e stage).errands = (s.setStage e stage).errands :=
  congrArg (fun errands : List Errand => errands.modify e _) h

lemma errands_checkGathered (s : Session ν) (q : Nat) (fault : Option Fault) :
    (s.checkGathered q fault).errands = s.errands := by
  unfold Session.checkGathered
  split
  · rfl
  · split <;> rfl

lemma errands_conclude (s : Session ν) (e : Nat) (errand : Errand) (isOk : Bool)
    (outcome : Except Fault Reply) :
    (s.conclude e errand isOk outcome).errands = (s.setStage e (.over outcome)).errands := by
  unfold Session.conclude
  dsimp only
  split
  · rfl
  · rename_i q _
    rw [errands_checkGathered]
    exact errands_post _ q _

lemma errands_fail (s : Session ν) (e : Nat) (errand : Errand) (fault : Fault) :
    ∃ outcome, (s.fail e errand fault).errands = (s.setStage e (.over outcome)).errands := by
  have hstage : ∀ (t : Session ν), t.errands = s.errands → ∀ outcome,
      (t.conclude e errand false outcome).errands = (s.setStage e (.over outcome)).errands := by
    intro t ht outcome
    rw [errands_conclude]
    exact errands_setStage ht e _
  unfold Session.fail
  split
  · exact ⟨_, hstage s rfl _⟩
  · rename_i q _
    have hemit := errands_emit (s.note q (.raised errand.handle fault)) q .deviceFailed
      (failureText errand.handle fault) (some errand.handle.name) none
    split
    · rename_i t heq
      rw [heq] at hemit
      exact ⟨_, hstage t hemit _⟩
    · rename_i t further heq
      rw [heq] at hemit
      exact ⟨_, hstage t hemit _⟩

/-! ### Steps of an effect that captures a state -/

/-- an errand goes on in a session, and the run keeps what it took -/
structure Furthers (s t : Session ν) (errand errand' : Errand) (taken : Option BulbState) : Prop where
  goes : errand.Goes taken errand'
  split : ∃ older newer, s.errands = older ++ errand :: newer ∧ t.errands = older ++ errand' :: newer
  stock : t.stock 0 = (s.stock 0).add taken.toList

/-- the errand goes on to another stage -/
lemma Furthers.of_stage (he : s.errands[e]? = some errand) (stage : Stage)
    (herrands : t.errands = (s.setStage e stage).errands)
    (hgoes : errand.Goes taken { errand with stage })
    (hstock : t.stock 0 = (s.stock 0).add taken.toList) :
    s.Furthers t errand { errand with stage } taken := by
  obtain ⟨older, newer, hs, hchange⟩ := errands_split he
  exact ⟨hgoes, ⟨older, newer, hs, herrands.trans (hchange _)⟩, hstock⟩

lemma Furthers.refl (he : s.errands[e]? = some errand) (h : errand.IsCapture) :
    s.Furthers s errand errand none := by
  obtain ⟨older, newer, hs, -⟩ := errands_split he
  exact ⟨.refl h, ⟨older, newer, hs, hs⟩, (Stock.add_nil _).symm⟩

variable [Network ν]

lemma furthers_fail (he : s.errands[e]? = some errand) {u : Session ν} (hu : u.errands = s.errands)
    (hstock : u.stock 0 = s.stock 0) (fault : Fault) :
    ∃ errand', s.Furthers (u.fail e errand fault) errand errand' none := by
  obtain ⟨outcome, herrands⟩ := errands_fail u e errand fault
  refine ⟨_, .of_stage he (.over outcome) ?_ (.ends _ _) ?_⟩
  · rw [herrands]
    exact errands_setStage hu e _
  · rw [stock_fail, hstock]
    exact (Stock.add_nil _).symm

lemma furthers_ask (he : s.errands[e]? = some errand) (hopen : errand.isOver = false) {u : Session ν}
    (hu : u.errands = s.errands) (hstock : u.stock 0 = s.stock 0) (retries : Nat) :
    ∃ errand', s.Furthers (u.ask e errand (captured errand.handle) retries) errand errand' none := by
  have hnone : (u.ask e errand (captured errand.handle) retries).stock 0
      = (s.stock 0).add (none : Option BulbState).toList := by
    rw [stock_ask, hstock]
    exact (Stock.add_nil _).symm
  revert hnone
  unfold Session.ask
  split
  · exact fun hnone => ⟨_, .of_stage he (.answered (captured errand.handle) retries none)
      (errands_setStage hu e _) (.on hopen rfl) hnone⟩
  · exact fun hnone => ⟨_, .of_stage he (.asking (captured errand.handle) retries)
      (errands_setStage hu e _) (.on hopen rfl) hnone⟩

/-- a request for the state has come to something -/
lemma furthers_answer (he : s.errands[e]? = some errand) (hopen : errand.isOver = false)
    {u : Session ν} (hu : u.errands = s.errands) (hstock : u.stock 0 = s.stock 0) (retries : Nat)
    (result : Except Fault Reply) :
    ∃ errand', s.Furthers (u.answer e (captured errand.handle) retries result) errand errand' none := by
  refine ⟨_, .of_stage he (.answered (captured errand.handle) retries (some result))
    (errands_setStage hu e _) (.on hopen rfl) ?_⟩
  exact hstock.trans (Stock.add_nil _).symm

/-- the state is kept, whether or not the report gets through -/
lemma furthers_follow (he : s.errands[e]? = some errand) (hopen : errand.isOver = false)
    (hrun : errand.run = some 0) {u : Session ν} (hu : u.errands = s.errands)
    (hstock : u.stock 0 = s.stock 0) (state : BulbState) :
    ∃ errand', s.Furthers (u.follow e errand (captured errand.handle state)) errand errand'
      (some state) := by
  have hkept : (u.modifyRun 0 fun run => { run with kept := run.kept ++ [state] }).stock 0
      = (s.stock 0).add [state] := by
    rw [stock_keep, hstock]
  have hemit := errands_emit (u.modifyRun 0 fun run => { run with kept := run.kept ++ [state] }) 0
    .deviceReport ("Captured state of " ++ errand.handle.name) (some errand.handle.name) none
  have hsame := stock_emit (r := 0)
    (u.modifyRun 0 fun run => { run with kept := run.kept ++ [state] }) 0
    .deviceReport ("Captured state of " ++ errand.handle.name) (some errand.handle.name) none
  unfold captured
  simp only [Session.follow, hrun]
  revert hemit hsame
  generalize Session.emit _ 0 .deviceReport ("Captured state of " ++ errand.handle.name)
    (some errand.handle.name) none = out
  obtain ⟨t, _ | fault⟩ := out
  · intro hemit hsame
    refine ⟨_, .of_stage he (.over (.ok .nothing)) ?_ (.takes hopen state _) ?_⟩
    · dsimp only [Play.finish, Session.follow]
      rw [errands_conclude]
      exact errands_setStage (hemit.trans hu) e _
    · exact (stock_conclude t e errand true _).trans (hsame.trans hkept)
  · intro hemit hsame
    obtain ⟨outcome, herrands⟩ := errands_fail t e errand fault
    refine ⟨_, .of_stage he (.over outcome) ?_ (.takes hopen state _) ?_⟩
    · dsimp only
      rw [herrands]
      exact errands_setStage (hemit.trans hu) e _
    · exact (stock_fail t e errand fault).trans (hsame.trans hkept)

lemma furthers_begin (he : s.errands[e]? = some errand) (hcapture : errand.IsCapture) :
    ∃ errand', s.Furthers (s.begin e errand) errand errand' none := by
  have hstays : s.Furthers s errand errand none := .refl he hcapture
  unfold Errand.IsCapture at hcapture
  unfold Session.begin
  split
  · rename_i play hstage
    simp only [hstage] at hcapture
    subst hcapture
    exact furthers_ask he (Errand.isOver_of_ne (by simp [hstage])) rfl rfl 0
  · exact ⟨_, hstays⟩

lemma furthers_attempt (he : s.errands[e]? = some errand) (hcapture : errand.IsCapture) :
    ∃ errand', s.Furthers (s.attempt e errand) errand errand' none := by
  have hstays : s.Furthers s errand errand none := .refl he hcapture
  unfold Errand.IsCapture at hcapture
  unfold Session.attempt
  split
  · rename_i next retries hstage
    simp only [hstage] at hcapture
    subst hcapture
    have hsent : (s.send errand .read).1.errands = s.errands := rfl
    have hstock := stock_send (r := 0) s errand .read
    revert hsent hstock
    generalize s.send errand .read = sent
    obtain ⟨t, wait, answer⟩ := sent
    intro hsent hstock
    cases wait with
    | atOnce =>
      exact furthers_answer he (Errand.isOver_of_ne (by simp [hstage]))
        ((errands_settle t errand .read answer).trans hsent)
        ((stock_settle t errand .read answer).trans hstock) retries _
    | lasting duration =>
      obtain ⟨hgoes, ⟨older, newer, hold, hnew⟩, hsame⟩ := hstays
      exact ⟨_, hgoes, ⟨older, newer, hold, hsent.trans hnew⟩, hstock.trans hsame⟩
  · exact ⟨_, hstays⟩

lemma furthers_arrive (he : s.errands[e]? = some errand) (hcapture : errand.IsCapture)
    (request : Request) (answer : Answer) :
    ∃ errand', s.Furthers (s.arrive e errand request answer) errand errand' none := by
  have hstays : s.Furthers s errand errand none := .refl he hcapture
  unfold Errand.IsCapture at hcapture
  unfold Session.arrive
  split
  · rename_i next retries hstage
    simp only [hstage] at hcapture
    subst hcapture
    exact furthers_answer he (Errand.isOver_of_ne (by simp [hstage]))
      (errands_settle s errand request answer) (stock_settle s errand request answer) retries _
  · rename_i next hstage
    simp only [hstage] at hcapture
  · exact ⟨_, hstays⟩

lemma furthers_expire (he : s.errands[e]? = some errand) (hcapture : errand.IsCapture) :
    ∃ errand', s.Furthers (s.expire e errand) errand errand' none := by
  have hstays : s.Furthers s errand errand none := .refl he hcapture
  have hnone := stock_expire (r := 0) s e errand
  unfold Errand.IsCapture at hcapture
  revert hnone
  unfold Session.expire
  split
  · rename_i next retries hstage
    simp only [hstage] at hcapture
    subst hcapture
    intro hnone
    have hopen : errand.isOver = false := Errand.isOver_of_ne (by simp [hstage])
    exact ⟨_, .of_stage he (.answered (captured errand.handle) retries none) rfl
      (.on hopen rfl) (hnone.trans (Stock.add_nil _).symm)⟩
  · exact fun _ => ⟨_, hstays⟩

/-! ### What an effect reads -/

/-- the effect takes the state that its request has come to, if it has come to one -/
lemma furthers_resume (he : s.errands[e]? = some errand) (hrun : errand.run = some 0)
    (hcapture : errand.IsCapture) :
    ∃ errand', s.Furthers (s.resume e errand) errand errand' errand.taken? := by
  have hstays : s.Furthers s errand errand none := .refl he hcapture
  unfold Errand.IsCapture at hcapture
  unfold Session.resume Errand.taken?
  cases hstage : errand.stage with
  | answered next retries result =>
    simp only [hstage] at hcapture
    subst hcapture
    have hopen : errand.isOver = false := Errand.isOver_of_ne (by simp [hstage])
    dsimp only
    cases Query.judge errand.handle errand.maxRetries retries result with
    | take state =>
      exact furthers_follow he hopen hrun (u := s.dropAwaited e) rfl rfl state
    | again more => exact furthers_ask he hopen (u := s.dropAwaited e) rfl rfl more
    | give fault => exact furthers_fail he (u := s.dropAwaited e) rfl rfl fault
  | _ => exact ⟨_, hstays⟩

/-- the state that an effect takes with a cue, and the bulb that it is of -/
def reading (s : Session ν) : Cue → Option (Handle × BulbState)
  | .resume e => (s.errands[e]?).bind fun errand =>
      errand.taken?.map fun state => (errand.handle, state)
  | _ => none

/-- an effect goes on with a cue that it waits for, and the run keeps what it reads -/
theorem furthers_perform (he : s.errands[e]? = some errand) (hrun : errand.run = some 0)
    (hcapture : errand.IsCapture) {cue : Cue} (hcue : cue.isAwaitedBy e = true) :
    ∃ errand' taken, s.Furthers (s.perform cue) errand errand' taken ∧
      s.reading cue = taken.map fun state => (errand.handle, state) := by
  have hact : ∀ act : Errand → Session ν, s.overErrand e act = act errand := by
    intro act
    rw [overErrand, he]
  cases cue with
  | begin i =>
    obtain rfl : i = e := by simpa [Cue.isAwaitedBy] using hcue
    obtain ⟨errand', hgoes⟩ := furthers_begin he hcapture
    exact ⟨errand', none, by rwa [Session.perform, hact], rfl⟩
  | attempt i =>
    obtain rfl : i = e := by simpa [Cue.isAwaitedBy] using hcue
    obtain ⟨errand', hgoes⟩ := furthers_attempt he hcapture
    exact ⟨errand', none, by rwa [Session.perform, hact], rfl⟩
  | arrive i request answer =>
    obtain rfl : i = e := by simpa [Cue.isAwaitedBy] using hcue
    obtain ⟨errand', hgoes⟩ := furthers_arrive he hcapture request answer
    exact ⟨errand', none, by rwa [Session.perform, hact], rfl⟩
  | expire i =>
    obtain rfl : i = e := by simpa [Cue.isAwaitedBy] using hcue
    obtain ⟨errand', hgoes⟩ := furthers_expire he hcapture
    exact ⟨errand', none, by rwa [Session.perform, hact], rfl⟩
  | resume i =>
    obtain rfl : i = e := by simpa [Cue.isAwaitedBy] using hcue
    obtain ⟨errand', hgoes⟩ := furthers_resume he hrun hcapture
    refine ⟨errand', errand.taken?, by rwa [Session.perform, hact], ?_⟩
    rw [reading, he, Option.bind_some]
  | _ => simp [Cue.isAwaitedBy] at hcue

/-! ### Whatever cue is performed -/

/-- all effects are left alone, or one goes on and the run keeps what it took -/
inductive Moves (s t : Session ν) : Option (Handle × BulbState) → Prop
  | still (errands : t.errands = s.errands) (stock : t.stock 0 = s.stock 0) : Moves s t none
  | goes {errand errand' : Errand} {taken : Option BulbState}
    (goes : s.Furthers t errand errand' taken) :
    Moves s t (taken.map fun state => (errand.handle, state))

/-- a cue that is about neither an errand nor the only run leaves the errands alone -/
lemma errands_perform_aside (hsole : ∀ q, q ≠ 0 → s.runs[q]? = none) {cue : Cue}
    (hconcerns : cue.concerns 0 = false) (hretire : ∀ e, cue ≠ .retire e)
    (hnone : ∀ e, cue.isAwaitedBy e = true → s.errands[e]? = none) :
    (s.perform cue).errands = s.errands := by
  have hother : ∀ {q : Nat} {act : Run → Session ν}, q ≠ 0 →
      (s.overRun q act).errands = s.errands := by
    intro q act hq
    rw [overRun, hsole q hq]
  have hidle : ∀ {e}, cue.isAwaitedBy e = true → (s.perform cue).errands = s.errands := by
    intro e hawait
    rw [s.perform_idle hawait (by simp [hnone e hawait])]
  have hhere : ∀ {q : Nat} {act : Run → Session ν}, (∀ run, (act run).errands = s.errands) →
      (s.overRun q act).errands = s.errands := fun hact =>
    overRun_induction (p := fun t => t.errands = s.errands) _ rfl fun run _ => hact run
  cases cue with
  | signal signal => exact errands_sight _ _ _
  | clock q => exact hhere fun _ => rfl
  | tick q => exact hhere fun _ => errands_post s q .tick
  | drained q fault =>
    cases fault with
    | none => exact hother (by simpa [Cue.concerns, Cue.isWakeOf, Cue.isCalmOf, Cue.isHaltOf,
        Cue.isEntryOf] using hconcerns)
    | some fault => exact errands_endRun s q _
  | retire e => exact absurd rfl (hretire e)
  | alarm => rfl
  | begin e => exact hidle (beq_self_eq_true e)
  | attempt e => exact hidle (beq_self_eq_true e)
  | arrive e request answer => exact hidle (beq_self_eq_true e)
  | expire e => exact hidle (beq_self_eq_true e)
  | resume e => exact hidle (beq_self_eq_true e)
  | _ q => exact hother (by simpa [Cue.concerns, Cue.isWakeOf, Cue.isCalmOf, Cue.isHaltOf,
      Cue.isEntryOf] using hconcerns)

/-- an errand that is no longer counted stays as it is otherwise -/
lemma moves_retire (hcaptures : ∀ errand ∈ s.errands, errand.IsCapture) (e : Nat) :
    s.Moves (s.perform (.retire e)) none := by
  cases he : s.errands[e]? with
  | none =>
    refine .still (List.modify_eq_self ?_) rfl
    exact List.getElem?_eq_none_iff.mp he
  | some errand =>
    obtain ⟨older, newer, hs, hchange⟩ := errands_split he
    have hcapture : errand.IsCapture := hcaptures errand (List.mem_of_getElem? he)
    have hgoes : s.Furthers (s.perform (.retire e)) errand { errand with isAttached := false } none :=
      ⟨⟨rfl, hcapture, fun hover => ⟨hover, rfl⟩, fun hne => absurd rfl hne⟩,
        ⟨older, newer, hs, hchange _⟩, (Stock.add_nil _).symm⟩
    exact .goes hgoes

/-- with a cue that does not concern the only run at most one effect goes on, and what is read is kept -/
theorem moves_perform (hsole : ∀ q, q ≠ 0 → s.runs[q]? = none)
    (hown : ∀ errand ∈ s.errands, errand.run = some 0)
    (hcaptures : ∀ errand ∈ s.errands, errand.IsCapture) {cue : Cue}
    (hconcerns : cue.concerns 0 = false) : s.Moves (s.perform cue) (s.reading cue) := by
  by_cases hretire : ∃ e, cue = .retire e
  · obtain ⟨e, rfl⟩ := hretire
    exact moves_retire hcaptures e
  · have hretire : ∀ e, cue ≠ .retire e := fun e he => hretire ⟨e, he⟩
    by_cases hawait : ∃ e errand, cue.isAwaitedBy e = true ∧ s.errands[e]? = some errand
    · obtain ⟨e, errand, hcue, he⟩ := hawait
      have hmem := List.mem_of_getElem? he
      obtain ⟨errand', taken, hgoes, hreading⟩ :=
        furthers_perform he (hown errand hmem) (hcaptures errand hmem) hcue
      rw [hreading]
      exact .goes hgoes
    · have hnone : ∀ e, cue.isAwaitedBy e = true → s.errands[e]? = none := by
        intro e hcue
        by_contra hsome
        obtain ⟨errand, he⟩ := Option.ne_none_iff_exists'.mp hsome
        exact hawait ⟨e, errand, hcue, he⟩
      have hreading : s.reading cue = none := by
        cases cue with
        | resume e =>
          rw [reading, hnone e (by simp [Cue.isAwaitedBy]), Option.bind_none]
        | _ => rfl
      rw [hreading]
      exact .still (errands_perform_aside hsole hconcerns hretire hnone)
        (stock_perform_aside hsole hconcerns hnone)

end

end Session

end Lamplighter
