import Mathlib.Tactic.Lemma
import Lamplighter.Run.Session

/-!
# The steps of an errand, case by case

* `Session.Stepping`   what a step of an errand is made of: states are kept, reports are told and
                       requests are sent and settled, until the errand waits for something or ends;
* `Session.Stirring`   what a cue comes to that an errand waits for: nothing, or a step;
* `perform_course`     so it is, whichever cue it is;
* `perform_idle`       it is nothing if the errand is over, or is not there.

What every step of an errand keeps is proved by these cases.  Where it matters which step it is, and
what it comes to, the functions that make errands go on are opened.
-/

namespace Lamplighter

lemma Errand.isOver_of_ne {errand : Errand} (h : ∀ outcome, errand.stage ≠ .over outcome) :
    errand.isOver = false := by
  unfold isOver outcome?
  split
  · rename_i outcome hstage
    exact absurd hstage (h outcome)
  · rfl

namespace Session

variable {ν : Type} [Network ν] {s t : Session ν} {e : Nat} {errand : Errand}

/-- what a step of an errand is made of, the first thing first -/
inductive Stepping (e : Nat) (errand : Errand) : Session ν → Session ν → Prop
  | ends (s : Session ν) (reply : Reply) :
    Stepping e errand s (s.conclude e errand true (.ok reply))
  | fails (s : Session ν) (fault : Fault) : Stepping e errand s (s.fail e errand fault)
  /-- it asks for the state of its bulb, with some time to answer -/
  | asks (s : Session ν) (next : BulbState → Play) (retries : Nat) :
    Stepping e errand s { s.setStage e (.asking next retries) with
      agenda := (s.agenda.after errand.timeout 1 (.expire e)).soon 0 (.attempt e) }
  /-- there is no answer in time -/
  | lapses (s : Session ν) (next : BulbState → Play) (retries : Nat) :
    Stepping e errand s ((s.setStage e (.answered next retries none)).soon 2 (.resume e))
  | answers (s : Session ν) (next : BulbState → Play) (retries : Nat)
    (result : Except Fault Reply) : Stepping e errand s (s.answer e next retries result)
  /-- a request for the state takes its time -/
  | pauses (s : Session ν) (duration : Duration) (request : Request) (answer : Answer) :
    Stepping e errand s { s with agenda := s.agenda.pause duration (.arrive e request answer) }
  /-- so does a request of another kind -/
  | waits (s : Session ν) (next : Reply → Play) (duration : Duration) (request : Request)
    (answer : Answer) : Stepping e errand s { s.setStage e (.sending next) with
      agenda := s.agenda.pause duration (.arrive e request answer) }
  | drops {s t : Session ν} (rest : Stepping e errand (s.dropAwaited e) t) : Stepping e errand s t
  | keeps {s t : Session ν} {r : Nat} (mine : errand.run = some r) (state : BulbState)
    (rest : Stepping e errand (s.modifyRun r fun run => { run with kept := run.kept ++ [state] }) t) :
    Stepping e errand s t
  | reports {s t : Session ν} {r : Nat} (mine : errand.run = some r) (message : String)
    (data : Option Json)
    (rest : Stepping e errand
      (s.emit r .deviceReport message (some errand.handle.name) data).1 t) : Stepping e errand s t
  | sends {s t : Session ν} (request : Request) (rest : Stepping e errand (s.send errand request).1 t) :
    Stepping e errand s t
  | settles {s t : Session ν} (request : Request) (answer : Answer)
    (rest : Stepping e errand (s.settle errand request answer).1 t) : Stepping e errand s t

/-- what a cue comes to that an errand waits for: it comes too late, or the errand takes a step -/
inductive Stirring (e : Nat) (s t : Session ν) : Prop
  | late (result : t = s)
  | steps {errand : Errand} (here : s.errands[e]? = some errand) (isOpen : errand.isOver = false)
    (stepping : Stepping e errand s t)

namespace Stepping

/-! ### Asking for a state, and going through a play -/

lemma ask (s : Session ν) (next : BulbState → Play) (retries : Nat) :
    Stepping e errand s (s.ask e errand next retries) := by
  unfold Session.ask
  split
  · exact .lapses s next retries
  · exact .asks s next retries

/-- by induction on what is left of the play -/
theorem follow (s : Session ν) (play : Play) : Stepping e errand s (s.follow e errand play) := by
  induction play generalizing s with
  | done reply => exact .ends s reply
  | ask next => exact ask s next 0
  | keep state next ih =>
    unfold Session.follow
    split
    · exact ih s
    · rename_i r hr
      exact .keeps hr state (ih _)
  | report message data next ih =>
    unfold Session.follow
    split
    · exact ih s
    · rename_i r hr
      refine .reports hr message data ?_
      split
      · rename_i t heq
        rw [heq]
        exact ih t
      · rename_i t fault heq
        rw [heq]
        exact .fails t fault
  | send request next ih =>
    refine .sends request ?_
    unfold Session.follow
    generalize s.send errand request = sent
    obtain ⟨t, wait, answer⟩ := sent
    cases wait with
    | atOnce =>
      refine .settles request answer ?_
      dsimp only
      generalize t.settle errand request answer = settled
      obtain ⟨u, fault | reply⟩ := settled
      · exact .fails u fault
      · exact ih reply u
    | lasting duration => exact .waits t next duration request answer

end Stepping

/-! ### Performing a cue -/

namespace Stirring

lemma begin (he : s.errands[e]? = some errand) : Stirring e s (s.begin e errand) := by
  unfold Session.begin
  split
  · rename_i play hstage
    exact .steps he (Errand.isOver_of_ne (by simp [hstage])) (.follow s play)
  · exact .late rfl

lemma attempt (he : s.errands[e]? = some errand) : Stirring e s (s.attempt e errand) := by
  unfold Session.attempt
  split
  · rename_i next retries hstage
    refine .steps he (Errand.isOver_of_ne (by simp [hstage])) (.sends .read ?_)
    generalize s.send errand .read = sent
    obtain ⟨t, wait, answer⟩ := sent
    cases wait with
    | atOnce => exact .settles .read answer (.answers _ next retries _)
    | lasting duration => exact .pauses t duration .read answer
  · exact .late rfl

lemma arrive (he : s.errands[e]? = some errand) (request : Request) (answer : Answer) :
    Stirring e s (s.arrive e errand request answer) := by
  unfold Session.arrive
  split
  · rename_i next retries hstage
    exact .steps he (Errand.isOver_of_ne (by simp [hstage]))
      (.settles request answer (.answers _ next retries _))
  · rename_i next hstage
    refine .steps he (Errand.isOver_of_ne (by simp [hstage])) (.settles request answer ?_)
    generalize s.settle errand request answer = settled
    obtain ⟨t, fault | reply⟩ := settled
    · exact .fails t fault
    · exact .follow t (next reply)
  · exact .late rfl

lemma expire (he : s.errands[e]? = some errand) : Stirring e s (s.expire e errand) := by
  unfold Session.expire
  split
  · rename_i next retries hstage
    exact .steps he (Errand.isOver_of_ne (by simp [hstage])) (.drops (.lapses _ next retries))
  · exact .late rfl

lemma resume (he : s.errands[e]? = some errand) : Stirring e s (s.resume e errand) := by
  unfold Session.resume
  split
  · rename_i next retries result hstage
    refine .steps he (Errand.isOver_of_ne (by simp [hstage])) (.drops ?_)
    dsimp only
    split
    · exact .follow _ _
    · exact .ask _ next _
    · exact .fails _ _
  · exact .late rfl

end Stirring

theorem perform_course (s : Session ν) {cue : Cue} (hcue : cue.isAwaitedBy e = true) :
    Stirring e s (s.perform cue) := by
  have hact : ∀ act : Errand → Session ν, (∀ errand, s.errands[e]? = some errand →
      Stirring e s (act errand)) → Stirring e s (s.overErrand e act) := by
    intro act hact
    unfold Session.overErrand
    split
    · exact .late rfl
    · rename_i errand he
      exact hact errand he
  cases cue with
  | begin i =>
    obtain rfl := beq_iff_eq.mp hcue
    exact hact _ fun errand he => .begin he
  | attempt i =>
    obtain rfl := beq_iff_eq.mp hcue
    exact hact _ fun errand he => .attempt he
  | arrive i request answer =>
    obtain rfl := beq_iff_eq.mp hcue
    exact hact _ fun errand he => .arrive he request answer
  | expire i =>
    obtain rfl := beq_iff_eq.mp hcue
    exact hact _ fun errand he => .expire he
  | resume i =>
    obtain rfl := beq_iff_eq.mp hcue
    exact hact _ fun errand he => .resume he
  | _ => cases hcue

/-- a cue does nothing for an errand that is over, or that there is not -/
lemma perform_idle (s : Session ν) {cue : Cue} (hcue : cue.isAwaitedBy e = true)
    (hidle : ∀ errand, s.errands[e]? = some errand → errand.isOver = true) : s.perform cue = s := by
  cases s.perform_course hcue with
  | late result => exact result
  | steps here isOpen _ => cases isOpen.symm.trans (hidle _ here)

end Session

end Lamplighter
