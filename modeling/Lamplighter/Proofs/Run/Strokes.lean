import Mathlib.Logic.Relation
import Lamplighter.Proofs.Run.Resolution

/-!
# Strokes: what an errand does, one thing after another

* `Session.Stroke`    one thing that is done for an errand: it goes on to another stage, its cues are
                      set or dropped, an event or a message is told, a request is sent or settled, a
                      bulb is heard of;
* `strokes_perform`   a cue that an errand waits for comes to strokes, and nothing else;
* `strokes_callOff`   so does calling the errand off.
-/

set_option linter.unusedSectionVars false

namespace Lamplighter

/-- the cue belongs to an errand, or tells its run of it -/
def Cue.isSetFor (cue : Cue) (e : Nat) (errand : Errand) : Prop :=
  cue.isAwaitedBy e = true ∨ cue = .retire e ∨
    ∃ r, errand.run = some r ∧ (cue = .wake r ∨ ∃ fault, cue = .drained r fault)

namespace Run

/-- what only a run itself changes -/
structure Core where
  action : Action
  settings : Settings
  client : Nat
  audience : Audience
  hasStore : Bool
  started : Moment
  phase : Phase
  saved : Option Saved
  outcome : Option (Except Fault Summary)
  /-- how many idle intervals the run was told of -/
  ticks : Nat

def core (run : Run) : Core where
  action := run.action
  settings := run.settings
  client := run.client
  audience := run.audience
  hasStore := run.hasStore
  started := run.started
  phase := run.phase
  saved := run.saved
  outcome := run.outcome
  ticks := run.deeds.count (.queued .tick)

end Run

namespace Session

variable {ν : Type} [Network ν] {s t u : Session ν} {e : Nat} {errand : Errand}

/-- one thing that is done for an errand -/
inductive Stroke (e : Nat) (errand : Errand) : Session ν → Session ν → Prop
  | stage (s : Session ν) (stage : Stage) : Stroke e errand s (s.setStage e stage)
  | drop (s : Session ν) : Stroke e errand s (s.dropAwaited e)
  | soon (s : Session ν) (turns : Nat) (cue : Cue) (mine : cue.isSetFor e errand) :
    Stroke e errand s (s.soon turns cue)
  | after (s : Session ν) (duration : Duration) (turns : Nat) (cue : Cue)
    (mine : cue.isSetFor e errand) :
    Stroke e errand s { s with agenda := s.agenda.after duration turns cue }
  | pause (s : Session ν) (duration : Duration) (cue : Cue) (mine : cue.isSetFor e errand) :
    Stroke e errand s { s with agenda := s.agenda.pause duration cue }
  /-- the run of the errand is told of it -/
  | change (s : Session ν) {r : Nat} (mine : errand.run = some r) (change : Run → Run)
    (core : ∀ run, (change run).core = run.core)
    (told : ∀ run, (change run).emitted = run.emitted ∧ (change run).events = run.events) :
    Stroke e errand s (s.modifyRun r change)
  | emit (s : Session ν) {r : Nat} (mine : errand.run = some r) {kind : EventKind}
    (kind_eq : kind = .deviceReport ∨ kind = .deviceFailed) (message : String)
    (data : Option Json) :
    Stroke e errand s (s.emit r kind message (some errand.handle.name) data).1
  | send (s : Session ν) (request : Request) :
    Stroke e errand s (s.send errand request).1
  | settle (s : Session ν) (request : Request) (answer : Answer) :
    Stroke e errand s { s with
      network := (Network.settle s.network errand.client errand.handle request answer).1 }
  | hear (s : Session ν) (handle : Handle) : Stroke e errand s (s.hear errand.client handle)

abbrev Strokes (e : Nat) (errand : Errand) : Session ν → Session ν → Prop :=
  Relation.ReflTransGen (Stroke e errand)

/-! ### Parts of a step -/

lemma strokes_post {r : Nat} (hr : errand.run = some r) (isOk : Bool) :
    Strokes e errand s (s.post r (.ended errand.handle isOk)) := by
  have hposted : Strokes e errand s (s.posting r (.ended errand.handle isOk)) :=
    .single (.change s hr _ (fun run => by simp [Run.core]) fun run => ⟨rfl, rfl⟩)
  cases s.post_course r (.ended errand.handle isOk) with
  | absent _ result => rw [result]
  | wakes _ _ result =>
    rw [result]
    exact hposted.tail (.soon _ 0 _ (.inr (.inr ⟨r, hr, .inl rfl⟩)))
  | queued _ _ result =>
    rw [result]
    exact hposted

lemma strokes_checkGathered {r : Nat} (hr : errand.run = some r) (fault : Option Fault) :
    Strokes e errand s (s.checkGathered r fault) := by
  unfold Session.checkGathered
  split
  · exact .refl
  · split
    · have hfree : Strokes e errand s (s.modifyRun r fun run => { run with isGathering := false }) :=
        .single (.change s hr _ (fun run => rfl) fun run => ⟨rfl, rfl⟩)
      exact hfree.tail (.soon _ 1 _ (.inr (.inr ⟨r, hr, .inr ⟨fault, rfl⟩⟩)))
    · exact .refl

lemma strokes_end (outcome : Except Fault Reply) :
    Strokes e errand s ((s.dropAwaited e).setStage e (.over outcome)) :=
  .tail (.single (.drop s)) (.stage _ _)

lemma strokes_conclude (isOk : Bool) (outcome : Except Fault Reply) :
    Strokes e errand s (s.conclude e errand isOk outcome) := by
  unfold Session.conclude
  split
  · exact strokes_end outcome
  · rename_i r hr
    have hposted := (strokes_end (s := s) (e := e) outcome).trans (strokes_post hr isOk)
    have hretired := hposted.tail (.soon _ 0 (.retire e) (.inr (.inl rfl)))
    exact hretired.trans (strokes_checkGathered hr _)

lemma strokes_fail (fault : Fault) : Strokes e errand s (s.fail e errand fault) := by
  unfold Session.fail
  split
  · exact strokes_conclude false _
  · rename_i r hr
    have hnoted : Strokes e errand s (s.note r (.raised errand.handle fault)) :=
      .single (.change s hr _ (fun run => by simp [Run.core]) fun run => ⟨rfl, rfl⟩)
    have htold := hnoted.tail (.emit _ hr (.inr rfl) (failureText errand.handle fault) none)
    split
    · rename_i t heq
      rw [heq] at htold
      exact htold.trans (strokes_conclude false _)
    · rename_i t further heq
      rw [heq] at htold
      exact htold.trans (strokes_conclude false _)

lemma strokes_hearAll (handles : List Handle) :
    Strokes e errand s (s.hearAll errand.client handles) :=
  hearAll_induction .refl fun t handle _ ht => ht.tail (.hear t handle)

lemma strokes_settle (request : Request) (answer : Answer) :
    Strokes e errand s (s.settle errand request answer).1 :=
  (Relation.ReflTransGen.single (.settle s request answer)).trans (strokes_hearAll _)

/-! ### The steps of an errand -/

theorem strokes_of_stepping (h : Stepping e errand s t) : Strokes e errand s t := by
  induction h with
  | ends s reply => exact strokes_conclude true _
  | fails s fault => exact strokes_fail fault
  | asks s next retries =>
    have hstage : Strokes e errand s (s.setStage e (.asking next retries)) := .single (.stage s _)
    have hwaiting := hstage.tail
      (.after _ errand.timeout 1 (.expire e) (.inl (beq_self_eq_true e)))
    exact hwaiting.tail (.soon _ 0 (.attempt e) (.inl (beq_self_eq_true e)))
  | lapses s next retries =>
    exact .tail (.single (.stage s _)) (.soon _ 2 (.resume e) (.inl (beq_self_eq_true e)))
  | answers s next retries result =>
    exact .tail (.single (.stage s _)) (.soon _ 1 (.resume e) (.inl (beq_self_eq_true e)))
  | pauses s duration request answer =>
    exact .single (.pause s duration (.arrive e request answer) (.inl (beq_self_eq_true e)))
  | waits s next duration request answer =>
    exact .tail (.single (.stage s (.sending next)))
      (.pause _ duration (.arrive e request answer) (.inl (beq_self_eq_true e)))
  | drops _ ih => exact .head (.drop _) ih
  | keeps mine _ _ ih =>
    refine .head ?_ ih
    exact .change _ mine _ (fun _ => rfl) fun _ => ⟨rfl, rfl⟩
  | reports mine message data _ ih => exact .head (.emit _ mine (.inl rfl) message data) ih
  | sends request _ ih => exact .head (.send _ request) ih
  | settles request answer _ ih => exact (strokes_settle request answer).trans ih

/-- a cue that an errand waits for comes to strokes -/
theorem strokes_perform (he : s.errands[e]? = some errand) {cue : Cue}
    (hcue : cue.isAwaitedBy e = true) : Strokes e errand s (s.perform cue) := by
  cases s.perform_course hcue with
  | late result => rw [result]
  | steps here _ stepping =>
    obtain rfl := Option.some.inj (he.symm.trans here)
    exact strokes_of_stepping stepping

lemma strokes_callOff (s : Session ν) (e : Nat) (errand : Errand) :
    Strokes e errand s (s.callOff e errand) := by
  rcases callOff_cases s e errand with hsame | ⟨-, hcalled⟩
  · rw [hsame]
  · rw [hcalled]
    exact strokes_end _

end Session

end Lamplighter
