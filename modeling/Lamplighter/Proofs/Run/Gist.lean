import Lamplighter.Proofs.Run.Stock

/-!
# Gists: what the bulbs and the effects cannot change

* `Run.gist`          what a run is about, whether it has broken off or closed, and its outcome;
* `Session.gist`      the gists of the runs, the run of each errand, and the store;
* `gist_awaited`      an errand leaves the gist as it is, with each of its steps;
* `gist_perform`      so does every cue that does not concern the only run.

Announcements, messages and the search leave the gist as it is too.  What a run does to it when it
breaks off, closes or ends is said where the run does so.
-/

set_option linter.unusedSectionVars false

namespace Lamplighter

open Deeds

namespace Run

structure Gist where
  plan : Plan
  aborts : Nat
  finals : Nat
  outcome : Option (Except Fault Summary)

def gist (run : Run) : Gist where
  plan := run.plan
  aborts := aborts run.deeds
  finals := finals run.deeds
  outcome := run.outcome

end Run

namespace Session

structure Gist where
  runs : List Run.Gist
  /-- the run that dispatched each errand -/
  owners : List (Option Nat)
  store : Snapshot.Store

variable {ν : Type} {s t : Session ν} {r e : Nat} {errand : Errand}

def gist (s : Session ν) : Gist where
  runs := s.runs.map Run.gist
  owners := s.errands.map Errand.run
  store := s.store

/-! ### Parts of a session -/

lemma map_modify_of_comp {α β : Type} {f : α → β} {change : α → α} (change' : β → β)
    (h : ∀ a, f (change a) = change' (f a)) (list : List α) (i : Nat) :
    (list.modify i change).map f = (list.map f).modify i change' := by
  apply List.ext_getElem?
  intro j
  rw [List.getElem?_map, List.getElem?_modify, List.getElem?_modify, List.getElem?_map]
  cases list[j]? with
  | none => rfl
  | some a =>
    simp only [Option.map_eq_map, Option.map_some]
    split
    · rw [h]
    · rfl

lemma gist_modifyRun (s : Session ν) (q : Nat) {change : Run → Run}
    (change' : Run.Gist → Run.Gist) (h : ∀ run, (change run).gist = change' run.gist) :
    (s.modifyRun q change).gist = { s.gist with runs := s.gist.runs.modify q change' } :=
  congrArg (Gist.mk · _ _) (map_modify_of_comp change' h s.runs q)

/-- a run is changed in what is not of the gist -/
lemma gist_modifyRun_of_eq (s : Session ν) (q : Nat) {change : Run → Run}
    (h : ∀ run, (change run).gist = run.gist) : (s.modifyRun q change).gist = s.gist := by
  rw [gist_modifyRun s q id h, List.modify_id]

lemma gist_modifyErrand (s : Session ν) (e : Nat) {change : Errand → Errand}
    (h : ∀ errand, (change errand).run = errand.run) : (s.modifyErrand e change).gist = s.gist := by
  refine congrArg (Gist.mk _ · _) ?_
  show (s.errands.modify e change).map Errand.run = _
  rw [map_modify_of_comp id h, List.modify_id]

@[simp] lemma gist_soon (s : Session ν) (turns : Nat) (cue : Cue) :
    (s.soon turns cue).gist = s.gist := rfl

@[simp] lemma gist_dropAwaited (s : Session ν) (e : Nat) : (s.dropAwaited e).gist = s.gist := rfl

@[simp] lemma gist_setStage (s : Session ν) (e : Nat) (stage : Stage) :
    (s.setStage e stage).gist = s.gist :=
  gist_modifyErrand s e fun _ => rfl

@[simp] lemma gist_emit (s : Session ν) (q : Nat) (kind : EventKind) (message : String)
    (device : Option String) (data : Option Json) :
    (s.emit q kind message device data).1.gist = s.gist := by
  obtain ⟨_, _, _, -, htold⟩ := s.emit_frame q kind message device data
  rw [htold]
  exact gist_modifyRun_of_eq s q fun _ => rfl

@[simp] lemma gist_post (s : Session ν) (q : Nat) (message : Message) :
    (s.post q message).gist = s.gist := by
  obtain ⟨agenda, hposted⟩ := s.post_frame q message
  rw [hposted]
  exact gist_modifyRun_of_eq s q fun _ => rfl

@[simp] lemma gist_hear (s : Session ν) (client : Nat) (handle : Handle) :
    (s.hear client handle).gist = s.gist :=
  hear_induction (p := fun t => t.gist = s.gist) rfl (fun _ => rfl)
    (fun q _ => gist_modifyRun_of_eq s q fun _ => rfl) fun t q ht => (gist_post t q _).trans ht

@[simp] lemma gist_hearAll (s : Session ν) (client : Nat) (handles : List Handle) :
    (s.hearAll client handles).gist = s.gist :=
  hearAll_induction (p := fun t => t.gist = s.gist) rfl fun t handle _ =>
    (gist_hear t client handle).trans

@[simp] lemma gist_sight (s : Session ν) (client : Nat) (sighting : Sighting) :
    (s.sight client sighting).gist = s.gist := by
  obtain ⟨agenda, hsighted⟩ := s.sight_frame client sighting
  rw [hsighted]
  exact gist_hearAll s client sighting.found

/-! ### The steps of an errand -/

@[simp] lemma gist_checkGathered (s : Session ν) (q : Nat) (fault : Option Fault) :
    (s.checkGathered q fault).gist = s.gist := by
  unfold Session.checkGathered
  split
  · rfl
  · split
    · exact gist_modifyRun_of_eq s q fun _ => rfl
    · rfl

@[simp] lemma gist_conclude (s : Session ν) (e : Nat) (errand : Errand) (isOk : Bool)
    (outcome : Except Fault Reply) : (s.conclude e errand isOk outcome).gist = s.gist := by
  unfold Session.conclude
  dsimp only
  split <;> simp

@[simp] lemma gist_fail (s : Session ν) (e : Nat) (errand : Errand) (fault : Fault) :
    (s.fail e errand fault).gist = s.gist := by
  unfold Session.fail
  split
  · simp
  · rename_i q _
    have hemit := gist_emit (s.note q (.raised errand.handle fault)) q .deviceFailed
      (failureText errand.handle fault) (some errand.handle.name) none
    have hnote : (s.note q (.raised errand.handle fault)).gist = s.gist :=
      gist_modifyRun_of_eq s q fun _ => rfl
    split
    · rename_i t heq
      rw [heq] at hemit
      exact (gist_conclude t e errand false _).trans (hemit.trans hnote)
    · rename_i t further heq
      rw [heq] at hemit
      exact (gist_conclude t e errand false _).trans (hemit.trans hnote)

variable [Network ν]

@[simp] lemma gist_settle (s : Session ν) (errand : Errand) (request : Request)
    (answer : Answer) : (s.settle errand request answer).1.gist = s.gist :=
  gist_hearAll _ _ _

theorem gist_of_stepping (h : Stepping e errand s t) : t.gist = s.gist := by
  induction h with
  | ends s reply => exact gist_conclude s e errand true _
  | fails s fault => exact gist_fail s e errand fault
  | asks s => exact gist_setStage s e _
  | lapses s => exact gist_setStage s e _
  | answers s => exact gist_setStage s e _
  | pauses s => rfl
  | waits s => exact gist_setStage s e _
  | drops _ ih => exact ih
  | keeps _ _ _ ih =>
    refine ih.trans ?_
    exact gist_modifyRun_of_eq _ _ fun _ => rfl
  | reports _ message data _ ih => exact ih.trans (gist_emit ..)
  | sends _ _ ih => exact ih
  | settles request answer _ ih => exact ih.trans (gist_settle _ errand request answer)

/-! ### Performing a cue -/

lemma gist_awaited (s : Session ν) {cue : Cue} (hcue : cue.isAwaitedBy e = true) :
    (s.perform cue).gist = s.gist := by
  cases s.perform_course hcue with
  | late result => rw [result]
  | steps _ _ stepping => exact gist_of_stepping stepping

lemma gist_overRun {q : Nat} {act : Run → Session ν}
    (hact : ∀ run, s.runs[q]? = some run → (act run).gist = s.gist) :
    (s.overRun q act).gist = s.gist :=
  overRun_induction (p := fun t => t.gist = s.gist) q rfl hact

lemma gist_endRun (s : Session ν) (q : Nat) (outcome : Except Fault Summary) :
    (s.endRun q outcome).gist = { s.gist with
      runs := s.gist.runs.modify q fun gist => { gist with outcome := some outcome } } := by
  obtain ⟨agenda, turn, hended⟩ := s.endRun_frame q outcome
  rw [hended]
  exact gist_modifyRun s q _ fun _ => rfl

/-- a cue that does not concern the only run leaves the gist as it is -/
theorem gist_perform (hsole : ∀ q, q ≠ r → s.runs[q]? = none) {cue : Cue}
    (hconcerns : cue.concerns r = false) : (s.perform cue).gist = s.gist := by
  have hother : ∀ {q : Nat} {act : Run → Session ν}, cue.concerns r = (q == r) →
      (s.overRun q act).gist = s.gist := by
    intro q act hq
    refine gist_overRun fun run hget => ?_
    rw [hsole q (by simpa [hconcerns] using hq)] at hget
    cases hget
  cases cue with
  | signal signal => exact gist_sight _ _ _
  | clock q => exact gist_overRun fun _ _ => rfl
  | tick q => exact gist_overRun fun _ _ => gist_post s q .tick
  | drained q fault =>
    cases fault with
    | none => exact hother (by simp [Cue.concerns, Cue.isWakeOf, Cue.isCalmOf, Cue.isHaltOf,
        Cue.isEntryOf])
    | some fault =>
      have hq : q ≠ r := by
        simpa [Cue.concerns, Cue.isWakeOf, Cue.isCalmOf, Cue.isHaltOf, Cue.isEntryOf] using hconcerns
      have hnone : s.gist.runs[q]? = none := by
        show (s.runs.map Run.gist)[q]? = none
        rw [List.getElem?_map, hsole q hq]
        rfl
      show (s.endRun q _).gist = s.gist
      rw [gist_endRun, List.modify_eq_self (List.getElem?_eq_none_iff.mp hnone)]
  | retire e => exact gist_modifyErrand s e fun _ => rfl
  | alarm => rfl
  | begin e => exact gist_awaited s (beq_self_eq_true e)
  | attempt e => exact gist_awaited s (beq_self_eq_true e)
  | arrive e request answer => exact gist_awaited s (beq_self_eq_true e)
  | expire e => exact gist_awaited s (beq_self_eq_true e)
  | resume e => exact gist_awaited s (beq_self_eq_true e)
  | _ q => exact hother (by simp [Cue.concerns, Cue.isWakeOf, Cue.isCalmOf, Cue.isHaltOf,
      Cue.isEntryOf])

end Session

end Lamplighter
