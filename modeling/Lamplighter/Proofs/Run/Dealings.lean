import Lamplighter.Proofs.Run.Standing
import Lamplighter.Proofs.Run.Stepping

/-!
# Dealings: what errands do to the ledgers

An errand that is not over takes a step: it goes on to another stage, or ends and reports to its
run.  What it hears and says on the way concerns the runs that listen.  Each step leaves the ledger
of a run as it is, or makes it move: `Advances.awaited`.
-/

set_option linter.unusedSectionVars false

namespace Lamplighter.Session

open Deeds

variable {ν : Type} {r e : Nat} {errand : Errand} {s t : Session ν}

/-- an errand is at its place, and not over -/
def IsOpen (s : Session ν) (e : Nat) (errand : Errand) : Prop :=
  s.errands[e]? = some errand ∧ errand.isOver = false

/-! ### Events and announcements -/

@[simp] lemma errands_emit (s : Session ν) (q : Nat) (kind : EventKind) (message : String)
    (device : Option String) (data : Option Json) :
    (s.emit q kind message device data).1.errands = s.errands := by
  obtain ⟨_, _, _, -, htold⟩ := s.emit_frame q kind message device data
  rw [htold]
  rfl

@[simp] lemma errands_hearAll (s : Session ν) (client : Nat) (handles : List Handle) :
    (s.hearAll client handles).errands = s.errands :=
  hearAll_induction (p := fun t => t.errands = s.errands) rfl fun t handle _ =>
    (errands_hear t client handle).trans

/-! ### The end of an errand -/

/-- the effects that a run counts among its own have ended exactly when all have -/
lemma allEnded_iff (h : s.Orderly r) :
    (s.errands.all fun errand => !errand.isOf r || errand.isOver) = true ↔
      AllEnded (s.effects r) := by
  simp only [AllEnded, effects, List.all_eq_true, List.mem_map, List.mem_filter]
  constructor
  · rintro hall _ ⟨x, ⟨hx, hrun⟩, rfl⟩
    have hover := hall x hx
    have hrun : x.run = some r := by simpa using hrun
    cases hatt : x.isAttached with
    | false => exact h.detached x hx hrun hatt
    | true => simpa [Errand.isOf, hrun, hatt] using hover
  · intro hall x hx
    by_cases hrun : x.run = some r
    · have hover : x.isOver = true := hall _ ⟨x, ⟨hx, by simp [hrun]⟩, rfl⟩
      simp [hover]
    · simp [Errand.isOf, hrun]

lemma Orderly.modifyRun (h : s.Orderly r) (q : Nat) (change : Run → Run) :
    (s.modifyRun q change).Orderly r :=
  h.of_errands rfl (fun _ => id)

lemma Orderly.soon (h : s.Orderly r) (turns : Nat) (cue : Cue) (hcue : ∀ e, cue ≠ .retire e) :
    (s.soon turns cue).Orderly r := by
  refine h.of_errands rfl ?_
  intro e he
  rcases List.mem_cons.mp ((s.agenda.cues_soon turns cue).mem_iff.mp he) with heq | hold
  · exact absurd heq.symm (hcue e)
  · exact hold

/-- a run that waits for its effects is told once, when all have ended or one has a fault -/
theorem ledger_checkGathered {l : Ledger} (hl : s.ledger r = some l) (horderly : s.Orderly r)
    (fault : Option Fault) : (s.checkGathered r fault).ledger r = some (l.check fault) := by
  obtain ⟨run, hget, rfl⟩ := Option.map_eq_some_iff.mp hl
  have hall : (s.errands.all fun errand => !errand.isOf r || errand.isOver)
      = (s.effects r).all (·.2) := by
    rw [Bool.eq_iff_iff, allEnded_iff horderly, List.all_eq_true]
    rfl
  have hdone : (s.modifyRun r fun run => { run with isGathering := false }).ledger r
      = some { s.ledgerOf r run with isGathering := false } := by
    rw [ledger_modifyRun, hget]
    rfl
  simp only [Session.checkGathered, hget, hall, Ledger.check]
  show (if _ then _ else s).ledger r = some (if _ then _ else _)
  by_cases hready : (run.isGathering && (fault.isSome || (s.effects r).all (·.2))) = true
  · have hready' : ((s.ledgerOf r run).isGathering
        && (fault.isSome || (s.ledgerOf r run).effects.all (·.2))) = true := hready
    rw [if_pos hready, if_pos hready']
    cases fault with
    | none => exact ledger_soon_calm hdone 1
    | some fault => exact ledger_soon_halt hdone 1 fault
  · have hready' : ¬ ((s.ledgerOf r run).isGathering
        && (fault.isSome || (s.ledgerOf r run).effects.all (·.2))) = true := hready
    rw [if_neg hready, if_neg hready']
    exact hl

lemma Orderly.checkGathered (h : s.Orderly r) (q : Nat) (fault : Option Fault) :
    (s.checkGathered q fault).Orderly r := by
  unfold Session.checkGathered
  split
  · exact h
  · split
    · exact (h.modifyRun q _).soon 1 _ (by simp)
    · exact h

lemma Same.checkGathered_ne {q : Nat} (hq : q ≠ r) (s : Session ν) (fault : Option Fault) :
    Same r s (s.checkGathered q fault) := by
  unfold Session.checkGathered
  split
  · exact .refl r s
  · split
    · refine (Same.modifyRun_ne hq _).trans (.soon _ 1 _ ?_ (by simp))
      cases fault <;>
        simp [Cue.concerns, Cue.isWakeOf, Cue.isCalmOf, Cue.isHaltOf, Cue.isEntryOf, hq]
    · exact .refl r s

lemma Orderly.dropAwaited (h : s.Orderly r) (e : Nat) : (s.dropAwaited e).Orderly r :=
  (Same.dropAwaited s e).orderly h

/-- an errand that has just ended is about to be counted no longer -/
lemma Orderly.retire (h : s.Orderly r) (turns : Nat) (errand : Errand) (he : s.errands[e]? = some errand)
    (hover : errand.isOver = true) : (s.soon turns (.retire e)).Orderly r := by
  constructor
  · exact h.detached
  · intro i hi
    rcases List.mem_cons.mp ((s.agenda.cues_soon turns _).mem_iff.mp hi) with heq | hold
    · obtain rfl : i = e := Cue.retire.inj heq
      exact ⟨errand, he, fun _ => hover⟩
    · exact h.retired i hold

/-- the errand as it is when it has ended -/
lemma getElem?_end (he : s.errands[e]? = some errand) (outcome : Except Fault Reply) :
    (s.setStage e (.over outcome)).errands[e]? = some { errand with stage := .over outcome } := by
  show (s.errands.modify e _)[e]? = _
  simp [he]

/-- the part of `conclude` before the run is told that its effects have ended -/
lemma orderly_report (h : s.Orderly r) (he : s.errands[e]? = some errand) (q : Nat)
    (message : Message) (outcome : Except Fault Reply) :
    ((((s.dropAwaited e).setStage e (.over outcome)).post q message).soon 0 (.retire e)).Orderly r := by
  have hend := (h.dropAwaited e).end he outcome
  refine (hend.post q message).retire 0 { errand with stage := .over outcome } ?_ rfl
  rw [errands_post]
  exact getElem?_end he outcome

/-- an effect of the run ends -/
theorem ledger_conclude {l : Ledger} (hl : s.ledger r = some l) (horderly : s.Orderly r)
    (ho : s.IsOpen e errand) (hrun : errand.run = some r) (isOk : Bool)
    (outcome : Except Fault Reply) :
    ∃ effects fault, Ends errand.handle l.effects effects ∧
      (∀ reply, outcome = .ok reply → fault = none) ∧
      (s.conclude e errand isOk outcome).ledger r
        = some ((l.conclude errand.handle effects isOk).check fault) := by
  have hdrop : (s.dropAwaited e).ledger r = some l := (Same.dropAwaited s e).ledger.trans hl
  obtain ⟨effects, hends, hended⟩ := ledger_end hdrop ho.1 ho.2 hrun outcome
  have hposted := ledger_post hended (.ended errand.handle isOk)
  have hretired := (ledger_soon hposted 0 (.retire e)).trans
    (show _ = some (l.conclude errand.handle effects isOk) from rfl)
  have horderly' := orderly_report horderly ho.1 r (.ended errand.handle isOk) outcome
  simp only [Session.conclude, hrun]
  cases outcome with
  | ok reply =>
    exact ⟨effects, none, hends, fun _ _ => rfl, ledger_checkGathered hretired horderly' none⟩
  | error fault =>
    refine ⟨effects, some fault, hends, ?_, ledger_checkGathered hretired horderly' (some fault)⟩
    rintro reply ⟨⟩

lemma Orderly.conclude (h : s.Orderly r) (he : s.errands[e]? = some errand) (isOk : Bool)
    (outcome : Except Fault Reply) : (s.conclude e errand isOk outcome).Orderly r := by
  unfold Session.conclude
  dsimp only
  split
  · exact (h.dropAwaited e).end he outcome
  · exact (orderly_report h he _ _ outcome).checkGathered _ _

/-- an errand of another run, or of none, ends -/
theorem Same.conclude_ne (ho : s.IsOpen e errand) (hrun : errand.run ≠ some r) (isOk : Bool)
    (outcome : Except Fault Reply) : Same r s (s.conclude e errand isOk outcome) := by
  have hended : Same r s ((s.dropAwaited e).setStage e (.over outcome)) :=
    (Same.dropAwaited s e).trans (.end (s := s.dropAwaited e) ho.1 hrun outcome)
  refine ⟨?_, fun h => h.conclude ho.1 isOk outcome⟩
  cases hq : errand.run with
  | none =>
    simp only [Session.conclude, hq]
    exact hended.ledger
  | some q =>
    have hne : q ≠ r := fun heq => hrun (heq ▸ hq)
    simp only [Session.conclude, hq]
    rw [(Same.checkGathered_ne hne _ _).ledger, ledger_soon_aside 0 rfl]
    exact (hended.trans (.post_ne hne (.ended errand.handle isOk))).ledger

theorem Advances.done (ho : s.IsOpen e errand) (reply : Reply) :
    Advances r s (s.conclude e errand true (.ok reply)) := by
  by_cases hrun : errand.run = some r
  · refine ⟨?_, fun h => h.conclude ho.1 true _⟩
    intro horderly l hl
    obtain ⟨effects, fault, hends, hfault, hledger⟩ :=
      ledger_conclude hl horderly ho hrun true (.ok reply)
    obtain rfl := hfault reply rfl
    exact ⟨_, hledger, .single (.done hends)⟩
  · exact (Same.conclude_ne ho hrun true _).advances

/-- an audience that fails on an event is not reliable -/
lemma not_isReliable_of_emit (kind : EventKind) (message : String) (device : Option String)
    (data : Option Json) (fault : Fault) {l : Ledger} (hl : s.ledger r = some l)
    (h : (s.emit r kind message device data).2 = some fault) : l.audience.isReliable = false := by
  obtain ⟨run, hget, rfl⟩ := Option.map_eq_some_iff.mp hl
  show run.audience.isReliable = false
  simp only [Session.emit, hget] at h
  cases haudience : run.audience with
  | nobody => simp [haudience] at h
  | hub => simp [haudience] at h
  | recorder failing =>
    cases failing with
    | nil => simp [haudience] at h
    | cons i failing => rfl

/-- an errand of the run that has a fault ends, whatever its audience makes of it -/
theorem Advances.fail (ho : s.IsOpen e errand) (fault : Fault) :
    Advances r s (s.fail e errand fault) := by
  cases hq : errand.run with
  | none =>
    simp only [Session.fail, hq]
    exact (Same.conclude_ne ho (by simp [hq]) false _).advances
  | some q =>
    have hemit := Same.emit (r := r) (s.note q (.raised errand.handle fault)) q .deviceFailed
      (failureText errand.handle fault) (some errand.handle.name) none
    have hopen : ((s.note q (.raised errand.handle fault)).emit q .deviceFailed
        (failureText errand.handle fault) (some errand.handle.name)).1.IsOpen e errand := by
      rw [IsOpen, errands_emit]
      exact ho
    have hunreliable := fun further (l : Ledger) =>
      not_isReliable_of_emit (r := q) (s := s.note q (.raised errand.handle fault)) (l := l)
        .deviceFailed (failureText errand.handle fault) (some errand.handle.name) none further
    simp only [Session.fail, hq]
    revert hemit hopen hunreliable
    generalize (s.note q (.raised errand.handle fault)).emit q .deviceFailed
      (failureText errand.handle fault) (some errand.handle.name) = out
    intro hemit hopen hunreliable
    have hdone : ∀ outcome, (∀ further, outcome = .error further → out.2 = some further) →
        Advances r s (out.1.conclude e errand false outcome) := by
      intro outcome houtcome
      by_cases hqr : q = r
      · subst hqr
        refine ⟨?_, fun h => (hemit.orderly (h.modifyRun q _)).conclude hopen.1 false _⟩
        intro horderly l hl
        have hnoted : (s.note q (.raised errand.handle fault)).ledger q
            = some { l with deeds := .raised errand.handle fault :: l.deeds } := by
          obtain ⟨run, hget, rfl⟩ := Option.map_eq_some_iff.mp hl
          rw [Session.note, ledger_modifyRun, hget]
          rfl
        obtain ⟨effects, further, hends, hfault, hledger⟩ := ledger_conclude
          (hemit.ledger.trans hnoted) (hemit.orderly (horderly.modifyRun q _)) hopen hq false outcome
        refine ⟨_, hledger, .single (.fail fault hends ?_)⟩
        intro hsome
        cases outcome with
        | ok reply =>
          rw [hfault reply rfl] at hsome
          cases hsome
        | error further =>
          have hfalse := hunreliable further _ hnoted (houtcome further rfl)
          exact hfalse
      · have hnoted := Same.modifyRun_ne (s := s) hqr fun run => { run with
          deeds := .raised errand.handle fault :: run.deeds }
        have hne : errand.run ≠ some r := by simpa [hq] using hqr
        exact ((hnoted.trans hemit).trans (.conclude_ne hopen hne false outcome)).advances
    obtain ⟨t, _ | further⟩ := out
    · exact hdone _ (by simp)
    · exact hdone _ (by simp)

/-! ### The steps of an errand -/

/-- the network comes to another state -/
theorem Same.network (r : Nat) (s : Session ν) (network : ν) : Same r s { s with network } :=
  .of_cues rfl rfl rfl (.refl _) (fun _ => id)

variable [Network ν]

@[simp] lemma errands_settle (s : Session ν) (errand : Errand) (request : Request)
    (answer : Answer) : (s.settle errand request answer).1.errands = s.errands :=
  errands_hearAll _ _ _

namespace Advances

theorem settle (r : Nat) (s : Session ν) (errand : Errand) (request : Request) (answer : Answer) :
    Advances r s (s.settle errand request answer).1 :=
  (Same.network r s _).advances.trans (.hearAll r _ _ _)

/-- until an errand waits again, or ends, it stays where it is -/
theorem of_stepping (h : Stepping e errand s t) (ho : s.IsOpen e errand) : Advances r s t := by
  induction h with
  | ends s reply => exact done ho reply
  | fails s fault => exact fail ho fault
  | asks s next retries =>
    have hstage := Same.setStage (r := r) ho.1 ho.2 (.asking next retries) rfl
    refine Same.advances (hstage.trans ?_)
    refine (Same.of_cue _ (Agenda.cues_after _ errand.timeout 1 (.expire e)) rfl (by simp)).trans ?_
    exact .soon _ 0 _ rfl (by simp)
  | lapses s next retries =>
    have hstage := Same.setStage (r := r) ho.1 ho.2 (.answered next retries none) rfl
    exact (hstage.trans (.soon _ 2 _ rfl (by simp))).advances
  | answers s next retries result =>
    have hstage := Same.setStage (r := r) ho.1 ho.2 (.answered next retries (some result)) rfl
    exact (hstage.trans (.soon _ 1 _ rfl (by simp))).advances
  | pauses s duration request answer =>
    exact (Same.of_cue (.arrive e request answer) (Agenda.cues_pause _ duration _) rfl
      (by simp)).advances
  | waits s next duration request answer =>
    have hstage := Same.setStage (r := r) ho.1 ho.2 (.sending next) rfl
    refine Same.advances (hstage.trans ?_)
    exact Same.of_cue (.arrive e request answer) (Agenda.cues_pause _ duration _) rfl (by simp)
  | drops _ ih => exact (Same.dropAwaited _ e).advances.trans (ih ho)
  | keeps _ _ _ ih =>
    refine Advances.trans (Same.advances ?_) (ih ho)
    exact .modifyRun _ _ _ fun _ => rfl
  | reports _ message data _ ih =>
    refine (Same.emit _ _ _ _ _ _).advances.trans (ih ?_)
    rw [IsOpen, errands_emit]
    exact ho
  | sends _ _ ih => exact (Same.network r _ _).advances.trans (ih ho)
  | settles request answer _ ih =>
    refine (settle r _ errand request answer).trans (ih ?_)
    rw [IsOpen, errands_settle]
    exact ho

/-- performing a cue that an errand waits for -/
theorem awaited (r : Nat) (s : Session ν) {cue : Cue} (hcue : cue.isAwaitedBy e = true) :
    Advances r s (s.perform cue) := by
  cases s.perform_course hcue with
  | late result =>
    rw [result]
    exact .refl r s
  | steps here isOpen stepping => exact of_stepping stepping ⟨here, isOpen⟩

end Advances

end Lamplighter.Session
