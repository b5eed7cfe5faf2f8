import Lamplighter.Proofs.Run.Course
import Lamplighter.Proofs.Run.Dealings

/-!
# Passage: runs keep the ledgers sound

What a run does when it starts, looks into its inbox, stops looking for bulbs, waits and ends.
Each step of a run keeps its own ledger sound, and leaves those of the other runs as they are but
for what they are told of bulbs.

* `Session.Next`      any of the cues that are set may be the next to be performed;
* `Session.Reached`   a session in which a run has started, in whatever order its cues came.
-/

set_option linter.unusedSectionVars false

namespace Lamplighter.Session

open Deeds

variable {ν : Type} {r q : Nat} {s : Session ν}

/-! ### The end of a run -/

/-- a cue is about nothing that a ledger counts -/
lemma concerns_takeTurn {next : Nat} (h : next ≠ r) : (Cue.takeTurn next).concerns r = false := by
  simp [Cue.concerns, Cue.isWakeOf, Cue.isCalmOf, Cue.isHaltOf, Cue.isEntryOf, h]

/-- a run that has started waits for its turn no longer -/
lemma Kept.not_mem_line (h : s.Kept r) : r ∉ s.line := by
  obtain ⟨l, hl, hsound⟩ := h.sound
  obtain ⟨run, hget, rfl⟩ := Option.map_eq_some_iff.mp hl
  have hentries : s.line.count r + _ = 0 := hsound.booked.entries
  exact List.count_eq_zero.mp (Nat.add_eq_zero_iff.mp hentries).1

/-- a run that ends gives its turn to the next one in the line -/
def pass (s : Session ν) (q : Nat) : Session ν :=
  if s.turn = some q then
    match s.line with
    | [] => { s with turn := none }
    | next :: _ => { s with turn := none }.soon 0 (.takeTurn next)
  else s

lemma endRun_eq (s : Session ν) (q : Nat) (outcome : Except Fault Summary) :
    s.endRun q outcome = (s.modifyRun q fun run =>
      { run with outcome := some outcome, isWaiting := false, isGathering := false }).pass q := rfl

/-- but for the run that ends, only what is to happen next and whose turn it is change -/
lemma endRun_frame (s : Session ν) (q : Nat) (outcome : Except Fault Summary) :
    ∃ agenda turn, s.endRun q outcome = { s.modifyRun q fun run =>
      { run with outcome := some outcome, isWaiting := false, isGathering := false } with
      agenda, turn } := by
  rw [endRun_eq]
  unfold Session.pass
  split
  · split <;> exact ⟨_, none, rfl⟩
  · exact ⟨_, _, rfl⟩

lemma runs_endRun (s : Session ν) (r : Nat) (outcome : Except Fault Summary) :
    (s.endRun r outcome).runs[r]? = s.runs[r]?.map fun run =>
      { run with outcome := some outcome, isWaiting := false, isGathering := false } := by
  obtain ⟨agenda, turn, hended⟩ := s.endRun_frame r outcome
  rw [hended]
  exact runs_modifyRun_self _

theorem Same.pass (hline : r ∉ s.line) (q : Nat) : Same r s (s.pass q) := by
  have hfree : Same r s { s with turn := none } := .of_cues rfl rfl rfl (.refl _) (fun _ => id)
  unfold Session.pass
  split
  · split
    · exact hfree
    · rename_i next rest hnext
      have hne : next ≠ r := by
        rintro rfl
        simp [hnext] at hline
      exact hfree.trans (.soon _ 0 _ (concerns_takeTurn hne) (by simp))
  · exact .refl r s

/-- another run ends -/
theorem Same.endRun_ne (hline : r ∉ s.line) (hq : q ≠ r) (outcome : Except Fault Summary) :
    Same r s (s.endRun q outcome) := by
  rw [endRun_eq]
  refine (Same.modifyRun_ne hq _).trans (.pass ?_ q)
  exact hline

theorem Kept.endRun_ne (h : s.Kept r) (hq : q ≠ r) (outcome : Except Fault Summary) :
    (s.endRun q outcome).Kept r :=
  h.same (.endRun_ne h.not_mem_line hq outcome)

/-- the run ends; it does not look for bulbs any longer, and sums up only when it has finished -/
theorem Kept.endRun (h : s.Kept r) {outcome : Except Fault Summary}
    (hout : ∀ l, s.ledger r = some l → l.phase ≠ .discovering ∧
      ∀ summary, outcome = .ok summary → l.phase = .finished ∧ summary.Sums l.control) :
    (s.endRun r outcome).Kept r := by
  obtain ⟨l, hl, hsound⟩ := h.sound
  obtain ⟨hphase, hsum⟩ := hout l hl
  rw [endRun_eq]
  have hline := h.not_mem_line
  refine Kept.same ⟨⟨{ l with
    outcome := some outcome, isWaiting := false, isGathering := false }, ?_, ?_⟩,
      h.orderly.modifyRun r _⟩ (.pass ?_ r)
  · obtain ⟨run, hget, rfl⟩ := Option.map_eq_some_iff.mp hl
    rw [ledger_modifyRun, hget]
    rfl
  · have htoll := hsound.toll_le
    have hbefore := hsound.toll_eq_zero
    simp only [Ledger.toll] at htoll hbefore
    have hover := hsound.over hphase hsum
    have hawait := hover.await false l.calms l.halts ?_ ?_
      hsound.allEnded
    · exact hawait.wait false l.wakes (.inl (by simp))
    · intro hp
      have := hbefore hp
      exact ⟨rfl, by omega, by omega⟩
    · show l.calms + l.halts + false.toNat + finals l.deeds + aborts l.deeds ≤ 1
      simp only [Bool.toNat_false]
      omega
  · exact hline

/-! ### Calling effects off -/

lemma isOf_iff {errand : Errand} :
    errand.isOf q = true ↔ errand.run = some q ∧ errand.isAttached = true := by
  simp [Errand.isOf]

/-- an errand is called off unless it is over, or its request for the state was answered -/
lemma callOff_cases (s : Session ν) (e : Nat) (errand : Errand) :
    s.callOff e errand = s ∨ errand.isOver = false ∧
      s.callOff e errand = (s.dropAwaited e).setStage e (.over (.ok .nothing)) := by
  unfold Session.callOff
  split
  · exact .inl rfl
  · exact .inl rfl
  · rename_i hover _
    refine .inr ⟨?_, rfl⟩
    unfold Errand.isOver Errand.outcome?
    split
    · rename_i outcome hstage
      exact absurd hstage (hover outcome)
    · rfl

/-- the effects of a run are called off one by one -/
lemma callOffAll_induction {p : Session ν → Prop} (hs : p s)
    (hstep : ∀ t e errand, p t → t.errands[e]? = some errand → errand.isOf q = true →
      p (t.callOff e errand)) : p (s.callOffAll q) := by
  unfold Session.callOffAll
  generalize List.range s.errands.length = places
  induction places generalizing s with
  | nil => exact hs
  | cons e places ih =>
    rw [List.foldl_cons]
    apply ih
    split
    · exact hs
    · rename_i errand he
      split
      · rename_i hof
        exact hstep s e errand hs he hof
      · exact hs

lemma Kept.callOffAll_ne (h : s.Kept r) (hq : q ≠ r) : (s.callOffAll q).Kept r := by
  refine callOffAll_induction (p := fun t => t.Kept r) h ?_
  intro t e errand ht he hof
  rcases callOff_cases t e errand with hsame | ⟨hopen, hcalled⟩
  · rw [hsame]
    exact ht
  · rw [hcalled]
    have hrun : errand.run ≠ some r := by
      intro hrun
      exact hq (Option.some.inj ((isOf_iff.mp hof).1.symm.trans hrun))
    exact ht.same ((Same.dropAwaited t e).trans (.end (s := t.dropAwaited e) he hrun _))

/-- what a run has come to when its effects are called off -/
lemma Kept.callOffAll (h : s.Kept r) {l : Ledger} (hl : s.ledger r = some l)
    (ha : 0 < aborts l.deeds) : (s.callOffAll r).Kept r ∧
      ∃ effects, (s.callOffAll r).ledger r = some { l with effects } := by
  refine callOffAll_induction (p := fun t => t.Kept r ∧
    ∃ effects, t.ledger r = some { l with effects }) ⟨h, l.effects, hl⟩ ?_
  rintro t e errand ⟨ht, effects, heffects⟩ he hof
  rcases callOff_cases t e errand with hsame | ⟨hopen, hcalled⟩
  · rw [hsame]
    exact ⟨ht, effects, heffects⟩
  · rw [hcalled]
    have hrun := (isOf_iff.mp hof).1
    have hdrop : (t.dropAwaited e).ledger r = some { l with effects } :=
      (Same.dropAwaited t e).ledger.trans heffects
    obtain ⟨effects', hends, hended⟩ := ledger_end hdrop he hopen hrun (.ok .nothing)
    obtain ⟨l', hl', hsound⟩ := ht.sound
    obtain rfl := Option.some.inj (heffects.symm.trans hl')
    refine ⟨⟨⟨_, hended, hsound.callOff ha hends⟩, ?_⟩, effects', hended⟩
    exact (ht.orderly.dropAwaited e).end he _

/-! ### The search for bulbs -/

theorem Same.expect (r : Nat) (s : Session ν) (signal : Wait × Signal) :
    Same r s (s.expect signal) := by
  unfold Session.expect
  split
  · exact .soon s 0 _ rfl (by simp)
  · exact .of_cue (.signal _) (Agenda.cues_after _ _ 0 _) rfl (by simp)
  · exact .of_cue (.signal _) (Agenda.cues_pause _ _ _) rfl (by simp)

variable [Network ν]

theorem Advances.sight (r : Nat) (s : Session ν) (client : Nat) (sighting : Sighting) :
    Advances r s (s.sight client sighting) :=
  sight_induction (.hearAll r s client sighting.found) fun t signal _ ht =>
    ht.trans (Same.expect r t signal).advances

theorem Kept.listen (h : s.Kept r) (client : Nat) (listener : Listener) :
    (s.listen client listener).1.Kept r := by
  unfold Session.listen
  generalize Network.start s.network client = started
  obtain ⟨network, fault | sighting⟩ := started
  · exact h.same (.network r s network)
  · have hlistening : Same r s { s with
        network, listeners := Assoc.put s.listeners client listener } :=
      .of_cues rfl rfl rfl (.refl _) (fun _ => id)
    exact (h.same hlistening).advance (.sight r _ client sighting)

theorem Same.unlisten (r : Nat) (s : Session ν) (client : Nat) : Same r s (s.unlisten client) :=
  .of_cues rfl rfl rfl (.refl _) (fun _ => id)

lemma isClockOf_of_concerns {cue : Cue} (h : cue.concerns r = true) (q : Nat) :
    cue.isClockOf q = false := by
  cases cue <;> first | rfl | cases h

theorem Same.stopSearch_ne (hq : q ≠ r) (s : Session ν) (run : Run) :
    Same r s (s.stopSearch q run) := by
  rw [stopSearch_eq]
  refine (Same.modifyRun_ne hq _).trans ((Same.drop _ ?_).trans (.unlisten r _ _))
  exact fun cue hcue => isClockOf_of_concerns hcue q

/-- a run that looks for bulbs stops to, whatever it has on its record before -/
lemma ledger_stopSearch {l : Ledger} (run : Run) (why : List Deed)
    (hl : s.ledger r = some { l with deeds := why ++ l.deeds }) (hp : l.phase = .discovering) :
    (s.stopSearch r run).ledger r = some (l.stop why) := by
  have hstopped : (s.stopping r).ledger r = some (l.stop why) := by
    obtain ⟨run, hget, heq⟩ := Option.map_eq_some_iff.mp hl
    have hphase : run.phase = .discovering := (congrArg Ledger.phase heq).trans hp
    have hsame : s.ledgerOf r { run with
        phase := .draining, deeds := .stopped :: run.deeds } =
        { s.ledgerOf r run with
          phase := .draining, deeds := .stopped :: (s.ledgerOf r run).deeds } := rfl
    rw [stopping, ledger_modifyRun, hget]
    simp only [Option.map_some, hphase, if_true]
    rw [hsame, heq]
    rfl
  rw [stopSearch_eq]
  refine Eq.trans ((Same.drop _ ?_).trans (.unlisten r _ _)).ledger hstopped
  exact fun cue hcue => isClockOf_of_concerns hcue r

lemma Orderly.stopSearch (h : s.Orderly r) (q : Nat) (run : Run) :
    (s.stopSearch q run).Orderly r := by
  rw [stopSearch_eq]
  refine ((Same.drop _ ?_).trans (.unlisten r _ _)).orderly (h.modifyRun q _)
  exact fun cue hcue => isClockOf_of_concerns hcue q

/-- a run that handles messages breaks off; only if an event failed may a bulb be left out -/
theorem Kept.abort {l : Ledger} (hl : s.ledger r = some l) (horderly : s.Orderly r)
    (hbusy : l.Busy)
    (hamong : l.effects.map Prod.fst <+: l.action.targets.picked (bulbs (handled l.deeds)))
    (hfull : l.audience.isReliable = true →
      l.effects.map Prod.fst = l.action.targets.picked (bulbs (handled l.deeds)))
    (run : Run) (fault : Fault) : (s.abort r run fault).Kept r := by
  have hnoted : (s.note r .aborted).ledger r = some { l with deeds := [.aborted] ++ l.deeds } := by
    obtain ⟨run, hget, rfl⟩ := Option.map_eq_some_iff.mp hl
    rw [Session.note, ledger_modifyRun, hget]
    rfl
  have hstopped := ledger_stopSearch run [.aborted] hnoted hbusy.phase
  have hkept : ((s.note r .aborted).stopSearch r run).Kept r :=
    ⟨⟨_, hstopped, hbusy.abort hamong hfull⟩, (horderly.modifyRun r _).stopSearch r run⟩
  obtain ⟨hcalled, effects, hledger⟩ := hkept.callOffAll hstopped (Nat.succ_pos _)
  refine hcalled.endRun ?_
  intro l' hl'
  obtain rfl := Option.some.inj (hledger.symm.trans hl')
  refine ⟨?_, fun summary hsum => by cases hsum⟩
  show Phase.draining ≠ Phase.discovering
  decide

theorem Kept.abort_ne (h : s.Kept r) (hq : q ≠ r) (run : Run) (fault : Fault) :
    (s.abort q run fault).Kept r := by
  have hnoted : Same r s (s.note q .aborted) := .modifyRun_ne hq _
  have hstopped := h.same (hnoted.trans (.stopSearch_ne hq _ run))
  exact (hstopped.callOffAll_ne hq).endRun_ne hq _

/-! ### Closing -/

/-- the work that an effect has to do at the end is none of the ledger's -/
theorem Same.finalize (r : Nat) (s : Session ν) (q : Nat) (run : Run) :
    Same r s (s.finalize q run).1 := by
  have hstore : ∀ store, Same r s { s with store } :=
    fun store => .of_cues rfl rfl rfl (.refl _) (fun _ => id)
  obtain ⟨store, hfiled | ⟨message, htold⟩⟩ := s.finalize_frame q run
  · rw [hfiled]
    exact hstore store
  · rw [htold]
    exact (hstore store).trans (.emit _ q .deviceReport message none none)

lemma Kept.sumUp_ne (h : s.Kept r) (hq : q ≠ r) (text : String) : (s.sumUp q text).Kept r := by
  have hemit := h.same (.emit s q .runFinished text none none)
  cases sumUp_course s q text with
  | absent said gone result =>
    rw [result]
    exact hemit
  | mute said result | ends said here result =>
    rw [result]
    exact hemit.endRun_ne hq _

lemma Kept.sumUp (h : s.Kept r) {l : Ledger} (hl : s.ledger r = some l)
    (hp : l.phase = .finished) (text : String) : (s.sumUp r text).Kept r := by
  have hemit := Same.emit (r := r) s r .runFinished text none none
  have hkept := h.same hemit
  have hledger := hemit.ledger.trans hl
  have hnot : l.phase ≠ .discovering := by
    rw [hp]
    decide
  cases sumUp_course s r text with
  | absent said gone result =>
    rw [result]
    exact hkept
  | mute said result =>
    rw [result]
    refine hkept.endRun fun l' hl' => ?_
    obtain rfl := Option.some.inj (hledger.symm.trans hl')
    exact ⟨hnot, fun summary hsum => by cases hsum⟩
  | ends said here result =>
    obtain ⟨run, hget, hbook⟩ := Option.map_eq_some_iff.mp hledger
    obtain rfl := Option.some.inj (hget.symm.trans here)
    rw [result]
    refine hkept.endRun fun l' hl' => ?_
    obtain rfl := Option.some.inj (hledger.symm.trans hl')
    refine ⟨hnot, fun summary hsum => ?_⟩
    obtain rfl := Except.ok.inj hsum
    subst hbook
    exact ⟨hp, rfl, rfl, rfl, rfl⟩

/-- a run closes once its effects have ended and it is told so -/
theorem Kept.close (h : s.Kept r) {run : Run} (hrun : s.runs[r]? = some run)
    (hp : run.phase = .draining) (htoll : (s.ledgerOf r run).toll = 0)
    (hall : AllEnded (s.effects r)) : (s.close r run).Kept r := by
  have hl : s.ledger r = some (s.ledgerOf r run) := by
    rw [ledger, hrun]
    rfl
  obtain ⟨l, hl', hsound⟩ := h.sound
  obtain rfl := Option.some.inj (hl.symm.trans hl')
  have hclosed := hsound.close hp htoll hall
  have hcleared : (s.clearAway r).ledger r = some (s.ledgerOf r run).close := by
    rw [clearAway, ledger_modifyRun, hrun]
    rfl
  have hfinals : 0 < finals (s.ledgerOf r run).close.deeds := Nat.succ_pos _
  have hfinalize := Same.finalize r (s.clearAway r) r run
  have hledger := hfinalize.ledger.trans hcleared
  have horderly := hfinalize.orderly (h.orderly.modifyRun r _)
  cases close_course s r run with
  | fails finalized result =>
    rw [result]
    refine Kept.endRun ⟨⟨_, hledger, hclosed⟩, horderly⟩ ?_
    intro l' hl'
    obtain rfl := Option.some.inj (hledger.symm.trans hl')
    refine ⟨fun hd => ?_, fun summary hsum => by cases hsum⟩
    exact absurd (hp.symm.trans hd) (by decide)
  | sums finalized result =>
    rw [result]
    revert hledger horderly
    generalize ((s.clearAway r).finalize r run).1 = t
    intro hledger horderly
    have hfinished : (t.modifyRun r fun run => { run with phase := .finished }).ledger r
        = some { (s.ledgerOf r run).close with phase := .finished } := by
      obtain ⟨run', hget, hbook⟩ := Option.map_eq_some_iff.mp hledger
      rw [ledger_modifyRun, hget, ← hbook]
      rfl
    refine Kept.sumUp ⟨⟨_, hfinished, hclosed.finish hp hfinals⟩, ?_⟩ hfinished rfl _
    exact horderly.modifyRun r _

theorem Kept.close_ne (h : s.Kept r) (hq : q ≠ r) (run : Run) : (s.close q run).Kept r := by
  have hcleared : (s.clearAway q).Kept r := h.same (.modifyRun_ne hq _)
  have hfinalize := hcleared.same (.finalize r _ q run)
  cases close_course s q run with
  | fails finalized result =>
    rw [result]
    exact hfinalize.endRun_ne hq _
  | sums finalized result =>
    rw [result]
    exact (hfinalize.same (.modifyRun_ne hq _)).sumUp_ne hq _

/-! ### Draining -/

/-- a run that need not look for bulbs any longer waits for its effects, or closes at once -/
theorem Kept.drain {l : Ledger} (hl : s.ledger r = some l) (horderly : s.Orderly r)
    (hbusy : l.Busy) (hstaffed : l.Staffed) (hlook : l.control.isLooking = false) (run : Run) :
    (s.drain r run).Kept r := by
  have hledger : (s.stopSearch r run).ledger r = some (l.stop []) :=
    ledger_stopSearch run [] hl hbusy.phase
  have hsound := hbusy.stop hstaffed hlook
  have horder := horderly.stopSearch r run
  have hall := allEnded_iff horder
  have htoll : (l.stop []).toll = 0 := hbusy.toll
  have hkept : (s.stopSearch r run).Kept r := ⟨⟨_, hledger, hsound⟩, horder⟩
  obtain ⟨run', hget, hbook⟩ := Option.map_eq_some_iff.mp hledger
  have hnone := htoll
  simp only [Ledger.toll] at hnone
  have hphase : ¬ ((l.stop []).phase = .idle ∨ (l.stop []).phase = .discovering) := by
    rintro (hp | hp)
    · cases hp
    · cases hp
  cases drain_course s r run with
  | absent ended gone result =>
    rw [hget] at gone
    cases gone
  | closes ended here result =>
    obtain rfl := Option.some.inj (hget.symm.trans here)
    rw [result]
    refine hkept.close hget (congrArg Ledger.phase hbook) (hbook ▸ htoll) (hall.mp ?_)
    rw [List.all_eq_true]
    intro errand hmem
    have hout : errand.isOf r = false := by
      rw [List.isEmpty_iff, List.filter_eq_nil_iff] at ended
      simpa using ended errand hmem
    simp [hout]
  | harmed raised result =>
    rw [result]
    refine ⟨⟨_, ledger_soon_halt hledger 1 _, hsound.await _ _ _ ?_ ?_ hsound.allEnded⟩,
      horder.soon 1 _ (by simp)⟩
    · exact fun hp => absurd hp hphase
    · omega
  | calm busy unharmed ended result =>
    rw [result]
    refine ⟨⟨_, ledger_soon_calm hledger 1, hsound.await _ _ _ ?_ ?_ ?_⟩, horder.soon 1 _ (by simp)⟩
    · exact fun hp => absurd hp hphase
    · omega
    · intro _
      have hended := hall.mp (by simpa [List.all_filter] using ended)
      exact (congrArg Ledger.effects hbook) ▸ hended
  | gathers unharmed unended result =>
    rw [result]
    have hgather : ((s.stopSearch r run).modifyRun r fun run =>
        { run with isGathering := true }).ledger r
          = some { l.stop [] with isGathering := true } := by
      rw [ledger_modifyRun, hget, ← hbook]
      rfl
    refine ⟨⟨_, hgather, hsound.await _ _ _ ?_ ?_ hsound.allEnded⟩, horder.modifyRun r _⟩
    · exact fun hp => absurd hp hphase
    · simp only [Bool.toNat_true]
      omega

theorem Kept.drain_ne (h : s.Kept r) (hq : q ≠ r) (run : Run) : (s.drain q run).Kept r := by
  have hstopped := h.same (.stopSearch_ne hq s run)
  have hcue : ∀ fault, (Cue.drained q fault).concerns r = false := by
    intro fault
    cases fault <;>
      simp [Cue.concerns, Cue.isWakeOf, Cue.isCalmOf, Cue.isHaltOf, Cue.isEntryOf, hq]
  cases drain_course s q run with
  | absent ended gone result =>
    rw [result]
    exact hstopped
  | closes ended here result =>
    rw [result]
    exact hstopped.close_ne hq _
  | harmed raised result | calm busy unharmed ended result =>
    rw [result]
    exact hstopped.same (.soon _ 1 _ (hcue _) (by simp))
  | gathers unharmed unended result =>
    rw [result]
    exact hstopped.same (.modifyRun_ne hq _)

/-! ### The inbox -/

lemma dispatch_eq (s : Session ν) (q : Nat) (run : Run) (handle : Handle) :
    ∃ errand : Errand, errand.run = some q ∧ errand.handle = handle ∧ errand.isOver = false ∧
      errand.isAttached = true ∧ s.dispatch q run handle =
        { s with errands := s.errands ++ [errand] }.soon 0 (.begin s.errands.length) :=
  ⟨_, rfl, rfl, rfl, rfl, rfl⟩

/-- a new errand is in order -/
lemma Orderly.append (h : s.Orderly r) {errand : Errand} (hatt : errand.isAttached = true) :
    ({ s with errands := s.errands ++ [errand] } : Session ν).Orderly r := by
  constructor
  · intro x hx hrun hout
    rcases List.mem_append.mp hx with hold | hnew
    · exact h.detached x hold hrun hout
    · obtain rfl : x = errand := by simpa using hnew
      exact absurd (hatt.symm.trans hout) (by decide)
  · intro e he
    obtain ⟨x, hx, hover⟩ := h.retired e he
    refine ⟨x, ?_, hover⟩
    have hlt := (List.getElem?_eq_some_iff.mp hx).1
    exact (List.getElem?_append_left hlt).trans hx

lemma effects_append_errand (r : Nat) (s : Session ν) (errand : Errand) :
    ({ s with errands := s.errands ++ [errand] } : Session ν).effects r = s.effects r ++
      if errand.run = some r then [(errand.handle, errand.isOver)] else [] := by
  show ((s.errands ++ [errand]).filter _).map _ = _
  rw [List.filter_append, List.map_append]
  by_cases hrun : errand.run = some r
  · simp [hrun, effects]
  · simp [hrun, effects]

lemma ledger_dispatch {l : Ledger} (hl : s.ledger r = some l) (run : Run) (handle : Handle) :
    (s.dispatch r run handle).ledger r
      = some { l with effects := l.effects ++ [(handle, false)] } := by
  obtain ⟨errand, hrun, rfl, hopen, _, hdispatch⟩ := dispatch_eq s r run handle
  obtain ⟨current, hget, rfl⟩ := Option.map_eq_some_iff.mp hl
  have happend : ({ s with errands := s.errands ++ [errand] } : Session ν).ledger r
      = some { s.ledgerOf r current with effects := s.effects r ++ [(errand.handle, false)] } := by
    have heffects := effects_append_errand r s errand
    rw [if_pos hrun, hopen] at heffects
    show s.runs[r]?.map _ = _
    rw [hget, Option.map_some, ledgerOf, heffects]
    rfl
  rw [hdispatch, (Same.soon _ 0 _ rfl (by simp)).ledger, happend]
  rfl

lemma Orderly.dispatch (h : s.Orderly r) (q : Nat) (run : Run) (handle : Handle) :
    (s.dispatch q run handle).Orderly r := by
  obtain ⟨errand, _, _, _, hatt, hdispatch⟩ := dispatch_eq s q run handle
  rw [hdispatch]
  exact (h.append hatt).soon 0 _ (by simp)

lemma Same.dispatch_ne (hq : q ≠ r) (s : Session ν) (run : Run) (handle : Handle) :
    Same r s (s.dispatch q run handle) := by
  obtain ⟨errand, hrun, _, _, hatt, hdispatch⟩ := dispatch_eq s q run handle
  have hne : errand.run ≠ some r := by simpa [hrun] using hq
  have happend : Same r s { s with errands := s.errands ++ [errand] } := by
    constructor
    · have heffects := effects_append_errand r s errand
      rw [if_neg hne, List.append_nil] at heffects
      exact congrArg (s.runs[r]?.map ·) (ledgerOf_congr rfl heffects (.refl _))
    · exact fun h => h.append hatt
  rw [hdispatch]
  exact happend.trans (.soon _ 0 _ rfl (by simp))

lemma ledger_take {current : Run} (hget : s.runs[r]? = some current) (message : Message)
    (rest : List Message) :
    (s.take r current message rest).ledger r = some ((s.ledgerOf r current).take message rest) := by
  rw [Session.take, ledger_modifyRun, hget]
  rfl

/-- handling messages keeps the ledger sound: by induction on the messages that are left -/
theorem Kept.handleAll (run : Run) (messages : List Message) {l : Ledger}
    (hl : s.ledger r = some l) (horderly : s.Orderly r) (hbusy : l.Busy) (hstaffed : l.Staffed)
    (hlook : l.control.isLooking = true) (hinbox : l.inbox = messages) :
    (s.handleAll r run messages).Kept r := by
  induction messages generalizing s l with
  | nil =>
    obtain ⟨current, hget, rfl⟩ := Option.map_eq_some_iff.mp hl
    have hsound := hbusy.sound hstaffed hlook
    have hwait := hsound.wait true 0 (.inr ⟨hbusy.phase, Nat.le_refl 1⟩)
    refine ⟨⟨_, ?_, hwait⟩, horderly.modifyRun r _⟩
    unfold Session.handleAll
    rw [ledger_modifyRun, hget]
    simp only [Option.map_some]
    rw [← hinbox, ← hbusy.wakes]
    rfl
  | cons message rest ih =>
    obtain ⟨current, hget, rfl⟩ := Option.map_eq_some_iff.mp hl
    have htaken := ledger_take hget message rest
    have horder : (s.take r current message rest).Orderly r := horderly.modifyRun r _
    have hstep := hbusy.take hlook hinbox
    have hsaid : ∀ handle, Same r (s.take r current message rest)
        ((s.take r current message rest).sayMatch r handle).1 :=
      fun handle => .emit _ r .deviceMatched _ (some handle.name) none
    cases handleAll_course s r run message rest with
    | absent gone result =>
      rw [hget] at gone
      cases gone
    | @breaksOff current' handle fault here matched said result =>
      obtain rfl := Option.some.inj (hget.symm.trans here)
      rw [result]
      have hunreliable := not_isReliable_of_emit .deviceMatched _ (some handle.name) none fault
        htaken said
      refine Kept.abort ((hsaid handle).ledger.trans htaken) ((hsaid handle).orderly horder) hstep
        (hbusy.among_take hstaffed message rest) (fun hreliable => ?_) run fault
      exact absurd (hunreliable.symm.trans hreliable) (by decide)
    | @acts current' handle here matched said result =>
      obtain rfl := Option.some.inj (hget.symm.trans here)
      rw [result]
      obtain ⟨hnext, hfull⟩ := hbusy.dispatch hstaffed hlook hinbox matched
      exact ih (ledger_dispatch ((hsaid handle).ledger.trans htaken) run handle)
        (((hsaid handle).orderly horder).dispatch r run handle) hnext hfull
        ((Control.isLooking_of_match matched).trans hlook) rfl
    | goesOn here matched looks result =>
      obtain rfl := Option.some.inj (hget.symm.trans here)
      rw [result]
      exact ih htaken horder hstep (hbusy.staffed_take hstaffed rest matched) looks rfl
    | drains here matched looked result =>
      obtain rfl := Option.some.inj (hget.symm.trans here)
      rw [result]
      exact Kept.drain htaken horder hstep (hbusy.staffed_take hstaffed rest matched) looked run

theorem Kept.handleAll_ne (h : s.Kept r) (hq : q ≠ r) (run : Run) (messages : List Message) :
    (s.handleAll q run messages).Kept r := by
  induction messages generalizing s with
  | nil => exact h.same (.modifyRun_ne hq _)
  | cons message rest ih =>
    have htaken : ∀ current, (s.take q current message rest).Kept r :=
      fun current => h.same (.modifyRun_ne hq _)
    have hsaid : ∀ current handle, ((s.take q current message rest).sayMatch q handle).1.Kept r :=
      fun current handle => (htaken current).same (.emit _ q .deviceMatched _ (some handle.name) none)
    cases handleAll_course s q run message rest with
    | absent gone result =>
      rw [result]
      exact h
    | breaksOff here matched said result =>
      rw [result]
      exact (hsaid _ _).abort_ne hq run _
    | acts here matched said result =>
      rw [result]
      exact ih ((hsaid _ _).same (.dispatch_ne hq _ run _))
    | goesOn here matched looks result =>
      rw [result]
      exact ih (htaken _)
    | drains here matched looked result =>
      rw [result]
      exact (htaken _).drain_ne hq run

/-! ### The start of a run -/

theorem Same.prepare (r : Nat) (s : Session ν) (q : Nat) (run : Run) :
    Same r s (s.prepare q run).1 := by
  rcases prepare_cases s q run with heq | heq
  · rw [heq]
    exact .refl r s
  · rw [heq]
    exact .emit s q .deviceReport _ none none

/-- a run that listens for bulbs and need not look into its inbox yet -/
structure Ready (l : Ledger) : Prop where
  sound : l.Sound
  phase : l.phase = .discovering
  wakes : l.wakes = 0
  waiting : l.isWaiting = false

lemma Ready.hear {l : Ledger} (h : Ready l) (handle : Handle) : Ready (l.hear handle) := by
  have hpost : ∀ l : Ledger, l.phase = .discovering → l.wakes = 0 → l.isWaiting = false →
      ∀ m, (l.post m).phase = .discovering ∧ (l.post m).wakes = 0 ∧ (l.post m).isWaiting = false := by
    intro l hp hw hi m
    refine ⟨hp, ?_, rfl⟩
    show l.wakes + l.isWaiting.toNat = 0
    rw [hw, hi]
    rfl
  have hsound := h.sound.hear handle
  unfold Ledger.hear at hsound ⊢
  cases hm : (l.control.announce handle).2 with
  | none =>
    simp only [hm] at hsound
    exact ⟨hsound, h.phase, h.wakes, h.waiting⟩
  | some message =>
    simp only [hm] at hsound
    obtain ⟨hp, hw, hi⟩ := hpost { l with
      control := (l.control.announce handle).1
      deeds := .heard handle :: l.deeds } h.phase h.wakes h.waiting message
    exact ⟨hsound, hp, hw, hi⟩

lemma Ready.listen {l : Ledger} (h : Ready l) (hl : s.ledger r = some l) (client : Nat)
    (listener : Listener) : ∃ l', (s.listen client listener).1.ledger r = some l' ∧ Ready l' := by
  unfold Session.listen
  generalize Network.start s.network client = started
  obtain ⟨network, fault | sighting⟩ := started
  · exact ⟨l, hl, h⟩
  · have hlistening : Same r s { s with
        network, listeners := Assoc.put s.listeners client listener } :=
      .of_cues rfl rfl rfl (.refl _) (fun _ => id)
    obtain ⟨l', hl', hready⟩ := ledger_hearAll (p := Ready) (fun _ handle h => h.hear handle)
      (hlistening.ledger.trans hl) h client sighting.found
    exact ⟨l', sight_induction (p := fun t => t.ledger r = some l') hl' fun t signal _ ht =>
      (Same.expect r t signal).ledger.trans ht, hready⟩

/-- a run starts to look for bulbs -/
lemma Kept.seek {l : Ledger} (hl : s.ledger r = some l) (h : s.Kept r) (hp : l.phase = .idle)
    (hout : l.outcome = none) (client : Nat) (listener : Listener) :
    (∃ l', ((s.seeking r).listen client listener).1.ledger r = some l' ∧ Ready l') ∧
      ((s.seeking r).listen client listener).1.Orderly r := by
  obtain ⟨l', hl', hsound⟩ := h.sound
  obtain rfl := Option.some.inj (hl.symm.trans hl')
  have hu := hsound.unstarted hp
  have hlooking : (s.seeking r).ledger r
      = some { l with phase := .discovering, deeds := .sought :: l.deeds } := by
    obtain ⟨current, hget, rfl⟩ := Option.map_eq_some_iff.mp hl
    rw [seeking, ledger_modifyRun, hget]
    rfl
  have hready : Ready { l with phase := .discovering, deeds := .sought :: l.deeds } :=
    ⟨hsound.seek hp hout, rfl, hu.wakes, hu.waiting⟩
  have hkept : (s.seeking r).Kept r := ⟨⟨_, hlooking, hready.sound⟩, h.orderly.modifyRun r _⟩
  exact ⟨hready.listen hlooking client listener, (hkept.listen client listener).orderly⟩

/-- and looks into its inbox for those that were found at once -/
theorem Kept.search {l : Ledger} (hl : s.ledger r = some l) (h : s.Kept r)
    (hp : l.phase = .idle) (hout : l.outcome = none) (run : Run) : (s.search r run).Kept r := by
  obtain ⟨⟨l', hl', hready'⟩, horderly⟩ := Kept.seek hl h hp hout run.client (.run r)
  have hbusy := hready'.sound.busy hready'.phase hready'.wakes hready'.waiting
  cases search_course s r run with
  | breaksOff listened result =>
    rw [result]
    exact Kept.abort hl' horderly hbusy hready'.sound.staffed.among
      (fun hreliable => hready'.sound.staffed.full (.inr hreliable)) run _
  | absent listened gone result =>
    obtain ⟨current, hget, -⟩ := Option.map_eq_some_iff.mp hl'
    rw [hget] at gone
    cases gone
  | @looks current listened here result =>
    rw [result]
    obtain ⟨current', hget, rfl⟩ := Option.map_eq_some_iff.mp hl'
    obtain rfl := Option.some.inj (hget.symm.trans here)
    have hclock := Same.soon (r := r) ((s.seeking r).listen run.client (.run r)).1 0 (.clock r) rfl
      (by simp)
    exact Kept.handleAll current' current'.inbox (hclock.ledger.trans hl') (hclock.orderly horderly)
      hbusy hready'.sound.staffed (hready'.sound.looks hready'.phase).looking rfl

theorem Kept.search_ne (h : s.Kept r) (hq : q ≠ r) (run : Run) : (s.search q run).Kept r := by
  have hseeking : (s.seeking q).Kept r := h.same (.modifyRun_ne hq _)
  have hlistened := hseeking.listen run.client (.run q)
  cases search_course s q run with
  | breaksOff listened result =>
    rw [result]
    exact hlistened.abort_ne hq run _
  | absent listened gone result =>
    rw [result]
    exact hlistened
  | looks listened here result =>
    rw [result]
    exact (hlistened.same (.soon _ 0 _ rfl (by simp))).handleAll_ne hq _ _

end Lamplighter.Session
