import Lamplighter.Proofs.Run.Account
import Lamplighter.Proofs.Run.Resolution
import Lamplighter.Proofs.Run.Story

/-!
# Telling: the story of a run as it goes on

Every event of a run comes to a reader.  The run has told an opening, and since then what is about its
bulbs.

* `Session.Unharmed`   no fault of an effect goes further than to the audience;
* `Session.Recounts`   this is what the run has told, and it has not ended;
* `Recounts.fail`, `Recounts.conclude`   so it stays when an effect has a fault, or ends;
* `Recounts.perform`   and with each step that one of its effects takes.
-/

set_option linter.unusedSectionVars false

namespace Lamplighter

open Deeds

namespace Session

variable {ν : Type} {s t u : Session ν} {r q e : Nat} {reader : Reader} {errand : Errand} {run : Run}
  {opening saves : List Event} {cue : Cue} {stage : Stage}

/-! ### Faults that go no further -/

/-- no effect of the run has ended with a fault, and the run is told of none -/
structure Unharmed (s : Session ν) (r : Nat) : Prop where
  errands : ∀ errand ∈ s.errands, errand.run = some r → errand.raised? = none
  cues : ∀ cue ∈ s.agenda.cues, cue.isHaltOf r = false

namespace Unharmed

lemma of_errands (h : s.Unharmed r) (herrands : t.errands = s.errands)
    (hcues : ∀ cue ∈ t.agenda.cues, cue ∈ s.agenda.cues ∨ cue.isHaltOf r = false) : t.Unharmed r := by
  refine ⟨herrands ▸ h.errands, fun cue hmem => ?_⟩
  rcases hcues cue hmem with hold | hcue
  · exact h.cues cue hold
  · exact hcue

lemma set {agenda : Agenda Cue} (h : s.Unharmed r)
    (hcues : agenda.cues.Perm s.agenda.cues ∨ agenda.cues.Perm (cue :: s.agenda.cues))
    (hcue : cue.isHaltOf r = false) : ({ s with agenda } : Session ν).Unharmed r := by
  refine h.of_errands rfl fun cue' hmem => ?_
  rcases hcues with hsame | hmore
  · exact .inl (hsame.mem_iff.mp hmem)
  · rcases List.mem_cons.mp (hmore.mem_iff.mp hmem) with rfl | hold
    · exact .inr hcue
    · exact .inl hold

lemma soon (h : s.Unharmed r) (turns : Nat) (hcue : cue.isHaltOf r = false) :
    (s.soon turns cue).Unharmed r :=
  h.set (.inr (s.agenda.cues_soon turns cue)) hcue

lemma drop (h : s.Unharmed r) (unwanted : Cue → Bool) :
    ({ s with agenda := s.agenda.drop unwanted } : Session ν).Unharmed r := by
  refine h.of_errands rfl fun cue hmem => .inl ?_
  have hmem : cue ∈ (s.agenda.drop unwanted).cues := hmem
  rw [Agenda.cues_drop] at hmem
  exact (List.mem_filter.mp hmem).1

lemma setStage (h : s.Unharmed r) (e : Nat) (hstage : ∀ fault, stage ≠ .over (.error fault)) :
    (s.setStage e stage).Unharmed r := by
  refine ⟨fun errand hmem hrun => ?_, h.cues⟩
  have hmem : errand ∈ s.errands.modify e fun errand => { errand with stage } := hmem
  obtain ⟨i, hi⟩ := List.getElem?_of_mem hmem
  rw [List.getElem?_modify] at hi
  obtain ⟨old, hold, hnew⟩ := Option.map_eq_some_iff.mp hi
  split at hnew
  · subst hnew
    unfold Errand.raised?
    split
    · rename_i fault heq
      exact absurd heq (hstage fault)
    · rfl
  · subst hnew
    exact h.errands old (List.mem_of_getElem? hold) hrun

/-- as long as a run is told of no fault -/
lemma of_bearing (h : s.Unharmed r) (hget : s.runs[r]? = some run)
    (hbearing : t.bearing r = s.bearing r) (herrands : t.errands = s.errands) : t.Unharmed r := by
  refine ⟨herrands ▸ h.errands, ?_⟩
  have hnone : s.agenda.cues.countP (·.isHaltOf r) = 0 :=
    List.countP_eq_zero.mpr fun cue hmem => by simp [h.cues cue hmem]
  unfold bearing ledger at hbearing
  rw [hget] at hbearing
  obtain ⟨l, hl, hsame⟩ := Option.map_eq_some_iff.mp hbearing
  obtain ⟨run', -, rfl⟩ := Option.map_eq_some_iff.mp hl
  have hhalts : t.agenda.cues.countP (·.isHaltOf r) = 0 := (congrArg Bearing.halts hsame).trans hnone
  intro cue hmem
  exact Bool.eq_false_iff.mpr (List.countP_eq_zero.mp hhalts cue hmem)

end Unharmed

/-! ### What a run has told -/

/-- a run that has not ended has told the opening, what is about its bulbs, and maybe more -/
structure Recounts (s : Session ν) (r : Nat) (reader : Reader) (opening saves : List Event) :
    Prop where
  told : ∃ run tales, s.runs[r]? = some run ∧ run.outcome = none ∧
    s.voice r reader = opening ++ tales.map Prod.snd ++ saves ∧ Covers tales (s.effects r) ∧
    Blames tales ((raised run.deeds).map Prod.fst)
  attends : s.Attends r reader
  unharmed : s.Unharmed r

namespace Recounts

lemma of_parts (h : s.Recounts r reader opening saves) (hruns : t.runs = s.runs)
    (hhub : t.hub = s.hub) (heffects : t.effects r = s.effects r) (hunharmed : t.Unharmed r) :
    t.Recounts r reader opening saves := by
  have hairs : t.airs = s.airs := by
    unfold airs
    rw [hruns, hhub]
  refine ⟨?_, h.attends.of_airs hairs, hunharmed⟩
  rw [hruns, heffects, voice_of_airs hairs]
  exact h.told

lemma soon (h : s.Recounts r reader opening saves) (turns : Nat) (hcue : cue.isHaltOf r = false) :
    (s.soon turns cue).Recounts r reader opening saves :=
  h.of_parts rfl rfl rfl (h.unharmed.soon turns hcue)

lemma drop (h : s.Recounts r reader opening saves) (unwanted : Cue → Bool) :
    ({ s with agenda := s.agenda.drop unwanted } : Session ν).Recounts r reader opening saves :=
  h.of_parts rfl rfl rfl (h.unharmed.drop unwanted)

lemma network (h : s.Recounts r reader opening saves) (network : ν) :
    ({ s with network } : Session ν).Recounts r reader opening saves :=
  h.of_parts rfl rfl rfl ⟨h.unharmed.errands, h.unharmed.cues⟩

/-- an effect that is not over goes on -/
lemma setStage (h : s.Recounts r reader opening saves) (ho : s.IsOpen e errand) (stage : Stage)
    (hstage : { errand with stage }.isOver = false) :
    (s.setStage e stage).Recounts r reader opening saves := by
  refine h.of_parts rfl rfl (effects_modifyErrand _ ho.1 rfl rfl (hstage.trans ho.2.symm))
    (h.unharmed.setStage e ?_)
  rintro fault rfl
  cases hstage

lemma modifyRun (h : s.Recounts r reader opening saves) {change : Run → Run}
    (hsame : ∀ run, (change run).audience = run.audience ∧ (change run).outcome = run.outcome ∧
      (change run).events = run.events ∧ raised (change run).deeds = raised run.deeds) :
    (s.modifyRun r change).Recounts r reader opening saves := by
  have hairs : (s.modifyRun r change).airs = s.airs :=
    airs_modifyRun s r fun run => ⟨(hsame run).1, (hsame run).2.2.1⟩
  obtain ⟨run, tales, hget, houtcome, hvoice, hcovers, hblames⟩ := h.told
  obtain ⟨-, hsame₂, -, hsame₄⟩ := hsame run
  refine ⟨⟨change run, tales, ?_, hsame₂.trans houtcome, (voice_of_airs hairs).trans hvoice, hcovers,
    hsame₄ ▸ hblames⟩, h.attends.of_airs hairs, ⟨h.unharmed.errands, h.unharmed.cues⟩⟩
  rw [runs_modifyRun_self, hget]
  rfl

lemma of_bearing (h : s.Recounts r reader opening saves) (hairs : t.airs = s.airs)
    (hbearing : t.bearing r = s.bearing r) (herrands : t.errands = s.errands) :
    t.Recounts r reader opening saves := by
  obtain ⟨run, tales, hget, houtcome, hvoice, hcovers, hblames⟩ := h.told
  have hunharmed := h.unharmed.of_bearing hget hbearing herrands
  unfold bearing ledger at hbearing
  rw [hget] at hbearing
  obtain ⟨l, hl, hsame⟩ := Option.map_eq_some_iff.mp hbearing
  obtain ⟨run', hget', rfl⟩ := Option.map_eq_some_iff.mp hl
  have heffects : t.effects r = s.effects r := congrArg Bearing.effects hsame
  have hblamed : (raised run'.deeds).map Prod.fst = (raised run.deeds).map Prod.fst :=
    congrArg Bearing.blamed hsame
  refine ⟨⟨run', tales, hget', (congrArg Bearing.outcome hsame).trans houtcome,
    (voice_of_airs hairs).trans hvoice, ?_, ?_⟩, h.attends.of_airs hairs, hunharmed⟩
  · rw [heffects]
    exact hcovers
  · rw [hblamed]
    exact hblames

lemma post (h : s.Recounts r reader opening saves) (q : Nat) (message : Message) :
    (s.post q message).Recounts r reader opening saves :=
  h.of_bearing (airs_post s q message) (bearing_post s q message) (errands_post s q message)

lemma hearAll (h : s.Recounts r reader opening saves) (client : Nat) (handles : List Handle) :
    (s.hearAll client handles).Recounts r reader opening saves :=
  h.of_bearing (airs_hearAll s client handles) (bearing_hearAll s client handles)
    (errands_hearAll s client handles)

/-- an effect of the run that is not over has its place among the others -/
lemma exists_place (ho : s.IsOpen e errand) (hrun : errand.run = some r) :
    ∃ i, (s.effects r)[i]? = some (errand.handle, false) ∧ ∀ outcome,
      (s.setStage e (.over outcome)).effects r = (s.effects r).set i (errand.handle, true) := by
  obtain ⟨older, newer, hs, hchange⟩ := errands_split ho.1
  obtain ⟨front, back, heffects⟩ := effects_split (ν := ν) r older newer
  have hfront := heffects s errand hs
  rw [if_pos hrun, ho.2, List.append_assoc] at hfront
  refine ⟨front.length, ?_, ?_⟩
  · rw [hfront, List.getElem?_append_right (Nat.le_refl _), Nat.sub_self]
    rfl
  · intro outcome
    have hended := heffects (s.setStage e (.over outcome)) _ (hchange _)
    rw [hended, if_pos hrun, hfront, List.append_assoc]
    simp [Errand.isOver, Errand.outcome?]

/-! ### The end of an effect -/

/-- the run is told that an effect has ended -/
lemma inform (h : s.Recounts r reader opening saves) (e : Nat) (message : Message) :
    (((s.post r message).soon 0 (.retire e)).checkGathered r none).Recounts r reader opening
      saves := by
  have hposted : ((s.post r message).soon 0 (.retire e)).Recounts r reader opening saves :=
    (h.post r message).soon 0 rfl
  unfold Session.checkGathered
  split
  · exact hposted
  · split
    · have hfree : (((s.post r message).soon 0 (.retire e)).modifyRun r fun run =>
          { run with isGathering := false }).Recounts r reader opening saves :=
        hposted.modifyRun fun _ => ⟨rfl, rfl, rfl, rfl⟩
      exact hfree.soon 1 rfl
    · exact hposted

lemma conclude (h : s.Recounts r reader opening []) (ho : s.IsOpen e errand)
    (hrun : errand.run = some r) (isOk : Bool) (reply : Reply) :
    (s.conclude e errand isOk (.ok reply)).Recounts r reader opening [] := by
  obtain ⟨i, hi, hended⟩ := exists_place (s := s.dropAwaited e) ho hrun
  obtain ⟨run, tales, hget, houtcome, hvoice, hcovers, hblames⟩ := h.told
  have hairs : ((s.dropAwaited e).setStage e (.over (.ok reply))).airs = s.airs := rfl
  have hover : ((s.dropAwaited e).setStage e (.over (.ok reply))).Recounts r reader opening [] := by
    refine ⟨⟨run, tales, hget, houtcome, hvoice, ?_, hblames⟩, h.attends.of_airs hairs,
      (h.unharmed.drop fun cue => cue.isAwaitedBy e).setStage e (by simp)⟩
    rw [hended]
    exact hcovers.finish hi
  unfold Session.conclude
  simp only [hrun]
  exact hover.inform e _

lemma fail (h : s.Recounts r reader opening []) (ho : s.IsOpen e errand) (hrun : errand.run = some r)
    (fault : Fault) : (s.fail e errand fault).Recounts r reader opening [] := by
  obtain ⟨run, tales, hget, houtcome, hvoice, hcovers, hblames⟩ := h.told
  have hairs : (s.note r (.raised errand.handle fault)).airs = s.airs :=
    airs_modifyRun s r fun _ => ⟨rfl, rfl⟩
  obtain ⟨t, event, hemit, hkind, hdevice, hutters⟩ := emit_attends (h.attends.of_airs hairs)
    .deviceFailed (failureText errand.handle fault) (some errand.handle.name) none
  obtain ⟨run', hget', houtcome', hdeeds'⟩ := hutters.run
    { run with deeds := .raised errand.handle fault :: run.deeds } (by
      rw [Session.note, runs_modifyRun_self, hget]
      rfl)
  have hopen : (t.dropAwaited e).IsOpen e errand := by
    refine ⟨?_, ho.2⟩
    show t.errands[e]? = _
    rw [hutters.errands]
    exact ho.1
  obtain ⟨i, hi, hended⟩ := exists_place hopen hrun
  have heffects : (t.dropAwaited e).effects r = s.effects r := by
    show List.map _ (t.errands.filter _) = _
    rw [hutters.errands]
    rfl
  rw [heffects] at hi hended
  have hunharmed : t.Unharmed r := h.unharmed.of_errands hutters.errands fun cue hmem => .inl (by
    rw [hutters.agenda] at hmem
    exact hmem)
  have hover : ((t.dropAwaited e).setStage e (.over (.ok .nothing))).Recounts r reader opening [] := by
    refine ⟨⟨run', tales ++ [(i, event)], hget', houtcome'.trans houtcome, ?_, ?_, ?_⟩,
      hutters.attends.of_airs rfl, (hunharmed.drop fun cue => cue.isAwaitedBy e).setStage e (by simp)⟩
    · refine hutters.voice.trans ?_
      rw [voice_of_airs hairs, hvoice]
      simp
    · rw [hended]
      exact hcovers.fail hi hkind hdevice
    · rw [hdeeds']
      show Blames _ ((raised run.deeds ++ [(errand.handle, fault)]).map Prod.fst)
      rw [List.map_append]
      exact hblames.fail hkind hdevice
  unfold Session.fail
  simp only [hrun, hemit]
  unfold Session.conclude
  simp only [hrun]
  exact hover.inform e _

/-! ### The steps of an effect -/

lemma report (h : s.Recounts r reader opening []) (ho : s.IsOpen e errand)
    (hrun : errand.run = some r) (message : String) (data : Option Json) : ∃ t,
      s.emit r .deviceReport message (some errand.handle.name) data = (t, none) ∧
        t.Recounts r reader opening [] ∧ t.IsOpen e errand := by
  obtain ⟨i, hi, -⟩ := exists_place ho hrun
  obtain ⟨run, tales, hget, houtcome, hvoice, hcovers, hblames⟩ := h.told
  obtain ⟨t, event, hemit, hkind, hdevice, hutters⟩ := emit_attends h.attends .deviceReport message
    (some errand.handle.name) data
  obtain ⟨run', hget', houtcome', hdeeds'⟩ := hutters.run run hget
  have heffects : t.effects r = s.effects r := by
    rw [effects, effects, hutters.errands]
  refine ⟨t, hemit, ⟨⟨run', tales ++ [(i, event)], hget', houtcome'.trans houtcome, ?_, ?_, ?_⟩,
    hutters.attends, h.unharmed.of_errands hutters.errands fun cue hmem => .inl ?_⟩, ?_, ho.2⟩
  · rw [hutters.voice, hvoice]
    simp
  · rw [heffects]
    exact hcovers.report hi hkind hdevice
  · rw [hdeeds']
    exact hblames.of_ne (by simp [hkind])
  · rwa [hutters.agenda] at hmem
  · rw [hutters.errands]
    exact ho.1

variable [Network ν]

lemma send (h : s.Recounts r reader opening []) (errand : Errand) (request : Request) :
    (s.send errand request).1.Recounts r reader opening [] :=
  h.network _

lemma settle (h : s.Recounts r reader opening []) (errand : Errand) (request : Request)
    (answer : Answer) : (s.settle errand request answer).1.Recounts r reader opening [] :=
  (h.network _).hearAll _ _

lemma isOpen_settle (ho : s.IsOpen e errand) (request : Request) (answer : Answer) :
    (s.settle errand request answer).1.IsOpen e errand := by
  rw [IsOpen, errands_settle]
  exact ho

/-- a request of an effect takes its time -/
lemma pause (h : s.Recounts r reader opening []) (duration : Duration) (hcue : cue.isHaltOf r = false) :
    ({ s with agenda := s.agenda.pause duration cue } : Session ν).Recounts r reader opening [] :=
  h.of_parts rfl rfl rfl (h.unharmed.set (Agenda.cues_pause _ duration cue) hcue)

/-- by the cases of a step: until the effect waits again, or ends, it stays where it is -/
theorem of_stepping (h : Stepping e errand s t) (hs : s.Recounts r reader opening [])
    (ho : s.IsOpen e errand) (hrun : errand.run = some r) : t.Recounts r reader opening [] := by
  induction h with
  | ends s reply => exact hs.conclude ho hrun true reply
  | fails s fault => exact hs.fail ho hrun fault
  | asks s next retries =>
    have hasking := hs.setStage ho (.asking next retries) rfl
    have htimed : ({ s.setStage e (.asking next retries) with
        agenda := s.agenda.after errand.timeout 1 (.expire e) } : Session ν).Recounts r reader
          opening [] :=
      hasking.of_parts rfl rfl rfl
        (hasking.unharmed.set (Agenda.cues_after _ errand.timeout 1 (Cue.expire e)) rfl)
    exact htimed.soon 0 rfl
  | lapses s next retries => exact (hs.setStage ho (.answered next retries none) rfl).soon 2 rfl
  | answers s next retries result =>
    exact (hs.setStage ho (.answered next retries (some result)) rfl).soon 1 rfl
  | pauses s duration request answer => exact hs.pause duration rfl
  | waits s next duration request answer =>
    exact (hs.setStage ho (.sending next) rfl).pause duration rfl
  | drops _ ih => exact ih (hs.drop _) ho
  | keeps mine _ _ ih =>
    obtain rfl := Option.some.inj (hrun.symm.trans mine)
    exact ih (hs.modifyRun fun _ => ⟨rfl, rfl, rfl, rfl⟩) ho
  | reports mine message data _ ih =>
    obtain rfl := Option.some.inj (hrun.symm.trans mine)
    obtain ⟨u, hemit, hu, hopen⟩ := hs.report ho hrun message data
    rw [hemit] at ih
    exact ih hu hopen
  | sends request _ ih => exact ih (hs.send errand request) ho
  | settles request answer _ ih =>
    exact ih (hs.settle errand request answer) (isOpen_settle ho request answer)

/-- an effect of the run takes a step -/
theorem perform (h : s.Recounts r reader opening []) (he : s.errands[e]? = some errand)
    (hrun : errand.run = some r) {cue : Cue} (hcue : cue.isAwaitedBy e = true) :
    (s.perform cue).Recounts r reader opening [] := by
  cases s.perform_course hcue with
  | late result =>
    rw [result]
    exact h
  | steps here isOpen stepping =>
    obtain rfl := Option.some.inj (he.symm.trans here)
    exact of_stepping stepping h ⟨he, isOpen⟩ hrun

end Recounts

end Session

end Lamplighter
