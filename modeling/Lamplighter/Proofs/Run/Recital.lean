import Lamplighter.Proofs.Run.Telling

/-!
# Recitals: what a run tells with a step of its own

* `Session.Tells`      what comes of a step that a run takes of its own: it goes on, ends with a fault,
                       or returns and has told its story;
* `Recounts.close`     a run that closes returns, unless something goes wrong with its work at the end;
* `Recounts.handleAll`, `Recounts.search`   what comes of the inbox, and of the search for bulbs;
* `tells_start`        a run that starts tells an opening first.
-/

set_option linter.unusedSectionVars false

namespace Lamplighter

open Deeds

namespace Session

variable {ν : Type} [Network ν] {s t u : Session ν} {r q e : Nat} {reader : Reader} {errand : Errand}
  {run : Run} {opening saves : List Event} {cue : Cue} {agenda : Agenda Cue} {ear : Ear}
  {told : List Event}

/-! ### The steps of a run -/

/-- the events are reports that name no bulb -/
def Nameless (events : List Event) : Prop :=
  ∀ event ∈ events, event.kind = .deviceReport ∧ event.device = none

/-- a run has taken a step of its own -/
inductive Tells (r : Nat) (reader : Reader) (opening : List Event) (t : Session ν) : Prop
  | goesOn (recounts : t.Recounts r reader opening [])
  | fails {run : Run} {fault : Fault} {tales : Tales} {saves : List Event}
    (here : t.runs[r]? = some run) (outcome : run.outcome = some (.error fault))
    (past : run.phase = .idle ∨ 0 < finals run.deeds ∨ 0 < aborts run.deeds ∧ t.effects r = [])
    (told : t.voice r reader = opening ++ tales.map Prod.snd ++ saves)
    (covers : Covers tales (t.effects r)) (nameless : Nameless saves)
  | returns {run : Run} {summary : Summary} {tales : Tales} {saves : List Event} {finished : Event}
    (here : t.runs[r]? = some run) (outcome : run.outcome = some (.ok summary))
    (told : t.voice r reader = opening ++ tales.map Prod.snd ++ saves ++ [finished])
    (covers : Covers tales (t.effects r)) (blames : Blames tales ((raised run.deeds).map Prod.fst))
    (nameless : Nameless saves) (last : finished.kind = .runFinished)

lemma nameless_nil : Nameless [] := by
  simp [Nameless]

namespace Recounts

/-- an event that names no bulb comes behind what is about the bulbs -/
lemma add (h : s.Recounts r reader opening saves) (kind : EventKind) (message : String)
    (data : Option Json) : ∃ (t : Session ν) (event : Event),
      s.emit r kind message none data = (t, none) ∧ event.kind = kind ∧ event.device = none ∧
        t.Recounts r reader opening (saves ++ [event]) := by
  obtain ⟨run, tales, hget, houtcome, hvoice, hcovers, hblames⟩ := h.told
  obtain ⟨t, event, hemit, hkind, hdevice, hutters⟩ := emit_attends h.attends kind message none data
  obtain ⟨run', hget', houtcome', hdeeds'⟩ := hutters.run run hget
  refine ⟨t, event, hemit, hkind, hdevice, ⟨run', tales, hget', houtcome'.trans houtcome, ?_, ?_,
    hdeeds'.symm ▸ hblames⟩, hutters.attends, h.unharmed.of_errands hutters.errands ?_⟩
  · rw [hutters.voice, hvoice]
    simp
  · rw [effects, hutters.errands]
    exact hcovers
  · intro cue hmem
    rw [hutters.agenda] at hmem
    exact .inl hmem

lemma finalize (h : s.Recounts r reader opening []) (run : Run) : ∃ saves : List Event,
    Nameless saves ∧ (s.finalize r run).1.Recounts r reader opening saves := by
  have hstored : ∀ store, ({ s with store } : Session ν).Recounts r reader opening [] :=
    fun _ => h.of_parts rfl rfl rfl ⟨h.unharmed.errands, h.unharmed.cues⟩
  obtain ⟨store, hfiled | ⟨message, htold⟩⟩ := s.finalize_frame r run
  · rw [hfiled]
    exact ⟨[], nameless_nil, hstored store⟩
  · obtain ⟨t, event, hemit, hkind, hdevice, ht⟩ := (hstored store).add .deviceReport message none
    rw [htold, hemit]
    exact ⟨_, by simp [Nameless, hkind, hdevice], ht⟩

end Recounts

lemma airs_endRun (s : Session ν) (r : Nat) (outcome : Except Fault Summary) :
    (s.endRun r outcome).airs = s.airs := by
  obtain ⟨agenda, turn, hended⟩ := s.endRun_frame r outcome
  rw [hended]
  exact airs_modifyRun s r fun _ => ⟨rfl, rfl⟩

lemma effects_endRun (s : Session ν) (r q : Nat) (outcome : Except Fault Summary) :
    (s.endRun r outcome).effects q = s.effects q := by
  rw [effects, errands_endRun]
  rfl

/-- a run that closes has told its story, unless something goes wrong with its work at the end -/
lemma Recounts.close (h : s.Recounts r reader opening []) (hget : s.runs[r]? = some run) :
    Tells r reader opening (s.close r run) := by
  obtain ⟨outcome, hgist, -⟩ := close_cases s hget
  obtain ⟨after, hafter, hclosed⟩ : ∃ after, (s.close r run).runs[r]? = some after ∧
      after.gist = { run.gist with finals := run.gist.finals + 1, outcome := some outcome } := by
    have hat := congrArg (·[r]?) hgist
    simp only [gist, List.getElem?_map, List.getElem?_modify_eq, hget] at hat
    exact Option.map_eq_some_iff.mp hat
  have hpast : 0 < finals after.deeds := by
    rw [show finals after.deeds = finals run.deeds + 1 from congrArg Run.Gist.finals hclosed]
    exact Nat.succ_pos _
  have hsettled : (s.clearAway r).Recounts r reader opening [] :=
    h.modifyRun fun run => ⟨rfl, rfl, rfl, raised_clearing run.inbox run.deeds⟩
  obtain ⟨saves, hnameless, hfinalized⟩ := hsettled.finalize run
  cases close_course s r run with
  | sums finalized result =>
    rw [result]
    have hfinished : (((s.clearAway r).finalize r run).1.modifyRun r fun run =>
        { run with phase := .finished }).Recounts r reader opening saves :=
      hfinalized.modifyRun fun _ => ⟨rfl, rfl, rfl, rfl⟩
    obtain ⟨u, event, hemit, hkind, -, hu⟩ :=
      hfinished.add .runFinished ("Finishing action " ++ run.action.verb.word) none
    obtain ⟨run', tales, hget', -, hvoice, hcovers, hblames⟩ := hu.told
    simp only [Session.sumUp, hemit, hget']
    have hhere := runs_endRun u r (.ok (run'.summary u.agenda.now))
    rw [hget'] at hhere
    refine .returns hhere rfl ?_ ?_ hblames hnameless hkind
    · rw [voice_of_airs (airs_endRun ..), hvoice, ← List.append_assoc]
    · rw [effects_endRun]
      exact hcovers
  | @fails fault finalized result =>
    rw [result] at hafter ⊢
    obtain ⟨run', tales, hget', -, hvoice, hcovers, -⟩ := hfinalized.told
    have houtcome : after.outcome = some (.error fault) := by
      rw [runs_endRun] at hafter
      obtain ⟨current, -, rfl⟩ := Option.map_eq_some_iff.mp hafter
      rfl
    refine .fails hafter houtcome (.inr (.inl hpast))
      ((voice_of_airs (airs_endRun ..)).trans hvoice) ?_ hnameless
    rw [effects_endRun]
    exact hcovers

lemma airs_stopSearch (s : Session ν) (r : Nat) (run : Run) :
    (s.stopSearch r run).airs = s.airs := by
  have hstopped : (s.stopping r).airs = s.airs := airs_modifyRun s r fun _ => ⟨rfl, rfl⟩
  rw [stopSearch_eq]
  exact hstopped

/-- a run that has no effects breaks off -/
lemma Recounts.abort (h : s.Recounts r reader opening []) (hnone : s.effects r = []) (run : Run)
    (fault : Fault) : Tells r reader opening (s.abort r run fault) := by
  obtain ⟨before, tales, hget, -, hvoice, hcovers, -⟩ := h.told
  have hat := congrArg (·.runs[r]?) (gist_abort s r run fault)
  simp only [gist, List.getElem?_map, List.getElem?_modify_eq, hget] at hat
  obtain ⟨after, hafter, hbroken⟩ := Option.map_eq_some_iff.mp hat
  have hpast : 0 < aborts after.deeds := by
    rw [show aborts after.deeds = aborts before.deeds + 1 from congrArg Run.Gist.aborts hbroken]
    exact Nat.succ_pos _
  have hnoted : (s.note r .aborted).airs = s.airs := airs_modifyRun s r fun _ => ⟨rfl, rfl⟩
  have hstopped := (airs_stopSearch (s.note r .aborted) r run).trans hnoted
  have hnothing : ((s.note r .aborted).stopSearch r run).effects r = [] := by
    rw [stopSearch_eq]
    exact hnone
  obtain ⟨hairs, heffects⟩ := callOffAll_induction (q := r)
    (p := fun t : Session ν => t.airs = s.airs ∧ t.effects r = []) ⟨hstopped, hnothing⟩ (by
      rintro t e errand ⟨ht, hempty⟩ he hof
      have hmem : (errand.handle, errand.isOver) ∈ t.effects r :=
        List.mem_map.mpr ⟨errand, List.mem_filter.mpr ⟨List.mem_of_getElem? he,
          by simp [(isOf_iff.mp hof).1]⟩, rfl⟩
      rw [hempty] at hmem
      cases hmem)
  have hended : (s.abort r run fault).effects r = [] := (effects_endRun ..).trans heffects
  refine .fails hafter (congrArg Run.Gist.outcome hbroken) (.inr (.inr ⟨hpast, hended⟩))
    ((voice_of_airs ((airs_endRun ..).trans hairs)).trans hvoice) ?_ nameless_nil
  rw [hended, ← hnone]
  exact hcovers

lemma Recounts.stopSearch (h : s.Recounts r reader opening saves) (run : Run) :
    (s.stopSearch r run).Recounts r reader opening saves := by
  have hstopped : (s.stopping r).Recounts r reader opening saves :=
    h.modifyRun fun _ => ⟨rfl, rfl, rfl, rfl⟩
  have hunwound := hstopped.drop fun cue => cue.isClockOf r
  rw [stopSearch_eq]
  exact hunwound.of_parts rfl rfl rfl ⟨hunwound.unharmed.errands, hunwound.unharmed.cues⟩

lemma Recounts.drain (h : s.Recounts r reader opening []) (run : Run) :
    Tells r reader opening (s.drain r run) := by
  have hstopped := h.stopSearch run
  cases drain_course s r run with
  | absent ended gone result =>
    rw [result]
    exact .goesOn hstopped
  | closes ended here result =>
    rw [result]
    exact hstopped.close here
  | harmed raised result =>
    -- no effect of the run has ended with a fault
    obtain ⟨errand, hmem, hraised⟩ := List.exists_of_findSome?_eq_some raised
    obtain ⟨hin, hof⟩ := List.mem_filter.mp hmem
    rw [hstopped.unharmed.errands errand hin (isOf_iff.mp hof).1] at hraised
    cases hraised
  | calm busy unharmed ended result =>
    rw [result]
    exact .goesOn (hstopped.soon 1 rfl)
  | gathers unharmed unended result =>
    rw [result]
    exact .goesOn (hstopped.modifyRun fun _ => ⟨rfl, rfl, rfl, rfl⟩)

/-- a bulb is matched, and an effect starts on it -/
lemma Recounts.dispatch (h : s.Recounts r reader opening []) (run : Run) (handle : Handle) :
    ∃ t, s.emit r .deviceMatched ("Running action on " ++ handle.name) (some handle.name) = (t, none) ∧
      (t.dispatch r run handle).Recounts r reader opening [] := by
  obtain ⟨current, tales, hget, houtcome, hvoice, hcovers, hblames⟩ := h.told
  obtain ⟨t, event, hemit, hkind, hdevice, hutters⟩ := emit_attends h.attends .deviceMatched
    ("Running action on " ++ handle.name) (some handle.name) none
  obtain ⟨run', hget', houtcome', hdeeds'⟩ := hutters.run current hget
  obtain ⟨errand, hrun, hhandle, hopen, -, hdispatch⟩ := dispatch_eq t r run handle
  have heffects : (t.dispatch r run handle).effects r = s.effects r ++ [(handle, false)] := by
    have happend := effects_append_errand r t errand
    rw [if_pos hrun, hopen, hhandle] at happend
    rw [hdispatch]
    refine happend.trans ?_
    rw [effects, hutters.errands]
    rfl
  refine ⟨t, hemit, ⟨run', tales ++ [((s.effects r).length, event)], hget', houtcome'.trans houtcome,
    ?_, ?_, ?_⟩, hutters.attends.of_airs rfl, ?_⟩
  · refine hutters.voice.trans ?_
    rw [hvoice]
    simp
  · rw [heffects]
    exact hcovers.begin hkind hdevice
  · rw [hdeeds']
    exact hblames.of_ne (by simp [hkind])
  · refine ⟨?_, ?_⟩
    · intro errand' hmem howner
      rw [hdispatch] at hmem
      have hmem : errand' ∈ t.errands ++ [errand] := hmem
      rw [hutters.errands] at hmem
      rcases List.mem_append.mp hmem with hold | hnew
      · exact h.unharmed.errands errand' hold howner
      · obtain rfl := List.mem_singleton.mp hnew
        unfold Errand.isOver Errand.outcome? at hopen
        unfold Errand.raised?
        split
        · rename_i hstage
          rw [hstage] at hopen
          cases hopen
        · rfl
    · intro cue hmem
      have hcues : (t.dispatch r run handle).agenda = t.agenda.soon 0 (.begin t.errands.length) := rfl
      rw [hcues] at hmem
      rcases List.mem_cons.mp ((t.agenda.cues_soon 0 _).mem_iff.mp hmem) with rfl | hold
      · rfl
      · rw [hutters.agenda] at hold
        exact h.unharmed.cues cue hold

/-- by induction on the messages that are left -/
theorem Recounts.handleAll (h : s.Recounts r reader opening []) (run : Run) (messages : List Message) :
    Tells r reader opening (s.handleAll r run messages) := by
  induction messages generalizing s with
  | nil => exact .goesOn (h.modifyRun fun _ => ⟨rfl, rfl, rfl, rfl⟩)
  | cons message rest ih =>
    have htaken : ∀ current, (s.take r current message rest).Recounts r reader opening [] :=
      fun current => h.modifyRun fun _ => ⟨rfl, rfl, rfl, rfl⟩
    have hmatched : ∀ current handle, ∃ t,
        (s.take r current message rest).sayMatch r handle = (t, none) ∧
          (t.dispatch r run handle).Recounts r reader opening [] :=
      fun current handle => (htaken current).dispatch run handle
    cases handleAll_course s r run message rest with
    | absent gone result =>
      rw [result]
      exact .goesOn h
    | @breaksOff current handle fault here matched said result =>
      obtain ⟨t, hsaid, -⟩ := hmatched current handle
      rw [hsaid] at said
      cases said
    | @acts current handle here matched said result =>
      obtain ⟨t, hsaid, ht⟩ := hmatched current handle
      rw [result, hsaid]
      exact ih ht
    | goesOn here matched looks result =>
      rw [result]
      exact ih (htaken _)
    | drains here matched looked result =>
      rw [result]
      exact (htaken _).drain run

/-- a client starts to listen for bulbs, or fails to -/
lemma Recounts.listen (h : s.Recounts r reader opening []) (client : Nat) (listener : Listener) :
    (s.listen client listener).1.Recounts r reader opening [] ∧
      (s.listen client listener).1.effects r = s.effects r := by
  have hsight : ∀ (t : Session ν) (sighting : Sighting), t.Recounts r reader opening [] →
      t.effects r = s.effects r → (t.sight client sighting).Recounts r reader opening [] ∧
        (t.sight client sighting).effects r = s.effects r := by
    intro t sighting ht heffects
    refine sight_induction (p := fun u => u.Recounts r reader opening [] ∧ u.effects r = s.effects r)
      ⟨ht.hearAll client _, ?_⟩ ?_
    · rw [effects, errands_hearAll]
      exact heffects
    · rintro u signal - ⟨hu, hsame⟩
      refine ⟨hu.of_bearing (airs_expect u signal) (Same.expect r u signal).bearing
        (errands_expect u signal), ?_⟩
      rw [effects, errands_expect]
      exact hsame
  have hstarted := h.network (Network.start s.network client).1
  unfold Session.listen
  revert hstarted
  generalize Network.start s.network client = started
  obtain ⟨network, fault | sighting⟩ := started
  · exact fun hstarted => ⟨hstarted, rfl⟩
  · intro hstarted
    exact hsight _ sighting (hstarted.of_parts rfl rfl rfl
      ⟨hstarted.unharmed.errands, hstarted.unharmed.cues⟩) rfl

theorem Recounts.search (h : s.Recounts r reader opening []) (hnone : s.effects r = []) (run : Run) :
    Tells r reader opening (s.search r run) := by
  have hsought : (s.seeking r).Recounts r reader opening [] :=
    h.modifyRun fun _ => ⟨rfl, rfl, rfl, rfl⟩
  obtain ⟨hlistened, heffects⟩ := hsought.listen run.client (.run r)
  cases search_course s r run with
  | breaksOff listened result =>
    rw [result]
    exact hlistened.abort (heffects.trans hnone) run _
  | absent listened gone result =>
    rw [result]
    exact .goesOn hlistened
  | looks listened here result =>
    rw [result]
    have hclock : (Cue.clock r).isHaltOf r = false := rfl
    exact (hlistened.soon 0 hclock).handleAll _ _

/-! ### The start -/

/-- what a run tells before it looks for bulbs: that it starts, and maybe that there is nothing to
restore -/
lemma Recounts.prepare (h : s.Recounts r reader opening []) (run : Run) :
    ∃ misses : List Event, Nameless misses ∧
      (s.prepare r run).1.Recounts r reader opening misses := by
  rcases prepare_cases s r run with heq | heq
  · rw [heq]
    exact ⟨[], nameless_nil, h⟩
  · obtain ⟨t, event, hemit, hkind, hdevice, ht⟩ :=
      h.add .deviceReport "Configuration state not found, cannot restore" none
    rw [heq, hemit]
    exact ⟨_, by simp [Nameless, hkind, hdevice], ht⟩

/-- as long as there are no effects, nothing is told of bulbs -/
lemma Recounts.join (h : s.Recounts r reader opening saves) (hnone : s.effects r = []) :
    s.Recounts r reader (opening ++ saves) [] := by
  obtain ⟨run, tales, hget, houtcome, hvoice, hcovers, hblames⟩ := h.told
  obtain rfl : tales = [] := by
    refine List.eq_nil_iff_forall_not_mem.mpr fun tale hmem => ?_
    have hwithin := hcovers.within tale hmem
    rw [hnone] at hwithin
    exact absurd hwithin (Nat.not_lt_zero _)
  exact ⟨⟨run, [], hget, houtcome, by simpa using hvoice, hcovers, hblames⟩, h.attends, h.unharmed⟩

/-- a run that has not looked for bulbs has a fault -/
lemma Recounts.halt (h : s.Recounts r reader opening []) {l : Ledger} (hl : s.ledger r = some l)
    (hidle : l.phase = .idle) (fault : Fault) :
    Tells r reader opening (s.endRun r (.error fault)) := by
  obtain ⟨run, tales, hget, -, hvoice, hcovers, -⟩ := h.told
  obtain ⟨run', hget', rfl⟩ := Option.map_eq_some_iff.mp hl
  obtain rfl := Option.some.inj (hget.symm.trans hget')
  have hhere := runs_endRun s r (.error fault)
  rw [hget] at hhere
  refine .fails hhere rfl (.inl hidle)
    ((voice_of_airs (airs_endRun ..)).trans hvoice) ?_ nameless_nil
  rw [effects_endRun]
  exact hcovers

/-- a run starts: it tells an opening, and what is about the bulbs that are there at once -/
theorem tells_start (h : s.Awaits r run) (hattends : s.Attends r reader)
    (hvoice : s.voice r reader = []) :
    ∃ opening, IsOpening opening ∧ Tells r reader opening (s.start r run) := by
  obtain ⟨hl, -, hidle, -⟩ := h.ledger
  have hget := h.here
  obtain ⟨action, settings, client, audience, hasStore, hfresh⟩ := h.fresh
  have hnone : s.effects r = [] := by
    show List.map _ (List.filter _ _) = []
    rw [List.map_eq_nil_iff, List.filter_eq_nil_iff]
    intro errand hmem
    simpa using h.effects errand hmem
  have hnever : ∀ t : Session ν, Same r s t → t.effects r = [] := by
    intro t hsame
    obtain ⟨run', -, hledger⟩ := Option.map_eq_some_iff.mp (hsame.ledger.trans hl)
    exact (congrArg Ledger.effects hledger).trans hnone
  have hunharmed : s.Unharmed r := by
    refine ⟨fun errand hmem hrun => absurd hrun (h.effects errand hmem), fun cue hmem => ?_⟩
    have hcue := h.cues cue hmem
    simp only [Cue.concerns, Bool.or_eq_false_iff] at hcue
    exact hcue.1.2
  have hnew : s.Recounts r reader [] [] := by
    subst hfresh
    exact ⟨⟨_, [], hget, rfl, hvoice, hnone ▸ Covers.nil, rfl⟩, hattends, hunharmed⟩
  have hready : (s.modifyRun r fun run => { run with started := s.agenda.now }).Recounts r reader [] [] :=
    hnew.modifyRun fun _ => ⟨rfl, rfl, rfl, rfl⟩
  obtain ⟨t, event, hemit, hkind, -, ht⟩ := hready.add .runStarted
    ("Starting action " ++ run.action.verb.word) (some (startData run.action))
  have hemit : s.sayStart r run = (t, none) := hemit
  have hsame := Same.sayStart r s run
  rw [hemit] at hsame
  have hprepared := hsame.trans (.prepare r t r run)
  obtain ⟨misses, hmisses, htold⟩ := (ht.join (hnever t hsame)).prepare run
  have htold := htold.join (hnever _ hprepared)
  refine ⟨[] ++ ([] ++ [event]) ++ misses, ⟨event, misses, rfl, hkind, hmisses⟩, ?_⟩
  cases start_course s r run with
  | mute said result =>
    rw [hemit] at said
    cases said
  | unready said prepared result =>
    rw [result, readied, hemit]
    exact htold.halt (hprepared.ledger.trans hl) hidle _
  | @seeks saved said prepared result =>
    rw [result, readied, hemit]
    have hsaved : ((t.prepare r run).1.modifyRun r fun run => { run with saved }).Recounts r reader
        ([] ++ ([] ++ [event]) ++ misses) [] := htold.modifyRun fun _ => ⟨rfl, rfl, rfl, rfl⟩
    have heffects : (t.prepare r run).1.effects r = [] := hnever _ hprepared
    exact hsaved.search heffects _

end Session

end Lamplighter
