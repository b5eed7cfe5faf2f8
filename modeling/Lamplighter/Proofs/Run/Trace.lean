import Lamplighter.Network.Bench
import Lamplighter.Proofs.Run.Recital

/-!
# Traces: the events of a run from its start to its end

* `Bearing.Rests`      nothing is under way to a run, and all its effects have ended;
* `Session.Stands`     a run recounts what is about its bulbs, or has ended and rests;
* `Stands.perform`     so it stays, whoever does something;
* `Session.Drift`      what happens between the steps: bulbs are found, runs are added, and the network,
                       the store and the subscribers change;
* `Session.Onward`     a session that another one can come to, with what the run has told meanwhile;
* `story_told`         what a run has told that has returned is its story, and it tells nothing more.
-/

set_option linter.unusedSectionVars false

namespace Lamplighter

open Deeds

/-- nothing is under way to a run that does not look for bulbs, and all its effects have ended -/
structure Bearing.Rests (b : Bearing) : Prop where
  gathering : b.isGathering = false
  calms : b.calms = 0
  halts : b.halts = 0
  phase : b.phase ≠ .discovering
  ended : AllEnded b.effects

namespace Ledger

variable {l : Ledger}

/-- a run whose effect has finished its work is past its search for bulbs -/
lemma Sound.closed (h : l.Sound) (hfinals : 0 < finals l.deeds) :
    AllEnded l.effects ∧ ends l.inbox = [] ∧ Closed l.deeds := by
  have hbefore := h.toll_eq_zero
  simp only [Ledger.toll] at hbefore
  cases hp : l.phase with
  | idle =>
    have hzero := hbefore (.inl hp)
    omega
  | discovering =>
    have hzero := hbefore (.inr hp)
    omega
  | draining => exact (h.stopped (.inl hp)).closed hfinals
  | finished => exact (h.stopped (.inr hp)).closed hfinals

/-- a run rests that has not looked for bulbs, or has finished its work, or has broken off before it
had any effects -/
lemma Sound.rests (h : l.Sound) (hpast : l.phase = .idle ∨ 0 < finals l.deeds ∨
    0 < aborts l.deeds ∧ l.effects = []) : l.bearing.Rests := by
  have htoll := h.toll_le
  have hbefore := h.toll_eq_zero
  have hcounts : l.calms = 0 ∧ l.halts = 0 ∧ l.isGathering.toNat = 0 ∧ l.phase ≠ .discovering := by
    simp only [Ledger.toll] at htoll hbefore
    rcases hpast with hidle | hpast
    · have hzero := hbefore (.inl hidle)
      exact ⟨by omega, by omega, by omega, by rw [hidle]; decide⟩
    · refine ⟨by omega, by omega, by omega, fun hlooks => ?_⟩
      have hzero := hbefore (.inr hlooks)
      omega
  obtain ⟨hcalms, hhalts, hgathering, hphase⟩ := hcounts
  refine ⟨?_, hcalms, hhalts, hphase, ?_⟩
  · show l.isGathering = false
    cases hg : l.isGathering with
    | false => rfl
    | true =>
      rw [hg] at hgathering
      cases hgathering
  · rcases hpast with hidle | hfinals | ⟨-, hnone⟩
    · intro effect hmem
      have hmem : effect ∈ l.effects := hmem
      rw [(h.unstarted hidle).effects] at hmem
      cases hmem
    · exact (h.closed hfinals).1
    · intro effect hmem
      have hmem : effect ∈ l.effects := hmem
      rw [hnone] at hmem
      cases hmem

/-- a run that has returned has acted on every bulb that it was to act on, each of them once, and its
summary tells of them -/
lemma Sound.returned (h : l.Sound) {summary : Summary}
    (hreturned : l.outcome = some (.ok summary)) :
    AllEnded l.effects ∧ ((l.effects.map Prod.fst).map Handle.serial).Nodup ∧
      summary.matched = (l.effects.map Prod.fst).map Handle.name ∧
      summary.failed = ((raised l.deeds).map Prod.fst).map Handle.name := by
  obtain ⟨hfinished, hsums⟩ := h.summed summary hreturned
  have hfinals := h.finished hfinished
  obtain ⟨hended, hinbox, -⟩ := h.closed hfinals
  have haborts : aborts l.deeds = 0 := by
    have htoll := h.toll_le
    rw [Ledger.toll] at htoll
    omega
  have hpicked := h.staffed.full (.inl haborts)
  refine ⟨hended, ?_, ?_, ?_⟩
  · have hsublist := l.action.targets.picked_sublist (bulbs (handled l.deeds))
    have hhandled : (bulbs (handled l.deeds)).Sublist (bulbs (queued l.deeds)) := by
      rw [h.booked.mail, bulbs_append, bulbs_append, List.append_assoc]
      exact List.sublist_append_left _ _
    rw [hpicked]
    refine .sublist ((hsublist.trans hhandled).map _) ?_
    rw [h.told.first]
    exact nodup_firsts _
  · rw [hsums.matched, h.booked.books.matched, hpicked]
  · rw [hsums.failed, h.failed_eq hinbox, List.map_map]
    rfl

end Ledger

/-- the story is what a run tells that stands so when it has returned -/
structure Story.Fits (story : Story) (b : Bearing) : Prop where
  started : story.started.kind = .runStarted
  finished : story.finished.kind = .runFinished
  misses : Session.Nameless story.misses
  saves : Session.Nameless story.saves
  covers : Covers story.bulbs b.effects
  blames : Blames story.bulbs b.blamed

namespace Story

lemma Fits.isOf {story : Story} {b : Bearing} {failed : List String} (h : story.Fits b)
    (hended : AllEnded b.effects) (hfailed : failed = b.blamed.map Handle.name) :
    story.IsOf (b.effects.map Prod.fst) failed where
  started := h.started
  finished := h.finished
  nameless := by
    intro event hmem
    rcases List.mem_append.mp hmem with hmiss | hsave
    · exact h.misses event hmiss
    · exact h.saves event hsave
  within := by
    rw [List.length_map]
    exact h.covers.within
  matched := by
    rw [List.length_map]
    exact h.covers.matched
  each := by
    intro i handle hi
    rw [List.getElem?_map] at hi
    obtain ⟨⟨handle, isOver⟩, hget, rfl⟩ := Option.map_eq_some_iff.mp hi
    obtain rfl : isOver = true := hended _ (List.mem_of_getElem? hget)
    exact h.covers.each i handle true hget
  failed := by
    rw [hfailed, List.map_map]
    exact h.blames

end Story

namespace Session

variable {ν : Type} [Network ν] {s t u : Session ν} {r q e : Nat} {who : Option Nat} {reader : Reader}
  {errand : Errand} {run : Run} {opening saves told more : List Event} {cue : Cue}
  {agenda : Agenda Cue} {ear : Ear} {b : Bearing}

/-! ### Where a run stands -/

/-- someone who has read so much of a run, and goes on reading -/
def readerOf (s : Session ν) (r : Nat) (ear : Ear) (told : List Event) : Reader :=
  ⟨ear, told, (s.heard r ear).length⟩

@[simp] lemma voice_readerOf (s : Session ν) (r : Nat) (ear : Ear) (told : List Event) :
    s.voice r (s.readerOf r ear told) = told := by
  simp [voice, readerOf]

/-- a run has told so much, and has not ended; or it has ended and rests -/
inductive Stands (s : Session ν) (r : Nat) (ear : Ear) (told : List Event) : Prop
  | goesOn {opening : List Event} (begins : IsOpening opening)
    (recounts : s.Recounts r (s.readerOf r ear told) opening [])
  | settled {bearing : Bearing} (here : s.bearing r = some bearing) (rests : bearing.Rests)
    (ended : bearing.outcome.isSome = true) (starts : StartsOnce told)
    (returned : ∀ summary, bearing.outcome = some (.ok summary) →
      ∃ story : Story, told = story.events ∧ story.Fits bearing)

lemma Recounts.reread (h : s.Recounts r reader opening saves) :
    s.Recounts r (s.readerOf r reader.ear (s.voice r reader)) opening saves := by
  obtain ⟨run, tales, hget, houtcome, hvoice, hcovers, hblames⟩ := h.told
  exact ⟨⟨run, tales, hget, houtcome, (voice_readerOf ..).trans hvoice, hcovers, hblames⟩,
    ⟨h.attends.audience, h.attends.carries, Nat.le_refl _⟩, h.unharmed⟩

lemma bearing_eq (hget : s.runs[r]? = some run) :
    s.bearing r = some (s.ledgerOf r run).bearing := by
  rw [Session.bearing, ledger, hget]
  rfl

lemma Kept.sound_of (h : s.Kept r) (hget : s.runs[r]? = some run) : (s.ledgerOf r run).Sound := by
  obtain ⟨l, hl, hsound⟩ := h.sound
  rw [ledger, hget] at hl
  obtain rfl := Option.some.inj hl
  exact hsound

/-- a run has taken a step of its own -/
lemma Tells.stands (h : Tells r reader opening s) (hbegins : IsOpening opening) (hkept : s.Kept r) :
    s.Stands r reader.ear (s.voice r reader) := by
  have hother : ∀ {saves : List Event}, Nameless saves → ∀ event ∈ saves, event.kind ≠ .runStarted := by
    intro saves hnameless event hmem
    rw [(hnameless event hmem).1]
    decide
  cases h with
  | goesOn recounts => exact .goesOn hbegins recounts.reread
  | @fails run fault tales saves here outcome past told covers nameless =>
    have houtcome : (s.ledgerOf r run).bearing.outcome = some (.error fault) := outcome
    refine .settled (bearing_eq here) ((hkept.sound_of here).rests past) (by rw [houtcome]; rfl) ?_ ?_
    · rw [told]
      exact hbegins.startsOnce covers (hother nameless)
    · intro summary hreturned
      rw [houtcome] at hreturned
      cases hreturned
  | @returns run summary tales saves finished here outcome told covers blames nameless last =>
    have houtcome : (s.ledgerOf r run).bearing.outcome = some (.ok summary) := outcome
    have hsound := hkept.sound_of here
    have hfinals := hsound.finished (hsound.summed summary outcome).1
    refine .settled (bearing_eq here) (hsound.rests (.inr (.inl hfinals))) (by rw [houtcome]; rfl) ?_ ?_
    · rw [told, List.append_assoc]
      refine hbegins.startsOnce covers fun event hmem => ?_
      rcases List.mem_append.mp hmem with hsave | hlast
      · exact hother nameless event hsave
      · rw [List.mem_singleton.mp hlast, last]
        decide
    · intro _ _
      obtain ⟨started, misses, rfl, hstarted, hmisses⟩ := hbegins
      refine ⟨⟨started, misses, tales, saves, finished⟩, ?_,
        ⟨hstarted, last, hmisses, nameless, covers, blames⟩⟩
      rw [told]
      simp [Story.events]

/-! ### What others do -/

lemma Recounts.of_same (h : s.Recounts r (s.readerOf r ear told) opening [])
    (hbearing : t.bearing r = s.bearing r) (hworks : t.works r = s.works r)
    (haudience : t.runs[r]?.map Run.audience = s.runs[r]?.map Run.audience)
    (hcarries : s.Carries ear → t.Carries ear) : t.Recounts r (t.readerOf r ear told) opening [] := by
  obtain ⟨run, tales, hget, houtcome, hvoice, hcovers, hblames⟩ := h.told
  rw [bearing_eq hget] at hbearing
  obtain ⟨l, hl, hsame⟩ := Option.map_eq_some_iff.mp hbearing
  obtain ⟨run', hget', rfl⟩ := Option.map_eq_some_iff.mp hl
  have hblamed : (raised run'.deeds).map Prod.fst = (raised run.deeds).map Prod.fst :=
    congrArg Bearing.blamed hsame
  refine ⟨⟨run', tales, hget', (congrArg Bearing.outcome hsame).trans houtcome, ?_, ?_, ?_⟩, ?_, ?_⟩
  · rw [voice_readerOf] at hvoice ⊢
    exact hvoice
  · rw [effects_of_works hworks]
    exact hcovers
  · rw [hblamed]
    exact hblames
  · obtain ⟨run₀, hget₀, hof⟩ := h.attends.audience
    rw [hget', hget₀] at haudience
    exact ⟨⟨run', hget', Option.some.inj haudience ▸ hof⟩, hcarries h.attends.carries, Nat.le_refl _⟩
  · have hhalts : t.agenda.cues.countP (·.isHaltOf r) = 0 := by
      refine (congrArg Bearing.halts hsame).trans (List.countP_eq_zero.mpr fun cue hmem => ?_)
      simp [h.unharmed.cues cue hmem]
    refine ⟨fun errand hmem hrun => ?_, fun cue hmem =>
      Bool.eq_false_iff.mpr (List.countP_eq_zero.mp hhalts cue hmem)⟩
    have hwork : (errand.handle, errand.stage) ∈ s.works r := by
      rw [← hworks]
      exact List.mem_map_of_mem (List.mem_filter.mpr ⟨hmem, by simp [hrun]⟩)
    obtain ⟨old, hold, heq⟩ := List.mem_map.mp hwork
    obtain ⟨hin, howner⟩ := List.mem_filter.mp hold
    have hwell := h.unharmed.errands old hin (beq_iff_eq.mp howner)
    unfold Errand.raised? at hwell ⊢
    rwa [(Prod.mk.inj heq).2] at hwell

lemma Stands.of_same (h : s.Stands r ear told) (hbearing : t.bearing r = s.bearing r)
    (hworks : t.works r = s.works r)
    (haudience : t.runs[r]?.map Run.audience = s.runs[r]?.map Run.audience)
    (hcarries : s.Carries ear → t.Carries ear) : t.Stands r ear told := by
  cases h with
  | goesOn begins recounts =>
    exact .goesOn begins (recounts.of_same hbearing hworks haudience hcarries)
  | settled here rests ended starts returned =>
    exact .settled (hbearing.trans here) rests ended starts returned

lemma Touches.audience (h : Touches who s t) (r : Nat) :
    t.runs[r]?.map Run.audience = s.runs[r]?.map Run.audience := by
  rw [← List.getElem?_map, ← List.getElem?_map, h.audiences]

/-- whatever is done by others, or by none -/
theorem Stands.aside (h : s.Stands r ear told) (htouches : Touches who s t) (hwho : who ≠ some r) :
    t.Stands r ear told :=
  h.of_same (htouches.bearing hwho) (htouches.works hwho) (htouches.audience r) htouches.carries

/-! ### What the run does -/

/-- what was told with a step, if it is one of the run -/
def tidings (r : Nat) (ear : Ear) (who : Option Nat) (s t : Session ν) : List Event :=
  if who = some r then (t.heard r ear).drop (s.heard r ear).length else []

/-- a run to which nothing is under way is not woken up, and is told of no end -/
lemma not_concerns (hkept : s.Kept r) (hhere : s.bearing r = some b) (hrests : b.Rests)
    (hcues : s.agenda.cues.Perm (cue :: agenda.cues)) : cue.concerns r = false := by
  by_contra hconcerns
  have hcue := Cue.eq_of_concerns (Bool.eq_true_of_not_eq_false hconcerns)
    (hkept.not_isEntryOf (hcues.mem_iff.mpr (List.mem_cons_self ..)))
  obtain ⟨l, hl, hsound⟩ := hkept.sound
  obtain ⟨l', hl', rfl⟩ := Option.map_eq_some_iff.mp hhere
  obtain rfl := Option.some.inj (hl.symm.trans hl')
  rcases hcue with rfl | ⟨fault, rfl⟩
  · exact hrests.phase (ledger_wake hsound hl hcues).1
  · obtain ⟨l', -, rfl⟩ := ledger_remove hl hcues
    cases fault with
    | none =>
      have hcalms := hrests.calms
      simp [Ledger.bearing, Cue.isCalmOf] at hcalms
    | some fault =>
      have hhalts := hrests.halts
      simp [Ledger.bearing, Cue.isHaltOf] at hhalts

/-- an errand that is over waits for nothing any longer -/
lemma perform_of_isOver (he : s.errands[e]? = some errand) (hover : errand.isOver = true)
    (hcue : cue.isAwaitedBy e = true) : s.perform cue = s := by
  refine s.perform_idle hcue fun errand' here => ?_
  obtain rfl := Option.some.inj (he.symm.trans here)
  exact hover

/-- a cue of the idle clock tells nothing, and a run that has ended takes no notice of it -/
lemma perform_clock (s : Session ν) (r : Nat) (hclock : cue.isClockOf r = true) :
    (s.perform cue).airs = s.airs ∧ (s.perform cue).bearing r = s.bearing r ∧
      (s.perform cue).errands = s.errands := by
  have hover : ∀ act : Run → Session ν, (∀ run, (act run).airs = s.airs ∧
      (act run).bearing r = s.bearing r ∧ (act run).errands = s.errands) →
      (s.overRun r act).airs = s.airs ∧ (s.overRun r act).bearing r = s.bearing r ∧
        (s.overRun r act).errands = s.errands := fun act hact =>
    overRun_induction (p := fun t => t.airs = s.airs ∧ t.bearing r = s.bearing r ∧
      t.errands = s.errands) _ ⟨rfl, rfl, rfl⟩ fun run _ => hact run
  cases cue with
  | clock q =>
    obtain rfl : q = r := beq_iff_eq.mp hclock
    exact hover _ fun run => ⟨rfl, (Same.wind q s q run).bearing, rfl⟩
  | tick q =>
    obtain rfl : q = r := beq_iff_eq.mp hclock
    refine hover _ fun run => ⟨?_, ?_, ?_⟩
    · exact airs_post s q .tick
    · exact (Same.wind q _ q run).bearing.trans (bearing_post s q .tick)
    · exact errands_post s q .tick
  | _ => cases hclock

/-- what a cue can be by which a run that has entered does something of its own -/
lemma clock_or_concerns (hrun : cue.runOf? = some r) (hentry : cue.isEntryOf r = false) :
    cue.isClockOf r = true ∨ cue.concerns r = true := by
  cases cue with
  | clock q | tick q =>
    obtain rfl : q = r := Option.some.inj hrun
    exact .inl (by simp [Cue.isClockOf])
  | wake q =>
    obtain rfl : q = r := Option.some.inj hrun
    exact .inr (by simp [Cue.concerns, Cue.isWakeOf])
  | drained q fault =>
    obtain rfl : q = r := Option.some.inj hrun
    refine .inr ?_
    cases fault <;> simp [Cue.concerns, Cue.isCalmOf, Cue.isHaltOf]
  | enter q | takeTurn q =>
    obtain rfl : q = r := Option.some.inj hrun
    simp [Cue.isEntryOf] at hentry
  | _ => cases hrun

/-- the two ways in which a run does something -/
lemma actor_cases (h : s.actor? cue = some r) :
    (∃ e errand, cue.isAwaitedBy e = true ∧ s.errands[e]? = some errand ∧ errand.run = some r) ∨
      cue.runOf? = some r := by
  cases hcue : cue.errandOf? with
  | some e =>
    rw [actor?_of_errand hcue] at h
    obtain ⟨errand, he, hrun⟩ := Option.bind_eq_some_iff.mp h
    exact .inl ⟨e, errand, Cue.isAwaitedBy_of_errandOf hcue, he, hrun⟩
  | none =>
    rw [actor?_of_none hcue] at h
    exact .inr h

/-- a run that has ended does and tells nothing, and nobody changes it -/
lemma perform_settled (ear : Ear) (hkept : s.Kept r) (hhere : s.bearing r = some b) (hrests : b.Rests)
    (hcues : s.agenda.cues.Perm (cue :: agenda.cues)) :
    let t := ({ s with agenda } : Session ν).perform cue
    t.bearing r = s.bearing r ∧ tidings r ear (s.actor? cue) s t = [] := by
  have hconcerns := not_concerns hkept hhere hrests hcues
  have hremoved := (Same.remove hcues hconcerns).bearing
  intro t
  by_cases hwho : s.actor? cue = some r
  · obtain ⟨hairs, hbearing⟩ : t.airs = s.airs ∧ t.bearing r = s.bearing r := by
      rcases actor_cases hwho with ⟨e, errand, hcue, he, hrun⟩ | hrun
      · have hover : errand.isOver = true := by
          obtain ⟨l, hl, rfl⟩ := Option.map_eq_some_iff.mp hhere
          obtain ⟨run, -, rfl⟩ := Option.map_eq_some_iff.mp hl
          refine hrests.ended (errand.handle, errand.isOver) ?_
          refine List.mem_map.mpr ⟨errand, List.mem_filter.mpr ⟨List.mem_of_getElem? he, ?_⟩, rfl⟩
          simp [hrun]
        have hsame : t = { s with agenda } := perform_of_isOver he hover hcue
        rw [hsame]
        exact ⟨rfl, hremoved⟩
      · have hentry := hkept.not_isEntryOf (hcues.mem_iff.mpr (List.mem_cons_self ..))
        rcases clock_or_concerns hrun hentry with hclock | hcue
        · obtain ⟨hairs, hbearing, -⟩ := perform_clock { s with agenda } r hclock
          exact ⟨hairs, hbearing.trans hremoved⟩
        · exact absurd (hconcerns.symm.trans hcue) (by decide)
    refine ⟨hbearing, ?_⟩
    rw [tidings, if_pos hwho, heard_of_airs hairs, List.drop_length]
  · refine ⟨((touches_perform { s with agenda } cue).bearing hwho).trans hremoved, ?_⟩
    rw [tidings, if_neg hwho]

lemma Recounts.remove (h : s.Recounts r reader opening saves)
    (hcues : s.agenda.cues.Perm (cue :: agenda.cues)) :
    ({ s with agenda } : Session ν).Recounts r reader opening saves :=
  h.of_parts rfl rfl rfl ⟨h.unharmed.errands, fun cue' hmem =>
    h.unharmed.cues cue' (hcues.mem_iff.mpr (List.mem_cons_of_mem _ hmem))⟩

/-- a run that has not ended does something, of its own or with one of its effects -/
lemma Recounts.tells (h : s.Recounts r reader opening []) (hkept : s.Kept r)
    (hcues : s.agenda.cues.Perm (cue :: agenda.cues)) (hwho : s.actor? cue = some r) :
    Tells r reader opening (({ s with agenda } : Session ν).perform cue) := by
  have hthere := h.remove hcues
  have hmem : cue ∈ s.agenda.cues := hcues.mem_iff.mpr (List.mem_cons_self ..)
  rcases actor_cases hwho with ⟨e, errand, hcue, he, hrun⟩ | hrun
  · exact .goesOn (hthere.perform he hrun hcue)
  · rcases clock_or_concerns hrun (hkept.not_isEntryOf hmem) with hclock | hconcerns
    · obtain ⟨hairs, hbearing, herrands⟩ := perform_clock { s with agenda } r hclock
      exact .goesOn (hthere.of_bearing hairs hbearing herrands)
    · obtain ⟨run, -, hget, -⟩ := hthere.told
      rcases Cue.eq_of_concerns hconcerns (hkept.not_isEntryOf hmem) with rfl | ⟨_ | fault, rfl⟩
      · rw [perform_wake hget]
        exact hthere.handleAll run run.inbox
      · rw [perform_drained hget]
        exact hthere.close hget
      · have hhalt := h.unharmed.cues _ hmem
        simp [Cue.isHaltOf] at hhalt

/-- whatever cue is performed -/
theorem Stands.perform (h : s.Stands r ear told) (hkept : s.Kept r)
    (hcues : s.agenda.cues.Perm (cue :: agenda.cues)) :
    let t := ({ s with agenda } : Session ν).perform cue
    t.Stands r ear (told ++ tidings r ear (s.actor? cue) s t) := by
  intro t
  cases h with
  | goesOn begins recounts =>
    by_cases hwho : s.actor? cue = some r
    · have hstands := (recounts.tells hkept hcues hwho).stands begins (hkept.perform hcues)
      rw [tidings, if_pos hwho]
      exact hstands
    · have hthere : ({ s with agenda } : Session ν).Stands r ear told :=
        .goesOn begins (recounts.remove hcues)
      rw [tidings, if_neg hwho, List.append_nil]
      exact hthere.aside (touches_perform { s with agenda } cue) hwho
  | settled here rests ended starts returned =>
    obtain ⟨hbearing, htidings⟩ := perform_settled ear hkept here rests hcues
    rw [htidings, List.append_nil]
    exact .settled (hbearing.trans here) rests ended starts returned

/-! ### What no run does -/

/-- what happens between the steps: any client finds a bulb, a run is added, an alarm is set, and the
network, the store and the subscribers come to any state in which no event is lost -/
inductive Drift (ear : Ear) (s : Session ν) : Session ν → Prop
  | hear (client : Nat) (handle : Handle) : Drift ear s (s.hear client handle)
  | enqueue (run : Run) : Drift ear s (s.enqueue run).1
  | alarm (duration : Duration) : Drift ear s { s with agenda := s.agenda.pause duration .alarm }
  | network (network : ν) : Drift ear s { s with network }
  | store (store : Snapshot.Store) : Drift ear s { s with store }
  | hub (hub : Hub Event) (carries : ({ s with hub } : Session ν).Carries ear) :
    Drift ear s { s with hub }

/-- a run is added, and a cue is set by which it asks for its turn -/
lemma Same.enqueue (hget : s.runs[r]? = some run) (new : Run) : Same r s (s.enqueue new).1 := by
  have hlt := (List.getElem?_eq_some_iff.mp hget).1
  have hadded : Same r s (s.addRun new).1 := by
    refine ⟨?_, fun horderly => ⟨horderly.detached, horderly.retired⟩⟩
    show (s.runs ++ [new])[r]?.map _ = s.runs[r]?.map _
    rw [List.getElem?_append_left hlt]
    rfl
  have hentry : (Cue.enter s.runs.length).concerns r = false := by
    simp [Cue.concerns, Cue.isWakeOf, Cue.isCalmOf, Cue.isHaltOf, Cue.isEntryOf, Nat.ne_of_gt hlt]
  exact hadded.trans (.soon _ 0 _ hentry (by simp))

namespace Drift

lemma kept (h : Drift ear s t) (hkept : s.Kept r) : t.Kept r := by
  obtain ⟨l, hl, -⟩ := hkept.sound
  obtain ⟨run, hget, -⟩ := Option.map_eq_some_iff.mp hl
  cases h with
  | hear client handle => exact hkept.advance (.hear r s client handle)
  | enqueue new => exact hkept.same (.enqueue hget new)
  | alarm duration => exact hkept.same (.of_cue .alarm (Agenda.cues_pause ..) rfl (by simp))
  | network network => exact hkept.same (.network r s network)
  | store | hub => exact hkept.same (.of_cues rfl rfl rfl (.refl _) fun _ => id)

lemma bearing (h : Drift ear s t) (hget : s.runs[r]? = some run) : t.bearing r = s.bearing r := by
  cases h with
  | hear client handle => exact bearing_hear s client handle
  | enqueue new => exact (Same.enqueue hget new).bearing
  | alarm duration => exact bearing_set (Agenda.cues_pause ..) ⟨rfl, rfl⟩
  | network | store | hub => exact bearing_of_effects rfl rfl rfl

/-- a run tells and reads nothing anew -/
lemma stands (h : Drift ear s t) (hget : s.runs[r]? = some run) (hs : s.Stands r ear told) :
    t.Stands r ear told := by
  have hbearing := h.bearing hget
  cases h with
  | hear client handle =>
    have hheard : Touches none s (s.hear client handle) := .single (.hear s client handle)
    exact hs.aside hheard (by simp)
  | enqueue new =>
    refine hs.of_same hbearing rfl ?_ id
    show (s.runs ++ [new])[r]?.map _ = _
    rw [List.getElem?_append_left (List.getElem?_eq_some_iff.mp hget).1]
  | hub hub carries => exact hs.of_same hbearing rfl rfl fun _ => carries
  | alarm | network | store => exact hs.of_same hbearing rfl rfl id

lemma record (h : Drift ear s t) (hget : s.runs[r]? = some run) :
    t.heard r .record = s.heard r .record := by
  cases h with
  | hear client handle => exact heard_of_airs (airs_hear s client handle) r .record
  | enqueue new =>
    show ((s.runs ++ [new])[r]?.map _).getD [] = _
    rw [List.getElem?_append_left (List.getElem?_eq_some_iff.mp hget).1]
    rfl
  | _ => rfl

end Drift

/-! ### Later sessions -/

/-- a cue that is set is performed -/
def Performs (s : Session ν) (cue : Cue) (t : Session ν) : Prop :=
  ∃ agenda, s.agenda.cues.Perm (cue :: agenda.cues) ∧ t = ({ s with agenda } : Session ν).perform cue

/-- a session that another one can come to, with what the run has told meanwhile: the cues that are
set are performed in any order -/
inductive Onward (r : Nat) (ear : Ear) (s : Session ν) : List Event → Session ν → Prop
  | refl : Onward r ear s [] s
  | next {told : List Event} {t u : Session ν} {cue : Cue} :
    Onward r ear s told t → t.Performs cue u →
      Onward r ear s (told ++ tidings r ear (t.actor? cue) t u) u
  | drift {told : List Event} {t u : Session ν} :
    Onward r ear s told t → Drift ear t u → Onward r ear s told u

namespace Onward

lemma kept (h : Onward r ear s more t) (hs : s.Kept r) : t.Kept r := by
  induction h with
  | refl => exact hs
  | next _ hperforms ih =>
    obtain ⟨agenda, hcues, rfl⟩ := hperforms
    exact ih.perform hcues
  | drift _ hdrift ih => exact hdrift.kept ih

/-- the run is still there -/
lemma exists_run (h : Onward r ear s more t) (hs : s.Kept r) : ∃ run, t.runs[r]? = some run := by
  obtain ⟨l, hl, -⟩ := (h.kept hs).sound
  obtain ⟨run, hget, -⟩ := Option.map_eq_some_iff.mp hl
  exact ⟨run, hget⟩

/-- by induction on what happens -/
theorem stands (h : Onward r ear s more t) (hkept : s.Kept r) (hs : s.Stands r ear told) :
    t.Stands r ear (told ++ more) := by
  induction h with
  | refl => rwa [List.append_nil]
  | next honward hperforms ih =>
    obtain ⟨agenda, hcues, rfl⟩ := hperforms
    rw [← List.append_assoc]
    exact ih.perform (honward.kept hkept) hcues
  | drift honward hdrift ih =>
    obtain ⟨run, hget⟩ := honward.exists_run hkept
    exact hdrift.stands hget ih

/-- a run that has ended tells nothing more -/
theorem silent (h : Onward r ear s more t) (hkept : s.Kept r) (hhere : s.bearing r = some b)
    (hrests : b.Rests) : t.bearing r = some b ∧ more = [] := by
  induction h with
  | refl => exact ⟨hhere, rfl⟩
  | next honward hperforms ih =>
    obtain ⟨agenda, hcues, rfl⟩ := hperforms
    obtain ⟨hsame, hnone⟩ := perform_settled ear (honward.kept hkept) ih.1 hrests hcues
    exact ⟨hsame.trans ih.1, by rw [ih.2, hnone]; rfl⟩
  | drift honward hdrift ih =>
    obtain ⟨run, hget⟩ := honward.exists_run hkept
    exact ⟨(hdrift.bearing hget).trans ih.1, ih.2⟩

/-- what the run has told meanwhile is what its own record has got -/
theorem record (h : Onward r .record s more t) (hkept : s.Kept r) :
    t.heard r .record = s.heard r .record ++ more := by
  generalize hear : Ear.record = ear at h
  induction h with
  | refl => exact (List.append_nil _).symm
  | @next told t u cue honward hperforms ih =>
    obtain ⟨agenda, hcues, rfl⟩ := hperforms
    subst hear
    have htouches := touches_perform ({ t with agenda } : Session ν) cue
    rw [← List.append_assoc, ← ih]
    unfold tidings
    split
    · obtain ⟨new, hnew⟩ := htouches.record_grows (r := r)
      have hnew : t.heard r .record ++ new
          = (({ t with agenda } : Session ν).perform cue).heard r .record := hnew
      rw [← hnew, List.drop_left]
    · rename_i hwho
      rw [List.append_nil]
      exact htouches.record hwho
  | drift honward hdrift ih =>
    subst hear
    obtain ⟨run, hget⟩ := honward.exists_run hkept
    exact (hdrift.record hget).trans ih

/-- what is driven step by step comes later -/
theorem drive (h : Onward r ear s told t) (isDone : Session ν → Bool) (fuel : Nat) :
    ∃ more, Onward r ear s (told ++ more) (Session.drive isDone fuel t) := by
  induction fuel generalizing told t with
  | zero => exact ⟨[], by rwa [List.append_nil]⟩
  | succ fuel ih =>
    unfold Session.drive
    split
    · exact ⟨[], by rwa [List.append_nil]⟩
    · split
      · exact ⟨[], by rwa [List.append_nil]⟩
      · rename_i u hstep
        obtain ⟨cue, hperforms⟩ := next_of_step hstep
        obtain ⟨more, hmore⟩ := ih (h.next hperforms)
        rw [List.append_assoc] at hmore
        exact ⟨_, hmore⟩

end Onward

/-! ### The story of a run -/

/-- a run starts: it has told an opening and maybe more, or it rests already -/
lemma stands_start (h : s.Awaits r run) (hear : ear.IsOf run.audience) (hcarries : s.Carries ear) :
    (s.start r run).Kept r ∧
      (s.start r run).Stands r ear (tidings r ear (some r) s (s.start r run)) := by
  obtain ⟨hl, hsound, hidle, hopen⟩ := h.ledger
  have hkept := Kept.start hl ⟨⟨_, hl, hsound⟩, h.orderly⟩ hidle hopen run
  have hnone : s.voice r (s.readerOf r ear []) = [] := voice_readerOf ..
  obtain ⟨opening, hbegins, htells⟩ :=
    tells_start h ⟨⟨run, h.here, hear⟩, hcarries, Nat.le_refl _⟩ hnone
  refine ⟨hkept, ?_⟩
  rw [tidings, if_pos rfl]
  exact htells.stands hbegins hkept

/-- two bulbs, the second of which does not answer when it is asked for its state -/
def silentAttic : Bench where
  bulbs := [
    { handle := { serial := "1", label := "Hall", host := "" }
      state := { label := "Hall", power := 0, hue := 1, saturation := 2, brightness := 3, kelvin := 4 } },
    { handle := { serial := "2", label := "Attic", host := "" }, replies := [.silence]
      state := { label := "Attic", power := 0, hue := 5, saturation := 6, brightness := 7, kelvin := 8 } }]
  clients := [{ announced := some [("1", 0), ("2", 1)] }]

def atticRun : Run :=
  .ofAction { command := "status all", effect := .status, targets := .all } { queryRetries := 0 } 0
    (.recorder [])

/-- the run has asked both bulbs for their state -/
def atticAsked : Session Bench :=
  drive (fun _ => false) 30 ((alone silentAttic atticRun).start 0 atticRun)

end Session

end Lamplighter
