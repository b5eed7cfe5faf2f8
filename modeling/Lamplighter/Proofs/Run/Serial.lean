import Lamplighter.Proofs.Run.Broadcast
import Lamplighter.Proofs.Run.Release
import Lamplighter.Proofs.Run.Trace
import Lamplighter.Proofs.Run.Waiting

/-!
# Serial: runs that take turns do not overlap

* `Session.Serial`       so many runs have begun and have told so much; the last one of them may go on,
                         the others before it have ended, and those behind it wait for their turn;
* `Serial.still`         a run that has ended does nothing any longer;
* `Session.wait`         how many cues are before the one by which a run gets its turn;
* `Serial.perform`       so it stays with each step, and whatever is told or asked of the network with it
                         comes from the run that has begun last;
-/

set_option linter.unusedSectionVars false

namespace Lamplighter.Session

open Deeds Backdrop

variable {ν : Type} [Network ν] {s t u : Session (Recorded ν)} {r q e begun begun' : Nat} {cue : Cue}
  {agenda : Agenda Cue} {run : Run} {told : Nat → List Event} {who : Option Nat} {events : List Event}

/-! ### Runs that take turns -/

/-- so many runs have begun and have told so much; the last one of them may go on, the others before
it have ended, and those behind it wait for their turn -/
structure Serial (s : Session (Recorded ν)) (begun : Nat) (told : Nat → List Event) : Prop where
  queued : s.backdrop.Queued begun
  balance : s.backdrop.Balanced
  untouched : s.Untouched begun
  silent : ∀ r, begun ≤ r → told r = []
  waiting : ∀ r run, s.runs[r]? = some run → begun ≤ r →
    ∃ action settings client, run = .ofAction action settings client .hub
  kept : ∀ r < begun, s.Kept r
  stands : ∀ r < begun, (s.tuned attentive).Stands r (.subscriber 0) (told r)

/-- what the runs have told, and what one of them tells next -/
def further (told : Nat → List Event) (who : Option Nat) (events : List Event) (r : Nat) :
    List Event :=
  told r ++ if who = some r then events else []

lemma Kept.tuned (h : s.Kept r) (hub : Hub Event) : (s.tuned hub).Kept r :=
  h.same (.of_cues rfl rfl rfl (.refl _) fun _ => id)

lemma keeps_attentive : attentive.Keeps 0 :=
  ⟨Int.le_refl 0, [], rfl⟩

lemma Stands.retuned {hub : Hub Event} {told : List Event}
    (h : (s.tuned hub).Stands r (.subscriber 0) told) :
    (s.tuned attentive).Stands r (.subscriber 0) told :=
  h.of_same rfl rfl rfl fun _ => keeps_attentive

/-- a cue is taken off the agenda -/
lemma Untouched.take (h : s.Untouched begun) (hcues : s.agenda.cues.Perm (cue :: agenda.cues)) :
    ({ s with agenda } : Session (Recorded ν)).Untouched begun :=
  h.of_parts rfl (fun _ => .inl) fun _ hmem =>
    .inl (hcues.mem_iff.mpr (List.mem_cons_of_mem _ hmem))

lemma Untouched.mono (h : s.Untouched begun) (hle : begun ≤ begun') : s.Untouched begun' where
  errands errand hmem := by
    obtain ⟨q, hq, howner⟩ := h.errands errand hmem
    exact ⟨q, by omega, howner⟩
  listeners listener hmem := by
    obtain ⟨q, hq, howner⟩ := h.listeners listener hmem
    exact ⟨q, by omega, howner⟩
  cues cue hmem q hq := (h.cues cue hmem q hq).imp (fun hlt => by omega) id
  retired := h.retired

namespace Serial

lemma exists_run (h : s.Serial begun told) (hr : r < begun) : ∃ run, s.runs[r]? = some run := by
  have hlt : r < (s.runs.map Run.core).length := Nat.lt_of_lt_of_le hr h.queued.bound
  rw [List.length_map] at hlt
  exact ⟨s.runs[r], List.getElem?_eq_getElem hlt⟩

lemma open_iff (h : s.Serial begun told) (hr : r < begun) (hget : s.runs[r]? = some run) :
    run.outcome = none ↔ s.turn = some r := by
  refine h.queued.open_iff r run.core ?_ hr
  show (s.runs.map Run.core)[r]? = _
  rw [List.getElem?_map, hget]
  rfl

/-- the runs before the one that has begun last have ended -/
lemma isOver (h : s.Serial begun told) (hr : r + 1 < begun) (hget : s.runs[r]? = some run) :
    run.isOver = true := by
  rw [Run.isOver, Option.isSome_iff_ne_none, Ne, h.open_iff (by omega) hget]
  intro hturn
  have hlast := h.queued.holder r hturn
  omega

/-- a run that has ended, and all of whose effects have -/
lemma rests (h : s.Serial begun told) (hr : r < begun) (hget : s.runs[r]? = some run)
    (hover : s.turn ≠ some r) : (s.ledgerOf r run).bearing.Rests := by
  cases h.stands r hr with
  | goesOn begins recounts =>
    obtain ⟨run', -, hget', hopen, -⟩ := recounts.told
    obtain rfl := Option.some.inj (hget.symm.trans hget')
    exact absurd ((h.open_iff hr hget).mp hopen) hover
  | settled here rests =>
    have hhere : (s.tuned attentive).bearing r = some (s.ledgerOf r run).bearing :=
      bearing_eq (s := s.tuned attentive) hget
    obtain rfl := Option.some.inj (here.symm.trans hhere)
    exact rests

/-- a cue by which a run is to do something that has begun finds it going on -/
lemma turn_of_runOf (h : s.Serial begun told) (hcues : s.agenda.cues.Perm (cue :: agenda.cues))
    (hrun : cue.runOf? = some r) (hr : r < begun) : s.turn = some r := by
  have hmem : cue ∈ s.agenda.cues := hcues.mem_iff.mpr (List.mem_cons_self ..)
  obtain ⟨run, hget⟩ := h.exists_run hr
  by_contra hover
  have hrests := h.rests hr hget hover
  rcases clock_or_concerns hrun ((h.kept r hr).not_isEntryOf hmem) with hclock | hconcerns
  · exact hrests.phase (looks_of_clock h.balance hget hmem hclock)
  · have hnever := not_concerns (h.kept r hr) (bearing_eq hget) hrests hcues
    rw [hnever] at hconcerns
    cases hconcerns

/-- a run that has ended does nothing any longer -/
theorem still (h : s.Serial begun told) (hcues : s.agenda.cues.Perm (cue :: agenda.cues))
    (hr : r < begun) (hwho : s.actor? cue = some r) (hover : s.turn ≠ some r) (hub : Hub Event) :
    (({ s with agenda } : Session (Recorded ν)).tuned hub).perform cue
      = ({ s with agenda } : Session (Recorded ν)).tuned hub := by
  obtain ⟨run, hget⟩ := h.exists_run hr
  rcases actor_cases hwho with ⟨e, errand, hcue, he, howner⟩ | hrun
  · refine perform_of_isOver he ((h.rests hr hget hover).ended (errand.handle, errand.isOver) ?_) hcue
    refine List.mem_map.mpr ⟨errand, List.mem_filter.mpr ⟨List.mem_of_getElem? he, ?_⟩, rfl⟩
    simp [howner]
  · exact absurd (h.turn_of_runOf hcues hrun hr) hover

end Serial

/-! ### What comes from no run -/

lemma network_sight (s : Session (Recorded ν)) (client : Nat) (sighting : Sighting) :
    (s.sight client sighting).network = s.network := by
  obtain ⟨agenda, hsighted⟩ := s.sight_frame client sighting
  rw [hsighted]
  exact network_hearAll s client sighting.found

/-- a cue by which no run does anything has nothing told or asked -/
lemma perform_of_nobody (hwho : s.actor? cue = none) (howned : ∀ errand ∈ s.errands, errand.run ≠ none) :
    (s.perform cue).network.contacts = s.network.contacts ∧ s.published cue = [] := by
  cases hcue : cue.errandOf? with
  | some e =>
    rw [actor?_of_errand hcue] at hwho
    cases he : s.errands[e]? with
    | some errand =>
      rw [he] at hwho
      exact absurd hwho (howned errand (List.mem_of_getElem? he))
    | none =>
      have hsame : (s.tuned attentive).perform cue = s.tuned attentive := perform_of_no_errand hcue he
      exact ⟨by rw [perform_of_no_errand hcue he], by rw [published, hsame]; rfl⟩
  | none =>
    rw [actor?_of_none hcue] at hwho
    cases cue with
    | signal signal =>
      refine ⟨?_, ?_⟩
      · show (Session.sight { s with network := (Network.signal s.network signal).1 }
          (client signal) (Network.signal s.network signal).2).network.contacts = _
        rw [network_sight]
        rfl
      · exact congrArg (fun t => t.hub.waiting 0) (sight_tuned
          (s := { s with network := (Network.signal s.network signal).1 })
          (client signal) (Network.signal s.network signal).2)
    | retire e => exact ⟨rfl, rfl⟩
    | alarm => exact ⟨rfl, rfl⟩
    | clock r | tick r | wake r | drained r fault | enter r | takeTurn r => cases hwho
    | begin e | attempt e | arrive e request answer | expire e | resume e => cases hcue

/-! ### A step -/

/-- how many cues are before the one by which a run gets its turn -/
def wait (s : Session (Recorded ν)) (r : Nat) : Nat :=
  Agenda.ahead (fun cue => cue.turnOf? == some r) s.agenda.line

/-- a run that is about to get its turn comes no later to it if cues about turns keep their places -/
lemma KeepsLine.wait_le (h : KeepsLine s.agenda.line t.agenda.line)
    (hmem : ∃ entry ∈ s.agenda.line, (entry.cue.turnOf? == some r) = true) : t.wait r ≤ s.wait r := by
  refine (h.ahead_le (fun cue hwanted => ?_) hmem).2
  rw [beq_iff_eq.mp hwanted]
  rfl

namespace Serial

/-- the runs that had begun before a step -/
lemma older (h : s.Serial begun told) (hcues : s.agenda.cues.Perm (cue :: agenda.cues))
    (hr : r < begun) :
    let s' : Session (Recorded ν) := { s with agenda }
    (s'.perform cue).Kept r ∧ ((s'.perform cue).tuned attentive).Stands r (.subscriber 0)
      (further told (s.actor? cue) (s'.published cue) r) := by
  intro s'
  refine ⟨(h.kept r hr).perform hcues, ?_⟩
  have hstands : ((s'.tuned attentive).perform cue).Stands r (.subscriber 0)
      (further told (s.actor? cue) (s'.published cue) r) :=
    (h.stands r hr).perform ((h.kept r hr).tuned attentive) hcues
  rw [perform_tuned] at hstands
  exact hstands.retuned

/-- a cue that is about no turn is for a run that has begun -/
lemma actor_lt (h : s.Serial begun told) (hcues : s.agenda.cues.Perm (cue :: agenda.cues))
    (hcue : cue.turnOf? = none) (hwho : s.actor? cue = some r) : r < begun := by
  rcases actor_cases hwho with ⟨e, errand, -, he, howner⟩ | hrun
  · obtain ⟨q, hq, howner'⟩ := h.untouched.errands errand (List.mem_of_getElem? he)
    obtain rfl := Option.some.inj (howner.symm.trans howner')
    exact hq
  · have hmem : cue ∈ s.agenda.cues := hcues.mem_iff.mpr (List.mem_cons_self ..)
    refine (h.untouched.cues cue hmem r hrun).resolve_right ?_
    rw [hcue]
    simp

/-- the runs that have not begun are left alone -/
lemma waiting_of_runs (h : s.Serial begun told) (hle : begun ≤ begun')
    (hruns : ∀ r, begun' ≤ r → t.runs[r]? = s.runs[r]?) :
    ∀ r run, t.runs[r]? = some run → begun' ≤ r →
      ∃ action settings client, run = .ofAction action settings client .hub := by
  intro r run hget hr
  rw [hruns r hr] at hget
  exact h.waiting r run hget (by omega)

lemma silent_of_actor (h : s.Serial begun told) (hle : begun ≤ begun')
    (hwho : ∀ r, who = some r → r < begun') : ∀ r, begun' ≤ r → further told who events r = [] := by
  intro r hr
  have hother : who ≠ some r := fun hwho' => Nat.not_lt.mpr hr (hwho r hwho')
  rw [further, h.silent r (by omega), List.nil_append, if_neg hother]

/-- a cue that is about no turn: the run that has its turn does something of its own, or what is about
the runs stays as it is -/
lemma deals (h : s.Serial begun told) (hcues : s.agenda.cues.Perm (cue :: agenda.cues))
    (hcue : cue.turnOf? = none) :
    let s' : Session (Recorded ν) := { s with agenda }
    (s'.perform cue).backdrop = s'.backdrop ∨ ∃ r, s.actor? cue = some r ∧ s.turn = some r ∧
      r + 1 = begun ∧ Deals r s'.backdrop (s'.perform cue).backdrop := by
  intro s'
  cases hrun : cue.runOf? with
  | none => exact .inl (backdrop_perform s' hrun)
  | some r =>
    have hwho : s.actor? cue = some r := by
      refine (actor?_of_none ?_).trans hrun
      cases cue <;> first | rfl | cases hrun
    have hr := h.actor_lt hcues hcue hwho
    have hturn := h.turn_of_runOf hcues hrun hr
    obtain ⟨run, hget⟩ := h.exists_run hr
    exact .inr ⟨r, hwho, hturn, h.queued.holder r hturn,
      deals_perform h.balance (h.kept r hr) hget hcues hrun⟩

/-- what is told and asked with such a cue comes from the run that has its turn -/
lemma last_of_none (h : s.Serial begun told) (hcues : s.agenda.cues.Perm (cue :: agenda.cues))
    (hcue : cue.turnOf? = none) :
    let s' : Session (Recorded ν) := { s with agenda }
    (s'.perform cue).network.contacts = s.network.contacts ∧ s'.published cue = [] ∨
      ∃ r, s.actor? cue = some r ∧ r + 1 = begun := by
  intro s'
  cases hwho : s.actor? cue with
  | none =>
    refine .inl (perform_of_nobody (s := s') hwho fun errand hmem => ?_)
    obtain ⟨q, -, howner⟩ := h.untouched.errands errand hmem
    rw [howner]
    simp
  | some r =>
    have hr := h.actor_lt hcues hcue hwho
    by_cases hturn : s.turn = some r
    · exact .inr ⟨r, rfl, h.queued.holder r hturn⟩
    · have hstill := h.still hcues hr hwho hturn
      refine .inl ⟨?_, ?_⟩
      · have hsame : s'.perform cue = s' := hstill s.hub
        rw [hsame]
      · rw [published, hstill]
        rfl

lemma isLast (h : s.Serial begun told) (hr : r + 1 = begun) : s.backdrop.IsLast r :=
  fun q core hq hcore => (h.queued.fresh q core hcore (by omega)).1

end Serial

/-- what a step of runs that take turns comes to, if it is done by so and so and so many events are
told with it -/
structure Proceeds (s t : Session (Recorded ν)) (begun begun' : Nat) (told : Nat → List Event)
    (who : Option Nat) (events : List Event) : Prop where
  serial : t.Serial begun' (further told who events)
  /-- a run begins; or one that has only to wait for its turn comes nearer to it -/
  begins : begun' = begun + 1 ∨ begun' = begun ∧
    (s.turn = none → begun < s.runs.length → t.turn = none ∧ t.wait begun < s.wait begun)
  /-- only the run that has begun last tells or asks anything -/
  last : t.network.contacts = s.network.contacts ∧ events = [] ∨ ∃ r, who = some r ∧ r + 1 = begun'
  /-- and only that run changes what is about it -/
  deals : t.backdrop.runs = s.backdrop.runs ∨ ∃ r b, who = some r ∧ r + 1 = begun' ∧
    b.runs = s.backdrop.runs ∧ Deals r b t.backdrop

/-- the first run that waits -/
lemma range_eq_cons (hmore : begun < s.runs.length) :
    List.range' begun (s.backdrop.runs.length - begun)
      = begun :: List.range' (begun + 1) (s.backdrop.runs.length - begun - 1) := by
  have hlength : s.backdrop.runs.length = s.runs.length := List.length_map ..
  exact List.range'_eq_cons_iff.mpr ⟨rfl, by omega, rfl⟩

namespace Serial

/-- if no run has its turn, the one that has come first is about to get it -/
lemma awaits (h : s.Serial begun told) (hturn : s.turn = none) (hmore : begun < s.runs.length) :
    Agenda.Awaits (fun cue => cue.turnOf? == some begun) s.agenda.line := by
  have hprompt := prompt_backdrop.mp h.queued.prompt
  refine ⟨?_, fun entry hmem hwanted => hprompt.turns entry hmem ?_⟩
  · have hwaiting := h.queued.waiting
    have htaking := h.queued.taking
    rw [range_eq_cons hmore] at hwaiting
    rw [if_pos (show s.backdrop.turn = none from hturn)] at htaking
    have hpicked : ∀ read : Cue → Option Nat, (∀ cue, cue.turnOf? = none → read cue = none) →
        (∀ cue, read cue = some begun → cue.turnOf? = some begun) →
        begun ∈ Agenda.picks read s.backdrop.cues.line →
        ∃ entry ∈ s.agenda.line, (entry.cue.turnOf? == some begun) = true := by
      intro read hnone hread hmem
      rw [picks_backdrop fun cue hcue => hnone cue (turnOf?_eq_none hcue)] at hmem
      obtain ⟨entry, hentry, hpick⟩ := List.mem_filterMap.mp hmem
      exact ⟨entry, hentry, beq_iff_eq.mpr (hread _ hpick)⟩
    cases hline : s.backdrop.line with
    | nil =>
      refine hpicked Cue.enters? (fun _ => enters?_eq_none) (fun cue henters => ?_) ?_
      · rw [Cue.turnOf?, henters]
        rfl
      · rw [hline, List.nil_append] at hwaiting
        rw [hwaiting]
        exact List.mem_cons_self ..
    | cons first rest =>
      rw [hline] at hwaiting htaking
      obtain rfl : first = begun := (List.cons.inj hwaiting).1
      refine hpicked Cue.takes? (fun _ => takes?_eq_none) (fun cue htakes => ?_) ?_
      · cases cue <;> cases htakes
        rfl
      · rw [htaking]
        exact List.mem_cons_self ..
  · rw [beq_iff_eq.mp hwanted]
    rfl

/-- the run that is about to get its turn comes nearer to it with each cue that is not its own -/
lemma nearer (h : s.Serial begun told) (hnext : s.agenda.next? = some (cue, agenda))
    (hturn : s.turn = none) (hmore : begun < s.runs.length) (hcue : cue.turnOf? ≠ some begun) :
    (({ s with agenda } : Session (Recorded ν)).perform cue).wait begun < s.wait begun := by
  have hawaits := h.awaits hturn hmore
  obtain ⟨rest, htaken, rfl⟩ : ∃ rest, Agenda.takeLine s.agenda.line = some (cue, rest) ∧
      agenda = { s.agenda with line := rest } := by
    unfold Agenda.next? at hnext
    split at hnext
    · rename_i cue' rest htaken
      obtain ⟨rfl, rfl⟩ := Prod.mk.inj (Option.some.inj hnext)
      exact ⟨rest, htaken, rfl⟩
    · rename_i hnone
      obtain ⟨⟨entry, hmem, -⟩, -⟩ := hawaits
      rw [Agenda.takeLine_eq_none_iff.mp hnone] at hmem
      cases hmem
  rcases Agenda.takeLine_ahead htaken hawaits with hwanted | ⟨hthere, hless⟩
  · exact absurd (beq_iff_eq.mp hwanted) hcue
  · have htouches := touches_perform
      ({ s with agenda := { s.agenda with line := rest } } : Session (Recorded ν)) cue
    exact Nat.lt_of_le_of_lt (htouches.line.wait_le hthere.1) hless

/-- a cue that is about no turn -/
theorem proceeds_of_none (h : s.Serial begun told) (hnext : s.agenda.next? = some (cue, agenda))
    (hcue : cue.turnOf? = none) :
    let s' : Session (Recorded ν) := { s with agenda }
    s.Proceeds (s'.perform cue) begun begun told (s.actor? cue) (s'.published cue) := by
  intro s'
  have hcues := Agenda.cues_next hnext
  have hdeals := h.deals hcues hcue
  have hqueued : s'.backdrop.Queued begun := queued_next h.queued hnext hcue
  have hbalance : s'.backdrop.Balanced := balanced_remove h.balance hcues
  obtain ⟨huntouched, hruns⟩ := (touches_perform s' cue).untouched (h.untouched.take hcues)
    fun q hwho => h.actor_lt hcues hcue hwho
  have hserial : (s'.perform cue).Serial begun (further told (s.actor? cue) (s'.published cue)) :=
    { queued := by
        rcases hdeals with hsame | ⟨r, -, -, hr, hdeals⟩
        · rw [hsame]
          exact hqueued
        · exact hdeals.queued hr hqueued
      balance := by
        rcases hdeals with hsame | ⟨r, -, -, hr, hdeals⟩
        · rw [hsame]
          exact hbalance
        · exact hdeals.balance (h.isLast hr) hbalance
      untouched := huntouched
      silent := h.silent_of_actor (Nat.le_refl _) fun r hwho => h.actor_lt hcues hcue hwho
      waiting := h.waiting_of_runs (Nat.le_refl _) hruns
      kept := fun r hr => (h.older hcues hr).1
      stands := fun r hr => (h.older hcues hr).2 }
  refine ⟨hserial, .inr ⟨rfl, fun hturn hmore => ?_⟩, h.last_of_none hcues hcue, ?_⟩
  · refine ⟨?_, h.nearer hnext hturn hmore (by simp [hcue])⟩
    rcases hdeals with hsame | ⟨r, -, hholds, -⟩
    · exact (congrArg Backdrop.turn hsame).trans hturn
    · rw [hturn] at hholds
      cases hholds
  · rcases hdeals with hsame | ⟨r, hwho, -, hr, hdeals⟩
    · exact .inl (by rw [hsame]; rfl)
    · exact .inr ⟨r, s'.backdrop, hwho, hr, rfl, hdeals⟩

lemma perform_enter (hget : s.runs[r]? = some run) : s.perform (.enter r) = s.enter r run := by
  rw [Session.perform, overRun, hget]

lemma perform_takeTurn (hget : s.runs[r]? = some run) :
    s.perform (.takeTurn r) = s.takeTurn r run := by
  rw [Session.perform, overRun, hget]

/-- a run asks for its turn, and has to wait -/
theorem proceeds_of_enter (h : s.Serial begun told) (hnext : s.agenda.next? = some (.enter r, agenda))
    (hget : s.runs[r]? = some run) (hwaits : (s.turn.isSome || !s.line.isEmpty) = true) :
    let s' : Session (Recorded ν) := { s with agenda }
    s.Proceeds (s'.perform (.enter r)) begun begun told (some r) (s'.published (.enter r)) := by
  intro s'
  have hcues := Agenda.cues_next hnext
  have hwaiting := (turns_next h.queued hnext).1
  have hperform : ∀ hub, (s'.tuned hub).perform (.enter r)
      = ({ s' with line := s.line ++ [r] } : Session (Recorded ν)).tuned hub := by
    intro hub
    exact (perform_enter (s := s'.tuned hub) hget).trans (if_pos hwaits)
  have hsame : s'.perform (.enter r) = { s' with line := s.line ++ [r] } := hperform s.hub
  have hnothing : s'.published (.enter r) = [] := by
    rw [published, hperform]
    rfl
  have holder : ∀ q < begun, (s'.perform (.enter r)).Kept q ∧
      ((s'.perform (.enter r)).tuned attentive).Stands q (.subscriber 0)
        (further told (some r) (s'.published (.enter r)) q) := fun q hq => h.older hcues hq
  have hnearer : s.turn = none → begun < s.runs.length → (Cue.enter r).turnOf? ≠ some begun →
      (s'.perform (.enter r)).wait begun < s.wait begun := h.nearer hnext
  have hbalance : s'.backdrop.Balanced := balanced_remove h.balance hcues
  rw [hsame] at holder hnearer ⊢
  rw [hnothing] at holder ⊢
  have hqueued := queued_enter (s := s) h.queued hnext hwaits
  have hserial : ({ s' with line := s.line ++ [r] } : Session (Recorded ν)).Serial begun
      (further told (some r) []) :=
    { queued := hqueued
      balance := ⟨hbalance.listed, hbalance.quiet⟩
      untouched := (h.untouched.take hcues).of_same rfl rfl rfl
      silent := fun q hq => by rw [further, ite_self, List.append_nil, h.silent q hq]
      waiting := h.waiting_of_runs (Nat.le_refl _) fun _ _ => rfl
      kept := fun q hq => (holder q hq).1
      stands := fun q hq => (holder q hq).2 }
  refine ⟨hserial, .inr ⟨rfl, fun hturn hmore => ⟨hturn, ?_⟩⟩, .inl ⟨rfl, rfl⟩, .inl rfl⟩
  -- the first one in the line comes before the run, which is so not the one that has come first
  refine hnearer hturn hmore fun heq => ?_
  obtain rfl : r = begun := Option.some.inj heq
  have hnodup := List.nodup_range' (s := r) (n := s.backdrop.runs.length - r)
  rw [← hwaiting] at hnodup
  cases hline : s.line with
  | nil => simp [hturn, hline] at hwaits
  | cons first rest =>
    rw [hline, range_eq_cons hmore] at hwaiting
    rw [hline, (List.cons.inj hwaiting).1] at hnodup
    exact (List.nodup_cons.mp hnodup).1 (by simp [Cue.enters?])

/-- a run gets its turn and starts -/
theorem proceeds_of_start (h : s.Serial begun told) (hcues : s.agenda.cues.Perm (cue :: agenda.cues))
    {line : List Nat} (hget : s.runs[begun]? = some run)
    (hqueued : ({ s with agenda, turn := some begun, line } : Session (Recorded ν)).backdrop.Queued
      (begun + 1))
    (hwho : s.actor? cue = some begun)
    (hperform : ∀ hub, (({ s with agenda } : Session (Recorded ν)).tuned hub).perform cue
      = (({ s with agenda, turn := some begun, line } : Session (Recorded ν)).tuned hub).start begun run) :
    let s' : Session (Recorded ν) := { s with agenda }
    s.Proceeds (s'.perform cue) begun (begun + 1) told (s.actor? cue) (s'.published cue) := by
  intro s'
  generalize hu : ({ s with agenda, turn := some begun, line } : Session (Recorded ν)) = u
    at hqueued hperform
  obtain ⟨action, settings, client, rfl⟩ := h.waiting begun run hget (Nat.le_refl _)
  generalize hrun : Run.ofAction action settings client .hub = run at hget hperform
  have hthere : u.runs[begun]? = some run := hu ▸ hget
  have hidle : u.IsIn begun .idle run.client := by
    have hphase : run.phase = .idle := hrun ▸ rfl
    exact hphase ▸ isIn_core hthere
  have hstarts : s'.perform cue = u.start begun run := by
    have hsame : u.tuned s.hub = u := by rw [← hu]; rfl
    exact (hperform s.hub).trans (congrArg (·.start begun run) hsame)
  have huntouched : u.Untouched begun := by
    rw [← hu]
    exact (h.untouched.take hcues).of_same rfl rfl rfl
  have hbalance : u.backdrop.Balanced := by
    have hremoved := balanced_remove h.balance hcues
    rw [← hu]
    exact ⟨hremoved.listed, hremoved.quiet⟩
  have hruns : u.backdrop.runs = s.backdrop.runs := by rw [← hu]; rfl
  have hdeals : Deals begun u.backdrop (u.start begun run).backdrop :=
    (launches_start hidle).does.deals
  obtain ⟨hstill, hothers⟩ := (Touches.start u run).untouched (huntouched.mono (Nat.le_succ _))
    fun q hq => by
      obtain rfl := Option.some.inj hq
      exact Nat.lt_succ_self _
  have hawaits : (u.tuned attentive).Awaits begun run :=
    Untouched.awaits (huntouched.of_same rfl rfl rfl) hqueued hthere
      ⟨action, settings, client, .hub, true, hrun.symm⟩
  have hear : Ear.IsOf (.subscriber 0) run.audience := by
    rw [← hrun]
    rfl
  obtain ⟨hkept, hstands⟩ := stands_start hawaits hear keeps_attentive
  have htuned : (u.tuned attentive).start begun run
      = (s'.perform cue).tuned (attentive.publishAll (s'.published cue)) := by
    rw [← hperform, perform_tuned]
  have htidings : tidings begun (.subscriber 0) (some begun) (u.tuned attentive)
      ((u.tuned attentive).start begun run) = s'.published cue := by
    rw [published, hperform, tidings, if_pos rfl]
    rfl
  rw [htidings, htuned] at hstands
  rw [htuned] at hkept
  have hserial : (s'.perform cue).Serial (begun + 1)
      (further told (s.actor? cue) (s'.published cue)) :=
    { queued := by
        rw [hstarts]
        exact hdeals.queued rfl hqueued
      balance := by
        rw [hstarts]
        refine hdeals.balance (fun q core hq hcore => ?_) hbalance
        rw [hruns] at hcore
        exact (h.queued.fresh q core hcore (Nat.le_of_lt hq)).1
      untouched := by
        rw [hstarts]
        exact hstill
      silent := by
        refine h.silent_of_actor (Nat.le_succ _) fun r hwho' => ?_
        obtain rfl := Option.some.inj (hwho.symm.trans hwho')
        exact Nat.lt_succ_self _
      waiting := by
        rw [hstarts]
        refine h.waiting_of_runs (Nat.le_succ _) fun r hr => ?_
        rw [hothers r hr, ← hu]
      kept := fun r hr => by
        rcases Nat.lt_succ_iff_lt_or_eq.mp hr with hlt | rfl
        · exact (h.older hcues hlt).1
        · exact hkept.tuned (s'.perform cue).hub
      stands := fun r hr => by
        rcases Nat.lt_succ_iff_lt_or_eq.mp hr with hlt | rfl
        · exact (h.older hcues hlt).2
        · rw [further, hwho, if_pos rfl, h.silent r (Nat.le_refl _), List.nil_append]
          exact hstands.retuned }
  refine ⟨hserial, .inl rfl, .inr ⟨begun, hwho, rfl⟩, .inr ⟨begun, u.backdrop, hwho, rfl, hruns, ?_⟩⟩
  rw [hstarts]
  exact hdeals

/-- whatever cue comes next -/
theorem perform (h : s.Serial begun told) (hnext : s.agenda.next? = some (cue, agenda)) :
    let s' : Session (Recorded ν) := { s with agenda }
    ∃ begun', s.Proceeds (s'.perform cue) begun begun' told (s.actor? cue) (s'.published cue) := by
  intro s'
  have hcues := Agenda.cues_next hnext
  have hlength : s.backdrop.runs.length = s.runs.length := List.length_map ..
  cases hturn : cue.turnOf? with
  | none => exact ⟨begun, h.proceeds_of_none hnext hturn⟩
  | some r =>
    rcases Cue.turnOf?_cases hturn with henters | htakes
    · obtain rfl : cue = .enter r := by
        cases cue <;> cases henters
        rfl
      have hlt : r < s.runs.length := by
        have hmem : r ∈ List.range' begun (s.backdrop.runs.length - begun) := by
          rw [← (turns_next h.queued hnext).1]
          simp [Cue.enters?]
        have hbounds := List.mem_range'_1.mp hmem
        omega
      have hget := List.getElem?_eq_getElem hlt
      by_cases hwaits : (s.turn.isSome || !s.line.isEmpty) = true
      · exact ⟨begun, h.proceeds_of_enter hnext hget hwaits⟩
      · have hfree := Bool.eq_false_iff.mpr hwaits
        obtain ⟨rfl, hqueued⟩ := queued_enter_begins h.queued hnext hfree
        exact ⟨r + 1, h.proceeds_of_start hcues hget hqueued rfl fun hub =>
          (perform_enter (s := s'.tuned hub) hget).trans (if_neg hwaits)⟩
    · obtain rfl : cue = .takeTurn r := by
        cases cue <;> cases htakes
        rfl
      obtain ⟨rfl, hqueued⟩ := queued_takeTurn h.queued hnext
      have hlt : r < s.runs.length := by
        have hbound : r + 1 ≤ s.backdrop.runs.length := hqueued.bound
        omega
      have hget := List.getElem?_eq_getElem hlt
      exact ⟨r + 1, h.proceeds_of_start hcues hget hqueued rfl fun hub =>
        perform_takeTurn (s := s'.tuned hub) hget⟩

end Serial

end Lamplighter.Session
