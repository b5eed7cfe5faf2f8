import Mathlib.Data.List.Perm.Basic
import Lamplighter.Proofs.Run.Course
import Lamplighter.Proofs.Run.Ledger

/-!
# Standing: the ledger of a run in a session

* `Agenda.cues`       every cue that is set, in the line or for later;
* `Session.ledger`    the ledger of a run, read off the session;
* `Session.Orderly`   an effect that a run no longer counts, or is about to count no longer, is
                      over;
* `Session.Kept`      the ledger of a run is sound, and its effects are in order;
* `Session.Same`, `Session.Advances`   a part of a step leaves the ledger of a run as it is, or
                      makes it move.
-/

namespace Lamplighter

/-! ### The cues that are set -/

namespace Agenda

variable {α : Type}

def cues (agenda : Agenda α) : List α :=
  agenda.line.map (·.cue) ++ agenda.timers.map (·.entry.cue)

lemma insert_perm (timers : List (Timer α)) (timer : Timer α) :
    (insert timers timer).Perm (timer :: timers) := by
  induction timers with
  | nil => exact List.Perm.refl _
  | cons t rest ih =>
    unfold insert
    split
    · exact List.Perm.refl _
    · exact (ih.cons t).trans (List.Perm.swap timer t rest)

theorem cues_soon (agenda : Agenda α) (turns : Nat) (cue : α) :
    (agenda.soon turns cue).cues.Perm (cue :: agenda.cues) := by
  show (List.map _ (agenda.line ++ [_]) ++ _).Perm _
  rw [List.map_append, List.append_assoc]
  exact List.perm_middle

theorem cues_after_seconds (agenda : Agenda α) (seconds : Rat) (turns : Nat) (cue : α) :
    (agenda.after (.seconds seconds) turns cue).cues.Perm (cue :: agenda.cues) := by
  have hperm := (insert_perm agenda.timers ⟨agenda.now.later seconds, turns, cue⟩).map
    (fun t => t.entry.cue)
  exact (hperm.append_left _).trans List.perm_middle

theorem cues_after (agenda : Agenda α) (duration : Duration) (turns : Nat) (cue : α) :
    (agenda.after duration turns cue).cues.Perm agenda.cues ∨
      (agenda.after duration turns cue).cues.Perm (cue :: agenda.cues) := by
  cases duration with
  | endless => exact .inl (List.Perm.refl _)
  | seconds seconds => exact .inr (cues_after_seconds agenda seconds turns cue)

theorem cues_pause (agenda : Agenda α) (duration : Duration) (cue : α) :
    (agenda.pause duration cue).cues.Perm agenda.cues ∨
      (agenda.pause duration cue).cues.Perm (cue :: agenda.cues) := by
  unfold pause
  split
  · exact .inr (cues_soon agenda 0 cue)
  · exact cues_after agenda duration 1 cue

theorem cues_drop (agenda : Agenda α) (unwanted : α → Bool) :
    (agenda.drop unwanted).cues = agenda.cues.filter fun cue => !unwanted cue := by
  simp [cues, drop, List.filter_map, Function.comp_def]

theorem cues_takeLine {line : List (Pending α)} {cue : α} {rest : List (Pending α)}
    (h : takeLine line = some (cue, rest)) :
    (line.map (·.cue)).Perm (cue :: rest.map (·.cue)) := by
  fun_induction takeLine line with
  | case1 => cases h
  | case2 first behind =>
    obtain ⟨rfl, rfl⟩ := Prod.mk.inj (Option.some.inj h)
    exact .refl _
  | case3 turns first behind ih =>
    have hback := ih h
    rw [List.map_append] at hback
    exact (List.perm_append_singleton first _).symm.trans hback

lemma cues_advance (agenda : Agenda α) : agenda.advance.cues.Perm agenda.cues := by
  have hjoin : ∀ a : Agenda α, a.joinDue.cues = a.cues := by
    intro a
    simp only [cues, joinDue, List.map_append, List.append_assoc, List.map_map]
    congr 1
    exact (List.map_append ..).symm.trans (congrArg _ (List.takeWhile_append_dropWhile ..))
  unfold advance
  split
  · exact .refl _
  · rw [hjoin]
    exact .refl _

/-- the cue that comes next is one of those that are set -/
theorem cues_next {agenda rest : Agenda α} {cue : α} (h : agenda.next? = some (cue, rest)) :
    agenda.cues.Perm (cue :: rest.cues) := by
  unfold next? at h
  split at h
  · rename_i line hline
    obtain ⟨rfl, rfl⟩ := Prod.mk.inj (Option.some.inj h)
    exact (cues_takeLine hline).append_right _
  · dsimp only at h
    split at h
    · rename_i line hline
      obtain ⟨rfl, rfl⟩ := Prod.mk.inj (Option.some.inj h)
      exact (cues_advance agenda).symm.trans ((cues_takeLine hline).append_right _)
    · cases h

/-- there is a next cue as long as any are set -/
theorem next_eq_none_iff {agenda : Agenda α} : agenda.next? = none ↔ agenda.cues = [] := by
  have hcues : agenda.cues = [] ↔ agenda.line = [] ∧ agenda.timers = [] := by
    rw [cues, List.append_eq_nil_iff, List.map_eq_nil_iff, List.map_eq_nil_iff]
  rw [hcues, next?]
  cases htaken : takeLine agenda.line with
  | some taken =>
    have hne : agenda.line ≠ [] := fun hnil => by
      rw [takeLine_eq_none_iff.mpr hnil] at htaken
      cases htaken
    simp [hne]
  | none =>
    have hline := takeLine_eq_none_iff.mp htaken
    cases htimers : agenda.timers with
    | nil => simp [advance, htimers, hline, takeLine]
    | cons timer later =>
      -- the first timer is due when time has gone on to it
      have hdue : timer.due ≤ (if agenda.now < timer.due then timer.due else agenda.now) := by
        split
        · exact Rat.le_refl
        · rename_i hle
          exact Rat.not_lt.mp hle
      have hjoined : agenda.advance.line ≠ [] := by
        simp [advance, htimers, joinDue, hdue]
      have htaken' : takeLine agenda.advance.line ≠ none := fun hnone =>
        hjoined (takeLine_eq_none_iff.mp hnone)
      obtain ⟨⟨cue, line⟩, hsome⟩ := Option.ne_none_iff_exists'.mp htaken'
      simp [hsome]

end Agenda

namespace Cue

def isWakeOf (cue : Cue) (run : Nat) : Bool :=
  match cue with
  | .wake r => r == run
  | _ => false

def isCalmOf (cue : Cue) (run : Nat) : Bool :=
  match cue with
  | .drained r none => r == run
  | _ => false

def isHaltOf (cue : Cue) (run : Nat) : Bool :=
  match cue with
  | .drained r (some _) => r == run
  | _ => false

def isEntryOf (cue : Cue) (run : Nat) : Bool :=
  match cue with
  | .enter r | .takeTurn r => r == run
  | _ => false

/-- the cue is one of those that a ledger counts -/
def concerns (cue : Cue) (run : Nat) : Bool :=
  cue.isWakeOf run || cue.isCalmOf run || cue.isHaltOf run || cue.isEntryOf run

/-- a cue that concerns a run which has entered wakes it up, or tells it how its effects have ended -/
lemma eq_of_concerns {cue : Cue} {run : Nat} (h : cue.concerns run = true)
    (hentry : cue.isEntryOf run = false) : cue = .wake run ∨ ∃ fault, cue = .drained run fault := by
  unfold concerns at h
  rw [hentry, Bool.or_false, Bool.or_eq_true, Bool.or_eq_true] at h
  cases cue with
  | wake q =>
    obtain rfl : q = run := by simpa [isWakeOf, isCalmOf, isHaltOf] using h
    exact .inl rfl
  | drained q fault =>
    obtain rfl : q = run := by cases fault <;> simpa [isWakeOf, isCalmOf, isHaltOf] using h
    exact .inr ⟨fault, rfl⟩
  | _ => simp [isWakeOf, isCalmOf, isHaltOf] at h

end Cue

/-! ### The ledger -/

namespace Session

variable {ν : Type}

/-- the effects of a run in the order of dispatch, each with whether it is over -/
def effects (s : Session ν) (r : Nat) : List (Handle × Bool) :=
  (s.errands.filter fun errand => errand.run == some r).map fun errand =>
    (errand.handle, errand.isOver)

def ledgerOf (s : Session ν) (r : Nat) (run : Run) : Ledger where
  action := run.action
  audience := run.audience
  phase := run.phase
  control := run.control
  inbox := run.inbox
  isWaiting := run.isWaiting
  isGathering := run.isGathering
  deeds := run.deeds
  outcome := run.outcome
  effects := s.effects r
  wakes := s.agenda.cues.countP (·.isWakeOf r)
  calms := s.agenda.cues.countP (·.isCalmOf r)
  halts := s.agenda.cues.countP (·.isHaltOf r)
  entries := s.line.count r + s.agenda.cues.countP (·.isEntryOf r)

def ledger (s : Session ν) (r : Nat) : Option Ledger :=
  s.runs[r]?.map (s.ledgerOf r)

structure Orderly (s : Session ν) (r : Nat) : Prop where
  detached : ∀ errand ∈ s.errands, errand.run = some r → errand.isAttached = false →
    errand.isOver = true
  retired : ∀ e, .retire e ∈ s.agenda.cues →
    ∃ errand, s.errands[e]? = some errand ∧ (errand.run = some r → errand.isOver = true)

structure Kept (s : Session ν) (r : Nat) : Prop where
  sound : ∃ l, s.ledger r = some l ∧ l.Sound
  orderly : s.Orderly r

/-- nothing that concerns a run has changed -/
structure Same (r : Nat) (s t : Session ν) : Prop where
  ledger : t.ledger r = s.ledger r
  orderly : s.Orderly r → t.Orderly r

section
variable {r : Nat} {s t u : Session ν}

theorem Same.refl (r : Nat) (s : Session ν) : Same r s s :=
  ⟨rfl, id⟩

theorem Same.trans (h : Same r s t) (h' : Same r t u) : Same r s u :=
  ⟨h'.ledger.trans h.ledger, h'.orderly ∘ h.orderly⟩

theorem Kept.same (h : s.Kept r) (hs : Same r s t) : t.Kept r := by
  obtain ⟨l, hl, hsound⟩ := h.sound
  exact ⟨⟨l, hs.ledger.trans hl, hsound⟩, hs.orderly h.orderly⟩

/-- the ledger of a run has moved -/
structure Advances (r : Nat) (s t : Session ν) : Prop where
  ledger : s.Orderly r → ∀ l, s.ledger r = some l → ∃ l', t.ledger r = some l' ∧ l.Moves l'
  orderly : s.Orderly r → t.Orderly r

theorem Same.advances (h : Same r s t) : Advances r s t :=
  ⟨fun _ l hl => ⟨l, h.ledger.trans hl, .refl⟩, h.orderly⟩

theorem Advances.refl (r : Nat) (s : Session ν) : Advances r s s :=
  (Same.refl r s).advances

theorem Advances.trans (h : Advances r s t) (h' : Advances r t u) : Advances r s u := by
  refine ⟨?_, h'.orderly ∘ h.orderly⟩
  intro horderly l hl
  obtain ⟨l', hl', hm⟩ := h.ledger horderly l hl
  obtain ⟨l'', hl'', hm'⟩ := h'.ledger (h.orderly horderly) l' hl'
  exact ⟨l'', hl'', hm.trans hm'⟩

theorem Kept.advance (h : s.Kept r) (ha : Advances r s t) : t.Kept r := by
  obtain ⟨l, hl, hsound⟩ := h.sound
  obtain ⟨l', hl', hm⟩ := ha.ledger h.orderly l hl
  exact ⟨⟨l', hl', hsound.moves hm⟩, ha.orderly h.orderly⟩

/-! ### What a part of a step leaves alone -/

/-- the four kinds of cues that a ledger counts -/
lemma countP_eq_of_perm {cues cues' : List Cue}
    (h : (cues'.filter (·.concerns r)).Perm (cues.filter (·.concerns r))) {p : Cue → Bool}
    (hp : ∀ cue, p cue = true → cue.concerns r = true) : cues'.countP p = cues.countP p := by
  have hfilter : ∀ l : List Cue, l.countP p = (l.filter (·.concerns r)).countP p := by
    intro l
    rw [List.countP_filter]
    apply List.countP_congr
    intro cue _
    have := hp cue
    simp only [Bool.and_eq_true]
    tauto
  rw [hfilter cues', hfilter cues, h.countP_eq]

lemma ledgerOf_congr (hline : t.line.count r = s.line.count r) (heffects : t.effects r = s.effects r)
    (hcues : (t.agenda.cues.filter (·.concerns r)).Perm (s.agenda.cues.filter (·.concerns r))) :
    t.ledgerOf r = s.ledgerOf r := by
  funext run
  simp only [ledgerOf, hline, heffects]
  congr 1
  · exact countP_eq_of_perm hcues (by simp +contextual [Cue.concerns])
  · exact countP_eq_of_perm hcues (by simp +contextual [Cue.concerns])
  · exact countP_eq_of_perm hcues (by simp +contextual [Cue.concerns])
  · rw [countP_eq_of_perm hcues (by simp +contextual [Cue.concerns])]

theorem Same.of_cues (hruns : t.runs = s.runs) (herrands : t.errands = s.errands)
    (hline : t.line.count r = s.line.count r)
    (hcues : (t.agenda.cues.filter (·.concerns r)).Perm (s.agenda.cues.filter (·.concerns r)))
    (hretire : ∀ e, .retire e ∈ t.agenda.cues → .retire e ∈ s.agenda.cues) : Same r s t := by
  constructor
  · have heffects : t.effects r = s.effects r := by rw [effects, effects, herrands]
    show t.runs[r]?.map (t.ledgerOf r) = s.runs[r]?.map (s.ledgerOf r)
    rw [hruns, ledgerOf_congr hline heffects hcues]
  · intro h
    constructor
    · rw [herrands]
      exact h.detached
    · intro e he
      rw [herrands]
      exact h.retired e (hretire e he)

/-- a cue is set that does not concern the run -/
lemma Same.of_cue {agenda : Agenda Cue} (cue : Cue)
    (h : agenda.cues.Perm s.agenda.cues ∨ agenda.cues.Perm (cue :: s.agenda.cues))
    (hcue : cue.concerns r = false) (hretire : ∀ e, cue ≠ .retire e) :
    Same r s { s with agenda } := by
  refine .of_cues rfl rfl rfl ?_ ?_
  · rcases h with h | h
    · exact h.filter _
    · simpa [hcue] using h.filter (·.concerns r)
  · intro e he
    rcases h with h | h
    · exact h.mem_iff.mp he
    · rcases List.mem_cons.mp (h.mem_iff.mp he) with heq | hold
      · exact absurd heq.symm (hretire e)
      · exact hold

/-- a cue is taken off the agenda that does not concern the run -/
lemma Same.remove {agenda : Agenda Cue} {cue : Cue} (hcues : s.agenda.cues.Perm (cue :: agenda.cues))
    (hcue : cue.concerns r = false) : Same r s { s with agenda } := by
  refine .of_cues rfl rfl rfl ?_ fun e he => hcues.mem_iff.mpr (List.mem_cons_of_mem _ he)
  have hperm := hcues.filter (·.concerns r)
  rw [List.filter_cons_of_neg (by simp [hcue])] at hperm
  exact hperm.symm

theorem Same.soon (s : Session ν) (turns : Nat) (cue : Cue) (hcue : cue.concerns r = false)
    (hretire : ∀ e, cue ≠ .retire e) : Same r s (s.soon turns cue) :=
  .of_cue cue (.inr (s.agenda.cues_soon turns cue)) hcue hretire

/-- cues are dropped that do not concern the run -/
theorem Same.drop (s : Session ν) {unwanted : Cue → Bool}
    (h : ∀ cue, cue.concerns r = true → unwanted cue = false) :
    Same r s { s with agenda := s.agenda.drop unwanted } := by
  refine .of_cues rfl rfl rfl ?_ ?_
  · show (List.filter _ (s.agenda.drop unwanted).cues).Perm _
    rw [Agenda.cues_drop, List.filter_filter]
    refine .of_eq (List.filter_congr ?_)
    intro cue _
    have hcue := h cue
    cases hc : cue.concerns r with
    | false => rfl
    | true => simp [hcue hc]
  · intro e he
    rw [Agenda.cues_drop] at he
    exact (List.mem_filter.mp he).1

theorem Same.dropAwaited (s : Session ν) (e : Nat) : Same r s (s.dropAwaited e) := by
  apply Same.drop s
  intro cue hcue
  cases cue <;> first | rfl | cases hcue

lemma runs_modifyRun_ne {q : Nat} (hq : q ≠ r) (change : Run → Run) :
    (s.modifyRun q change).runs[r]? = s.runs[r]? := by
  show (s.runs.modify q change)[r]? = _
  simp [hq]

lemma runs_modifyRun_self (change : Run → Run) :
    (s.modifyRun r change).runs[r]? = s.runs[r]?.map change := by
  show (s.runs.modify r change)[r]? = _
  simp

lemma ledger_modifyRun (change : Run → Run) :
    (s.modifyRun r change).ledger r = (s.runs[r]?.map change).map (s.ledgerOf r) := by
  show ((s.modifyRun r change).runs[r]?).map (s.ledgerOf r) = _
  rw [runs_modifyRun_self]

theorem Same.modifyRun_ne {q : Nat} (hq : q ≠ r) (change : Run → Run) :
    Same r s (s.modifyRun q change) := by
  constructor
  · show ((s.modifyRun q change).runs[r]?).map (s.ledgerOf r) = _
    rw [runs_modifyRun_ne hq]
    rfl
  · exact fun h => ⟨h.detached, h.retired⟩

/-- a run is changed in what its ledger does not have -/
theorem Same.modifyRun (s : Session ν) (q : Nat) (change : Run → Run)
    (h : ∀ run, s.ledgerOf r (change run) = s.ledgerOf r run) : Same r s (s.modifyRun q change) := by
  by_cases hq : q = r
  · subst hq
    constructor
    · rw [ledger_modifyRun, Option.map_map]
      exact congrArg (s.runs[q]?.map ·) (funext h)
    · exact fun h => ⟨h.detached, h.retired⟩
  · exact Same.modifyRun_ne hq change

theorem Same.emit (s : Session ν) (q : Nat) (kind : EventKind) (message : String)
    (device : Option String) (data : Option Json) :
    Same r s (s.emit q kind message device data).1 := by
  obtain ⟨count, events, _, -, htold⟩ := s.emit_frame q kind message device data
  rw [htold]
  have hadded : Same r s (s.modifyRun q fun run =>
      { run with emitted := run.emitted + count, events := run.events ++ events }) :=
    .modifyRun s q _ fun _ => rfl
  exact hadded.trans (.of_cues rfl rfl rfl (.refl _) fun _ => id)

/-! ### The stages of an errand -/

variable {e : Nat} {errand : Errand}

/-- an errand is changed at its place -/
lemma errands_split (h : s.errands[e]? = some errand) :
    ∃ older newer, s.errands = older ++ errand :: newer ∧ ∀ change,
      (s.modifyErrand e change).errands = older ++ change errand :: newer := by
  obtain ⟨hlt, rfl⟩ := List.getElem?_eq_some_iff.mp h
  refine ⟨s.errands.take e, s.errands.drop (e + 1), ?_, ?_⟩
  · rw [List.getElem_cons_drop, List.take_append_drop]
  · intro change
    exact List.modify_eq_take_cons_drop hlt

lemma effects_split (r : Nat) (older newer : List Errand) :
    ∃ l k, ∀ (u : Session ν) (x : Errand), u.errands = older ++ x :: newer →
      u.effects r = l ++ (if x.run = some r then [(x.handle, x.isOver)] else []) ++ k := by
  refine ⟨(older.filter fun x => x.run == some r).map fun x => (x.handle, x.isOver),
    (newer.filter fun x => x.run == some r).map fun x => (x.handle, x.isOver), ?_⟩
  intro u x hu
  show (u.errands.filter _).map _ = _
  rw [hu, List.filter_append, List.map_append, List.append_assoc, List.filter_cons]
  by_cases hx : x.run = some r
  · simp [hx]
  · simp [hx]

lemma effects_modifyErrand (change : Errand → Errand) (he : s.errands[e]? = some errand)
    (hrun : (change errand).run = errand.run) (hhandle : (change errand).handle = errand.handle)
    (hover : (change errand).isOver = errand.isOver) :
    (s.modifyErrand e change).effects r = s.effects r := by
  obtain ⟨older, newer, hs, hchange⟩ := errands_split he
  obtain ⟨l, k, heffects⟩ := effects_split (ν := ν) r older newer
  rw [heffects _ _ hs, heffects _ _ (hchange change), hrun, hhandle, hover]

lemma Orderly.of_errands (h : s.Orderly r) (herrands : t.errands = s.errands)
    (hretire : ∀ e, .retire e ∈ t.agenda.cues → .retire e ∈ s.agenda.cues) : t.Orderly r := by
  constructor
  · rw [herrands]
    exact h.detached
  · intro e he
    rw [herrands]
    exact h.retired e (hretire e he)

lemma Orderly.modifyErrand (h : s.Orderly r) {change : Errand → Errand}
    (he : s.errands[e]? = some errand) (hrun : (change errand).run = errand.run)
    (hover : errand.run = some r → errand.isOver = true → (change errand).isOver = true)
    (hdetached : errand.run = some r → (change errand).isAttached = false →
      (change errand).isOver = true) :
    (s.modifyErrand e change).Orderly r := by
  constructor
  · intro x hx hxrun hxout
    obtain ⟨older, newer, hs, hchange⟩ := errands_split he
    rw [hchange] at hx
    rcases List.mem_append.mp hx with hold | hnew
    · exact h.detached x (hs ▸ List.mem_append_left _ hold) hxrun hxout
    · rcases List.mem_cons.mp hnew with rfl | hnew
      · exact hdetached (hrun ▸ hxrun) hxout
      · exact h.detached x (hs ▸ List.mem_append_right _ (List.mem_cons_of_mem _ hnew)) hxrun hxout
  · intro i hi
    obtain ⟨x, hx, hxover⟩ := h.retired i hi
    by_cases hie : e = i
    · subst hie
      obtain rfl : errand = x := Option.some.inj (he.symm.trans hx)
      refine ⟨change errand, ?_, ?_⟩
      · show (s.errands.modify e change)[e]? = _
        simp [he]
      · intro hr
        rw [hrun] at hr
        exact hover hr (hxover hr)
    · refine ⟨x, ?_, hxover⟩
      show (s.errands.modify e change)[i]? = _
      simp [hx, hie]

/-- an errand that is not over goes on to another stage -/
theorem Same.setStage (he : s.errands[e]? = some errand) (hopen : errand.isOver = false)
    (stage : Stage) (hstage : { errand with stage }.isOver = false) :
    Same r s (s.setStage e stage) := by
  constructor
  · have heffects : (s.setStage e stage).effects r = s.effects r :=
      effects_modifyErrand _ he rfl rfl (hstage.trans hopen.symm)
    exact congrArg (s.runs[r]?.map ·) (ledgerOf_congr rfl heffects (.refl _))
  · intro h
    refine h.modifyErrand he rfl (fun _ hover => absurd (hopen.symm.trans hover) (by decide)) ?_
    intro hrun hout
    have hover := h.detached errand (List.mem_of_getElem? he) hrun hout
    exact absurd (hopen.symm.trans hover) (by decide)

lemma Orderly.end (h : s.Orderly r) (he : s.errands[e]? = some errand)
    (outcome : Except Fault Reply) : (s.setStage e (.over outcome)).Orderly r :=
  h.modifyErrand he rfl (fun _ _ => rfl) (fun _ _ => rfl)

/-- an effect of the run ends -/
theorem ledger_end {l : Ledger} (hl : s.ledger r = some l) (he : s.errands[e]? = some errand)
    (hopen : errand.isOver = false) (hrun : errand.run = some r) (outcome : Except Fault Reply) :
    ∃ effects, Ends errand.handle l.effects effects ∧
      (s.setStage e (.over outcome)).ledger r = some { l with effects } := by
  obtain ⟨run, hget, rfl⟩ := Option.map_eq_some_iff.mp hl
  obtain ⟨older, newer, hs, hchange⟩ := errands_split he
  obtain ⟨front, back, heffects⟩ := effects_split (ν := ν) r older newer
  refine ⟨(s.setStage e (.over outcome)).effects r, ?_, ?_⟩
  · show Ends _ (s.effects r) ((s.modifyErrand e _).effects r)
    rw [heffects _ _ hs, heffects _ _ (hchange _), if_pos hrun, if_pos hrun, hopen,
      List.append_assoc, List.append_assoc]
    exact .intro front back
  · show s.runs[r]?.map _ = _
    rw [hget]
    rfl

/-- an errand of another run, or of none, ends -/
theorem Same.end (he : s.errands[e]? = some errand) (hrun : errand.run ≠ some r)
    (outcome : Except Fault Reply) : Same r s (s.setStage e (.over outcome)) := by
  constructor
  · obtain ⟨older, newer, hs, hchange⟩ := errands_split he
    obtain ⟨front, back, heffects⟩ := effects_split (ν := ν) r older newer
    have hsame : (s.setStage e (.over outcome)).effects r = s.effects r := by
      show (s.modifyErrand e _).effects r = _
      rw [heffects _ _ hs, heffects _ _ (hchange _), if_neg hrun, if_neg hrun]
    exact congrArg (s.runs[r]?.map ·) (ledgerOf_congr rfl hsame (.refl _))
  · exact fun h => h.end he outcome

/-! ### Messages and announcements -/

lemma cues_post (s : Session ν) (q : Nat) (message : Message) :
    (s.post q message).agenda.cues.Perm s.agenda.cues ∨
      (s.post q message).agenda.cues.Perm (.wake q :: s.agenda.cues) := by
  cases s.post_course q message with
  | absent _ result => exact .inl (by rw [result])
  | wakes _ _ result =>
    rw [result]
    exact .inr (Agenda.cues_soon _ 0 _)
  | queued _ _ result =>
    rw [result]
    exact .inl (.refl _)

@[simp] lemma errands_post (s : Session ν) (q : Nat) (message : Message) :
    (s.post q message).errands = s.errands := by
  obtain ⟨agenda, hposted⟩ := s.post_frame q message
  rw [hposted]
  rfl

lemma Orderly.post (h : s.Orderly r) (q : Nat) (message : Message) :
    (s.post q message).Orderly r := by
  refine h.of_errands (errands_post s q message) ?_
  intro e he
  rcases cues_post s q message with hp | hp
  · exact hp.mem_iff.mp he
  · simpa using hp.mem_iff.mp he

/-- a cue is set, and the ledger counts it if it concerns the run -/
theorem ledger_soon {l : Ledger} (hl : s.ledger r = some l) (turns : Nat) (cue : Cue) :
    (s.soon turns cue).ledger r = some { l with
      wakes := l.wakes + (cue.isWakeOf r).toNat
      calms := l.calms + (cue.isCalmOf r).toNat
      halts := l.halts + (cue.isHaltOf r).toNat
      entries := l.entries + (cue.isEntryOf r).toNat } := by
  obtain ⟨run, hget, rfl⟩ := Option.map_eq_some_iff.mp hl
  have hcount : ∀ p : Cue → Bool,
      (s.soon turns cue).agenda.cues.countP p = s.agenda.cues.countP p + (p cue).toNat := by
    intro p
    have hperm := s.agenda.cues_soon turns cue
    show (s.agenda.soon turns cue).cues.countP p = _
    rw [hperm.countP_eq, List.countP_cons]
    cases p cue <;> rfl
  show s.runs[r]?.map ((s.soon turns cue).ledgerOf r) = _
  rw [hget]
  simp only [Option.map_some, ledgerOf, hcount, ← Nat.add_assoc]
  rfl

/-- a cue that the ledger does not count makes no difference -/
lemma ledger_soon_aside (turns : Nat) {cue : Cue} (hcue : cue.concerns r = false) :
    (s.soon turns cue).ledger r = s.ledger r := by
  refine congrArg (s.runs[r]?.map ·) (ledgerOf_congr rfl rfl ?_)
  have hperm := (s.agenda.cues_soon turns cue).filter (·.concerns r)
  rw [List.filter_cons_of_neg (by simp [hcue])] at hperm
  exact hperm

lemma ledger_soon_calm {l : Ledger} (hl : s.ledger r = some l) (turns : Nat) :
    (s.soon turns (.drained r none)).ledger r = some { l with calms := l.calms + 1 } := by
  rw [ledger_soon hl]
  simp [Cue.isWakeOf, Cue.isCalmOf, Cue.isHaltOf, Cue.isEntryOf]

lemma ledger_soon_halt {l : Ledger} (hl : s.ledger r = some l) (turns : Nat) (fault : Fault) :
    (s.soon turns (.drained r (some fault))).ledger r = some { l with halts := l.halts + 1 } := by
  rw [ledger_soon hl]
  simp [Cue.isWakeOf, Cue.isCalmOf, Cue.isHaltOf, Cue.isEntryOf]

theorem ledger_post {l : Ledger} (hl : s.ledger r = some l) (message : Message) :
    (s.post r message).ledger r = some (l.post message) := by
  obtain ⟨run, hget, rfl⟩ := Option.map_eq_some_iff.mp hl
  have hposted : (s.posting r message).ledger r = some (s.ledgerOf r { run with
      inbox := run.inbox ++ [message]
      isWaiting := false
      deeds := .queued message :: run.deeds }) := by
    rw [posting, ledger_modifyRun, hget]
    rfl
  cases s.post_course r message with
  | absent gone => cases hget.symm.trans gone
  | wakes here waits result =>
    obtain rfl := Option.some.inj (hget.symm.trans here)
    rw [result, ledger_soon hposted]
    simp [Ledger.post, ledgerOf, Cue.isWakeOf, Cue.isCalmOf, Cue.isHaltOf, Cue.isEntryOf, waits]
  | queued here busy result =>
    obtain rfl := Option.some.inj (hget.symm.trans here)
    rw [result, hposted]
    simp [Ledger.post, ledgerOf, busy]

theorem Same.post_ne {q : Nat} (hq : q ≠ r) (message : Message) : Same r s (s.post q message) := by
  have hposted : Same r s (s.posting q message) := .modifyRun_ne hq _
  cases s.post_course q message with
  | absent _ result =>
    rw [result]
    exact .refl r s
  | wakes _ _ result =>
    rw [result]
    refine hposted.trans (.soon _ 0 _ ?_ (by simp))
    simp [Cue.concerns, Cue.isWakeOf, Cue.isCalmOf, Cue.isHaltOf, Cue.isEntryOf, hq]
  | queued _ _ result =>
    rw [result]
    exact hposted

/-- an idle interval passes for some run -/
theorem Advances.tick (r : Nat) (s : Session ν) (q : Nat) : Advances r s (s.post q .tick) := by
  by_cases hq : q = r
  · subst hq
    exact ⟨fun _ l hl => ⟨l.post .tick, ledger_post hl .tick, .single (.tick l)⟩,
      fun h => h.post q .tick⟩
  · exact (Same.post_ne hq .tick).advances

@[simp] lemma errands_hear (s : Session ν) (client : Nat) (handle : Handle) :
    (s.hear client handle).errands = s.errands :=
  hear_induction (p := fun t => t.errands = s.errands) rfl (fun _ => rfl) (fun _ _ => rfl)
    fun t q ht => (errands_post t q _).trans ht

lemma Orderly.hear (h : s.Orderly r) (client : Nat) (handle : Handle) :
    (s.hear client handle).Orderly r :=
  hear_induction (p := (Orderly · r)) h (fun _ => h.of_errands rfl fun _ => id)
    (fun _ _ => h.of_errands rfl fun _ => id) fun _ q ht => ht.post q _

/-- the run itself notices a bulb -/
lemma ledger_noticing {run : Run} (hget : s.runs[r]? = some run) (handle : Handle)
    (control : Control) : (s.noticing r handle control).ledger r =
      some { s.ledgerOf r run with control, deeds := .heard handle :: run.deeds } := by
  rw [noticing, ledger_modifyRun, hget]
  rfl

/-- a bulb makes itself known, and the run is told of it or not -/
theorem ledger_hear {l : Ledger} (hl : s.ledger r = some l) (client : Nat) (handle : Handle) :
    (s.hear client handle).ledger r = some l ∨
      (s.hear client handle).ledger r = some (l.hear handle) := by
  obtain ⟨run, hget, rfl⟩ := Option.map_eq_some_iff.mp hl
  have hother : ∀ {q : Nat} (control : Control), q ≠ r →
      Same r s (s.noticing q handle control) := fun _ hq => .modifyRun_ne hq _
  cases s.hear_course client handle with
  | nobody result =>
    rw [result]
    exact .inl hl
  | listed result =>
    rw [result]
    exact .inl hl
  | @known q run' _ here said result =>
    rw [result]
    by_cases hq : q = r
    · subst hq
      obtain rfl := Option.some.inj (hget.symm.trans here)
      rw [ledger_noticing hget]
      exact .inr (by simp [Ledger.hear, ledgerOf, said])
    · exact .inl ((hother _ hq).ledger.trans hl)
  | @first q run' _ here said result =>
    rw [result]
    by_cases hq : q = r
    · subst hq
      obtain rfl := Option.some.inj (hget.symm.trans here)
      rw [ledger_post (ledger_noticing hget handle _)]
      exact .inr (by simp [Ledger.hear, ledgerOf, said])
    · exact .inl (((hother _ hq).trans (.post_ne hq _)).ledger.trans hl)

/-- what announcements keep of a ledger, a session keeps when bulbs are found -/
theorem ledger_hearAll {p : Ledger → Prop} (hp : ∀ l handle, p l → p (l.hear handle)) {l : Ledger}
    (hl : s.ledger r = some l) (h : p l) (client : Nat) (handles : List Handle) :
    ∃ l', (s.hearAll client handles).ledger r = some l' ∧ p l' := by
  induction handles generalizing s l with
  | nil => exact ⟨l, hl, h⟩
  | cons handle rest ih =>
    rcases ledger_hear hl client handle with hsame | hheard
    · exact ih hsame h
    · exact ih hheard (hp l handle h)

theorem Advances.hear (r : Nat) (s : Session ν) (client : Nat) (handle : Handle) :
    Advances r s (s.hear client handle) := by
  refine ⟨?_, fun h => h.hear client handle⟩
  intro _ l hl
  rcases ledger_hear hl client handle with hsame | hheard
  · exact ⟨l, hsame, .refl⟩
  · exact ⟨_, hheard, .single (.hear l handle)⟩

theorem Advances.hearAll (r : Nat) (s : Session ν) (client : Nat) (handles : List Handle) :
    Advances r s (s.hearAll client handles) :=
  hearAll_induction (.refl r s) fun t handle _ ht => ht.trans (.hear r t client handle)

end

end Session

end Lamplighter
