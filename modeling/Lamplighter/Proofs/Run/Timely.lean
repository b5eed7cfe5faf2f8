import Mathlib.Logic.Function.Iterate
import Lamplighter.Proofs.Number.Nearest
import Lamplighter.Proofs.Run.Hosting

/-!
# Timely errands: what an errand comes to when its cues come in time

What an errand comes to depends on its corner only, if the reply to a request and the deadline do
not come at once: the reply counts if it takes less time than the deadline, whenever the errand asks.

* `Solo.onward`       what an errand on its own comes to next;
* `Session.Ties`      two cues of the errands of a bulb come at once;
* `Session.Keeps`     a session has come so far with an errand, and waits for what comes next;
* `Keeps.step`        a step leaves an errand where it is or brings it onward.
-/

set_option linter.unusedSectionVars false

namespace Lamplighter

/-! ### Time goes on -/

namespace Agenda

variable {α : Type} {agenda rest : Agenda α} {cue : α} {p : α → Bool}

/-- a timed cue joins the line at a moment -/
def isDueAt (now : Moment) (t : Timer α) : Bool :=
  t.due < now.later resolution || t.due ≤ now

lemma isDueAt_of_le {now : Moment} {t t' : Timer α} (h : t.due ≤ t'.due)
    (hdue : isDueAt now t' = true) : isDueAt now t = true := by
  simp only [isDueAt, Bool.or_eq_true, decide_eq_true_eq] at hdue ⊢
  exact hdue.imp (lt_of_le_of_lt h) h.trans

lemma takeWhile_isDueAt (now : Moment) {timers : List (Timer α)}
    (h : timers.Pairwise fun t t' => t.due ≤ t'.due) :
    timers.takeWhile (isDueAt now) = timers.filter (isDueAt now) ∧
      timers.dropWhile (isDueAt now) = timers.filter fun t => !isDueAt now t := by
  induction timers with
  | nil => exact ⟨rfl, rfl⟩
  | cons t rest ih =>
    obtain ⟨hfirst, hrest⟩ := List.pairwise_cons.mp h
    cases hdue : isDueAt now t with
    | true =>
      rw [List.takeWhile_cons_of_pos hdue, List.dropWhile_cons_of_pos hdue,
        List.filter_cons_of_pos hdue, List.filter_cons_of_neg (by simp [hdue]), (ih hrest).1,
        (ih hrest).2]
      exact ⟨rfl, rfl⟩
    | false =>
      have hlater : ∀ t' ∈ t :: rest, isDueAt now t' = false := by
        intro t' ht'
        rcases List.mem_cons.mp ht' with rfl | ht'
        · exact hdue
        · refine Bool.eq_false_iff.mpr fun hdue' => ?_
          exact absurd (isDueAt_of_le (hfirst t' ht') hdue') (by simp [hdue])
      rw [List.takeWhile_cons_of_neg (by simp [hdue]), List.dropWhile_cons_of_neg (by simp [hdue])]
      constructor
      · rw [List.filter_eq_nil_iff.mpr]
        exact fun t' ht' => by simp [hlater t' ht']
      · rw [List.filter_eq_self.mpr]
        exact fun t' ht' => by simp [hlater t' ht']

/-- when time goes on, it does so to some moment -/
lemma advance_eq (h : agenda.IsOrdered) (hline : agenda.line = []) :
    ∃ now, agenda.now ≤ now ∧ agenda.advance.now = now ∧
      agenda.advance.line = (agenda.timers.filter (isDueAt now)).map (·.entry) ∧
      agenda.advance.timers = agenda.timers.filter fun t => !isDueAt now t := by
  unfold advance
  split
  · rename_i hnil
    exact ⟨agenda.now, le_refl _, rfl, by rw [hnil]; exact hline, by rw [hnil]; rfl⟩
  · rename_i first later htimers
    obtain ⟨htaken, hleft⟩ := takeWhile_isDueAt
      (if agenda.now < first.due then first.due else agenda.now) h
    refine ⟨if agenda.now < first.due then first.due else agenda.now, ?_, rfl, ?_, hleft⟩
    · split
      · rename_i hlt
        exact hlt.le
      · exact le_refl _
    · rw [← htaken]
      show agenda.line ++ _ = _
      rw [hline]
      rfl

/-- a cue is taken from the line, or time goes on first -/
lemma next_cases (h : agenda.next? = some (cue, rest)) :
    (agenda.line ≠ [] ∧ rest.now = agenda.now ∧ rest.timers = agenda.timers ∧
      (agenda.line.map (·.cue)).Perm (cue :: rest.line.map (·.cue))) ∨
    (agenda.line = [] ∧ rest.now = agenda.advance.now ∧ rest.timers = agenda.advance.timers ∧
      (agenda.advance.line.map (·.cue)).Perm (cue :: rest.line.map (·.cue))) := by
  unfold next? at h
  split at h
  · rename_i line htaken
    obtain ⟨rfl, rfl⟩ := Prod.mk.inj (Option.some.inj h)
    refine .inl ⟨?_, rfl, rfl, cues_takeLine htaken⟩
    intro hnil
    rw [takeLine_eq_none_iff.mpr hnil] at htaken
    cases htaken
  · rename_i hnone
    dsimp only at h
    split at h
    · rename_i line htaken
      obtain ⟨rfl, rfl⟩ := Prod.mk.inj (Option.some.inj h)
      exact .inr ⟨takeLine_eq_none_iff.mp hnone, rfl, rfl, cues_takeLine htaken⟩
    · cases h

/-! ### The part of an agenda that some cues are -/

/-- the part of an agenda that is about some cues -/
def only (agenda : Agenda α) (p : α → Bool) : Agenda α :=
  agenda.drop fun cue => !p cue

lemma line_only (agenda : Agenda α) (p : α → Bool) :
    (agenda.only p).line.map (·.cue) = (agenda.line.map (·.cue)).filter p := by
  simp [only, drop, List.filter_map, Function.comp_def]

lemma timers_only (agenda : Agenda α) (p : α → Bool) :
    (agenda.only p).timers = agenda.timers.filter fun t => p t.entry.cue := by
  simp [only, drop]

/-- what becomes of some of the cues when the next cue is taken -/
theorem only_next (h : agenda.IsOrdered) (hnext : agenda.next? = some (cue, rest)) :
    (agenda.line ≠ [] ∧ (rest.only p).now = (agenda.only p).now ∧
      (rest.only p).timers = (agenda.only p).timers ∧
      ((agenda.only p).line.map (·.cue)).Perm
        ((if p cue then [cue] else []) ++ (rest.only p).line.map (·.cue))) ∨
    (agenda.line = [] ∧ ∃ now, (agenda.only p).now ≤ now ∧ (rest.only p).now = now ∧
      (rest.only p).timers = (agenda.only p).timers.filter (fun t => !isDueAt now t) ∧
      (((agenda.only p).timers.filter (isDueAt now)).map (·.entry.cue)).Perm
        ((if p cue then [cue] else []) ++ (rest.only p).line.map (·.cue)) ∧
      ((agenda.only p).timers.filter (isDueAt now)).length
        = agenda.advance.line.countP fun pending => p pending.cue) := by
  have hsplit : ∀ line : List α, (cue :: line).filter p = (if p cue then [cue] else [])
      ++ line.filter p := by
    intro line
    rw [List.filter_cons]
    split <;> rfl
  rcases next_cases hnext with ⟨hline, hnow, htimers, hperm⟩ | ⟨hline, hnow, htimers, hperm⟩
  · refine .inl ⟨hline, hnow, ?_, ?_⟩
    · rw [timers_only, timers_only, htimers]
    · rw [line_only, line_only, ← hsplit]
      exact hperm.filter p
  · obtain ⟨now, hle, hnow', hjoined, hleft⟩ := advance_eq h hline
    refine .inr ⟨hline, now, hle, hnow.trans hnow', ?_, ?_, ?_⟩
    · rw [timers_only, timers_only, htimers, hleft, List.filter_filter, List.filter_filter]
      exact List.filter_congr fun t _ => Bool.and_comm _ _
    · rw [line_only, ← hsplit]
      refine List.Perm.trans (.of_eq ?_) (hperm.filter p)
      rw [hjoined, timers_only, List.map_map, List.filter_map, List.filter_filter, List.filter_filter]
      exact congrArg _ (List.filter_congr fun t _ => Bool.and_comm _ _)
    · rw [hjoined, timers_only, List.countP_map, List.countP_eq_length_filter, List.filter_filter,
        List.filter_filter]
      exact congrArg _ (List.filter_congr fun t _ => Bool.and_comm _ _)

/-! ### Timers -/

/-- the timer of a cue that is set at a moment, with one turn to let pass; there is none for a cue
that never comes -/
def timerOf (start : Moment) (duration : Duration) (cue : α) : List (Timer α) :=
  match duration with
  | .endless => []
  | .seconds seconds => [⟨start.later seconds, 1, cue⟩]

lemma timers_after (agenda : Agenda α) (duration : Duration) (cue : α) :
    (agenda.after duration 1 cue).timers.Perm (timerOf agenda.now duration cue ++ agenda.timers) := by
  cases duration with
  | endless => exact .refl _
  | seconds seconds => exact insert_perm agenda.timers _

@[simp] lemma line_after (agenda : Agenda α) (duration : Duration) (turns : Nat) (cue : α) :
    (agenda.after duration turns cue).line = agenda.line := by
  cases duration <;> rfl

lemma line_soon (agenda : Agenda α) (turns : Nat) (cue : α) :
    (agenda.soon turns cue).line.map (·.cue) = agenda.line.map (·.cue) ++ [cue] := by
  simp [soon]

@[simp] lemma now_after (agenda : Agenda α) (duration : Duration) (turns : Nat) (cue : α) :
    (agenda.after duration turns cue).now = agenda.now := by
  cases duration <;> rfl

end Agenda

/-- one thing takes less time than another -/
def Duration.isWithin (duration limit : Duration) : Bool :=
  match duration, limit with
  | .seconds count, .seconds most => count < most
  | .seconds _, .endless => true
  | .endless, _ => false

lemma Duration.isWithin_of_isInstant {duration limit : Duration} (h : duration.isInstant = true)
    (hlimit : limit.isInstant = false) : duration.isWithin limit = true := by
  cases duration with
  | endless => cases h
  | seconds count =>
    cases limit with
    | endless => rfl
    | seconds most =>
      simp only [isInstant, decide_eq_true_eq, decide_eq_false_iff_not, not_le] at h hlimit
      simpa [isWithin] using lt_of_le_of_lt h hlimit

namespace Agenda

variable {start now : Moment} {duration limit : Duration} {a b : Cue} {timers : List (Timer Cue)}

/-- of two cues that do not come at once, the one comes first that takes less time -/
lemma isWithin_of_isDueAt (hstart : 0 ≤ start) (hduration : duration.isInstant = false)
    (hlimit : limit.isInstant = false)
    (htimers : timers.Perm (timerOf start duration a ++ timerOf start limit b))
    (hone : (timers.filter (isDueAt now)).length ≤ 1) :
    ((timerOf start duration a).any (isDueAt now) = true → duration.isWithin limit = true) ∧
      ((timerOf start limit b).any (isDueAt now) = true → duration.isWithin limit = false) := by
  rw [(htimers.filter _).length_eq, List.filter_append, List.length_append] at hone
  cases duration with
  | endless => exact ⟨fun h => (by cases h), fun _ => rfl⟩
  | seconds count =>
    cases limit with
    | endless => exact ⟨fun _ => rfl, fun h => (by cases h)⟩
    | seconds most =>
      simp only [Duration.isInstant, decide_eq_false_iff_not, not_le] at hduration hlimit
      -- both would come at once if the one that takes more time came
      have hboth : ¬ (isDueAt now (⟨start.later count, 1, a⟩ : Timer Cue) = true ∧
          isDueAt now (⟨start.later most, 1, b⟩ : Timer Cue) = true) := by
        rintro ⟨hdue, hdue'⟩
        simp [timerOf, hdue, hdue'] at hone
      simp only [timerOf, List.any_cons, List.any_nil, Bool.or_false, Duration.isWithin,
        decide_eq_true_eq, decide_eq_false_iff_not, not_lt]
      constructor
      · intro hdue
        by_contra hnot
        have hle : start.later most ≤ start.later count :=
          Moment.later_le hstart hlimit.le (not_lt.mp hnot)
        refine hboth ⟨hdue, isDueAt_of_le ?_ hdue⟩
        exact hle
      · intro hdue
        by_contra hnot
        have hle : start.later count ≤ start.later most :=
          Moment.later_le hstart hduration.le (not_le.mp hnot).le
        refine hboth ⟨isDueAt_of_le ?_ hdue, hdue⟩
        exact hle

end Agenda

/-! ### What comes next -/

namespace Solo

variable {solo : Solo} {e : Nat} {cues : Agenda Cue} {next : BulbState → Play} {retries : Nat}

/-- what an errand comes to next; the reply to a request counts if it takes less time than the
deadline -/
def onward (solo : Solo) : Solo :=
  match solo.errand.stage with
  | .fresh play => solo.follow play
  | .asking next retries =>
    match (solo.attempt next retries).2 with
    | none => (solo.attempt next retries).1
    | some (duration, answer) =>
      if duration.isWithin solo.errand.timeout then
        (solo.attempt next retries).1.arrive next retries answer
      else (solo.attempt next retries).1.expire next retries
  | .answered next retries result => solo.resume next retries result
  | _ => solo

/-- an errand waits for the cue that brings it onward, and for no other but its deadline -/
inductive Awaits (solo : Solo) (e : Nat) (cues : Agenda Cue) : Prop where
  | begins {play : Play} (stage : solo.errand.stage = .fresh play) (plain : play.IsPlain)
    (line : cues.line.map (·.cue) = [.begin e]) (timers : cues.timers = [])
  | asks {next : BulbState → Play} {retries : Nat}
    (stage : solo.errand.stage = .asking next retries) (quick : ∀ state, (next state).IsQuick)
    (patient : solo.errand.timeout.isInstant = false) (line : cues.line.map (·.cue) = [.attempt e])
    (timers : cues.timers.Perm (Agenda.timerOf cues.now solo.errand.timeout (.expire e)))
  | learns {next : BulbState → Play} {retries : Nat} {result : Option (Except Fault Reply)}
    (stage : solo.errand.stage = .answered next retries result)
    (quick : ∀ state, (next state).IsQuick) (line : cues.line.map (·.cue) = [.resume e])
  | rests {reply : Reply} (stage : solo.errand.stage = .over (.ok reply)) (line : cues.line = [])
    (timers : cues.timers = [])

/-- a request is under way, and the reply or the deadline has not come yet -/
inductive Underway (timeout : Duration) (e : Nat) (duration : Duration) (answer : Answer)
    (cues : Agenda Cue) : Prop where
  | waits {start : Moment} (begun : 0 ≤ start) (lasting : duration.isInstant = false)
    (line : cues.line = [])
    (timers : cues.timers.Perm (Agenda.timerOf start duration (.arrive e .read answer)
      ++ Agenda.timerOf start timeout (.expire e)))
  | arrives (within : duration.isWithin timeout = true)
    (line : cues.line.map (·.cue) = [.arrive e .read answer])
  | expires (beyond : duration.isWithin timeout = false)
    (line : cues.line.map (·.cue) = [.expire e])

lemma awaits_over (hclear : cues.cues = []) {reply : Reply}
    (hstage : solo.errand.stage = .over (.ok reply)) : solo.Awaits e (solo.await e cues) := by
  obtain ⟨hline, htimers⟩ := List.append_eq_nil_iff.mp hclear
  have hsame : solo.await e cues = cues := by
    unfold await
    rw [hstage]
  rw [hsame]
  exact .rests hstage (List.map_eq_nil_iff.mp hline) (List.map_eq_nil_iff.mp htimers)

lemma awaits_follow (solo : Solo) (hclear : cues.cues = []) {play : Play} (hquick : play.IsQuick) :
    (solo.follow play).Awaits e ((solo.follow play).await e cues) := by
  obtain ⟨reply, hstage⟩ := solo.stage_follow hquick
  exact awaits_over hclear hstage

lemma awaits_ask (solo : Solo) (hclear : cues.cues = []) (hnext : ∀ state, (next state).IsQuick)
    (retries : Nat) : (solo.ask next retries).Awaits e ((solo.ask next retries).await e cues) := by
  obtain ⟨hline, htimers⟩ := List.append_eq_nil_iff.mp hclear
  rw [List.map_eq_nil_iff] at hline htimers
  cases hinstant : solo.errand.timeout.isInstant with
  | true =>
    have hask : solo.ask next retries = solo.setStage (.answered next retries none) :=
      if_pos hinstant
    rw [hask]
    have hawait : (solo.setStage (.answered next retries none)).await e cues
        = cues.soon 2 (.resume e) := rfl
    rw [hawait]
    refine .learns rfl hnext ?_
    rw [Agenda.line_soon, hline]
    rfl
  | false =>
    have hask : solo.ask next retries = solo.setStage (.asking next retries) :=
      if_neg (by simp [hinstant])
    have hawait : (solo.setStage (.asking next retries)).await e cues
        = (cues.after solo.errand.timeout 1 (.expire e)).soon 0 (.attempt e) := rfl
    rw [hask, hawait]
    refine .asks rfl hnext hinstant ?_ ?_
    · rw [Agenda.line_soon, Agenda.line_after, hline]
      rfl
    · have hperm := cues.timers_after solo.errand.timeout (.expire e)
      rw [htimers, List.append_nil] at hperm
      show (cues.after solo.errand.timeout 1 (.expire e)).timers.Perm
        (Agenda.timerOf (cues.after solo.errand.timeout 1 (.expire e)).now solo.errand.timeout _)
      rwa [Agenda.now_after]

lemma awaits_play (solo : Solo) (hclear : cues.cues = []) {play : Play} (hplain : play.IsPlain) :
    (solo.follow play).Awaits e ((solo.follow play).await e cues) := by
  cases play with
  | ask next => exact solo.awaits_ask hclear hplain 0
  | _ => exact solo.awaits_follow hclear hplain

lemma awaits_resume (solo : Solo) (hclear : cues.cues = [])
    (hnext : ∀ state, (next state).IsQuick) (retries : Nat)
    (result : Option (Except Fault Reply)) : (solo.resume next retries result).Awaits e
      ((solo.resume next retries result).await e cues) := by
  unfold resume
  cases Query.judge solo.errand.handle solo.errand.maxRetries retries result with
  | take state => exact solo.awaits_follow hclear (hnext state)
  | again retries => exact solo.awaits_ask hclear hnext retries
  | give fault =>
    have hstage : (solo.fail fault).errand.stage = .over (.ok .nothing) := rfl
    exact awaits_over hclear hstage

/-- an errand whose request came to something waits to learn of it -/
lemma awaits_answered {errand : Errand} {corner : Corner} {result : Option (Except Fault Reply)}
    (hstage : errand.stage = .answered next retries result)
    (hnext : ∀ state, (next state).IsQuick) (hline : cues.line = []) (turns : Nat) :
    Awaits ⟨errand, corner⟩ e (cues.soon turns (.resume e)) := by
  refine .learns hstage hnext ?_
  rw [Agenda.line_soon, hline]
  rfl

lemma onward_over {outcome : Except Fault Reply} (h : solo.errand.stage = .over outcome) :
    solo.onward = solo := by
  unfold onward
  rw [h]

lemma Continues.onward {solo' : Solo} (h : solo.Continues solo') : solo.Continues solo'.onward := by
  unfold Solo.onward
  split
  · exact h.follow _
  · rename_i next retries _
    have hsent := h.attempt next retries
    split
    · exact hsent
    · split
      · exact hsent.arrive next retries _
      · exact hsent.setStage _
  · exact h.resume _ _ _
  · exact h

/-- an errand that is over stays as it is -/
lemma iterate_onward_over {outcome : Except Fault Reply}
    (h : solo.errand.stage = .over outcome) (j : Nat) : onward^[j] solo = solo :=
  Function.iterate_fixed (onward_over h) j

end Solo

namespace Session

variable {s t : Session Bench} {r e : Nat} {solo : Solo} {plan : Plan} {k : Handle → Prop}
  {cue : Cue} {rest cues : Agenda Cue}

/-- when time goes on, two cues of an errand on a bulb come at once -/
def Ties (s : Session Bench) (serial : String) : Prop :=
  s.agenda.line = [] ∧ ∃ e errand, s.errands[e]? = some errand ∧ errand.handle.serial = serial ∧
    1 < s.agenda.advance.line.countP fun pending => pending.cue.isAwaitedBy e

instance (s : Session Bench) (serial : String) : Decidable (s.Ties serial) :=
  decidable_of_iff (s.agenda.line.isEmpty = true ∧ ∃ e ∈ List.range s.errands.length,
      (s.errands[e]?.any fun errand => errand.handle.serial == serial) = true ∧
      1 < s.agenda.advance.line.countP fun pending => pending.cue.isAwaitedBy e) <| by
    unfold Ties
    rw [List.isEmpty_iff]
    refine and_congr_right fun _ => exists_congr fun e => ?_
    cases he : s.errands[e]? with
    | none => simp
    | some errand =>
      have hlt := (List.getElem?_eq_some_iff.mp he).1
      simp [hlt]

/-- a session has come so far with an errand -/
inductive Keeps (s : Session Bench) (r e : Nat) (solo : Solo) : Prop where
  | settled {cues : Agenda Cue} (has : s.Has r e solo cues) (awaits : solo.Awaits e cues)
  | underway {cues : Agenda Cue} {next : BulbState → Play} {retries : Nat} {duration : Duration}
    {answer : Answer} (stage : solo.errand.stage = .asking next retries)
    (quick : ∀ state, (next state).IsQuick) (patient : solo.errand.timeout.isInstant = false)
    (sent : (solo.attempt next retries).2 = some (duration, answer))
    (has : s.Has r e (solo.attempt next retries).1 cues)
    (underway : Solo.Underway solo.errand.timeout e duration answer cues)

/-! ### Taking a cue -/

lemma Has.cues_eq (h : s.Has r e solo cues) : cues = s.agenda.only (·.isAwaitedBy e) :=
  (Desk.mk.inj h.desk).2.symm

lemma Has.taken (h : s.Has r e solo cues) (hordered : rest.IsOrdered) :
    ({ s with agenda := rest } : Session Bench).Has r e solo (rest.only (·.isAwaitedBy e)) := by
  refine ⟨?_, h.corner, h.run, h.here, h.reliable, hordered⟩
  exact congrArg (Desk.mk · _) (Desk.mk.inj h.desk).1

/-- a cue of another errand, or of none, leaves an errand where it is -/
lemma Has.aside (hhosts : s.Hosts r plan k) (hcues : s.agenda.cues.Perm (cue :: rest.cues))
    (h : ({ s with agenda := rest } : Session Bench).Has r e solo cues)
    (hcue : cue.isAwaitedBy e = false) :
    (({ s with agenda := rest } : Session Bench).perform cue).Has r e solo cues := by
  obtain ⟨errand, he, _, _, stage, hsolo⟩ := h.errand
  have hhandle : errand.handle = solo.errand.handle := by rw [hsolo]
  have hforeign := hhosts.foreign he hcue
  rw [hhandle] at hforeign
  have hadmits := hhosts.admits hcues hforeign solo.errand.client
  have hdesk : (({ s with agenda := rest } : Session Bench).perform cue).desk e
      = ({ s with agenda := rest } : Session Bench).desk e := by
    rcases hadmits.desk with hsame | ⟨hnone, _⟩
    · exact hsame
    · rw [h.desk] at hnone
      cases hnone
  refine ⟨hdesk.trans h.desk, hadmits.corner.trans h.corner, h.run, ?_,
    h.reliable.of_plans hadmits.plans, hadmits.order h.ordered⟩
  have hsame := congrArg Option.isSome (map_plan_of_plans hadmits.plans r)
  rw [Option.isSome_map, Option.isSome_map] at hsame
  exact hsame.trans h.here

section

/-- where one of its cues is in the line, that cue is taken or nothing changes -/
lemma Has.line_taken (hhosts : s.Hosts r plan k) (hnext : s.agenda.next? = some (cue, rest))
    (h : s.Has r e solo cues) {c : Cue} (hline : cues.line.map (·.cue) = [c]) :
    ∃ cues', ({ s with agenda := rest } : Session Bench).Has r e solo cues' ∧
      cues'.now = cues.now ∧ cues'.timers = cues.timers ∧
      (cue = c ∧ cues'.line = [] ∨ cue.isAwaitedBy e = false ∧ cues'.line.map (·.cue) = [c]) := by
  refine ⟨_, h.taken (hhosts.ordered.next hnext), ?_⟩
  rw [h.cues_eq] at hline ⊢
  rcases Agenda.only_next hhosts.ordered hnext with ⟨_, hnow, htimers, hperm⟩ | ⟨hnil, _⟩
  · refine ⟨hnow, htimers, ?_⟩
    rw [hline] at hperm
    cases hawait : cue.isAwaitedBy e with
    | true =>
      rw [if_pos hawait] at hperm
      have hsingle := List.singleton_perm.mp hperm
      obtain ⟨rfl, hrest⟩ := List.cons.inj hsingle
      exact .inl ⟨rfl, List.map_eq_nil_iff.mp hrest.symm⟩
    | false =>
      rw [if_neg (by simp [hawait])] at hperm
      exact .inr ⟨rfl, (List.singleton_perm.mp hperm).symm⟩
  · rw [Agenda.line_only, hnil] at hline
    cases hline

/-- where none of its cues is in the line, some of its timers may join it -/
lemma Has.timers_taken (hhosts : s.Hosts r plan k) (hnext : s.agenda.next? = some (cue, rest))
    (h : s.Has r e solo cues) (hline : cues.line = [])
    (hties : ¬ s.Ties solo.errand.handle.serial) :
    ∃ cues', ({ s with agenda := rest } : Session Bench).Has r e solo cues' ∧
      (cue.isAwaitedBy e = false ∧ cues'.line = [] ∧ cues'.timers = cues.timers ∨
      ∃ now, cues'.timers = cues.timers.filter (fun t => !Agenda.isDueAt now t) ∧
        ((cues.timers.filter (Agenda.isDueAt now)).map (·.entry.cue)).Perm
          ((if cue.isAwaitedBy e then [cue] else []) ++ cues'.line.map (·.cue)) ∧
        (cues.timers.filter (Agenda.isDueAt now)).length ≤ 1) := by
  refine ⟨_, h.taken (hhosts.ordered.next hnext), ?_⟩
  obtain ⟨errand, he, _, _, stage, hsolo⟩ := h.errand
  have hserial : errand.handle.serial = solo.errand.handle.serial := by rw [hsolo]
  rw [h.cues_eq] at hline ⊢
  rcases Agenda.only_next hhosts.ordered hnext with
    ⟨_, hnow, htimers, hperm⟩ | ⟨hnil, now, _, _, htimers, hperm, hlength⟩
  · rw [hline] at hperm
    have hnone := List.append_eq_nil_iff.mp (List.nil_perm.mp hperm)
    refine .inl ⟨?_, List.map_eq_nil_iff.mp hnone.2, htimers⟩
    by_contra hawait
    rw [if_pos (by simpa using hawait)] at hnone
    exact absurd hnone.1 (by simp)
  · refine .inr ⟨now, htimers, hperm, ?_⟩
    rw [hlength]
    by_contra hmore
    exact hties ⟨hnil, e, errand, he, hserial, Nat.lt_of_not_le hmore⟩

/-! ### Steps of an errand in time -/

variable (hhosts : s.Hosts r plan k) (hnext : s.agenda.next? = some (cue, rest))

include hhosts hnext

lemma Keeps.begins (h : s.Has r e solo cues) {play : Play}
    (hstage : solo.errand.stage = .fresh play) (hplain : play.IsPlain)
    (hline : cues.line.map (·.cue) = [.begin e]) (htimers : cues.timers = []) :
    (({ s with agenda := rest } : Session Bench).perform cue).Keeps r e solo ∨
      (({ s with agenda := rest } : Session Bench).perform cue).Keeps r e solo.onward := by
  obtain ⟨cues', hhas, _, htimers', ⟨rfl, hline'⟩ | ⟨hother, hline'⟩⟩ :=
    h.line_taken hhosts hnext hline
  · have hclear : cues'.cues = [] := by
      rw [Agenda.cues, hline', htimers', htimers]
      rfl
    have honward : solo.onward = solo.follow play := by
      unfold Solo.onward
      rw [hstage]
    rw [honward]
    exact .inr (.settled (hhas.begin hstage hplain (Agenda.cleared_of_cues hclear))
      (solo.awaits_play hclear hplain))
  · exact .inl (.settled (.aside hhosts (Agenda.cues_next hnext) hhas hother)
      (.begins hstage hplain hline' (htimers'.trans htimers)))

lemma Keeps.asks (hnow : 0 ≤ s.agenda.now) (h : s.Has r e solo cues) {next : BulbState → Play}
    {retries : Nat} (hstage : solo.errand.stage = .asking next retries)
    (hquick : ∀ state, (next state).IsQuick) (hpatient : solo.errand.timeout.isInstant = false)
    (hline : cues.line.map (·.cue) = [.attempt e])
    (htimers : cues.timers.Perm (Agenda.timerOf cues.now solo.errand.timeout (.expire e))) :
    (({ s with agenda := rest } : Session Bench).perform cue).Keeps r e solo ∨
      (({ s with agenda := rest } : Session Bench).perform cue).Keeps r e solo.onward := by
  have hstart : 0 ≤ cues.now := by
    rw [h.cues_eq]
    exact hnow
  obtain ⟨cues', hhas, hnow', htimers', ⟨rfl, hline'⟩ | ⟨hother, hline'⟩⟩ :=
    h.line_taken hhosts hnext hline
  · have hthen := hhas.attempt hstage
    cases hsent : (solo.attempt next retries).2 with
    | none =>
      rw [hsent] at hthen
      have honward : solo.onward = (solo.attempt next retries).1 := by
        unfold Solo.onward
        rw [hstage]
        dsimp only
        rw [hsent]
      have hanswered : ∃ result, (solo.attempt next retries).1.errand.stage
          = .answered next retries (some result) := by
        rw [Solo.attempt_eq] at hsent ⊢
        split
        · obtain ⟨result, herrand⟩ := (solo.send .read).1.errand_arrive next retries
            (solo.send .read).2.2
          exact ⟨result, congrArg Errand.stage herrand⟩
        · rename_i duration hwait
          rw [hwait] at hsent
          cases hsent
      obtain ⟨result, hanswered⟩ := hanswered
      rw [honward]
      exact .inr (.settled hthen (Solo.awaits_answered hanswered hquick hline' 1))
    | some sent =>
      obtain ⟨duration, answer⟩ := sent
      rw [hsent] at hthen
      dsimp only at hthen
      refine .inl (.underway hstage hquick hpatient hsent hthen ?_)
      unfold Agenda.pause
      cases hinstant : duration.isInstant with
      | true =>
        refine .arrives (Duration.isWithin_of_isInstant hinstant hpatient) ?_
        rw [if_pos rfl, Agenda.line_soon, hline']
        rfl
      | false =>
        rw [if_neg (by simp)]
        refine .waits hstart hinstant (by rw [Agenda.line_after, hline']) ?_
        refine (cues'.timers_after duration _).trans ?_
        rw [hnow']
        exact (htimers' ▸ htimers).append_left _
  · refine .inl (.settled (.aside hhosts (Agenda.cues_next hnext) hhas hother)
      (.asks hstage hquick hpatient hline' ?_))
    rw [htimers', hnow']
    exact htimers

lemma Keeps.learns (h : s.Has r e solo cues) {next : BulbState → Play} {retries : Nat}
    {result : Option (Except Fault Reply)}
    (hstage : solo.errand.stage = .answered next retries result)
    (hquick : ∀ state, (next state).IsQuick) (hline : cues.line.map (·.cue) = [.resume e]) :
    (({ s with agenda := rest } : Session Bench).perform cue).Keeps r e solo ∨
      (({ s with agenda := rest } : Session Bench).perform cue).Keeps r e solo.onward := by
  obtain ⟨cues', hhas, _, _, ⟨rfl, hline'⟩ | ⟨hother, hline'⟩⟩ := h.line_taken hhosts hnext hline
  · have honward : solo.onward = solo.resume next retries result := by
      unfold Solo.onward
      rw [hstage]
    rw [honward]
    exact .inr (.settled (hhas.resume hstage hquick)
      (solo.awaits_resume Agenda.cues_cleared hquick retries result))
  · exact .inl (.settled (.aside hhosts (Agenda.cues_next hnext) hhas hother)
      (.learns hstage hquick hline'))

lemma Keeps.rests (h : s.Has r e solo cues) {reply : Reply}
    (hstage : solo.errand.stage = .over (.ok reply)) (hline : cues.line = [])
    (htimers : cues.timers = []) :
    (({ s with agenda := rest } : Session Bench).perform cue).Keeps r e solo := by
  have hhas := h.taken (hhosts.ordered.next hnext)
  have hnone : (s.agenda.only (·.isAwaitedBy e)).cues = [] := by
    rw [← h.cues_eq, Agenda.cues, hline, htimers]
    rfl
  have hremove := cues_desk_remove (Agenda.cues_next hnext) e
  have hdesk : (s.desk e).cues.cues = [] := hnone
  rw [hdesk] at hremove
  cases hawait : cue.isAwaitedBy e with
  | true =>
    rw [if_pos hawait] at hremove
    exact absurd hremove.length_eq (by simp)
  | false =>
    rw [if_neg (by simp [hawait])] at hremove
    have hclear : (rest.only (·.isAwaitedBy e)).cues = [] := List.nil_perm.mp hremove
    obtain ⟨hline', htimers'⟩ := List.append_eq_nil_iff.mp hclear
    exact .settled (.aside hhosts (Agenda.cues_next hnext) hhas hawait)
      (.rests hstage (List.map_eq_nil_iff.mp hline') (List.map_eq_nil_iff.mp htimers'))

section

variable {next : BulbState → Play} {retries : Nat} {duration : Duration} {answer : Answer}
  (hstage : solo.errand.stage = .asking next retries) (hquick : ∀ state, (next state).IsQuick)
  (hpatient : solo.errand.timeout.isInstant = false)
  (hsent : (solo.attempt next retries).2 = some (duration, answer))

include hstage hquick hsent

omit hhosts hnext in
/-- the reply comes before the deadline -/
lemma Keeps.arrive (h : s.Has r e (solo.attempt next retries).1 cues) (hline : cues.line = [])
    (hwithin : duration.isWithin solo.errand.timeout = true) :
    (s.perform (.arrive e .read answer)).Keeps r e solo.onward := by
  have hsame := (solo.rank_attempt hstage).2 (by simp [hsent])
  have honward : solo.onward = (solo.attempt next retries).1.arrive next retries answer := by
    unfold Solo.onward
    rw [hstage]
    dsimp only
    rw [hsent]
    exact if_pos hwithin
  obtain ⟨result, herrand⟩ := (solo.attempt next retries).1.errand_arrive next retries answer
  rw [honward]
  exact .settled (h.arrive (hsame.1 ▸ hstage) answer)
    (Solo.awaits_answered (congrArg Errand.stage herrand) hquick hline 1)

omit hhosts hnext in
/-- the deadline comes before the reply -/
lemma Keeps.expire (h : s.Has r e (solo.attempt next retries).1 cues)
    (hbeyond : duration.isWithin solo.errand.timeout = false) :
    (s.perform (.expire e)).Keeps r e solo.onward := by
  have hsame := (solo.rank_attempt hstage).2 (by simp [hsent])
  have honward : solo.onward = (solo.attempt next retries).1.expire next retries := by
    unfold Solo.onward
    rw [hstage]
    dsimp only
    rw [hsent]
    exact if_neg (by simp [hbeyond])
  rw [honward]
  exact .settled (h.expire (hsame.1 ▸ hstage)) (Solo.awaits_answered rfl hquick rfl 2)

include hpatient

/-- where the reply or the deadline is in the line -/
lemma Keeps.comes (h : s.Has r e (solo.attempt next retries).1 cues) {c : Cue}
    (hline : cues.line.map (·.cue) = [c])
    (hcomes : c = .arrive e .read answer ∧ duration.isWithin solo.errand.timeout = true ∨
      c = .expire e ∧ duration.isWithin solo.errand.timeout = false) :
    (({ s with agenda := rest } : Session Bench).perform cue).Keeps r e solo ∨
      (({ s with agenda := rest } : Session Bench).perform cue).Keeps r e solo.onward := by
  obtain ⟨cues', hhas, _, _, ⟨rfl, hline'⟩ | ⟨hother, hline'⟩⟩ := h.line_taken hhosts hnext hline
  · rcases hcomes with ⟨rfl, hwithin⟩ | ⟨rfl, hbeyond⟩
    · exact .inr (.arrive hstage hquick hsent hhas hline' hwithin)
    · exact .inr (.expire hstage hquick hsent hhas hbeyond)
  · refine .inl (.underway hstage hquick hpatient hsent
      (.aside hhosts (Agenda.cues_next hnext) hhas hother) ?_)
    rcases hcomes with ⟨rfl, hwithin⟩ | ⟨rfl, hbeyond⟩
    · exact .arrives hwithin hline'
    · exact .expires hbeyond hline'

/-- where neither has come yet -/
lemma Keeps.waits (hties : ¬ s.Ties solo.errand.handle.serial)
    (h : s.Has r e (solo.attempt next retries).1 cues) {start : Moment} (hstart : 0 ≤ start)
    (hlasting : duration.isInstant = false) (hline : cues.line = [])
    (htimers : cues.timers.Perm (Agenda.timerOf start duration (.arrive e .read answer)
      ++ Agenda.timerOf start solo.errand.timeout (.expire e))) :
    (({ s with agenda := rest } : Session Bench).perform cue).Keeps r e solo ∨
      (({ s with agenda := rest } : Session Bench).perform cue).Keeps r e solo.onward := by
  have hserial : (solo.attempt next retries).1.errand.handle.serial
      = solo.errand.handle.serial := by
    rw [((solo.rank_attempt hstage).2 (by simp [hsent])).1]
  obtain ⟨cues', hhas, ⟨hother, hline', htimers'⟩ | ⟨now, htimers', hperm, hone⟩⟩ :=
    h.timers_taken hhosts hnext hline (by rwa [hserial])
  · refine .inl (.underway hstage hquick hpatient hsent
      (.aside hhosts (Agenda.cues_next hnext) hhas hother) ?_)
    exact .waits hstart hlasting hline' (htimers' ▸ htimers)
  · obtain ⟨harrive, hexpire⟩ := Agenda.isWithin_of_isDueAt hstart hlasting hpatient htimers hone
    -- at most one of the two has joined the line, and it is the one that takes less time
    have hcomes : ∀ c ∈ (cues.timers.filter (Agenda.isDueAt now)).map (·.entry.cue),
        c = .arrive e .read answer ∧ duration.isWithin solo.errand.timeout = true ∨
        c = .expire e ∧ duration.isWithin solo.errand.timeout = false := by
      intro c hc
      obtain ⟨timer, hmem, rfl⟩ := List.mem_map.mp hc
      obtain ⟨htimer, hdue⟩ := List.mem_filter.mp hmem
      have hcue : ∀ {d : Duration} {c : Cue}, timer ∈ Agenda.timerOf start d c →
          timer.entry.cue = c := by
        intro d c hin
        cases d with
        | endless => cases hin
        | seconds count => rw [List.mem_singleton.mp hin]
      rcases List.mem_append.mp (htimers.mem_iff.mp htimer) with hin | hin
      · exact .inl ⟨hcue hin, harrive (List.any_eq_true.mpr ⟨timer, hin, hdue⟩)⟩
      · exact .inr ⟨hcue hin, hexpire (List.any_eq_true.mpr ⟨timer, hin, hdue⟩)⟩
    cases hawait : cue.isAwaitedBy e with
    | true =>
      rw [if_pos hawait] at hperm
      have hlast : cues'.line.map (·.cue) = [] := by
        have hlength := hperm.length_eq
        rw [List.length_map, List.length_append, List.length_singleton] at hlength
        exact List.length_eq_zero_iff.mp (by omega)
      rcases hcomes cue (hperm.mem_iff.mpr (List.mem_cons_self ..)) with
        ⟨rfl, hwithin⟩ | ⟨rfl, hbeyond⟩
      · exact .inr (.arrive hstage hquick hsent hhas (List.map_eq_nil_iff.mp hlast) hwithin)
      · exact .inr (.expire hstage hquick hsent hhas hbeyond)
    | false =>
      rw [if_neg (by simp [hawait]), List.nil_append] at hperm
      refine .inl (.underway hstage hquick hpatient hsent
        (.aside hhosts (Agenda.cues_next hnext) hhas hawait) ?_)
      cases hjoined : cues.timers.filter (Agenda.isDueAt now) with
      | nil =>
        rw [hjoined] at hperm
        refine .waits hstart hlasting (List.map_eq_nil_iff.mp (List.nil_perm.mp hperm)) ?_
        rw [htimers', List.filter_eq_self.mpr]
        · exact htimers
        · intro timer htimer
          simpa using (List.filter_eq_nil_iff.mp hjoined) timer htimer
      | cons timer more =>
        obtain rfl : more = [] := by
          rw [hjoined, List.length_cons] at hone
          exact List.length_eq_zero_iff.mp (by omega)
        rw [hjoined] at hperm hcomes
        have hsingle : cues'.line.map (·.cue) = [timer.entry.cue] :=
          (List.singleton_perm.mp hperm).symm
        rcases hcomes timer.entry.cue (List.mem_singleton_self _) with
          ⟨hc, hwithin⟩ | ⟨hc, hbeyond⟩
        · exact .arrives hwithin (hc ▸ hsingle)
        · exact .expires hbeyond (hc ▸ hsingle)

end

end

/-- a step leaves an errand where it is, or brings it onward -/
theorem Keeps.step (h : s.Keeps r e solo) (hhosts : s.Hosts r plan k) (hnow : 0 ≤ s.agenda.now)
    (hties : ¬ s.Ties solo.errand.handle.serial) (hstep : s.step = some t) :
    t.Keeps r e solo ∨ t.Keeps r e solo.onward := by
  unfold Session.step at hstep
  obtain ⟨⟨cue, rest⟩, hnext, rfl⟩ := Option.map_eq_some_iff.mp hstep
  cases h with
  | settled has awaits =>
    cases awaits with
    | begins stage plain line timers => exact Keeps.begins hhosts hnext has stage plain line timers
    | asks stage quick patient line timers =>
      exact Keeps.asks hhosts hnext hnow has stage quick patient line timers
    | learns stage quick line => exact Keeps.learns hhosts hnext has stage quick line
    | rests stage line timers => exact .inl (.rests hhosts hnext has stage line timers)
  | underway stage quick patient sent has underway =>
    cases underway with
    | waits begun lasting line timers =>
      exact Keeps.waits hhosts hnext stage quick patient sent hties has begun lasting line timers
    | arrives within line =>
      exact Keeps.comes hhosts hnext stage quick patient sent has line (.inl ⟨rfl, within⟩)
    | expires beyond line =>
      exact Keeps.comes hhosts hnext stage quick patient sent has line (.inr ⟨rfl, beyond⟩)

end Session

end Lamplighter
