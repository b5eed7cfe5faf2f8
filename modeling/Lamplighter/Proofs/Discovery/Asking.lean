import Lamplighter.Proofs.Discovery.Answers
import Lamplighter.Proofs.Discovery.Beside
import Lamplighter.Proofs.Timeline.Upcoming

/-!
# Asking: one query among others

The session takes the cues of many queries in turn.  Of each it has a view: the stage of its errand, its
own part of the agenda, and what is left of the script of its bulb.

* `Session.Views`     what a session has of a query;
* `Session.Pursues`   how far a query has come, and how many cues it has to come at most;
* `Pursues.minds`     what another query does leaves it where it stands;
* `Pursues.pass`      so does the taking of a cue that is not its own;
* `Pursues.take`      its own next cue is taken and performed: it has fewer to come.
-/

namespace Lamplighter

namespace Inquiry

/-- so many cues come at most when the next request is about to be sent -/
def effort (q : Inquiry) (used : Nat) (script : List ScriptedReply) : Nat :=
  if q.timeout ≤ 0 then q.maxRetries + 1 - used else 4 * script.length + 3

/-- so many cues come at most once it is known what a request has come to -/
def cost (q : Inquiry) (script : List ScriptedReply) : Verdict → Nat
  | .again used => q.effort used script
  | _ => 0

/-- a punctual answer comes before the time to answer is over -/
lemma arrives_first {q : Inquiry} {now : Moment} {duration : Duration} (answer : Answer)
    (hpunctual : ScriptedReply.isPunctual q.timeout now (some duration) = true) :
    let own := (⟨now, [], [q.deadline now]⟩ : Agenda Cue).pause duration (.arrive q.number .read answer)
    own.upcoming = [.arrive q.number .read answer, .expire q.number]
      ∧ (∀ t ∈ own.timers, t.entry.turns = 1) ∧ own.now = now := by
  cases duration with
  | endless => cases hpunctual
  | seconds delay =>
    by_cases hdelay : delay ≤ 0
    · have hinstant : (Duration.seconds delay).isInstant = true := decide_eq_true hdelay
      rw [Agenda.pause, if_pos hinstant]
      exact ⟨rfl, by simp [Agenda.soon, deadline], rfl⟩
    · have hless : now.later delay < now.later q.timeout := by
        simpa [ScriptedReply.isPunctual, hdelay] using hpunctual
      rw [pause_arrive (not_le.mp hdelay), if_pos hless]
      exact ⟨rfl, by simp [deadline, arrival], rfl⟩

/-- the time to answer is over before an answer comes that is not punctual -/
lemma expires_first {q : Inquiry} {now : Moment} {duration : Duration} (answer : Answer)
    (hlate : ScriptedReply.isPunctual q.timeout now (some duration) = false) :
    let own := (⟨now, [], [q.deadline now]⟩ : Agenda Cue).pause duration (.arrive q.number .read answer)
    ∃ others, own.upcoming = .expire q.number :: others
      ∧ (∀ t ∈ own.timers, t.entry.turns = 1) ∧ own.now = now := by
  cases duration with
  | endless => exact ⟨[], rfl, List.forall_mem_singleton.mpr rfl, rfl⟩
  | seconds delay =>
    obtain ⟨hdelay, hless⟩ : ¬ delay ≤ 0 ∧ ¬ now.later delay < now.later q.timeout := by
      simpa [ScriptedReply.isPunctual] using hlate
    rw [pause_arrive (not_le.mp hdelay), if_neg hless]
    exact ⟨_, rfl, by simp [deadline, arrival], rfl⟩

end Inquiry

/-- what is upcoming once a cue was set -/
lemma Agenda.upcoming_soon {α : Type} (agenda : Agenda α) (turns : Nat) (cue : α) :
    (agenda.soon turns cue).upcoming.Perm (cue :: agenda.upcoming) :=
  ((perm_upcoming _).trans (cues_soon agenda turns cue)).trans ((perm_upcoming agenda).symm.cons cue)

lemma Agenda.eq_of_upcoming {α : Type} {agenda : Agenda α} (h : agenda.upcoming = []) :
    agenda = { now := agenda.now } := by
  obtain ⟨now, line, timers⟩ := agenda
  obtain ⟨hline, htimers⟩ := List.append_eq_nil_iff.mp h
  have hcues := perm_order line
  rw [show order line = [] from hline] at hcues
  obtain rfl := List.map_eq_nil_iff.mp (List.nil_perm.mp hcues)
  obtain rfl := List.map_eq_nil_iff.mp htimers
  rfl

/-- as many cues as timers: none is in the line -/
lemma Agenda.line_of_upcoming {α : Type} {agenda : Agenda α}
    (h : agenda.upcoming.length = agenda.timers.length) : agenda.line = [] := by
  have hline := (perm_order agenda.line).length_eq
  rw [List.length_map] at hline
  rw [upcoming, List.length_append, List.length_map] at h
  exact List.eq_nil_of_length_eq_zero (by omega)

namespace Session

variable {s t : Session Bench} {q : Inquiry} {stage : Stage} {own rest agenda : Agenda Cue} {cue : Cue}
  {script : List ScriptedReply} {calls : List Call} {used n e : Nat} {first : Moment} {x : String}

/-! ### Views -/

/-- what the session has of a query: the stage, its own part of the agenda, the script that is left -/
structure Views (s : Session Bench) (q : Inquiry) (stage : Stage) (own : Agenda Cue)
    (script : List ScriptedReply) : Prop where
  here : ∃ calls, s.At q stage s.agenda script calls
  part : s.agenda.only (·.isAwaitedBy q.number) = own

/-- the view of a query when a cue is taken: it is the first of its own, or all of these stay in their
order, and time goes on only if none of them is in the line -/
lemma Views.next (h : s.Views q stage own script) (hordered : s.agenda.IsOrdered)
    (hnext : s.agenda.next? = some (cue, rest)) (hturns : ∀ t ∈ own.timers, t.entry.turns = 1) :
    ∃ left : Agenda Cue, ({ s with agenda := rest } : Session Bench).Views q stage left script
      ∧ own.upcoming = (if cue.isAwaitedBy q.number then [cue] else []) ++ left.upcoming
      ∧ own.now ≤ left.now ∧ (∀ t ∈ left.timers, t.entry.turns = 1)
      ∧ (own.line ≠ [] → left.now = own.now ∧ left.timers = own.timers) := by
  obtain ⟨⟨calls, hhere⟩, rfl⟩ := h
  obtain ⟨hupcoming, hnow, htimers, hline⟩ := Agenda.upcoming_next hordered hnext hturns
  exact ⟨rest.only (·.isAwaitedBy q.number), ⟨⟨calls, hhere.setAgenda rest⟩, rfl⟩, hupcoming, hnow,
    fun t ht => hturns t (htimers.subset ht), hline⟩

/-- the view of a query when another errand minds its own business -/
lemma Views.minds (h : s.Views q stage own script) (hminds : Minds e x s t) (he : e ≠ q.number)
    (hx : x ≠ q.handle.serial) : t.Views q stage own script := by
  obtain ⟨⟨calls, herrand, -, hbulb, hcalls⟩, hpart⟩ := h
  obtain ⟨client, hclient, -⟩ := Option.map_eq_some_iff.mp hcalls
  have hin : q.client < t.network.clients.length := by
    rw [hminds.clients]
    exact (List.getElem?_eq_some_iff.mp hclient).1
  have hdisjoint : ∀ cue : Cue, cue.isAwaitedBy q.number = true → cue.isAwaitedBy e = false := by
    intro cue hcue
    by_contra hboth
    exact he (Cue.isAwaitedBy_inj (Bool.not_eq_false _ ▸ hboth) hcue)
  refine ⟨⟨t.network.clients[q.client].calls, (hminds.errands _ (Ne.symm he)).trans herrand, rfl,
    ?_, ?_⟩, ?_⟩
  · exact (hminds.bulbs _ (Ne.symm hx)).trans hbulb
  · rw [List.getElem?_eq_getElem hin]
    rfl
  · rw [← hpart, ← Agenda.only_drop_of_disjoint t.agenda hdisjoint, hminds.others,
      Agenda.only_drop_of_disjoint s.agenda hdisjoint]

/-! ### How far a query has come -/

/-- how far a query has come, and how many cues it has to come at most.  The requests that were sent since
some moment have decided nothing so far; the last one leads to what its result is judged to be -/
inductive Pursues (s : Session Bench) (q : Inquiry) (first : Moment) : Nat → Prop
  | fresh {own : Agenda Cue} (views : s.Views q (.fresh (.ask q.next)) own q.bulb.replies)
      (next : own.upcoming = [.begin q.number]) (turns : ∀ t ∈ own.timers, t.entry.turns = 1)
      (since : first ≤ own.now) : Pursues s q first (q.effort 0 q.bulb.replies + 1)
  | asking {own : Agenda Cue} {used : Nat} {script : List ScriptedReply}
      (views : s.Views q (.asking q.next used) own script) (lasting : 0 < q.timeout)
      (next : own.upcoming = [.attempt q.number, .expire q.number]) (inLine : own.line ≠ [])
      (timers : own.timers = [q.deadline own.now]) (since : first ≤ own.now)
      (passes : q.Passes first own.now used script) : Pursues s q first (q.effort used script)
  /-- the answer comes before the time to answer is over -/
  | coming {own : Agenda Cue} {used : Nat} {script : List ScriptedReply} (answer : Answer)
      (views : s.Views q (.asking q.next used) own script)
      (next : own.upcoming = [.arrive q.number .read answer, .expire q.number])
      (turns : ∀ t ∈ own.timers, t.entry.turns = 1) (since : first ≤ own.now)
      (leads : q.Leads first own.now script
        (Query.judge q.handle q.maxRetries used (some (q.result answer)))) :
      Pursues s q first
        (3 + q.cost script (Query.judge q.handle q.maxRetries used (some (q.result answer))))
  /-- the time to answer is over before any answer comes -/
  | waiting {own : Agenda Cue} {used : Nat} {script : List ScriptedReply} (others : List Cue)
      (views : s.Views q (.asking q.next used) own script)
      (next : own.upcoming = .expire q.number :: others)
      (turns : ∀ t ∈ own.timers, t.entry.turns = 1) (since : first ≤ own.now)
      (leads : q.Leads first own.now script (Query.judge q.handle q.maxRetries used none)) :
      Pursues s q first (2 + q.cost script (Query.judge q.handle q.maxRetries used none))
  | answered {own : Agenda Cue} {used : Nat} {script : List ScriptedReply}
      {result : Option (Except Fault Reply)} (late : Nat)
      (views : s.Views q (.answered q.next used result) own script)
      (next : own.upcoming.Perm (.resume q.number :: List.replicate late (.expire q.number)))
      (turns : ∀ t ∈ own.timers, t.entry.turns = 1) (since : first ≤ own.now)
      (leads : q.Leads first own.now script (Query.judge q.handle q.maxRetries used result)) :
      Pursues s q first (late + 1 + q.cost script (Query.judge q.handle q.maxRetries used result))
  | ended {own : Agenda Cue} {script : List ScriptedReply} {outcome : Except Fault Reply}
      (views : s.Views q (.over outcome) own script) (next : own.upcoming = [])
      (comes : q.ComesTo first own.now outcome) : Pursues s q first 0

namespace Pursues

/-! ### What others do -/

lemma minds (h : s.Pursues q first n) (hminds : Minds e x s t) (he : e ≠ q.number)
    (hx : x ≠ q.handle.serial) : t.Pursues q first n := by
  cases h with
  | fresh views next turns since => exact .fresh (views.minds hminds he hx) next turns since
  | asking views lasting next inLine timers since passes =>
    exact .asking (views.minds hminds he hx) lasting next inLine timers since passes
  | coming answer views next turns since leads =>
    exact .coming answer (views.minds hminds he hx) next turns since leads
  | waiting others views next turns since leads =>
    exact .waiting others (views.minds hminds he hx) next turns since leads
  | answered late views next turns since leads =>
    exact .answered late (views.minds hminds he hx) next turns since leads
  | ended views next comes => exact .ended (views.minds hminds he hx) next comes

/-- a cue of another query is taken -/
theorem pass (h : s.Pursues q first n) (hordered : s.agenda.IsOrdered)
    (hnext : s.agenda.next? = some (cue, rest)) (hcue : cue.isAwaitedBy q.number = false) :
    ({ s with agenda := rest } : Session Bench).Pursues q first n := by
  have hpass : ∀ {stage own script}, s.Views q stage own script →
      (∀ t ∈ own.timers, t.entry.turns = 1) → ∃ left : Agenda Cue,
      ({ s with agenda := rest } : Session Bench).Views q stage left script
      ∧ left.upcoming = own.upcoming ∧ own.now ≤ left.now ∧ (∀ t ∈ left.timers, t.entry.turns = 1)
      ∧ (own.line ≠ [] → left.now = own.now ∧ left.timers = own.timers) := by
    intro stage own script hviews hturns
    obtain ⟨left, hleft, hupcoming, hnow, hturns', hline⟩ := hviews.next hordered hnext hturns
    rw [hcue] at hupcoming
    exact ⟨left, hleft, hupcoming.symm, hnow, hturns', hline⟩
  cases h with
  | fresh views next turns since =>
    obtain ⟨left, hviews, hupcoming, hnow, hturns, -⟩ := hpass views turns
    exact .fresh hviews (hupcoming.trans next) hturns (since.trans hnow)
  | @asking own used script views lasting next inLine timers since passes =>
    have hdeadline : ∀ t ∈ own.timers, t.entry.turns = 1 := by
      rw [timers]
      exact fun t ht => congrArg (·.entry.turns) (List.mem_singleton.mp ht)
    obtain ⟨left, hviews, hupcoming, hnow, hturns, hline⟩ := hpass views hdeadline
    obtain ⟨hsame, htimers⟩ := hline inLine
    have hleft : left.timers = [q.deadline left.now] := by rw [htimers, timers, hsame]
    have hnext' : left.upcoming = [.attempt q.number, .expire q.number] := hupcoming.trans next
    have hinLine : left.line ≠ [] := by
      intro hnil
      rw [Agenda.upcoming, hnil, hleft] at hnext'
      cases hnext'
    exact .asking hviews lasting hnext' hinLine hleft (since.trans hnow) (passes.mono hnow)
  | coming answer views next turns since leads =>
    obtain ⟨left, hviews, hupcoming, hnow, hturns, -⟩ := hpass views turns
    exact .coming answer hviews (hupcoming.trans next) hturns (since.trans hnow) (leads.mono hnow)
  | waiting others views next turns since leads =>
    obtain ⟨left, hviews, hupcoming, hnow, hturns, -⟩ := hpass views turns
    exact .waiting others hviews (hupcoming.trans next) hturns (since.trans hnow) (leads.mono hnow)
  | answered late views next turns since leads =>
    obtain ⟨left, hviews, hupcoming, hnow, hturns, -⟩ := hpass views turns
    exact .answered late hviews (hupcoming ▸ next) hturns (since.trans hnow) (leads.mono hnow)
  | ended views next comes =>
    have hempty := Agenda.eq_of_upcoming next
    obtain ⟨left, hviews, hupcoming, hnow, -, -⟩ := hpass views (by rw [hempty]; simp)
    exact .ended hviews (hupcoming.trans next) (comes.mono hnow)

end Pursues

/-! ### Its own cues -/

lemma own_soon (agenda : Agenda Cue) (hcue : cue.isAwaitedBy e = true) (turns : Nat) :
    (agenda.soon turns cue).only (·.isAwaitedBy e) = (agenda.only (·.isAwaitedBy e)).soon turns cue :=
  Agenda.only_soon (by exact hcue) turns

lemma own_after (h : agenda.IsOrdered) (hcue : cue.isAwaitedBy e = true) (duration : Duration)
    (turns : Nat) : (agenda.after duration turns cue).only (·.isAwaitedBy e)
      = (agenda.only (·.isAwaitedBy e)).after duration turns cue :=
  Agenda.only_after h (by exact hcue) duration turns

lemma own_pause (h : agenda.IsOrdered) (hcue : cue.isAwaitedBy e = true) (duration : Duration) :
    (agenda.pause duration cue).only (·.isAwaitedBy e)
      = (agenda.only (·.isAwaitedBy e)).pause duration cue :=
  Agenda.only_pause h (by exact hcue) duration

namespace At

lemma drop (h : s.At q stage s.agenda script calls) : (s.dropAwaited q.number).At q stage
    (s.agenda.drop fun cue => cue.isAwaitedBy q.number) script calls :=
  h.setAgenda _

/-- a query is about to start, and waits for nothing else -/
lemma pursues_fresh (h : s.At q (.fresh (.ask q.next)) s.agenda q.bulb.replies calls)
    (hnext : s.agenda.upcoming.filter (·.isAwaitedBy q.number) = [.begin q.number])
    (htimers : ∀ t ∈ s.agenda.timers, t.entry.cue.isAwaitedBy q.number = false) :
    s.Pursues q s.agenda.now (q.effort 0 q.bulb.replies + 1) := by
  have hnone : ∀ t ∈ (s.agenda.only (·.isAwaitedBy q.number)).timers, t.entry.turns = 1 := by
    rw [Agenda.timers_only]
    intro t ht
    obtain ⟨ht, hawaits⟩ := List.mem_filter.mp ht
    rw [htimers t ht] at hawaits
    cases hawaits
  exact .fresh ⟨⟨calls, h⟩, rfl⟩ ((Agenda.filter_upcoming _ _).symm.trans hnext) hnone (le_refl _)

/-- a query whose cues are all gone is about to send its next request -/
lemma pursues_ask (h : s.At q stage s.agenda script calls) (hordered : s.agenda.IsOrdered)
    (hclear : s.agenda.only (·.isAwaitedBy q.number) = { now := s.agenda.now })
    (hpasses : q.Passes first s.agenda.now used script) (hfirst : first ≤ s.agenda.now) :
    ∃ m ≤ q.effort used script, (s.ask q.number (q.errand stage) q.next used).Pursues q first m := by
  unfold Session.ask
  by_cases hinstant : q.timeout ≤ 0
  · have htimeout : (q.errand stage).timeout.isInstant = true := decide_eq_true hinstant
    rw [if_pos htimeout]
    have hasked := (h.setStage (.answered q.next used none)).soon 2 (.resume q.number)
    have hleads := hpasses.leads hfirst (le_refl _)
    rw [Inquiry.echoOf_instant hinstant, Inquiry.behind, if_pos hinstant] at hleads
    have hown : (s.agenda.soon 2 (.resume q.number)).only (·.isAwaitedBy q.number)
        = ⟨s.agenda.now, [⟨2, .resume q.number⟩], []⟩ := by
      rw [own_soon _ (Cue.isAwaitedBy_resume _), hclear]
      rfl
    refine ⟨_, ?_, .answered 0 ⟨⟨calls, hasked⟩, hown⟩ (.refl _) (by simp) hfirst hleads⟩
    show 0 + 1 + q.cost script (Query.unanswered q.handle.name q.maxRetries used) ≤ _
    have hused := hpasses.used_le
    unfold Query.unanswered Inquiry.effort
    rw [if_pos hinstant]
    split
    · show 0 + 1 + 0 ≤ _
      omega
    · rename_i hleft
      have hless : used < q.maxRetries := by simpa using hleft
      show 0 + 1 + q.effort (used + 1) script ≤ _
      rw [Inquiry.effort, if_pos hinstant]
      omega
  · have htimeout : (q.errand stage).timeout.isInstant = false := decide_eq_false hinstant
    rw [htimeout]
    have hown : ((s.agenda.after (.seconds q.timeout) 1 (.expire q.number)).soon 0
        (.attempt q.number)).only (·.isAwaitedBy q.number) = q.asking s.agenda.now := by
      rw [own_soon _ (Cue.isAwaitedBy_attempt _), own_after hordered (Cue.isAwaitedBy_expire _), hclear]
      rfl
    have hasked := (h.setStage (.asking q.next used)).setAgenda
      ((s.agenda.after (.seconds q.timeout) 1 (.expire q.number)).soon 0 (.attempt q.number))
    exact ⟨_, le_refl _, .asking ⟨⟨calls, hasked⟩, hown⟩ (not_le.mp hinstant) rfl
      (List.cons_ne_nil _ _) rfl hfirst hpasses⟩

/-- a query that has come to something -/
lemma pursues_conclude (h : s.At q stage s.agenda script calls) {outcome : Except Fault Reply}
    (hcomes : q.ComesTo first s.agenda.now outcome) (isOk : Bool) (stage' : Stage) :
    (s.conclude q.number (q.errand stage') isOk outcome).Pursues q first 0 :=
  .ended ⟨⟨calls, (h.drop.setStage (.over outcome))⟩, Agenda.only_drop _ _⟩ rfl hcomes

end At

/-- what a request comes to that is sent at a moment: an answer at once, or after a while; which counts if
it comes before the time to answer is over -/
lemma reads (q : Inquiry) (htimeout : 0 < q.timeout) (now : Moment) (used : Nat)
    (script : List ScriptedReply) :
    (∃ answer, BenchBulb.nextReply script = (.atOnce, answer, script.tail)
      ∧ Query.judge q.handle q.maxRetries used (some (q.result answer))
        = (q.echoOf now script).verdict q.handle q.maxRetries used)
    ∨ (∃ duration answer, BenchBulb.nextReply script = (.lasting duration, answer, script.tail)
      ∧ script ≠ []
      ∧ Query.judge q.handle q.maxRetries used
          (if ScriptedReply.isPunctual q.timeout now (some duration) then some (q.result answer) else none)
        = (q.echoOf now script).verdict q.handle q.maxRetries used) := by
  have hanswered : ∀ impostor : Option String, Query.judge q.handle q.maxRetries used
      (some (q.result ((impostor.map Answer.impostor).getD .ok)))
        = (if impostor.getD q.handle.serial = q.handle.serial then Echo.right q.bulb.state
            else .wrong).verdict q.handle q.maxRetries used := by
    intro impostor
    cases impostor with
    | none => simp [Inquiry.result, Query.judge, Echo.verdict]
    | some serial =>
      simp only [Option.map_some, Option.getD_some, Inquiry.result, Query.judge]
      split <;> rfl
  cases script with
  | nil =>
    rw [Inquiry.echoOf_nil htimeout]
    exact .inl ⟨.ok, rfl, by simpa using hanswered none⟩
  | cons reply script =>
    rw [Inquiry.echoOf_reply htimeout]
    cases reply with
    | silence => exact .inr ⟨.endless, .ok, rfl, List.cons_ne_nil _ _, rfl⟩
    | fault fault =>
      refine .inl ⟨.fault fault, rfl, ?_⟩
      cases fault <;> rfl
    | answer duration? impostor =>
      cases duration? with
      | none => exact .inl ⟨_, rfl, hanswered impostor⟩
      | some duration =>
        refine .inr ⟨duration, _, rfl, List.cons_ne_nil _ _, ?_⟩
        rw [ScriptedReply.echo]
        split
        · exact hanswered impostor
        · rfl

lemma cost_le (htimeout : 0 < q.timeout) (script : List ScriptedReply) (verdict : Verdict) :
    q.cost script verdict ≤ 4 * script.length + 3 := by
  cases verdict with
  | again used =>
    rw [Inquiry.cost, Inquiry.effort, if_neg (not_le.mpr htimeout)]
  | _ => exact Nat.zero_le _

namespace At

lemma views (h : s.At q stage agenda script calls) (hown : agenda.only (·.isAwaitedBy q.number) = own) :
    s.Views q stage own script := by
  refine ⟨⟨calls, ?_⟩, ?_⟩
  · rw [h.agenda]
    exact h
  · rw [h.agenda]
    exact hown

/-- a request is sent; if its answer takes a while, the time to answer may be over before it comes -/
lemma pursues_attempt (h : s.At q (.asking q.next used) s.agenda script calls)
    (hordered : s.agenda.IsOrdered) (htimeout : 0 < q.timeout) {now : Moment}
    (hown : s.agenda.only (·.isAwaitedBy q.number) = ⟨now, [], [q.deadline now]⟩)
    (hfirst : first ≤ now) (hpasses : q.Passes first now used script) :
    ∃ m < q.effort used script, (s.perform (.attempt q.number)).Pursues q first m := by
  have hleads := hpasses.leads hfirst (le_refl _)
  rw [Inquiry.behind, if_neg (not_le.mpr htimeout)] at hleads
  rw [Inquiry.effort, if_neg (not_le.mpr htimeout)]
  have hcost := cost_le htimeout script.tail ((q.echoOf now script).verdict q.handle q.maxRetries used)
  rcases reads q htimeout now used script with ⟨answer, hscript, hjudge⟩
    | ⟨duration, answer, hscript, hne, hjudge⟩
  · have hsent := h.attempt_atOnce hscript
    have hown' : (s.agenda.soon 1 (.resume q.number)).only (·.isAwaitedBy q.number)
        = ⟨now, [⟨1, .resume q.number⟩], [q.deadline now]⟩ := by
      rw [own_soon _ (Cue.isAwaitedBy_resume _), hown]
      rfl
    rw [← hjudge] at hleads hcost
    refine ⟨_, ?_, .answered 1 (hsent.views hown') (.refl _) (by simp [Inquiry.deadline]) hfirst hleads⟩
    cases script with
    | nil =>
      rw [hjudge, Inquiry.echoOf_nil htimeout]
      show 1 + 1 + 0 < 4 * 0 + 3
      omega
    | cons reply script =>
      rw [List.length_tail, List.length_cons] at hcost
      rw [List.length_cons]
      omega
  · have hsent := h.attempt_lasting hscript
    have hpositive : 0 < script.length := List.length_pos_iff.mpr hne
    have hown' : (s.agenda.pause duration (.arrive q.number .read answer)).only
        (·.isAwaitedBy q.number)
        = (⟨now, [], [q.deadline now]⟩ : Agenda Cue).pause duration (.arrive q.number .read answer) := by
      rw [own_pause hordered (Cue.isAwaitedBy_arrive _ _ _), hown]
    rw [List.length_tail] at hcost
    rw [← hjudge] at hleads hcost
    cases hpunctual : ScriptedReply.isPunctual q.timeout now (some duration) with
    | true =>
      obtain ⟨hnext, hturns, hnow⟩ := Inquiry.arrives_first (q := q) answer hpunctual
      rw [hpunctual, if_pos rfl] at hleads hcost
      exact ⟨_, by omega, .coming answer (hsent.views hown') hnext hturns (hnow.symm ▸ hfirst)
        (hnow.symm ▸ hleads)⟩
    | false =>
      obtain ⟨others, hnext, hturns, hnow⟩ := Inquiry.expires_first (q := q) answer hpunctual
      rw [hpunctual, if_neg Bool.false_ne_true] at hleads hcost
      exact ⟨_, by omega, .waiting others (hsent.views hown') hnext hturns (hnow.symm ▸ hfirst)
        (hnow.symm ▸ hleads)⟩

end At

namespace Pursues

/-! ### Its own next cue -/

/-- the result of a request is judged -/
lemma pursues_resume {result : Option (Except Fault Reply)}
    (h : s.At q (.answered q.next used result) s.agenda script calls) (hordered : s.agenda.IsOrdered)
    (hfirst : first ≤ s.agenda.now)
    (hleads : q.Leads first s.agenda.now script (Query.judge q.handle q.maxRetries used result)) :
    ∃ m ≤ q.cost script (Query.judge q.handle q.maxRetries used result),
      (s.perform (.resume q.number)).Pursues q first m := by
  have hperform : s.perform (.resume q.number)
      = s.resume q.number (q.errand (.answered q.next used result)) := h.overErrand _
  have hready := h.drop
  rw [hperform]
  simp only [Session.resume, Inquiry.errand]
  revert hleads
  cases Query.judge q.handle q.maxRetries used result with
  | take state =>
    exact fun hcomes => ⟨0, le_refl _,
      hready.pursues_conclude hcomes true (.answered q.next used result)⟩
  | again retries =>
    exact fun hpasses => hready.pursues_ask (hordered.drop _) (Agenda.only_drop _ _) hpasses hfirst
  | give fault =>
    exact fun hcomes => ⟨0, le_refl _,
      hready.pursues_conclude hcomes false (.answered q.next used result)⟩

/-- the next cue is its own: with its performance one less is to come -/
theorem take (h : s.Pursues q first n) (hordered : s.agenda.IsOrdered)
    (hnext : s.agenda.next? = some (cue, rest)) (hcue : cue.isAwaitedBy q.number = true) :
    ∃ m < n, (({ s with agenda := rest } : Session Bench).perform cue).Pursues q first m := by
  have hrest : rest.IsOrdered := hordered.next hnext
  have htake : ∀ {stage own script}, s.Views q stage own script →
      (∀ t ∈ own.timers, t.entry.turns = 1) → ∃ left : Agenda Cue,
      (∃ calls, ({ s with agenda := rest } : Session Bench).At q stage rest script calls)
      ∧ rest.only (·.isAwaitedBy q.number) = left ∧ own.upcoming = cue :: left.upcoming
      ∧ own.now ≤ rest.now ∧ (∀ t ∈ left.timers, t.entry.turns = 1)
      ∧ (own.line ≠ [] → left.now = own.now ∧ left.timers = own.timers) := by
    intro stage own script hviews hturns
    obtain ⟨left, ⟨hhere, hpart⟩, hupcoming, hnow, hrest⟩ := hviews.next hordered hnext hturns
    rw [hcue] at hupcoming
    rw [← hpart] at hnow
    exact ⟨left, hhere, hpart, hupcoming, hnow, hrest⟩
  cases h with
  | fresh views next turns since =>
    obtain ⟨left, ⟨calls, hhere⟩, rfl, hupcoming, hnow, -⟩ := htake views turns
    obtain ⟨rfl, hnil⟩ := List.cons.inj (next.symm.trans hupcoming)
    have hclear := Agenda.eq_of_upcoming hnil.symm
    obtain ⟨m, hm, hasked⟩ := hhere.pursues_ask hrest hclear
      .outset (since.trans hnow)
    refine ⟨m, Nat.lt_succ_of_le hm, ?_⟩
    show (Session.overErrand _ _ _).Pursues q first m
    rw [hhere.overErrand]
    exact hasked
  | @asking own used script views lasting next inLine timers since passes =>
    obtain ⟨left, ⟨calls, hhere⟩, rfl, hupcoming, hnow, -, hline⟩ := htake views (by
      rw [timers]
      exact fun t ht => congrArg (·.entry.turns) (List.mem_singleton.mp ht))
    obtain ⟨rfl, hexpire⟩ := List.cons.inj (next.symm.trans hupcoming)
    obtain ⟨hsame, htimers⟩ := hline inLine
    rw [timers] at htimers
    refine hhere.pursues_attempt hrest lasting ?_ since passes
    have hnoLine := Agenda.line_of_upcoming (by rw [← hexpire, htimers]; rfl)
    show rest.only (·.isAwaitedBy q.number) = _
    revert hsame htimers hnoLine
    generalize rest.only (·.isAwaitedBy q.number) = left
    obtain ⟨now, line, timers⟩ := left
    rintro rfl rfl rfl
    rfl
  | @coming own used script answer views next turns since leads =>
    obtain ⟨left, ⟨calls, hhere⟩, rfl, hupcoming, hnow, hturns, -⟩ := htake views turns
    obtain ⟨rfl, hexpire⟩ := List.cons.inj (next.symm.trans hupcoming)
    have hpart' : (rest.soon 1 (.resume q.number)).only (·.isAwaitedBy q.number)
        = (rest.only (·.isAwaitedBy q.number)).soon 1 (.resume q.number) := by
      exact own_soon _ (Cue.isAwaitedBy_resume _) 1
    refine ⟨_, ?_, .answered 1 ((hhere.arrive answer).views hpart') ?_ hturns (since.trans hnow)
      (leads.mono hnow)⟩
    · omega
    · rw [List.replicate_one, hexpire]
      exact Agenda.upcoming_soon _ 1 _
  | @waiting own used script others views next turns since leads =>
    obtain ⟨left, ⟨calls, hhere⟩, rfl, hupcoming, hnow, hturns, -⟩ := htake views turns
    obtain ⟨rfl, -⟩ := List.cons.inj (next.symm.trans hupcoming)
    have hexpired : (({ s with agenda := rest } : Session Bench).perform (.expire q.number)).At q
        (.answered q.next used none)
        ((rest.drop fun cue => cue.isAwaitedBy q.number).soon 2 (.resume q.number)) script calls := by
      show (Session.overErrand _ _ _).At ..
      rw [hhere.overErrand]
      exact (hhere.drop.setStage _).soon _ _
    have hpart' : ((rest.drop fun cue => cue.isAwaitedBy q.number).soon 2 (.resume q.number)).only
        (·.isAwaitedBy q.number) = ⟨rest.now, [⟨2, .resume q.number⟩], []⟩ := by
      rw [own_soon _ (Cue.isAwaitedBy_resume _), Agenda.only_drop]
      rfl
    refine ⟨_, ?_, .answered 0 (hexpired.views hpart') (.refl _) (by simp) (since.trans hnow)
      (leads.mono hnow)⟩
    omega
  | @answered own used script result late views next turns since leads =>
    obtain ⟨left, ⟨calls, hhere⟩, rfl, hupcoming, hnow, hturns, -⟩ := htake views turns
    rw [hupcoming] at next
    rcases List.mem_cons.mp (next.subset (List.mem_cons_self ..)) with rfl | hlate
    · obtain ⟨m, hm, hresumed⟩ := pursues_resume hhere hrest (since.trans hnow) (leads.mono hnow)
      exact ⟨m, by omega, hresumed⟩
    · -- the time to answer is over, and the answer is already known
      obtain ⟨hsome, rfl⟩ := List.mem_replicate.mp hlate
      obtain ⟨late, rfl⟩ := Nat.exists_eq_succ_of_ne_zero hsome
      have hexpired := hhere.expire_answered
      refine ⟨_, ?_, .answered late (hexpired.views rfl) ?_ hturns (since.trans hnow)
        (leads.mono hnow)⟩
      · omega
      · exact (next.trans (List.Perm.swap _ _ _)).cons_inv
  | ended views next comes =>
    obtain ⟨left, -, -, hupcoming, -⟩ := htake views (by rw [Agenda.eq_of_upcoming next]; simp)
    cases next.symm.trans hupcoming

end Pursues

end Session

end Lamplighter
