import Lamplighter.Proofs.Number.Nearest
import Lamplighter.Proofs.Run.Inquiry
import Lamplighter.Proofs.Run.Timely

/-!
# Answers: what a query comes to by the script of its bulb

A query that goes on beside others sends its requests at moments that the others may shift by what the
clock does not tell apart.  So its answer is said for whatever moments from one to another, and then by
the script alone.

* `Inquiry.echoOf`    what a request comes to that is sent at a moment;
* `Inquiry.Passes`    requests that decide nothing have been sent, and so much of the script is left;
* `Inquiry.ComesTo`   a request that is sent then decides;
* `Inquiry.answer`    what the script comes to, by which delays are less than the timeout;
* `ComesTo.eq_answer`  the query comes to just that, if the clock tells these delays and the timeout apart.
-/

namespace Lamplighter

/-! ### Echoes without a clock -/

namespace ScriptedReply

/-- the echo of a reply, by which of its delay and the timeout is less -/
def plainEcho (serial : String) (state : BulbState) (timeout : Rat) : ScriptedReply → Echo
  | .silence | .fault (.timeout _) => .late
  | .fault failure => .fault failure
  | .answer delay impostor =>
    if delay.all fun duration => duration.isWithin (.seconds timeout) then
      if impostor.getD serial = serial then .right state else .wrong
    else .late

/-- the clock tells at a moment which of a delay and the timeout is less -/
def IsClear (timeout : Rat) (moment : Moment) : ScriptedReply → Prop
  | .answer (some (.seconds delay)) _ =>
    0 < delay → delay < timeout → moment.later delay < moment.later timeout
  | _ => True

lemma isPunctual_of_isClear {timeout : Rat} {moment : Moment} {delay : Option Duration}
    {impostor : Option String} (htimeout : 0 < timeout) (hmoment : 0 ≤ moment)
    (hclear : (ScriptedReply.answer delay impostor).IsClear timeout moment) :
    isPunctual timeout moment delay = delay.all fun duration => duration.isWithin (.seconds timeout) := by
  match delay with
  | none => rfl
  | some .endless => rfl
  | some (.seconds delay) =>
    rw [isPunctual, Option.all_some, Duration.isWithin, ← Bool.decide_or]
    refine decide_eq_decide.mpr ⟨?_, ?_⟩
    · rintro (hinstant | hpunctual)
      · exact lt_of_le_of_lt hinstant htimeout
      · by_contra hless
        have hlater := Moment.later_le hmoment htimeout.le (not_lt.mp hless)
        exact absurd hpunctual (not_lt.mpr hlater)
    · intro hless
      rcases le_or_gt delay 0 with hinstant | hdelay
      · exact .inl hinstant
      · exact .inr (hclear hdelay hless)

lemma echo_of_isClear {reply : ScriptedReply} {timeout : Rat} {moment : Moment} (htimeout : 0 < timeout)
    (hmoment : 0 ≤ moment) (hclear : reply.IsClear timeout moment) (serial : String)
    (state : BulbState) :
    reply.echo serial state timeout moment = reply.plainEcho serial state timeout := by
  cases reply with
  | silence => rfl
  | fault failure => cases failure <;> rfl
  | answer delay impostor =>
    rw [echo, plainEcho, isPunctual_of_isClear htimeout hmoment hclear]

end ScriptedReply

/-- what follows from an echo that asks again: another bulb has answered, or a retry is left -/
lemma Echo.verdict_again {handle : Handle} {maxRetries used used' : Nat} {echo : Echo}
    (h : echo.verdict handle maxRetries used = .again used') :
    (echo = .wrong ∧ used' = used) ∨ (echo = .late ∧ used < maxRetries ∧ used' = used + 1) := by
  cases echo with
  | right state => cases h
  | fault fault => cases h
  | wrong =>
    obtain rfl := Verdict.again.inj h
    exact .inl ⟨rfl, rfl⟩
  | late =>
    rw [verdict, Query.unanswered] at h
    split at h
    · cases h
    · rename_i hleft
      obtain rfl := Verdict.again.inj h
      exact .inr ⟨rfl, by simpa using hleft, rfl⟩

namespace Inquiry

variable {q : Inquiry} {first last later : Moment} {used : Nat} {script : List ScriptedReply}
  {outcome : Except Fault Reply}

/-! ### Requests at some moments -/

/-- what a request comes to that is sent at a moment, when so much of the script is left; with no time to
answer it is not even sent -/
def echoOf (q : Inquiry) (moment : Moment) (script : List ScriptedReply) : Echo :=
  if q.timeout ≤ 0 then .late
  else
    match script with
    | [] => .right q.bulb.state
    | reply :: _ => reply.echo q.handle.serial q.bulb.state q.timeout moment

lemma echoOf_instant (h : q.timeout ≤ 0) (moment : Moment) (script : List ScriptedReply) :
    q.echoOf moment script = .late :=
  if_pos h

lemma echoOf_nil (h : 0 < q.timeout) (moment : Moment) : q.echoOf moment [] = .right q.bulb.state :=
  if_neg (not_le.mpr h)

lemma echoOf_reply (h : 0 < q.timeout) (moment : Moment) (reply : ScriptedReply)
    (script : List ScriptedReply) : q.echoOf moment (reply :: script)
      = reply.echo q.handle.serial q.bulb.state q.timeout moment :=
  if_neg (not_le.mpr h)

/-- the script behind the request -/
def behind (q : Inquiry) (script : List ScriptedReply) : List ScriptedReply :=
  if q.timeout ≤ 0 then script else script.tail

/-- requests that were sent from one moment to another have decided nothing; so many retries are used, and
so much of the script is left -/
inductive Passes (q : Inquiry) (first last : Moment) : Nat → List ScriptedReply → Prop
  | outset : Passes q first last 0 q.bulb.replies
  | again {used used' : Nat} {script : List ScriptedReply} {moment : Moment}
      (before : Passes q first last used script) (notBefore : first ≤ moment) (notAfter : moment ≤ last)
      (verdict : (q.echoOf moment script).verdict q.handle q.maxRetries used = .again used') :
      Passes q first last used' (q.behind script)

/-- the request that is sent next decides what the query comes to -/
def ComesTo (q : Inquiry) (first last : Moment) (outcome : Except Fault Reply) : Prop :=
  ∃ used script moment, q.Passes first last used script ∧ first ≤ moment ∧ moment ≤ last
    ∧ (q.echoOf moment script).Decides q.handle q.maxRetries used outcome

lemma Passes.mono (h : q.Passes first last used script) (hlast : last ≤ later) :
    q.Passes first later used script := by
  induction h with
  | outset => exact .outset
  | again before hfirst hmoment hverdict ih => exact .again ih hfirst (hmoment.trans hlast) hverdict

lemma ComesTo.mono (h : q.ComesTo first last outcome) (hlast : last ≤ later) :
    q.ComesTo first later outcome := by
  obtain ⟨used, script, moment, hpasses, hfirst, hmoment, hdecides⟩ := h
  exact ⟨used, script, moment, hpasses.mono hlast, hfirst, hmoment.trans hlast, hdecides⟩

lemma Passes.used_le (h : q.Passes first last used script) : used ≤ q.maxRetries := by
  induction h with
  | outset => exact Nat.zero_le _
  | again before hfirst hmoment hverdict ih =>
    rcases Echo.verdict_again hverdict with ⟨-, rfl⟩ | ⟨-, hused, rfl⟩
    · exact ih
    · exact hused

/-- what is left of the script is a part of it -/
lemma Passes.subset (h : q.Passes first last used script) : script ⊆ q.bulb.replies := by
  induction h with
  | outset => exact List.Subset.refl _
  | again before hfirst hmoment hverdict ih =>
    intro reply hreply
    unfold behind at hreply
    split at hreply
    · exact ih hreply
    · exact ih (List.mem_of_mem_tail hreply)

/-- what follows once a request has come to something -/
def Leads (q : Inquiry) (first last : Moment) (script : List ScriptedReply) : Verdict → Prop
  | .take state => q.ComesTo first last (.ok (.state q.handle state))
  | .again used => q.Passes first last used script
  | .give fault => q.ComesTo first last (.error fault)

lemma Leads.mono {verdict : Verdict} (h : q.Leads first last script verdict) (hlast : last ≤ later) :
    q.Leads first later script verdict := by
  cases verdict with
  | take state => exact ComesTo.mono h hlast
  | again used => exact Passes.mono h hlast
  | give fault => exact ComesTo.mono h hlast

/-- a request decides, or the next one is sent -/
theorem Passes.leads {moment : Moment} (h : q.Passes first last used script) (hfirst : first ≤ moment)
    (hmoment : moment ≤ last) : q.Leads first last (q.behind script)
      ((q.echoOf moment script).verdict q.handle q.maxRetries used) := by
  cases hverdict : (q.echoOf moment script).verdict q.handle q.maxRetries used with
  | again used' => exact .again h hfirst hmoment hverdict
  | take state =>
    refine ⟨used, script, moment, h, hfirst, hmoment, ?_⟩
    cases hecho : q.echoOf moment script with
    | right state' =>
      rw [hecho] at hverdict
      obtain rfl := Verdict.take.inj hverdict
      exact .right state'
    | wrong => rw [hecho] at hverdict; cases hverdict
    | fault fault => rw [hecho] at hverdict; cases hverdict
    | late =>
      rw [hecho, Echo.verdict, Query.unanswered] at hverdict
      split at hverdict <;> cases hverdict
  | give fault =>
    refine ⟨used, script, moment, h, hfirst, hmoment, ?_⟩
    cases hecho : q.echoOf moment script with
    | right state => rw [hecho] at hverdict; cases hverdict
    | wrong => rw [hecho] at hverdict; cases hverdict
    | fault fault' =>
      rw [hecho] at hverdict
      obtain rfl := Verdict.give.inj hverdict
      exact .fault fault'
    | late =>
      rw [hecho, Echo.verdict, Query.unanswered] at hverdict
      split at hverdict
      · rename_i hspent
        have hused : used = q.maxRetries := le_antisymm h.used_le (by simpa using hspent)
        obtain rfl := Verdict.give.inj hverdict
        rw [hused]
        exact .late rfl
      · cases hverdict

/-! ### By the script alone -/

/-- what a script comes to for which so many retries were used -/
def answerFrom (q : Inquiry) : Nat → List ScriptedReply → Except Fault Reply
  | _, [] => .ok (.state q.handle q.bulb.state)
  | used, reply :: script =>
    match reply.plainEcho q.handle.serial q.bulb.state q.timeout with
    | .right state => .ok (.state q.handle state)
    | .wrong => q.answerFrom used script
    | .late =>
      if q.maxRetries ≤ used then .error (.silent q.handle.name used)
      else q.answerFrom (used + 1) script
    | .fault fault => .error fault

/-- what the query comes to by the script of its bulb, without a look at the clock -/
def answer (q : Inquiry) : Except Fault Reply :=
  if q.timeout ≤ 0 then .error (.silent q.handle.name q.maxRetries)
  else q.answerFrom 0 q.bulb.replies

/-- at every moment from one to another the clock tells the delays of the script and the timeout apart -/
def IsClear (q : Inquiry) (first last : Moment) : Prop :=
  ∀ reply ∈ q.bulb.replies, ∀ moment, first ≤ moment → moment ≤ last → reply.IsClear q.timeout moment

lemma echoOf_of_isClear (htimeout : 0 < q.timeout) (hfirst : 0 ≤ first) (hclear : q.IsClear first last)
    {reply : ScriptedReply} (hreply : reply ∈ q.bulb.replies) {moment : Moment} (hmoment : first ≤ moment)
    (hmoment' : moment ≤ last) : q.echoOf moment (reply :: script)
      = reply.plainEcho q.handle.serial q.bulb.state q.timeout := by
  rw [echoOf_reply htimeout]
  exact ScriptedReply.echo_of_isClear htimeout (hfirst.trans hmoment) (hclear reply hreply moment hmoment
    hmoment') _ _

/-- requests that decide nothing leave what the script comes to as it is -/
lemma Passes.answerFrom_eq (h : q.Passes first last used script) (htimeout : 0 < q.timeout)
    (hfirst : 0 ≤ first) (hclear : q.IsClear first last) :
    q.answerFrom used script = q.answerFrom 0 q.bulb.replies := by
  induction h with
  | outset => rfl
  | @again used used' script moment before hmoment hmoment' hverdict hanswer =>
    rw [← hanswer, Inquiry.behind, if_neg (not_le.mpr htimeout)]
    cases script with
    | nil =>
      rw [echoOf_nil htimeout] at hverdict
      cases hverdict
    | cons reply script =>
      rw [echoOf_of_isClear htimeout hfirst hclear (before.subset (List.mem_cons_self ..)) hmoment
        hmoment'] at hverdict
      rw [List.tail_cons, answerFrom]
      rcases Echo.verdict_again hverdict with ⟨hwrong, rfl⟩ | ⟨hlate, hused, rfl⟩
      · rw [hwrong]
      · rw [hlate]
        exact (if_neg (not_le.mpr hused)).symm

/-- with a clock that tells the delays and the timeout apart, the query comes to what its script says -/
theorem ComesTo.eq_answer (h : q.ComesTo first last outcome) (hfirst : 0 ≤ first)
    (hclear : q.IsClear first last) : outcome = q.answer := by
  obtain ⟨used, script, moment, hpasses, hmoment, hmoment', hdecides⟩ := h
  unfold answer
  split
  · rename_i hinstant
    rw [echoOf_instant hinstant] at hdecides
    cases hdecides
    rfl
  · rename_i hlasting
    have htimeout : 0 < q.timeout := not_le.mp hlasting
    rw [← hpasses.answerFrom_eq htimeout hfirst hclear]
    cases script with
    | nil =>
      rw [echoOf_nil htimeout] at hdecides
      cases hdecides
      rfl
    | cons reply script =>
      rw [echoOf_of_isClear htimeout hfirst hclear (hpasses.subset (List.mem_cons_self ..)) hmoment
        hmoment'] at hdecides
      rw [answerFrom]
      generalize reply.plainEcho q.handle.serial q.bulb.state q.timeout = echo at hdecides ⊢
      cases hdecides with
      | right state => rfl
      | fault fault => rfl
      | late hused => rw [hused, if_pos (le_refl _)]

end Inquiry

end Lamplighter
