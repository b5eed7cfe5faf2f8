import Lamplighter.Discovery.Search
import Lamplighter.Proofs.Discovery.Asking

/-!
# Together: all queries of a search at once

Each cue that is taken brings one query on and leaves the others where they stand, or it is a signal
that no one listens to.  So the cues that are still to come get fewer, until all queries are over.

* `Session.PursuesAll`   how far each of some queries has come, and how many cues they have to come;
* `PursuesAll.take`      a cue that one of them waits for is taken and performed;
* `Session.Together`     queries go on, and nothing else is set but signals that no one listens to;
* `Together.step`        unless all are over there is a next step, and less is to come behind it;
* `Together.ends`        the session is driven to where all are over.
-/

namespace Lamplighter

/-! ### Scripts without a fault that ends a search -/

/-- every fault of the script only means that the bulb gives no state -/
def BenchBulb.IsTame (bulb : BenchBulb) : Prop :=
  ∀ fault, ScriptedReply.fault fault ∈ bulb.replies → Session.isStateless fault = true

/-- an echo gives the state of the bulb or no state, or it is a fault of the script -/
lemma ScriptedReply.echo_cases (reply : ScriptedReply) (serial : String) (state : BulbState)
    (timeout : Rat) (now : Moment) :
    reply.echo serial state timeout now = .right state ∨ reply.echo serial state timeout now = .wrong
      ∨ reply.echo serial state timeout now = .late
      ∨ ∃ fault, reply = .fault fault ∧ reply.echo serial state timeout now = .fault fault := by
  cases reply with
  | silence => exact .inr (.inr (.inl rfl))
  | fault failure =>
    cases failure with
    | timeout text => exact .inr (.inr (.inl rfl))
    | _ => exact .inr (.inr (.inr ⟨_, rfl, rfl⟩))
  | answer delay impostor =>
    rw [echo]
    split
    · split
      · exact .inl rfl
      · exact .inr (.inl rfl)
    · exact .inr (.inr (.inl rfl))

namespace Inquiry

variable {q : Inquiry} {first last : Moment} {outcome : Except Fault Reply}

/-- what a query comes to: the state of its bulb, or a fault that does not end a search -/
lemma ComesTo.cases (h : q.ComesTo first last outcome) (htame : q.bulb.IsTame) :
    outcome = .ok (.state q.handle q.bulb.state)
      ∨ ∃ fault, outcome = .error fault ∧ Session.isStateless fault = true := by
  obtain ⟨used, script, moment, hpasses, -, -, hdecides⟩ := h
  have hecho : q.echoOf moment script = .right q.bulb.state ∨ q.echoOf moment script = .wrong
      ∨ q.echoOf moment script = .late
      ∨ ∃ fault, .fault fault ∈ script ∧ q.echoOf moment script = .fault fault := by
    unfold echoOf
    split
    · exact .inr (.inr (.inl rfl))
    · split
      · exact .inl rfl
      · rename_i reply script
        refine (reply.echo_cases _ _ _ _).imp id (.imp id (.imp id ?_))
        rintro ⟨fault, rfl, hfault⟩
        exact ⟨fault, List.mem_cons_self .., hfault⟩
  rcases hecho with hecho | hecho | hecho | ⟨fault, hfault, hecho⟩ <;> rw [hecho] at hdecides <;>
    cases hdecides
  · exact .inl rfl
  · exact .inr ⟨_, rfl, rfl⟩
  · exact .inr ⟨fault, rfl, htame fault (hpasses.subset hfault)⟩

/-- queries of different numbers, for different bulbs -/
def Apart (q q' : Inquiry) : Prop :=
  q.number ≠ q'.number ∧ q.handle.serial ≠ q'.handle.serial

lemma Apart.symm {q q' : Inquiry} (h : q.Apart q') : q'.Apart q :=
  ⟨h.1.symm, h.2.symm⟩

end Inquiry

def Cue.isSignal : Cue → Bool
  | .signal _ => true
  | _ => false

lemma Cue.isSignal_of_isAwaitedBy {cue : Cue} {e : Nat} (h : cue.isAwaitedBy e = true) :
    cue.isSignal = false := by
  cases cue <;> first | rfl | cases h

lemma Errand.raised?_of_outcome? {errand : Errand} (h : errand.outcome? = none) :
    errand.raised? = none := by
  unfold Errand.outcome? at h
  unfold Errand.raised?
  split
  · rename_i hstage
    rw [hstage] at h
    cases h
  · rfl

namespace Session

variable {s t : Session Bench} {q : Inquiry} {qs : List Inquiry} {rest : Agenda Cue} {cue : Cue}
  {n e : Nat} {first : Moment} {x : String}

/-! ### Where one query stands -/

namespace Pursues

lemma errand (h : s.Pursues q first n) : ∃ stage, s.errands[q.number]? = some (q.errand stage) := by
  cases h with
  | fresh views => exact ⟨_, views.here.choose_spec.errand⟩
  | asking views => exact ⟨_, views.here.choose_spec.errand⟩
  | coming answer views => exact ⟨_, views.here.choose_spec.errand⟩
  | waiting others views => exact ⟨_, views.here.choose_spec.errand⟩
  | answered late views => exact ⟨_, views.here.choose_spec.errand⟩
  | ended views => exact ⟨_, views.here.choose_spec.errand⟩

/-- a query is over and has come to something, or some cue is set that it waits for -/
lemma over_or_awaits (h : s.Pursues q first n) :
    (∃ outcome, s.errands[q.number]? = some (q.errand (.over outcome))
      ∧ q.ComesTo first s.agenda.now outcome)
    ∨ (∃ cue ∈ s.agenda.cues, cue.isAwaitedBy q.number = true)
      ∧ ∃ stage, s.errands[q.number]? = some (q.errand stage) ∧ (q.errand stage).outcome? = none := by
  have hawaits : ∀ {stage own script}, s.Views q stage own script → own.upcoming ≠ [] →
      ∃ cue ∈ s.agenda.cues, cue.isAwaitedBy q.number = true := by
    rintro stage own script ⟨-, rfl⟩ hne
    obtain ⟨cue, hcue⟩ := List.exists_mem_of_ne_nil _ hne
    rw [← Agenda.filter_upcoming, List.mem_filter] at hcue
    exact ⟨cue, (Agenda.perm_upcoming _).mem_iff.mp hcue.1, hcue.2⟩
  cases h with
  | fresh views next =>
    exact .inr ⟨hawaits views (by rw [next]; simp), _, views.here.choose_spec.errand, rfl⟩
  | asking views lasting next =>
    exact .inr ⟨hawaits views (by rw [next]; simp), _, views.here.choose_spec.errand, rfl⟩
  | coming answer views next =>
    exact .inr ⟨hawaits views (by rw [next]; simp), _, views.here.choose_spec.errand, rfl⟩
  | waiting others views next =>
    exact .inr ⟨hawaits views (by rw [next]; simp), _, views.here.choose_spec.errand, rfl⟩
  | answered late views next =>
    refine .inr ⟨hawaits views ?_, _, views.here.choose_spec.errand, rfl⟩
    exact List.ne_nil_of_mem (next.mem_iff.mpr (List.mem_cons_self ..))
  | ended views next comes =>
    obtain ⟨⟨calls, hhere⟩, rfl⟩ := views
    exact .inl ⟨_, hhere.errand, comes⟩

end Pursues

/-! ### Where all of them stand -/

/-- how far each of some queries has come, and how many cues they have to come at most -/
inductive PursuesAll (s : Session Bench) (first : Moment) : List Inquiry → Nat → Prop
  | nil : PursuesAll s first [] 0
  | cons {q : Inquiry} {qs : List Inquiry} {n m : Nat} (here : s.Pursues q first n)
      (others : PursuesAll s first qs m) : PursuesAll s first (q :: qs) (n + m)

namespace PursuesAll

lemma pursues (h : s.PursuesAll first qs n) (hq : q ∈ qs) : ∃ m, s.Pursues q first m := by
  induction h with
  | nil => cases hq
  | cons here others ih =>
    rcases List.mem_cons.mp hq with rfl | hq
    · exact ⟨_, here⟩
    · exact ih hq

lemma minds (h : s.PursuesAll first qs n) (hminds : Minds e x s t) (he : ∀ q ∈ qs, e ≠ q.number)
    (hx : ∀ q ∈ qs, x ≠ q.handle.serial) : t.PursuesAll first qs n := by
  induction h with
  | nil => exact .nil
  | cons here others ih =>
    obtain ⟨he, he'⟩ := List.forall_mem_cons.mp he
    obtain ⟨hx, hx'⟩ := List.forall_mem_cons.mp hx
    exact .cons (here.minds hminds he hx) (ih he' hx')

lemma pass (h : s.PursuesAll first qs n) (hordered : s.agenda.IsOrdered)
    (hnext : s.agenda.next? = some (cue, rest)) (hcue : ∀ q ∈ qs, cue.isAwaitedBy q.number = false) :
    ({ s with agenda := rest } : Session Bench).PursuesAll first qs n := by
  induction h with
  | nil => exact .nil
  | cons here others ih =>
    obtain ⟨hcue, hcue'⟩ := List.forall_mem_cons.mp hcue
    exact .cons (here.pass hordered hnext hcue) (ih hcue')

/-- one of the queries takes its next cue, and the others stand where they stood -/
theorem take (h : s.PursuesAll first qs n) (hapart : qs.Pairwise Inquiry.Apart)
    (hordered : s.agenda.IsOrdered) (hnext : s.agenda.next? = some (cue, rest)) (hq : q ∈ qs)
    (hcue : cue.isAwaitedBy q.number = true) :
    ∃ m < n, (({ s with agenda := rest } : Session Bench).perform cue).PursuesAll first qs m := by
  -- what another query waits for, this one does not
  have hother : ∀ {q q' : Inquiry}, q.Apart q' → cue.isAwaitedBy q.number = true →
      cue.isAwaitedBy q'.number = false :=
    fun hapart hcue => Bool.eq_false_iff.mpr fun hcue' => hapart.1 (Cue.isAwaitedBy_inj hcue hcue')
  have hminds : ∀ {q : Inquiry} {n : Nat}, s.Pursues q first n → cue.isAwaitedBy q.number = true →
      Minds q.number q.handle.serial { s with agenda := rest }
        (({ s with agenda := rest } : Session Bench).perform cue) := by
    intro q n hpursues hcue
    obtain ⟨stage, herrand⟩ := hpursues.errand
    exact Minds.perform (s := { s with agenda := rest }) herrand rfl hcue
  induction h with
  | nil => cases hq
  | @cons q' qs n m here others ih =>
    obtain ⟨hapart, hapart'⟩ := List.pairwise_cons.mp hapart
    rcases List.mem_cons.mp hq with rfl | hq
    · obtain ⟨n', hless, htaken⟩ := here.take hordered hnext hcue
      have hpassed := others.pass hordered hnext fun q' hq' => hother (hapart q' hq') hcue
      refine ⟨n' + m, by omega, .cons htaken (hpassed.minds (hminds here hcue) ?_ ?_)⟩
      · exact fun q' hq' => (hapart q' hq').1
      · exact fun q' hq' => (hapart q' hq').2
    · obtain ⟨m', hless, htaken⟩ := ih hapart' hq
      obtain ⟨k, hpursues⟩ := others.pursues hq
      have hpassed := here.pass hordered hnext (hother (hapart q hq).symm hcue)
      exact ⟨n + m', by omega, .cons (hpassed.minds (hminds hpursues hcue) (hapart q hq).symm.1
        (hapart q hq).symm.2) htaken⟩

end PursuesAll

/-! ### Nothing else is set -/

/-- the signal of a bulb to a client that listens no longer -/
def IsDeafTo (s : Session Bench) (cue : Cue) : Prop :=
  ∃ client session handle, cue = .signal (.bulb client session handle)
    ∧ (s.network.client client).isListening = false

lemma perform_of_isDeafTo (h : s.IsDeafTo cue) : s.perform cue = s := by
  obtain ⟨client, session, handle, rfl, hdeaf⟩ := h
  simp only [perform, Network.signal, Bench.signal, hdeaf, Bool.false_and, Bool.false_eq_true, if_false]
  rfl

/-- queries go on at once, and whatever else is set is a signal that no one listens to -/
structure Together (s : Session Bench) (qs : List Inquiry) (first : Moment) (n : Nat) : Prop where
  ordered : s.agenda.IsOrdered
  apart : qs.Pairwise Inquiry.Apart
  cues : ∀ cue ∈ s.agenda.cues, (∃ q ∈ qs, cue.isAwaitedBy q.number = true) ∨ s.IsDeafTo cue
  pursued : ∃ m, s.PursuesAll first qs m ∧ m + s.agenda.cues.countP Cue.isSignal = n

namespace Together

/-- every query is over, and has come to something by its own script -/
def AllOver (s : Session Bench) (qs : List Inquiry) (first : Moment) : Prop :=
  ∀ q ∈ qs, ∃ outcome, s.errands[q.number]? = some (q.errand (.over outcome))
    ∧ q.ComesTo first s.agenda.now outcome

/-- unless all are over there is a next step, and less is to come behind it -/
theorem step (h : s.Together qs first n) :
    AllOver s qs first ∨ ∃ t m, s.step = some t ∧ m < n ∧ t.Together qs first m := by
  obtain ⟨m, hpursued, rfl⟩ := h.pursued
  cases hnext : s.agenda.next? with
  | none =>
    refine .inl fun q hq => ?_
    obtain ⟨k, hpursues⟩ := hpursued.pursues hq
    rcases hpursues.over_or_awaits with hover | ⟨⟨cue, hcue, -⟩, -⟩
    · exact hover
    · rw [Agenda.next_eq_none_iff.mp hnext] at hcue
      cases hcue
  | some taken =>
    obtain ⟨cue, rest⟩ := taken
    refine .inr ⟨({ s with agenda := rest } : Session Bench).perform cue, ?_⟩
    have hstep : s.step = some (({ s with agenda := rest } : Session Bench).perform cue) := by
      rw [Session.step, hnext]
      rfl
    have hcues := Agenda.cues_next hnext
    have hrest : ∀ cue' ∈ rest.cues, cue' ∈ s.agenda.cues :=
      fun cue' hcue' => hcues.mem_iff.mpr (List.mem_cons_of_mem _ hcue')
    rcases h.cues cue (hcues.mem_iff.mpr (List.mem_cons_self ..)) with ⟨q, hq, hcue⟩ | hdeaf
    · obtain ⟨k, hpursues⟩ := hpursued.pursues hq
      obtain ⟨stage, herrand⟩ := hpursues.errand
      obtain ⟨m', hless, htaken⟩ := hpursued.take h.apart h.ordered hnext hq hcue
      have hminds := Minds.perform (s := { s with agenda := rest }) herrand rfl hcue
      have hsignals : (({ s with agenda := rest } : Session Bench).perform cue).agenda.cues.countP
          Cue.isSignal = rest.cues.countP Cue.isSignal := by
        have hothers := congrArg (fun agenda => agenda.cues.countP Cue.isSignal) hminds.others
        simp only [Agenda.cues_drop, List.countP_filter] at hothers
        rw [List.countP_congr fun cue' _ => ?_, hothers, List.countP_congr fun cue' _ => ?_]
        all_goals
          cases hawaits : cue'.isAwaitedBy q.number with
          | false => simp
          | true => simp [Cue.isSignal_of_isAwaitedBy hawaits]
      refine ⟨m' + rest.cues.countP Cue.isSignal, hstep, ?_, hminds.ordered (h.ordered.next hnext),
        h.apart, ?_, m', htaken, by rw [hsignals]⟩
      · rw [hcues.countP_eq, List.countP_cons, Cue.isSignal_of_isAwaitedBy hcue]
        simpa using hless
      · intro cue' hcue'
        cases hawaits : cue'.isAwaitedBy q.number with
        | true => exact .inl ⟨q, hq, hawaits⟩
        | false =>
          have hmem : cue' ∈ (({ s with agenda := rest } : Session Bench).perform cue).agenda.cues.filter
              fun cue => !cue.isAwaitedBy q.number := List.mem_filter.mpr ⟨hcue', by rw [hawaits]; rfl⟩
          rw [← Agenda.cues_drop, hminds.others, Agenda.cues_drop] at hmem
          refine (h.cues cue' (hrest cue' (List.mem_filter.mp hmem).1)).imp id ?_
          rintro ⟨client, session, handle, rfl, hlistening⟩
          exact ⟨client, session, handle, rfl, (hminds.listening client).trans hlistening⟩
    · have hsame : ({ s with agenda := rest } : Session Bench).perform cue = { s with agenda := rest } :=
        perform_of_isDeafTo hdeaf
      have hsignal : cue.isSignal = true := by
        obtain ⟨client, session, handle, rfl, -⟩ := hdeaf
        rfl
      have hpassed := hpursued.pass h.ordered hnext fun q hq => Bool.eq_false_iff.mpr fun hcue => by
        rw [Cue.isSignal_of_isAwaitedBy hcue] at hsignal
        cases hsignal
      rw [hsame] at hstep ⊢
      refine ⟨m + rest.cues.countP Cue.isSignal, hstep, ?_, h.ordered.next hnext, h.apart,
        fun cue' hcue' => h.cues cue' (hrest cue' hcue'), m, hpassed, rfl⟩
      rw [hcues.countP_eq, List.countP_cons, hsignal]
      simp

/-- no query ends the search with a fault -/
lemma searchFault? (h : s.Together qs first n) (htame : ∀ q ∈ qs, q.bulb.IsTame) :
    s.searchFault? (qs.map (·.number)) = none := by
  obtain ⟨m, hpursued, -⟩ := h.pursued
  rw [Session.searchFault?, List.findSome?_eq_none_iff, List.forall_mem_map]
  intro q hq
  obtain ⟨k, hpursues⟩ := hpursued.pursues hq
  rcases hpursues.over_or_awaits with ⟨outcome, herrand, hcomes⟩ | ⟨-, stage, herrand, hopen⟩
  · rw [herrand]
    rcases hcomes.cases (htame q hq) with rfl | ⟨fault, rfl, hstateless⟩
    · rfl
    · simp [Inquiry.errand, Errand.raised?, hstateless]
  · rw [herrand, Option.bind_some, Errand.raised?_of_outcome? hopen]

/-- that all errands are over is that all queries are -/
lemma allOver_iff (h : s.Together qs first n) :
    (qs.map (·.number)).all s.isErrandOver = true ↔ AllOver s qs first := by
  obtain ⟨m, hpursued, -⟩ := h.pursued
  rw [List.all_map, List.all_eq_true]
  refine forall₂_congr fun q hq => ?_
  obtain ⟨k, hpursues⟩ := hpursued.pursues hq
  rcases hpursues.over_or_awaits with ⟨outcome, herrand, hcomes⟩ | ⟨-, stage, herrand, hopen⟩
  · refine iff_of_true ?_ ⟨outcome, herrand, hcomes⟩
    simp [Session.isErrandOver, herrand, Inquiry.errand, Errand.isOver, Errand.outcome?]
  · refine iff_of_false ?_ ?_
    · simp [Session.isErrandOver, herrand, Errand.isOver, hopen]
    · rintro ⟨outcome, hover, -⟩
      rw [Option.some.inj (herrand.symm.trans hover)] at hopen
      cases hopen

/-- by induction on what is to come: the session is driven to where all queries are over -/
theorem ends (h : s.Together qs first n) (htame : ∀ q ∈ qs, q.bulb.IsTame) :
    ∃ t m, t.Together qs first m ∧ AllOver t qs first ∧ ∀ fuel ≥ n,
      drive (fun s => (s.searchFault? (qs.map (·.number))).isSome
        || (qs.map (·.number)).all s.isErrandOver) fuel s = t := by
  induction n using Nat.strong_induction_on generalizing s with
  | _ n ih =>
    by_cases hover : AllOver s qs first
    · refine ⟨s, n, h, hover, fun fuel _ => ?_⟩
      cases fuel with
      | zero => rfl
      | succ fuel => rw [drive, h.allOver_iff.mpr hover, Bool.or_true, if_pos rfl]
    · obtain ⟨t, m, hstep, hless, ht⟩ := h.step.resolve_left hover
      obtain ⟨u, k, hu, hover', hdrive⟩ := ih m hless ht
      refine ⟨u, k, hu, hover', fun fuel hfuel => ?_⟩
      obtain ⟨fuel, rfl⟩ : ∃ left, fuel = left + 1 := ⟨fuel - 1, by omega⟩
      rw [drive, h.searchFault? htame, Bool.eq_false_iff.mpr (hover ∘ h.allOver_iff.mp), hstep]
      exact hdrive fuel (by omega)

end Together

end Session

end Lamplighter
