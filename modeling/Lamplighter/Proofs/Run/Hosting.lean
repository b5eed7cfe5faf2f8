import Lamplighter.Proofs.Run.Attendance

/-!
# Hosting: a run that is alone on the bench

* `Session.Hosts`     the only run of a session has a reliable audience, and all its effects are
                      attended;
* `Session.Turn`      a cue is taken off the agenda, whichever, and performed;
* `Hosts.turn`        whatever cue is performed, the session stays so;
* `Hosts.errand_turn` an effect is left alone, or it takes a step of its own.
-/

namespace Lamplighter

open Deeds

/-- the errand at a desk is an effect of the plan, and waits for what it needs -/
def Desk.IsAttended (desk : Desk) (plan : Plan) (r e : Nat) : Prop :=
  match desk.errand with
  | none => desk.cues.cues = []
  | some errand => errand.Attended e desk.cues.cues ∧
      ∃ handle stage, errand = { plan.errand r handle with stage }

lemma Cue.isAwaitedBy_inj {cue : Cue} {i j : Nat} (hi : cue.isAwaitedBy i = true)
    (hj : cue.isAwaitedBy j = true) : i = j := by
  cases cue <;> simp_all [Cue.isAwaitedBy]

namespace Session

variable {s t : Session Bench} {r e : Nat} {x : String} {plan : Plan} {k : Handle → Prop}
  {cue : Cue} {agenda : Agenda Cue}

/-! ### Taking a cue off the agenda -/

/-- some cue is taken off the agenda and performed -/
def Turn (s t : Session Bench) (cue : Cue) : Prop :=
  ∃ agenda, s.agenda.cues.Perm (cue :: agenda.cues) ∧ (s.agenda.IsOrdered → agenda.IsOrdered) ∧
    t = ({ s with agenda } : Session Bench).perform cue

lemma cues_desk (s : Session Bench) (e : Nat) :
    (s.desk e).cues.cues = s.agenda.cues.filter (·.isAwaitedBy e) := by
  show (s.agenda.drop _).cues = _
  rw [Agenda.cues_drop]
  simp

/-- a cue that is taken away was waited for, or is not missed -/
lemma cues_desk_remove (hcues : s.agenda.cues.Perm (cue :: agenda.cues)) (e : Nat) :
    (s.desk e).cues.cues.Perm
      (if cue.isAwaitedBy e then cue :: (({ s with agenda } : Session Bench).desk e).cues.cues
      else (({ s with agenda } : Session Bench).desk e).cues.cues) := by
  rw [cues_desk, cues_desk]
  refine (hcues.filter _).trans ?_
  rw [List.filter_cons]

lemma exists_not_awaited (cue : Cue) : ∃ e, cue.isAwaitedBy e = false := by
  by_cases hzero : cue.isAwaitedBy 0 = true
  · refine ⟨1, Bool.eq_false_iff.mpr ?_⟩
    intro hone
    exact absurd (Cue.isAwaitedBy_inj hzero hone) (by decide)
  · exact ⟨0, Bool.eq_false_iff.mpr hzero⟩

/-- some corner has nothing to do with a cue -/
lemma exists_foreign (s : Session Bench) (hcue : cue.isAwaitedBy e = false) :
    ∃ x, s.IsForeign cue x e := by
  by_cases hother : ∃ i errand, cue.isAwaitedBy i = true ∧ s.errands[i]? = some errand
  · obtain ⟨i, errand, hi, he⟩ := hother
    refine ⟨errand.handle.serial ++ "x", hcue, ?_⟩
    intro j errand' hj hget heq
    rw [← Cue.isAwaitedBy_inj hi hj, he] at hget
    obtain rfl := Option.some.inj hget
    have hlength := congrArg String.length heq
    rw [String.length_append] at hlength
    simp at hlength
  · exact ⟨"", hcue, fun i errand hi he => absurd ⟨i, errand, hi, he⟩ hother⟩

lemma Kept.not_isEntryOf {ν : Type} {s : Session ν} (h : s.Kept r)
    (hcue : cue ∈ s.agenda.cues) : cue.isEntryOf r = false := by
  obtain ⟨l, hl, hsound⟩ := h.sound
  obtain ⟨run, hget, rfl⟩ := Option.map_eq_some_iff.mp hl
  have hentries : s.line.count r + s.agenda.cues.countP (·.isEntryOf r) = 0 :=
    hsound.booked.entries
  have hnone := List.countP_eq_zero.mp (Nat.add_eq_zero_iff.mp hentries).2 cue hcue
  simpa using hnone

/-! ### The effects of the only run -/

section
variable {ν : Type} {s : Session ν}

/-- every errand is an effect of the run -/
lemma effects_of_own (hown : ∀ errand ∈ s.errands, errand.run = some r) :
    s.effects r = s.errands.map fun errand => (errand.handle, errand.isOver) := by
  unfold effects
  rw [List.filter_eq_self.mpr]
  intro errand hmem
  simpa using hown errand hmem

/-- no two effects are on bulbs of one serial -/
lemma Kept.nodup_of_own (h : s.Kept r) (hown : ∀ errand ∈ s.errands, errand.run = some r) :
    (s.errands.map fun errand => errand.handle.serial).Nodup := by
  obtain ⟨l, hl, hsound⟩ := h.sound
  obtain ⟨run, hget, rfl⟩ := Option.map_eq_some_iff.mp hl
  have hamong : (s.effects r).map Prod.fst <+: _ := hsound.staffed.among
  have hsub := hamong.sublist.trans (Targets.picked_sublist _ _)
  have hnodup := hsound.nodup_handled.sublist (hsub.map Handle.serial)
  rw [effects_of_own hown, List.map_map, List.map_map] at hnodup
  exact hnodup

end

/-! ### Hosting a run -/

structure Hosts (s : Session Bench) (r : Nat) (plan : Plan) (k : Handle → Prop) : Prop where
  kept : s.Kept r
  planned : s.runs[r]?.map Run.plan = some plan
  sole : s.IsSole r
  reliable : plan.audience.isReliable = true
  ordered : s.agenda.IsOrdered
  attended : ∀ e, (s.desk e).IsAttended plan r e
  known : s.Knows r k

namespace Hosts

lemma reliable_run (h : s.Hosts r plan k) : s.Reliable r := by
  intro run hrun
  have hplan := h.planned
  rw [hrun] at hplan
  have haudience : run.audience = plan.audience := congrArg Plan.audience (Option.some.inj hplan)
  rw [haudience]
  exact h.reliable

/-- every errand is an effect of the run -/
lemma own (h : s.Hosts r plan k) {errand : Errand} (he : s.errands[e]? = some errand) :
    errand.run = some r := by
  have hattended := h.attended e
  unfold Desk.IsAttended at hattended
  have hdesk : (s.desk e).errand = some { errand with isAttached := true } := by
    show s.errands[e]?.map _ = _
    rw [he]
    rfl
  rw [hdesk] at hattended
  obtain ⟨_, handle, stage, heq⟩ := hattended
  exact congrArg Errand.run heq

lemma own_of_mem (h : s.Hosts r plan k) : ∀ errand ∈ s.errands, errand.run = some r := by
  intro errand hmem
  obtain ⟨e, he⟩ := List.getElem?_of_mem hmem
  exact h.own he

lemma effects_eq (h : s.Hosts r plan k) :
    s.effects r = s.errands.map fun errand => (errand.handle, errand.isOver) :=
  effects_of_own h.own_of_mem

/-- no two effects are on bulbs of one serial -/
lemma nodup (h : s.Hosts r plan k) : (s.errands.map fun errand => errand.handle.serial).Nodup :=
  h.kept.nodup_of_own h.own_of_mem

lemma eq_of_serial (h : s.Hosts r plan k) {i j : Nat} {errand errand' : Errand}
    (hi : s.errands[i]? = some errand) (hj : s.errands[j]? = some errand')
    (hserial : errand.handle.serial = errand'.handle.serial) : i = j := by
  have hlt := (List.getElem?_eq_some_iff.mp hi).1
  refine (List.getElem?_inj (by rwa [List.length_map]) h.nodup).mp ?_
  rw [List.getElem?_map, List.getElem?_map, hi, hj]
  exact congrArg some hserial

/-- an errand has nothing to do with the cues of the others -/
lemma foreign (h : s.Hosts r plan k) {errand : Errand} (he : s.errands[e]? = some errand)
    (hcue : cue.isAwaitedBy e = false) : s.IsForeign cue errand.handle.serial e := by
  refine ⟨hcue, ?_⟩
  intro i errand' hi hget heq
  rw [h.eq_of_serial hget he heq, hcue] at hi
  cases hi

/-- every effect is on a bulb of the kind that the run knows -/
lemma kind (h : s.Hosts r plan k) {errand : Errand} (he : s.errands[e]? = some errand) :
    k errand.handle := by
  obtain ⟨l, hl, hsound⟩ := h.kept.sound
  obtain ⟨run, hget, rfl⟩ := Option.map_eq_some_iff.mp hl
  have hamong : (s.effects r).map Prod.fst <+: _ := hsound.staffed.among
  have hmem : errand.handle ∈ (s.effects r).map Prod.fst := by
    rw [h.effects_eq, List.map_map]
    exact List.mem_map_of_mem (List.mem_of_getElem? he)
  have hhandled := (Targets.picked_sublist _ _).subset (hamong.subset hmem)
  have hmail : queued run.deeds = handled run.deeds ++ cleared run.deeds ++ run.inbox :=
    hsound.booked.mail
  refine h.known.messages run hget _ ?_
  rw [hmail, bulbs_append, bulbs_append]
  exact List.mem_append_left _ (List.mem_append_left _ hhandled)

/-- the bulb of a signal that is set is of the kind that the run knows -/
lemma kind_signal (h : s.Hosts r plan k) (hcues : s.agenda.cues.Perm (cue :: agenda.cues)) :
    ∀ client session handle, cue = .signal (.bulb client session handle) → k handle := by
  rintro client session handle rfl
  exact h.known.signals client session handle (hcues.mem_iff.mpr (List.mem_cons_self ..))

lemma admits (h : s.Hosts r plan k) (hcues : s.agenda.cues.Perm (cue :: agenda.cues))
    (hforeign : s.IsForeign cue x e) (c : Nat) :
    Admits c r x e k plan { s with agenda } (({ s with agenda } : Session Bench).perform cue) :=
  Admits.perform (s := { s with agenda }) h.sole h.reliable_run h.planned hforeign
    (h.kept.not_isEntryOf (hcues.mem_iff.mpr (List.mem_cons_self ..))) (h.kind_signal hcues)

end Hosts

/-! ### Turns of an effect -/

/-- a bound on the steps that are left to an errand -/
def rank (s : Session Bench) (r e : Nat) : Nat :=
  match (s.desk e).errand with
  | none => 0
  | some errand => Solo.rank ⟨errand, s.corner errand.client r errand.handle.serial⟩
      (s.desk e).cues.cues

lemma Has.rank_eq {solo : Solo} {cues : Agenda Cue} (h : s.Has r e solo cues) :
    s.rank r e = solo.rank cues.cues := by
  unfold Session.rank
  rw [h.desk]
  dsimp only
  rw [h.corner]

lemma Solo.rank_perm {solo : Solo} {cues cues' : List Cue} (h : cues.Perm cues') :
    solo.rank cues = solo.rank cues' := by
  rw [Solo.rank, Solo.rank, h.countP_eq]

lemma errand_desk {errand : Errand} (h : (s.desk e).errand = some errand) :
    ∃ errand', s.errands[e]? = some errand' ∧ errand'.handle = errand.handle := by
  obtain ⟨errand', he, rfl⟩ := Option.map_eq_some_iff.mp h
  exact ⟨errand', he, rfl⟩

namespace Hosts

/-- an effect is left alone, or it takes a step of its own; either way it still waits for the cue
that it needs, or has come nearer to its end -/
theorem errand_turn (h : s.Hosts r plan k) (ht : s.Turn t cue) {errand : Errand}
    (he : (s.desk e).errand = some errand) :
    ∃ errand', (t.desk e).errand = some errand' ∧ errand'.Attended e (t.desk e).cues.cues ∧
      (∃ stage, errand' = { errand with stage }) ∧
      (t.rank r e < s.rank r e ∧ errand.isOver = false ∨
        errand' = errand ∧ t.rank r e ≤ s.rank r e ∧ cue ≠ errand.needed e) := by
  obtain ⟨agenda, hcues, horder, rfl⟩ := ht
  have hattended := h.attended e
  simp only [Desk.IsAttended, he] at hattended
  obtain ⟨hattended, handle, stage, howned⟩ := hattended
  have hrun : errand.run = some r := by rw [howned]; rfl
  have hhere : s.runs[r]?.isSome = true := by
    have hsome := congrArg Option.isSome h.planned
    rwa [Option.isSome_map] at hsome
  have hbefore : s.Has r e ⟨errand, s.corner errand.client r errand.handle.serial⟩
      (s.desk e).cues := ⟨by rw [← he], rfl, hrun, hhere, h.reliable_run, h.ordered⟩
  have hhas : ({ s with agenda } : Session Bench).Has r e
      ⟨errand, s.corner errand.client r errand.handle.serial⟩
      (({ s with agenda } : Session Bench).desk e).cues := by
    refine ⟨?_, rfl, hrun, hhere, h.reliable_run, horder h.ordered⟩
    have hsame : (({ s with agenda } : Session Bench).desk e).errand = some errand := he
    rw [← hsame]
  have hremove := cues_desk_remove hcues e
  cases hawait : cue.isAwaitedBy e with
  | true =>
    rw [if_pos hawait] at hremove
    obtain ⟨solo', cues', hturned⟩ := hhas.turn (hattended.perm hremove.symm)
    have hdesk := hturned.has.desk
    refine ⟨solo'.errand, by rw [hdesk], ?_, hturned.continues, ?_⟩
    · rw [hdesk]
      exact hturned.attended
    · rw [hturned.has.rank_eq, hbefore.rank_eq, Solo.rank_perm hremove]
      rcases hturned.nearer with hless | ⟨rfl, hsame, hneeded⟩
      · refine .inl ⟨hless, ?_⟩
        have hopen := hattended.perm hremove.symm
        unfold Errand.isOver Errand.outcome?
        split
        · rename_i outcome hstage
          simp only [Errand.Attended, hstage] at hopen
          exact absurd hopen.2 (List.cons_ne_nil _ _)
        · rfl
      · refine .inr ⟨rfl, ?_, hneeded⟩
        rw [hsame, Solo.rank, Solo.rank, List.countP_cons]
        omega
  | false =>
    rw [if_neg (by simp [hawait])] at hremove
    obtain ⟨errand', hget, hhandle⟩ := errand_desk he
    have hforeign := h.foreign hget hawait
    rw [hhandle] at hforeign
    have hadmits := h.admits hcues hforeign errand.client
    have hsame : (({ s with agenda } : Session Bench).perform cue).desk e
        = ({ s with agenda } : Session Bench).desk e := by
      rcases hadmits.desk with hsame | ⟨hnone, _⟩
      · exact hsame
      · exact absurd (hnone.symm.trans he) (by simp)
    have hafter : (({ s with agenda } : Session Bench).perform cue).rank r e = s.rank r e := by
      have hcorner := hadmits.corner
      unfold Session.rank
      rw [hsame]
      show (match (s.desk e).errand with
        | none => 0
        | some errand => _) = _
      rw [he]
      dsimp only
      rw [hcorner]
      exact (Solo.rank_perm hremove).symm
    refine ⟨errand, by rw [hsame]; exact he, ?_, ⟨errand.stage, rfl⟩, .inr ⟨rfl, hafter.le, ?_⟩⟩
    · rw [hsame]
      exact hattended.perm hremove.symm
    · rintro rfl
      unfold Errand.needed at hawait
      split at hawait <;> simp [Cue.isAwaitedBy] at hawait

/-- where there was no effect there may be a new one -/
lemma fresh_turn (h : s.Hosts r plan k) (ht : s.Turn t cue) (he : (s.desk e).errand = none) :
    t.desk e = ⟨none, (t.desk e).cues⟩ ∧ (t.desk e).cues.cues = [] ∨
      ∃ handle, (t.desk e).errand = some (plan.errand r handle) ∧
        (t.desk e).cues.cues.Perm [.begin e] := by
  obtain ⟨agenda, hcues, horder, rfl⟩ := ht
  have hattended := h.attended e
  simp only [Desk.IsAttended, he] at hattended
  have hremove := cues_desk_remove hcues e
  rw [hattended] at hremove
  cases hawait : cue.isAwaitedBy e with
  | true =>
    rw [if_pos hawait] at hremove
    exact absurd hremove.length_eq (by simp)
  | false =>
    rw [if_neg (by simp [hawait])] at hremove
    have hnil := List.nil_perm.mp hremove
    obtain ⟨x, hforeign⟩ := s.exists_foreign hawait
    rcases (h.admits hcues hforeign 0).desk with hsame | ⟨_, handle, hnew⟩
    · rw [hsame]
      refine .inl ⟨?_, hnil⟩
      have hnone : (({ s with agenda } : Session Bench).desk e).errand = none := he
      rw [← hnone]
    · rw [hnew]
      refine .inr ⟨handle, rfl, ?_⟩
      have hsoon := (({ s with agenda } : Session Bench).desk e).cues.cues_soon 0 (.begin e)
      rwa [hnil] at hsoon

/-- whatever cue is performed, the run stays hosted -/
theorem turn (h : s.Hosts r plan k) (ht : s.Turn t cue) : t.Hosts r plan k := by
  have hturn := ht
  obtain ⟨agenda, hcues, horder, rfl⟩ := ht
  obtain ⟨e, he⟩ := exists_not_awaited cue
  obtain ⟨x, hforeign⟩ := s.exists_foreign he
  have hadmits := h.admits hcues hforeign 0
  refine ⟨h.kept.perform hcues, ?_, h.sole.of_plans hadmits.plans, h.reliable,
    hadmits.order (horder h.ordered), ?_, hadmits.known ⟨?_, h.known.messages⟩⟩
  · rw [map_plan_of_plans hadmits.plans r]
    exact h.planned
  · intro e
    unfold Desk.IsAttended
    cases hbefore : (s.desk e).errand with
    | none =>
      rcases h.fresh_turn hturn hbefore with ⟨hnone, hnil⟩ | ⟨handle, hnew, hperm⟩
      · rw [hnone]
        exact hnil
      · rw [hnew]
        exact ⟨⟨Effect.isPlain_play _ _ _ _, hperm⟩, handle, _, rfl⟩
    | some errand =>
      obtain ⟨errand', herrand, hattended, ⟨stage, rfl⟩, _⟩ := h.errand_turn hturn hbefore
      have howned := h.attended e
      simp only [Desk.IsAttended, hbefore] at howned
      obtain ⟨_, handle, stage', rfl⟩ := howned
      rw [herrand]
      exact ⟨hattended, handle, stage, rfl⟩
  · intro client session handle hmem
    exact h.known.signals client session handle
      (hcues.mem_iff.mpr (List.mem_cons_of_mem _ hmem))

end Hosts

end Session

end Lamplighter
