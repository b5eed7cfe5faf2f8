import Lamplighter.Proofs.Run.Backdrop

/-!
# Balance: the searches on record are those of the runs

* `Run.Core.searches`    what a run in a given phase has started and stopped: nothing before it looks
                         for bulbs, a search while it does, and a search that was stopped from then on;
* `Backdrop.Balanced`    these are all searches on record, one run after the other, and only a run
                         that looks for bulbs has its idle clock set;
* `Backdrop.Deals.balance`   so it stays while the last run that has started does something;
* `Backdrop.Deals.searches`  and what is asked next is what that run asks;
* `Backdrop.HasSought`   a run that has looked for bulbs does not forget it;
* `Backdrop.Rests`       a run that has stopped looking for bulbs does not look for them again, and is
                         told of no further idle interval.
-/

set_option linter.unusedSectionVars false

namespace Lamplighter

/-- the searches for bulbs that a run has started and stopped so far -/
def Run.Core.searches (core : Run.Core) : List Contact :=
  match core.phase with
  | .idle => []
  | .discovering => [.start core.client]
  | .draining | .finished => [.start core.client, .stop core.client]

/-- a change at some place, behind which there is nothing, adds at the end -/
lemma flatMap_modify_append {α β : Type} {read : α → List β} {list : List α} {i : Nat} {a : α}
    (hget : list[i]? = some a) (hlast : ∀ j b, i < j → list[j]? = some b → read b = [])
    {change : α → α} {more : List β} (hchange : read (change a) = read a ++ more) :
    (list.modify i change).flatMap read = list.flatMap read ++ more := by
  induction list generalizing i with
  | nil => cases hget
  | cons first rest ih =>
    cases i with
    | zero =>
      obtain rfl : first = a := Option.some.inj hget
      have hrest : rest.flatMap read = [] := by
        rw [List.flatMap_eq_nil_iff]
        intro b hmem
        obtain ⟨j, hj⟩ := List.getElem?_of_mem hmem
        exact hlast (j + 1) b (Nat.succ_pos j) hj
      simp [List.modify, hrest, hchange]
    | succ i =>
      have hrest := ih hget fun j b hj hb => hlast (j + 1) b (Nat.succ_lt_succ hj) hb
      simp only [List.modify_succ_cons, List.flatMap_cons, hrest, List.append_assoc]

/-- a change at some place that makes no difference -/
lemma flatMap_modify_of_eq {α β : Type} {read : α → List β} {list : List α} {i : Nat}
    {change : α → α} (hchange : ∀ a, list[i]? = some a → read (change a) = read a) :
    (list.modify i change).flatMap read = list.flatMap read := by
  have hsame : (list.modify i change).map read = list.map read := by
    apply List.ext_getElem?
    intro j
    rw [List.getElem?_map, List.getElem?_map, List.getElem?_modify]
    cases hj : list[j]? with
    | none => rfl
    | some a =>
      by_cases hij : i = j
      · subst hij
        simp [hchange a hj]
      · simp [hij]
  rw [List.flatMap_def, hsame, ← List.flatMap_def]

namespace Backdrop

variable {b b' : Backdrop} {r q : Nat} {core : Run.Core}

/-- the searches on record are those of the runs in their order, and only a run that looks for bulbs
has its idle clock set -/
structure Balanced (b : Backdrop) : Prop where
  listed : b.searches = b.runs.flatMap Run.Core.searches
  quiet : ∀ r core, b.runs[r]? = some core → core.phase ≠ .discovering →
    ∀ cue ∈ b.cues.cues, cue.isClockOf r = false

/-- no run behind has looked for bulbs yet -/
def IsLast (b : Backdrop) (r : Nat) : Prop :=
  ∀ q core, r < q → b.runs[q]? = some core → core.phase = .idle

/-! ### What a deal leaves alone -/

lemma searches_pass (b : Backdrop) (r : Nat) : (b.pass r).searches = b.searches := by
  unfold pass
  split
  · split <;> rfl
  · rfl

lemma mem_cues_pass {cue : Cue} (h : cue ∈ (b.pass r).cues.cues) :
    cue ∈ b.cues.cues ∨ ∃ next, cue = .takeTurn next := by
  unfold pass at h
  split at h
  · split at h
    · exact .inl h
    · rename_i next _ _
      rcases List.mem_cons.mp ((b.cues.cues_soon 0 (.takeTurn next)).mem_iff.mp h) with rfl | hold
      · exact .inr ⟨next, rfl⟩
      · exact .inl hold
  · exact .inl h

/-- a deal of a run leaves the other runs alone -/
lemma Deal.runs_ne (h : Deal r b b') (hq : q ≠ r) : b'.runs[q]? = b.runs[q]? := by
  have hmodify : ∀ change : Run.Core → Run.Core, (b.runs.modify r change)[q]? = b.runs[q]? :=
    fun change => by simp [Ne.symm hq]
  cases h with
  | ready | seek | tick | stop | complete => exact hmodify _
  | finish here rests outcome =>
    show ((b.modify r _).pass r).runs[q]? = _
    rw [runs_pass]
    exact hmodify _
  | _ => rfl

lemma Deals.runs_ne (h : Deals r b b') (hq : q ≠ r) : b'.runs[q]? = b.runs[q]? := by
  induction h with
  | refl => rfl
  | tail _ hdeal ih => exact (hdeal.runs_ne hq).trans ih

lemma Deal.isLast (h : Deal r b b') (hlast : b.IsLast r) : b'.IsLast r := by
  intro q core hq hcore
  rw [h.runs_ne (Nat.ne_of_gt hq)] at hcore
  exact hlast q core hq hcore

lemma Deals.isLast (h : Deals r b b') (hlast : b.IsLast r) : b'.IsLast r := by
  induction h with
  | refl => exact hlast
  | tail _ hdeal ih => exact hdeal.isLast ih

/-! ### The balance is kept -/

lemma IsLast.searches (h : b.IsLast r) : ∀ q core, r < q → b.runs[q]? = some core →
    core.searches = [] := by
  intro q core hq hcore
  unfold Run.Core.searches
  rw [h q core hq hcore]

/-- the core of a run is changed, but not what it has searched for and not whether it looks for
bulbs -/
lemma Balanced.modify (h : b.Balanced) (r : Nat) (change : Run.Core → Run.Core)
    (hsearches : ∀ core, b.runs[r]? = some core → (change core).searches = core.searches)
    (hphase : ∀ core, b.runs[r]? = some core → (change core).phase ≠ .discovering →
      core.phase ≠ .discovering) : (b.modify r change).Balanced := by
  refine ⟨h.listed.trans (flatMap_modify_of_eq hsearches).symm, ?_⟩
  intro q core hcore hrests
  have hcore : (b.runs.modify r change)[q]? = some core := hcore
  rw [List.getElem?_modify] at hcore
  obtain ⟨old, hold, rfl⟩ := Option.map_eq_some_iff.mp hcore
  split at hrests
  · rename_i hrq
    subst hrq
    exact h.quiet r old hold (hphase old hold hrests)
  · exact h.quiet q old hold hrests

/-- cues are set and dropped, but no clock of a run that does not look for bulbs is set -/
lemma Balanced.cues {cues : Agenda Cue} (h : b.Balanced)
    (hcues : ∀ cue ∈ cues.cues, cue ∈ b.cues.cues ∨ ∀ q, cue.isClockOf q = true →
      ∃ core, b.runs[q]? = some core ∧ core.phase = .discovering) :
    { b with cues }.Balanced := by
  refine ⟨h.listed, ?_⟩
  intro q core hcore hrests cue hmem
  rcases hcues cue hmem with hold | hnew
  · exact h.quiet q core hcore hrests cue hold
  · refine Bool.eq_false_iff.mpr fun hclock => hrests ?_
    obtain ⟨core', hcore', hlooks⟩ := hnew q hclock
    obtain rfl := Option.some.inj (hcore.symm.trans hcore')
    exact hlooks

lemma Balanced.pass (h : b.Balanced) (r : Nat) : (b.pass r).Balanced := by
  refine ⟨by rw [searches_pass, runs_pass, h.listed], ?_⟩
  intro q core hcore hrests cue hmem
  rw [runs_pass] at hcore
  rcases mem_cues_pass hmem with hold | ⟨next, rfl⟩
  · exact h.quiet q core hcore hrests cue hold
  · rfl

/-- one case for each deal; the searches on record grow at the end, for the run is the last one -/
theorem Deal.balance (h : Deal r b b') (hlast : b.IsLast r) (hb : b.Balanced) : b'.Balanced := by
  cases h with
  | ready => exact hb.modify r _ (fun _ _ => rfl) fun _ _ => id
  | @seek core here idle =>
    refine ⟨?_, ?_⟩
    · refine (congrArg (· ++ _) hb.listed).trans (flatMap_modify_append here hlast.searches ?_).symm
      simp [Run.Core.searches, idle]
    · intro q core' hcore' hrests
      have hcore' : (b.runs.modify r _)[q]? = some core' := hcore'
      rw [List.getElem?_modify] at hcore'
      obtain ⟨old, hold, rfl⟩ := Option.map_eq_some_iff.mp hcore'
      split at hrests
      · exact absurd rfl hrests
      · exact hb.quiet q old hold hrests
  | listen client => exact ⟨hb.listed, hb.quiet⟩
  | clock here looks =>
    refine hb.cues fun cue hmem => ?_
    rcases List.mem_cons.mp ((b.cues.cues_soon 0 (.clock r)).mem_iff.mp hmem) with rfl | hold
    · exact .inr fun q hclock => ⟨_, by rwa [← show r = q by simpa [Cue.isClockOf] using hclock],
        looks⟩
    · exact .inl hold
  | tick => exact hb.modify r _ (fun _ _ => rfl) fun _ _ => id
  | @wind core cues here looks line timers =>
    refine hb.cues fun cue hmem => ?_
    have htick : cue ∈ b.cues.cues ∨ cue = .tick r := by
      rcases List.mem_append.mp hmem with hline | hlater
      · obtain ⟨entry, hentry, rfl⟩ := List.mem_map.mp hline
        rcases line with hsame | hmore
        · rw [hsame] at hentry
          exact .inl (List.mem_append_left _ (List.mem_map_of_mem hentry))
        · rw [hmore] at hentry
          rcases List.mem_append.mp hentry with hold | hnew
          · exact .inl (List.mem_append_left _ (List.mem_map_of_mem hold))
          · obtain rfl := List.mem_singleton.mp hnew
            exact .inr rfl
      · obtain ⟨timer, htimer, rfl⟩ := List.mem_map.mp hlater
        rcases timers timer htimer with hold | hnew
        · exact .inl (List.mem_append_right _ (List.mem_map_of_mem hold))
        · exact .inr hnew
    refine htick.imp id ?_
    rintro rfl q hclock
    exact ⟨_, by rwa [← show r = q by simpa [Cue.isClockOf] using hclock], looks⟩
  | dispatch client handle => exact ⟨hb.listed, hb.quiet⟩
  | @stop core here looks =>
    refine ⟨?_, ?_⟩
    · refine (congrArg (· ++ _) hb.listed).trans (flatMap_modify_append here hlast.searches ?_).symm
      simp [Run.Core.searches, looks]
    · intro q core' hcore' hrests cue hmem
      obtain ⟨hold, hdropped⟩ := List.mem_filter.mp ((Agenda.cues_drop ..) ▸ hmem)
      have hcore' : (b.runs.modify r _)[q]? = some core' := hcore'
      rw [List.getElem?_modify] at hcore'
      obtain ⟨old, hget, rfl⟩ := Option.map_eq_some_iff.mp hcore'
      split at hrests
      · rename_i hrq
        subst hrq
        simpa using hdropped
      · exact hb.quiet q old hget hrests cue hold
  | file store => exact ⟨hb.listed, hb.quiet⟩
  | @complete core here drains =>
    refine hb.modify r _ ?_ ?_
    · intro core' hcore'
      obtain rfl := Option.some.inj (here.symm.trans hcore')
      simp [Run.Core.searches, drains]
    · intro core' hcore' _
      obtain rfl := Option.some.inj (here.symm.trans hcore')
      rw [drains]
      decide
  | finish here rests outcome =>
    have hended := hb.modify r (fun core => { core with outcome := some outcome })
      (fun _ _ => rfl) fun _ _ => id
    exact hended.pass r

/-- whatever the last run that has started does, the balance is kept -/
theorem Deals.balance (h : Deals r b b') (hlast : b.IsLast r) (hb : b.Balanced) : b'.Balanced := by
  induction h with
  | refl => exact hb
  | tail hdeals hdeal ih => exact hdeal.balance (Deals.isLast hdeals hlast) ih

/-! ### Whose searches they are -/

/-- the searches on record are those of the runs before one behind which no run has looked for bulbs,
and its own -/
lemma Balanced.searches_eq {core : Run.Core} (h : b.Balanced) (hlast : b.IsLast r)
    (hget : b.runs[r]? = some core) :
    b.searches = (b.runs.take r).flatMap Run.Core.searches ++ core.searches := by
  have hlt := (List.getElem?_eq_some_iff.mp hget).1
  have hbehind : (b.runs.drop (r + 1)).flatMap Run.Core.searches = [] := by
    refine List.flatMap_eq_nil_iff.mpr fun later hmem => ?_
    obtain ⟨i, hi⟩ := List.getElem?_of_mem hmem
    rw [List.getElem?_drop] at hi
    exact hlast.searches (r + 1 + i) later (by omega) hi
  have hcore : b.runs[r] = core := by
    rw [List.getElem?_eq_getElem hlt] at hget
    exact Option.some.inj hget
  rw [h.listed]
  conv_lhs => rw [← List.take_append_drop r b.runs, List.drop_eq_getElem_cons hlt]
  rw [List.flatMap_append, List.flatMap_cons, hbehind, List.append_nil, hcore]

/-- what is asked next is what the run asks that does something -/
lemma Deals.searches {b₀ : Backdrop} {core core' : Run.Core} {more : List Contact} (h : Deals r b₀ b')
    (hruns : b₀.runs = b.runs) (hb : b.Balanced) (hlast : b.IsLast r) (hb' : b'.Balanced)
    (hlast' : b'.IsLast r) (hget : b.runs[r]? = some core) (hget' : b'.runs[r]? = some core')
    (hmore : b'.searches = b.searches ++ more) : core'.searches = core.searches ++ more := by
  have hbefore : b'.runs.take r = b.runs.take r := by
    refine List.ext_getElem? fun q => ?_
    rw [List.getElem?_take, List.getElem?_take]
    split
    · rename_i hq
      rw [Deals.runs_ne h (Nat.ne_of_lt hq), hruns]
    · rfl
  rw [hb.searches_eq hlast hget, hb'.searches_eq hlast' hget', hbefore, List.append_assoc] at hmore
  exact List.append_cancel_left hmore

/-! ### Once the search has started -/

/-- a run of such a client has started to look for bulbs, and maybe stopped -/
def HasSought (b : Backdrop) (r client : Nat) : Prop :=
  ∃ core, b.runs[r]? = some core ∧ core.phase ≠ .idle ∧ core.client = client

lemma HasSought.modify {client : Nat} (h : b.HasSought r client)
    (change : Run.Core → Run.Core) (hchange : ∀ core, core.phase ≠ .idle →
      (change core).phase ≠ .idle ∧ (change core).client = core.client) :
    (b.modify r change).HasSought r client := by
  obtain ⟨core, hcore, hphase, hclient⟩ := h
  refine ⟨change core, ?_, (hchange core hphase).1, (hchange core hphase).2.trans hclient⟩
  show (b.runs.modify r change)[r]? = _
  rw [List.getElem?_modify_eq, hcore]
  rfl

lemma HasSought.pass {client : Nat} (h : b.HasSought r client) (q : Nat) :
    (b.pass q).HasSought r client := by
  unfold HasSought
  rw [runs_pass]
  exact h

/-- a run that has looked for bulbs does not forget it -/
theorem Deal.hasSought {client : Nat} (h : Deal r b b') (hb : b.HasSought r client) :
    b'.HasSought r client := by
  cases h with
  | ready | tick => exact hb.modify _ fun _ hphase => ⟨hphase, rfl⟩
  | seek | complete => exact hb.modify _ fun _ _ => ⟨by simp, rfl⟩
  | stop =>
    refine hb.modify _ fun core hphase => ⟨?_, rfl⟩
    dsimp only
    split
    · decide
    · exact hphase
  | finish here rests outcome =>
    have hended := hb.modify (fun core => { core with outcome := some outcome })
      fun _ hphase => ⟨hphase, rfl⟩
    exact hended.pass r
  | listen | clock | wind | dispatch | file => exact hb

theorem Deals.hasSought {client : Nat} (h : Deals r b b') (hb : b.HasSought r client) :
    b'.HasSought r client := by
  induction h with
  | refl => exact hb
  | tail _ hdeal ih => exact hdeal.hasSought ih

/-! ### After the search -/

/-- a run has stopped looking for bulbs, and so many idle intervals were told to it -/
def Rests (b : Backdrop) (r ticks : Nat) (searches : List Contact) : Prop :=
  b.searches = searches ∧ ∃ core, b.runs[r]? = some core ∧
    (core.phase = .draining ∨ core.phase = .finished) ∧ core.ticks = ticks

lemma Rests.modify {ticks : Nat} {searches : List Contact} (h : b.Rests r ticks searches)
    (change : Run.Core → Run.Core)
    (hchange : ∀ core, ((change core).phase = core.phase ∨ (change core).phase = .finished) ∧
      (change core).ticks = core.ticks) : (b.modify r change).Rests r ticks searches := by
  obtain ⟨hsearches, core, hcore, hphase, hticks⟩ := h
  refine ⟨hsearches, change core, ?_, ?_, (hchange core).2.trans hticks⟩
  · show (b.runs.modify r change)[r]? = _
    rw [List.getElem?_modify_eq, hcore]
    rfl
  · rcases (hchange core).1 with hsame | hfinished
    · rwa [hsame]
    · exact .inr hfinished

lemma Rests.pass {ticks : Nat} {searches : List Contact} (h : b.Rests r ticks searches) (q : Nat) :
    (b.pass q).Rests r ticks searches := by
  unfold Rests
  rw [searches_pass, runs_pass]
  exact h

/-- a run that has stopped looking for bulbs does not look for them again -/
theorem Deal.rests {ticks : Nat} {searches : List Contact} (h : Deal r b b')
    (hb : b.Rests r ticks searches) : b'.Rests r ticks searches := by
  have hno : ∀ core, b.runs[r]? = some core → core.phase ≠ .idle ∧ core.phase ≠ .discovering := by
    intro core hcore
    obtain ⟨-, core', hcore', hphase, -⟩ := hb
    obtain rfl := Option.some.inj (hcore.symm.trans hcore')
    rcases hphase with hphase | hphase <;> simp [hphase]
  cases h with
  | ready => exact hb.modify _ fun _ => ⟨.inl rfl, rfl⟩
  | seek here idle => exact absurd idle (hno _ here).1
  | clock here looks | tick here looks | wind _ here looks | stop here looks =>
    exact absurd looks (hno _ here).2
  | complete => exact hb.modify _ fun _ => ⟨.inr rfl, rfl⟩
  | finish here rests outcome =>
    have hended := hb.modify (fun core => { core with outcome := some outcome })
      fun _ => ⟨.inl rfl, rfl⟩
    exact hended.pass r
  | listen | dispatch | file => exact hb

theorem Deals.rests {ticks : Nat} {searches : List Contact} (h : Deals r b b')
    (hb : b.Rests r ticks searches) : b'.Rests r ticks searches := by
  induction h with
  | refl => exact hb
  | tail _ hdeal ih => exact hdeal.rests ih

end Backdrop

end Lamplighter
